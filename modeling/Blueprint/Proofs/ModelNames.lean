import Blueprint.Proofs.LinkedEntities

namespace Blueprint

/-!
# Names of models

A name refers to the model that has it as its key, or else to the only model of its class. This is
told by the keys of the models alone. A context with an entity for every model leads a name to the
key that it refers to, and fails to only if the name refers to nothing.
-/

open Schema

namespace Document

/-- A name refers to a model by its key, or, if it is no key itself, as the only one of its class. -/
def Refers
    (document : Document)
    (name key : String) :
    Prop :=
  key ∈ document.database.models.keys ∧
    (name = key ∨
      name ∉ document.database.models.keys ∧
        Context.classOf key = Context.classOf name ∧
        ∀ other ∈ document.database.models.keys,
          Context.classOf other = Context.classOf name → other = key)

/-- No model has a name as its key or is of the class that the name may refer to. -/
def LacksModel
    (document : Document)
    (name : String) :
    Prop :=
  ∀ key ∈ document.database.models.keys,
    key ≠ name ∧ Context.classOf key ≠ Context.classOf name

/-- What a name refers to is a model of the document. -/
theorem Refers.key_mem
    {document : Document}
    {name key : String}
    (refers : document.Refers name key) :
    key ∈ document.database.models.keys :=
  refers.1

/-- A name does not refer to two models. -/
theorem Refers.unique
    {document : Document}
    {name key other : String}
    (refers : document.Refers name key)
    (otherRefers : document.Refers name other) :
    key = other := by
  obtain ⟨isModel, rfl | ⟨notKey, _, only⟩⟩ := otherRefers
  · obtain ⟨_, rfl | ⟨notKey, _, _⟩⟩ := refers
    · rfl
    · exact absurd isModel notKey
  · obtain ⟨isKey, rfl | ⟨_, ofClass, _⟩⟩ := refers
    · exact absurd isKey notKey
    · exact only key isKey ofClass

end Document

namespace Resolution

/-- A context with an entity for every model, under its key and of its class. -/
structure HasModels
    (document : Document)
    (context : Context) :
    Prop where
  keys_eq : context.entities.keys = document.database.models.keys
  keyed : context.entities.Keyed Entity.key
  className_eq :
    ∀ key entity,
      context.entities.get? key = some entity → entity.className = Context.classOf key

namespace HasModels

variable {document : Document} {context : Context}

/-- The entities of a class are those of the models with that class. -/
theorem mem_entitiesOfClass_iff
    (hasModels : HasModels document context)
    {className : String}
    {entity : Entity} :
    entity ∈ context.entitiesOfClass className ↔
      context.entities.get? entity.key = some entity ∧
        Context.classOf entity.key = className := by
  rw [Context.entitiesOfClass, List.mem_filter, beq_iff_eq]
  constructor
  · rintro ⟨member, ofClass⟩
    have found := hasModels.keyed.get?_of_mem_values member
    exact ⟨found, (hasModels.className_eq _ entity found).symm.trans ofClass⟩
  · rintro ⟨found, ofClass⟩
    exact ⟨Table.mem_values_iff.mpr ⟨_, found⟩,
      (hasModels.className_eq _ entity found).trans ofClass⟩

theorem exists_entity
    (hasModels : HasModels document context)
    {key : String}
    (isModel : key ∈ document.database.models.keys) :
    ∃ entity, context.entities.get? key = some entity ∧ entity.key = key := by
  rw [← hasModels.keys_eq, Table.mem_keys_iff] at isModel
  obtain ⟨entity, found⟩ := isModel
  exact ⟨entity, found, hasModels.keyed key entity found⟩

theorem key_mem
    (hasModels : HasModels document context)
    {key : String}
    {entity : Entity}
    (found : context.entities.get? key = some entity) :
    key ∈ document.database.models.keys := by
  rw [← hasModels.keys_eq, Table.mem_keys_iff]
  exact ⟨entity, found⟩

/-- There is only one entity of a class exactly when there is only one model of it. -/
theorem exists_entitiesOfClass_eq_singleton_iff
    (hasModels : HasModels document context)
    {className key : String} :
    (∃ entity, context.entitiesOfClass className = [entity] ∧ entity.key = key) ↔
      key ∈ document.database.models.keys ∧
        Context.classOf key = className ∧
        ∀ other ∈ document.database.models.keys,
          Context.classOf other = className → other = key := by
  constructor
  · rintro ⟨entity, only, rfl⟩
    have member : entity ∈ context.entitiesOfClass className := by simp [only]
    obtain ⟨found, ofClass⟩ := hasModels.mem_entitiesOfClass_iff.mp member
    refine ⟨hasModels.key_mem found, ofClass, ?_⟩
    intro other isModel otherOfClass
    obtain ⟨another, foundOther, rfl⟩ := hasModels.exists_entity isModel
    have otherMember : another ∈ context.entitiesOfClass className :=
      hasModels.mem_entitiesOfClass_iff.mpr ⟨foundOther, otherOfClass⟩
    rw [only, List.mem_singleton] at otherMember
    rw [otherMember]
  · rintro ⟨isModel, ofClass, only⟩
    obtain ⟨entity, found, rfl⟩ := hasModels.exists_entity isModel
    refine ⟨entity, ?_, rfl⟩
    have distinct : (context.entitiesOfClass className).Nodup := by
      apply List.Nodup.filter
      apply List.Nodup.of_map Entity.key
      rw [hasModels.keyed.map_values]
      exact context.entities.nodup_keys
    apply List.perm_singleton.mp
    rw [List.perm_ext_iff_of_nodup distinct (by simp)]
    intro other
    rw [List.mem_singleton, hasModels.mem_entitiesOfClass_iff]
    constructor
    · rintro ⟨foundOther, otherOfClass⟩
      have sameKey := only other.key (hasModels.key_mem foundOther) otherOfClass
      rw [sameKey, found, Option.some.injEq] at foundOther
      exact foundOther.symm
    · rintro rfl
      exact ⟨found, ofClass⟩

/-- A name leads to a key exactly when it refers to the model of that key. -/
theorem entityKey_eq_ok_iff
    (hasModels : HasModels document context)
    {name owner key : String} :
    context.entityKey name owner = .ok key ↔ document.Refers name key := by
  rw [Context.entityKey_eq_ok_iff, hasModels.exists_entitiesOfClass_eq_singleton_iff,
    hasModels.keys_eq, Document.Refers]
  constructor
  · rintro (⟨isModel, rfl⟩ | ⟨notKey, isModel, ofClass, only⟩)
    · exact ⟨isModel, .inl rfl⟩
    · exact ⟨isModel, .inr ⟨notKey, ofClass, only⟩⟩
  · rintro ⟨isModel, rfl | ⟨notKey, ofClass, only⟩⟩
    · exact .inl ⟨isModel, rfl⟩
    · exact .inr ⟨notKey, isModel, ofClass, only⟩

/-- A name leads to the entity of the model that it refers to. -/
theorem entity_eq_ok_iff
    (hasModels : HasModels document context)
    {name owner : String}
    {entity : Entity} :
    context.entity name owner = .ok entity ↔
      ∃ key, document.Refers name key ∧ context.entities.get? key = some entity := by
  simp only [Context.entity_eq_ok_iff, hasModels.entityKey_eq_ok_iff]

/-- Where a name leads to no key, it is ambiguous, or there is no model that it could refer to. -/
theorem of_entityKey_error
    (hasModels : HasModels document context)
    {name owner : String}
    {cause : ResolveError}
    (failed : context.entityKey name owner = .error cause) :
    (cause = .missing .entity name owner ∧ document.LacksModel name) ∨
      ∃ first second, cause = .malformed owner (.ambiguous name first second) := by
  unfold Context.entityKey at failed
  by_cases present : context.entities.contains name = true
  · simp [present] at failed
  · rw [if_neg present] at failed
    rw [Table.contains_iff, hasModels.keys_eq] at present
    cases candidates : context.entitiesOfClass (Context.classOf name) with
    | nil =>
        simp only [candidates, Except.error.injEq] at failed
        refine .inl ⟨failed.symm, fun key isModel => ⟨?_, fun ofClass => ?_⟩⟩
        · exact fun same => present (same ▸ isModel)
        · obtain ⟨entity, found, rfl⟩ := hasModels.exists_entity isModel
          have member := hasModels.mem_entitiesOfClass_iff.mpr ⟨found, ofClass⟩
          simp [candidates] at member
    | cons first others =>
        cases others with
        | nil =>
            simp [candidates] at failed
        | cons second rest =>
            simp only [candidates, Except.error.injEq] at failed
            exact .inr ⟨first.key, second.key, failed.symm⟩

/-- An entity that a name leads to is there, so only the name can be at fault. -/
theorem entityKey_error_of_entity_error
    (hasModels : HasModels document context)
    {name owner : String}
    {cause : ResolveError}
    (failed : context.entity name owner = .error cause) :
    context.entityKey name owner = .error cause := by
  unfold Context.entity at failed
  cases lookedUp : context.entityKey name owner with
  | error reason =>
      simpa [lookedUp] using failed
  | ok key =>
      have refers := hasModels.entityKey_eq_ok_iff.mp lookedUp
      obtain ⟨entity, found, _⟩ := hasModels.exists_entity refers.key_mem
      simp [lookedUp, found] at failed

/-- Entities with the same outline are those of the same models. -/
theorem of_outline_eq
    {other : Context}
    (hasModels : HasModels document context)
    (sameOutline : other.outline = context.outline)
    (keyed : other.entities.Keyed Entity.key) :
    HasModels document other where
  keys_eq := by
    have sameKeys := congrArg Table.keys sameOutline
    simp only [Context.outline, Table.keys_map] at sameKeys
    exact sameKeys.trans hasModels.keys_eq
  keyed := keyed
  className_eq key entity found := by
    obtain ⟨former, foundFormer, sameBare⟩ := Context.exists_get?_of_outline_eq sameOutline found
    have sameClass := congrArg Entity.className sameBare
    exact sameClass.symm.trans (hasModels.className_eq key former foundFormer)

end HasModels

/-- After the first stage every model has its entity. -/
theorem hasModels_built
    {document : Document}
    (done : (entities document (Context.start document)).error = none) :
    HasModels document (built document) where
  keys_eq := keys_built done
  keyed := (wellLinked_built document).keyed
  className_eq key entity found := by
    obtain ⟨model, _, made⟩ := madeFrom_of_built found
    exact made.className_eq

/-- Linking changes nothing about the models that entities are there for. -/
theorem hasModels_linked
    {document : Document}
    (done : (entities document (Context.start document)).error = none) :
    HasModels document (linked document) :=
  (hasModels_built done).of_outline_eq (outline_relations document (built document))
    (wellLinked_linked document).keyed

end Resolution

end Blueprint
