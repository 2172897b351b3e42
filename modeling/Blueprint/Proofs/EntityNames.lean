import Blueprint.Proofs.Coherence
import Blueprint.Proofs.StudlyNames

namespace Blueprint

/-!
# What names lead to

A name leads to the entity that has it as its key, else to the only entity of the class that the
name comes to. Every entity is of the class that its own key comes to, whatever stages have been
run, so a key that looks like the class of another entity, bare or qualified, makes that class
ambiguous but never takes it over.
-/

open Resolution Schema

namespace Context

/-- An entity is there and no other is of its class. -/
structure IsOnlyOfClass
    (context : Context)
    (className : String)
    (entity : Entity) :
    Prop where
  isEntity : entity ∈ context.entities.values
  ofClass : entity.className = className
  only : ∀ other ∈ context.entities.values, other.className = className → other = entity

/-- The key that a name leads to, or the kind of error. -/
def answer
    (context : Context)
    (name owner : String) :
    Except ErrorKind String :=
  (context.entityKey name owner).mapError ResolveError.kind

/-- What names lead to in a context. -/
structure LooksUp
    (context : Context) :
    Prop where
  found_iff :
    ∀ name owner key,
      context.entityKey name owner = .ok key ↔
        (name ∈ context.entities.keys ∧ name = key) ∨
          (name ∉ context.entities.keys ∧
            ∃ entity,
              context.IsOnlyOfClass (Naming.studly (Naming.basename name)) entity ∧
                entity.key = key)
  ambiguous_iff :
    ∀ name owner,
      context.answer name owner = .error .structural ↔
        name ∉ context.entities.keys ∧
          ∃ first ∈ context.entities.values,
            ∃ second ∈ context.entities.values,
              first.key ≠ second.key ∧
                first.className = Naming.studly (Naming.basename name) ∧
                second.className = Naming.studly (Naming.basename name)
  unknown_iff :
    ∀ name owner,
      context.answer name owner = .error .reference ↔
        name ∉ context.entities.keys ∧
          ∀ entity ∈ context.entities.values,
            entity.className ≠ Naming.studly (Naming.basename name)
  key_found :
    ∀ name owner key,
      context.entityKey name owner = .ok key →
      ∀ other, context.entityKey key other = .ok key
  alike :
    ∀ name another,
      name ∉ context.entities.keys →
      another ∉ context.entities.keys →
      Naming.studly (Naming.basename name) = Naming.studly (Naming.basename another) →
      ∀ owner other, context.answer name owner = context.answer another other
  class_found :
    ∀ entity,
      context.IsOnlyOfClass entity.className entity →
      ∀ owner,
        context.entityKey entity.className owner = .ok entity.key ∧
          context.entityKey entity.fullClass owner = .ok entity.key

/-- Entities stand under their own keys and are of the classes that their keys come to. -/
structure Classified
    (context : Context) :
    Prop where
  keyed : context.entities.Keyed Entity.key
  className_eq :
    ∀ key entity, context.entities.get? key = some entity → entity.className = classOf key

/-- The entities of a class are those that have it for their own. -/
theorem mem_entitiesOfClass_iff
    {context : Context}
    {className : String}
    {entity : Entity} :
    entity ∈ context.entitiesOfClass className ↔
      entity ∈ context.entities.values ∧ entity.className = className := by
  rw [entitiesOfClass, List.mem_filter, beq_iff_eq]

theorem nodup_keys_entitiesOfClass
    {context : Context}
    (keyed : context.entities.Keyed Entity.key)
    (className : String) :
    ((context.entitiesOfClass className).map Entity.key).Nodup := by
  have distinct := context.entities.nodup_keys
  rw [← keyed.map_values] at distinct
  exact distinct.sublist (List.filter_sublist.map Entity.key)

/-- There is one entity in the list of a class exactly when it is the only one of the class. -/
theorem entitiesOfClass_eq_singleton_iff
    {context : Context}
    (keyed : context.entities.Keyed Entity.key)
    {className : String}
    {entity : Entity} :
    context.entitiesOfClass className = [entity] ↔ context.IsOnlyOfClass className entity := by
  constructor
  · intro single
    have member : entity ∈ context.entitiesOfClass className := by simp [single]
    obtain ⟨isEntity, ofClass⟩ := mem_entitiesOfClass_iff.mp member
    refine ⟨isEntity, ofClass, ?_⟩
    intro other isOther otherOfClass
    have otherMember := mem_entitiesOfClass_iff.mpr ⟨isOther, otherOfClass⟩
    simpa [single] using otherMember
  · intro only
    have distinct := (nodup_keys_entitiesOfClass keyed className).of_map
    rw [← List.perm_singleton, List.perm_ext_iff_of_nodup distinct (by simp)]
    intro other
    rw [List.mem_singleton, mem_entitiesOfClass_iff]
    constructor
    · rintro ⟨isOther, otherOfClass⟩
      exact only.only other isOther otherOfClass
    · rintro rfl
      exact ⟨only.isEntity, only.ofClass⟩

/-- A name that is no key is answered by the entities of the class that it comes to. -/
theorem answer_of_notMem
    {context : Context}
    {name : String}
    (notKey : name ∉ context.entities.keys)
    (owner : String) :
    context.answer name owner =
      match context.entitiesOfClass (classOf name) with
      | [] => .error .reference
      | [entity] => .ok entity.key
      | _ :: _ :: _ => .error .structural := by
  have absent : ¬context.entities.contains name = true := by rwa [Table.contains_iff]
  rw [answer, entityKey, if_neg absent]
  cases context.entitiesOfClass (classOf name) with
  | nil =>
      rfl
  | cons first others =>
      cases others <;> rfl

/-- A key of an entity is answered by itself. -/
theorem answer_of_mem
    {context : Context}
    {name : String}
    (isKey : name ∈ context.entities.keys)
    (owner : String) :
    context.answer name owner = .ok name := by
  rw [answer, entityKey_eq_ok_iff.mpr (.inl ⟨isKey, rfl⟩)]
  rfl

/-- A name is unknown if it is no key and no entity has its class. -/
theorem unknown_iff
    {context : Context}
    {name owner : String} :
    context.answer name owner = .error .reference ↔
      name ∉ context.entities.keys ∧
        ∀ entity ∈ context.entities.values, entity.className ≠ classOf name := by
  by_cases isKey : name ∈ context.entities.keys
  · simp [answer_of_mem isKey, isKey]
  · have nothing : context.entitiesOfClass (classOf name) = [] ↔
        ∀ entity ∈ context.entities.values, entity.className ≠ classOf name := by
      simp [entitiesOfClass, List.filter_eq_nil_iff]
    rw [answer_of_notMem isKey, ← nothing]
    simp only [isKey, not_false_eq_true, true_and]
    cases context.entitiesOfClass (classOf name) with
    | nil =>
        simp
    | cons first others =>
        cases others <;> simp

namespace Classified

variable {context : Context}

/-- A name is found as a key, or else by the only entity of its class. -/
theorem found_iff
    (classified : context.Classified)
    {name owner key : String} :
    context.entityKey name owner = .ok key ↔
      (name ∈ context.entities.keys ∧ name = key) ∨
        (name ∉ context.entities.keys ∧
          ∃ entity, context.IsOnlyOfClass (classOf name) entity ∧ entity.key = key) := by
  simp only [entityKey_eq_ok_iff, entitiesOfClass_eq_singleton_iff classified.keyed]

/-- A name is ambiguous if it is no key and two entities have its class. -/
theorem ambiguous_iff
    (classified : context.Classified)
    {name owner : String} :
    context.answer name owner = .error .structural ↔
      name ∉ context.entities.keys ∧
        ∃ first ∈ context.entities.values,
          ∃ second ∈ context.entities.values,
            first.key ≠ second.key ∧
              first.className = classOf name ∧ second.className = classOf name := by
  by_cases isKey : name ∈ context.entities.keys
  · simp [answer_of_mem isKey, isKey]
  · simp only [answer_of_notMem isKey, isKey, not_false_eq_true, true_and]
    have distinct := nodup_keys_entitiesOfClass classified.keyed (classOf name)
    constructor
    · intro several
      match candidates : context.entitiesOfClass (classOf name), several with
      | first :: second :: rest, _ =>
          have isFirst : first ∈ context.entitiesOfClass (classOf name) := by simp [candidates]
          have isSecond : second ∈ context.entitiesOfClass (classOf name) := by simp [candidates]
          obtain ⟨isEntity, ofClass⟩ := mem_entitiesOfClass_iff.mp isFirst
          obtain ⟨isOther, otherOfClass⟩ := mem_entitiesOfClass_iff.mp isSecond
          simp only [candidates, List.map_cons, List.nodup_cons, List.mem_cons, not_or] at distinct
          exact ⟨first, isEntity, second, isOther, distinct.1.1, ofClass, otherOfClass⟩
    · rintro ⟨first, isFirst, second, isSecond, different, ofClass, otherOfClass⟩
      have firstMember := mem_entitiesOfClass_iff.mpr ⟨isFirst, ofClass⟩
      have secondMember := mem_entitiesOfClass_iff.mpr ⟨isSecond, otherOfClass⟩
      match candidates : context.entitiesOfClass (classOf name) with
      | [] =>
          simp [candidates] at firstMember
      | [entity] =>
          rw [candidates, List.mem_singleton] at firstMember secondMember
          exact absurd (congrArg Entity.key (firstMember.trans secondMember.symm)) different
      | _ :: _ :: _ =>
          rfl

/-- A name leads to the only entity of the class that it comes to, be it a key or not. -/
theorem found_of_only
    (classified : context.Classified)
    {name : String}
    {entity : Entity}
    (only : context.IsOnlyOfClass (classOf name) entity)
    (owner : String) :
    context.entityKey name owner = .ok entity.key := by
  rw [classified.found_iff]
  by_cases isKey : name ∈ context.entities.keys
  · obtain ⟨stored, found⟩ := Table.mem_keys_iff.mp isKey
    have sameClass := classified.className_eq name stored found
    have same := only.only stored (Table.mem_values_iff.mpr ⟨name, found⟩) sameClass
    exact .inl ⟨isKey, same ▸ (classified.keyed name stored found).symm⟩
  · exact .inr ⟨isKey, entity, only, rfl⟩

/-- Where entities have the classes of their keys, names are looked up as laid down. -/
theorem looksUp
    (classified : context.Classified) :
    context.LooksUp where
  found_iff _ _ _ := classified.found_iff
  ambiguous_iff _ _ := classified.ambiguous_iff
  unknown_iff _ _ := unknown_iff
  key_found name owner key found other := by
    have isKey := mem_keys_of_entityKey classified.keyed found
    exact entityKey_eq_ok_iff.mpr (.inl ⟨isKey, rfl⟩)
  alike name another notKey otherNotKey sameClass owner other := by
    have sameClass : classOf name = classOf another := sameClass
    rw [answer_of_notMem notKey, answer_of_notMem otherNotKey, sameClass]
  class_found entity only owner := by
    -- The class of an entity comes from its key, so it comes to itself, bare or qualified.
    have ofKey : entity.className = classOf entity.key :=
      classified.className_eq _ _ (classified.keyed.get?_of_mem_values only.isEntity)
    have bare : classOf entity.className = entity.className := by
      rw [ofKey, classOf_classOf]
    have qualified : classOf entity.fullClass = entity.className := by
      rw [Entity.fullClass, ofKey, classOf_qualify]
    exact ⟨classified.found_of_only (bare.symm ▸ only) owner,
      classified.found_of_only (qualified.symm ▸ only) owner⟩

end Classified

end Context

namespace Resolution

/-- Whatever stages have been run, an entity is what its model makes, up to columns and
relations. -/
theorem Reached.exists_madeFrom
    {document : Document}
    {context : Context}
    (reached : Reached document context)
    {key : String}
    {entity : Entity}
    (found : context.entities.get? key = some entity) :
    ∃ made model,
      made.bare = entity.bare ∧
        document.database.models.get? key = some model ∧
        MadeFrom (Context.start document).databaseSpace key model made := by
  have sameOutline := reached.outline_eq.resolve_left (Context.outline_ne_empty found)
  obtain ⟨made, foundMade, sameBare⟩ := Context.exists_get?_of_outline_eq sameOutline found
  obtain ⟨model, isModel, madeFrom⟩ := madeFrom_of_built foundMade
  exact ⟨made, model, sameBare, Table.get?_eq_some_iff.mpr isModel, madeFrom⟩

/-- Whatever stages have been run, entities are of the classes that their keys come to. -/
theorem Reached.classified
    {document : Document}
    {context : Context}
    (reached : Reached document context) :
    context.Classified where
  keyed := reached.coherent.entities_keyed
  className_eq key entity found := by
    obtain ⟨made, _, sameBare, _, madeFrom⟩ := reached.exists_madeFrom found
    have sameClass := congrArg Entity.className sameBare
    exact sameClass.symm.trans madeFrom.className_eq

end Resolution

/--
In every context that runs of stages lead to, a name leads to the entity of that key, else to the
only entity of its class; keys lead to themselves, and a class that one entity has leads to it.
-/
theorem looksUp_afterRuns
    (document : Document)
    (stages : List Stage) :
    (Context.afterRuns document stages).LooksUp :=
  (reached_afterRuns document stages).classified.looksUp

end Blueprint
