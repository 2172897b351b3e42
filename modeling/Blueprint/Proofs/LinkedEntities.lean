import Blueprint.Proofs.Stages

namespace Blueprint

/-!
# Linked entities

Once the first two stages are through, there is an entity for every model, in the order of the
models. Every entity is self-contained and stands under its own key, and every relation leads to
entities that are there.
-/

open Schema

/-- Entities under their own keys, each self-contained, whose relations lead among them. -/
structure Context.WellLinked
    (context : Context) :
    Prop where
  keyed : context.entities.Keyed Entity.key
  selfContained : ∀ entity ∈ context.entities.values, entity.SelfContained
  leads :
    ∀ entity ∈ context.entities.values,
      ∀ relation ∈ entity.relations.values, relation.LeadsInto context.entities.keys

theorem Context.WellLinked.of_entities_eq
    {context other : Context}
    (wellLinked : context.WellLinked)
    (same : other.entities = context.entities) :
    other.WellLinked := by
  obtain ⟨keyed, selfContained, leads⟩ := wellLinked
  rw [← same] at keyed selfContained leads
  exact ⟨keyed, selfContained, leads⟩

namespace Resolution

/-- What stands under a key after the first stage is what the model of that key makes. -/
theorem entityOf_of_built
    {document : Document}
    {key : String}
    {entity : Entity}
    (found : (built document).entities.get? key = some entity) :
    ∃ model,
      document.database.models.get? key = some model ∧
        entityOf (Context.start document).databaseSpace key model = .ok entity := by
  obtain ⟨⟨declared, model⟩, isModel, entry⟩ := fills_addEntity.exists_item_of_get? rfl found
  simp only [entityEntry, map_eq_ok_iff] at entry
  obtain ⟨made, isMade, same⟩ := entry
  cases same
  exact ⟨model, Table.get?_eq_some_iff.mpr isModel, isMade⟩

theorem madeFrom_of_built
    {document : Document}
    {key : String}
    {entity : Entity}
    (found : (built document).entities.get? key = some entity) :
    ∃ model,
      (key, model) ∈ document.database.models.entries ∧
        MadeFrom (Context.start document).databaseSpace key model entity := by
  obtain ⟨model, isModel, isMade⟩ := entityOf_of_built found
  exact ⟨model, Table.get?_eq_some_iff.mp isModel, madeFrom_of_entityOf isMade⟩

/-- Entities made from models are well linked, since they have no relations yet. -/
theorem wellLinked_built
    (document : Document) :
    (built document).WellLinked where
  keyed key entity found := by
    obtain ⟨model, _, made⟩ := madeFrom_of_built found
    exact made.key_eq
  selfContained entity member := by
    obtain ⟨key, found⟩ := Table.mem_values_iff.mp member
    obtain ⟨model, _, made⟩ := madeFrom_of_built found
    exact made.selfContained
  leads entity member relation isRelation := by
    obtain ⟨key, found⟩ := Table.mem_values_iff.mp member
    obtain ⟨model, _, made⟩ := madeFrom_of_built found
    simp [made.no_relations] at isRelation

theorem wellLinked_of_addRelation
    {context next : Context}
    {placeholder : Placeholder}
    (wellLinked : context.WellLinked)
    (added : addRelation context placeholder = .ok next) :
    next.WellLinked := by
  obtain ⟨line, relation, column, entity, changed, _, read, keeps, found, attached, rfl⟩ :=
    addRelation_eq_ok_iff.mp added
  have present : placeholder.model ∈ context.entities.keys :=
    Table.mem_keys_iff.mpr ⟨entity, found⟩
  have isEntity : entity ∈ context.entities.values :=
    Table.mem_values_iff.mpr ⟨placeholder.model, found⟩
  have sameKeys : (context.entities.insert placeholder.model changed).keys =
      context.entities.keys := Table.keys_insert_of_mem present
  obtain ⟨named, relationLeads⟩ := relationOf_leadsInto wellLinked.keyed read
  obtain ⟨needs, marked⟩ := belongingColumnOf_fits keeps
  -- A relation never changes the key of its entity.
  have changedKey : changed.key = placeholder.model := by
    have sameKey := congrArg Entity.key (bare_of_attach attached)
    have entityKey := wellLinked.keyed _ entity found
    exact sameKey.trans entityKey
  exact {
    keyed := wellLinked.keyed.insert changedKey
    selfContained := by
      intro other member
      rcases Table.mem_values_of_insert member with rfl | former
      · exact selfContained_of_attach (wellLinked.selfContained entity isEntity) named needs marked
          attached
      · exact wellLinked.selfContained other former
    leads := by
      intro other member otherRelation isRelation
      dsimp only
      rw [sameKeys]
      rcases Table.mem_values_of_insert member with rfl | former
      · rcases mem_relations_of_attach attached isRelation with old | ⟨kept, rfl⟩
        · exact wellLinked.leads entity isEntity otherRelation old
        · exact ⟨relationLeads.target_mem, relationLeads.through_mem,
            relationLeads.usingPivot_mem⟩
      · exact wellLinked.leads other former otherRelation isRelation }

/-- Linked entities are well linked, also where linking failed half-way. -/
theorem wellLinked_linked
    (document : Document) :
    (linked document).WellLinked :=
  Outcome.ofSteps_invariant Context.WellLinked (wellLinked_built document)
    fun _ _ _ _ wellLinked added => wellLinked_of_addRelation wellLinked added

/-- The first stage succeeds exactly when every model makes an entity. -/
theorem entities_error_eq_none_iff
    {document : Document} :
    (entities document (Context.start document)).error = none ↔
      ∀ key model,
        document.database.models.get? key = some model →
        ∃ entity, entityOf (Context.start document).databaseSpace key model = .ok entity := by
  rw [entities, fills_addEntity.ofSteps_eq, failure?_eq_none_iff]
  simp only [Table.get?_eq_some_iff, Prod.forall, entityEntry, map_eq_ok_iff]
  constructor
  · intro each key model isModel
    obtain ⟨_, entity, isMade, _⟩ := each key model isModel
    exact ⟨entity, isMade⟩
  · intro each key model isModel
    obtain ⟨entity, isMade⟩ := each key model isModel
    exact ⟨_, entity, isMade, rfl⟩

/-- There is an entity for every model, in the order of the models. -/
theorem keys_built
    {document : Document}
    (done : (entities document (Context.start document)).error = none) :
    (built document).entities.keys = document.database.models.keys := by
  have noFailure :
      failure? (entityEntry (Context.start document)) document.database.models.entries = none := by
    simpa only [entities, fills_addEntity.ofSteps_eq] using done
  have empty : Slot.entities.read (Context.start document) = ∅ := rfl
  have table : (built document).entities = Table.ofList _ :=
    fills_addEntity.read_ofSteps_of_empty empty document.database.models.entries
  have names : Entries.names (gathered _ document.database.models.entries) =
      document.database.models.keys :=
    names_gathered_of_named noFailure (buildsNamed_entityEntry _)
  rw [table, Table.keys_ofList, names, FirstOccurrences.eraseDups_of_nodup (Table.nodup_keys _)]

theorem get?_built
    {document : Document}
    (done : (entities document (Context.start document)).error = none)
    {key : String}
    {entity : Entity} :
    (built document).entities.get? key = some entity ↔
      ∃ model,
        document.database.models.get? key = some model ∧
          entityOf (Context.start document).databaseSpace key model = .ok entity := by
  constructor
  · exact entityOf_of_built
  · rintro ⟨model, isModel, isMade⟩
    have present : key ∈ (built document).entities.keys := by
      rw [keys_built done, Table.mem_keys_iff]
      exact ⟨model, isModel⟩
    obtain ⟨other, found⟩ := Table.mem_keys_iff.mp present
    obtain ⟨otherModel, otherIsModel, otherIsMade⟩ := entityOf_of_built found
    cases isModel.symm.trans otherIsModel
    cases isMade.symm.trans otherIsMade
    exact found

theorem keys_linked
    (document : Document) :
    (linked document).entities.keys = (built document).entities.keys := by
  have sameOutline := congrArg Table.keys (outline_relations document (built document))
  simp only [Context.outline, Table.keys_map] at sameOutline
  exact sameOutline

end Resolution

end Blueprint
