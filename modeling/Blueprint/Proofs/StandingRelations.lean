import Blueprint.Proofs.ColumnLayout

namespace Blueprint

/-!
# Standing relations

Once linking has succeeded, what each placeholder declares stands on the entity of its model: the
relation under its name and, where the relation keeps one, its column. Linking again reads the same
declarations, since nothing that reading looks at has changed. It puts a relation without a column
back into its place, and stops at the first relation that keeps a column, which finds the name of
the column taken by itself.
-/

open Schema

namespace Resolution

/-- What a placeholder declares among the entities of a context stands on an entity. -/
structure Placeholder.StandsOn
    (base : Context)
    (placeholder : Placeholder)
    (entity : Entity)
    (declared : Relation × Option Column) :
    Prop where
  read : placeholder.read base = .ok declared
  relation_stored : entity.relations.get? placeholder.name = some (keptRelation declared)
  column_stored : ∀ column ∈ declared.2, entity.columns.get? column.name = some column

/-- What another placeholder puts onto the entity leaves it standing. -/
theorem Placeholder.StandsOn.of_attached
    {base : Context}
    {placeholder : Placeholder}
    {entity changed : Entity}
    {declared added : Relation × Option Column}
    {name : String}
    (stands : placeholder.StandsOn base entity declared)
    (different : name ≠ placeholder.name)
    (attached : Attached entity name added changed) :
    placeholder.StandsOn base changed declared where
  read := stands.read
  relation_stored := by
    rw [attached.relations_eq, Table.get?_insert, if_neg different]
    exact stands.relation_stored
  column_stored column isColumn :=
    attached.column_kept _ _ (stands.column_stored column isColumn)

/-- Placeholders of different names that have been put onto an entity all stand on it. -/
theorem exists_standsOn_of_linkEntity
    {base : Context}
    {entity linked : Entity}
    {placeholders : List Placeholder}
    (distinct : (placeholders.map Placeholder.name).Nodup)
    (done : linkEntity base entity placeholders = .ok linked) :
    ∀ placeholder ∈ placeholders, ∃ declared, placeholder.StandsOn base linked declared := by
  refine accumulate_traced
    (fun earlier former =>
      (earlier.map Placeholder.name).Nodup →
        ∀ placeholder ∈ earlier, ∃ declared, placeholder.StandsOn base former declared)
    ?_ ?_ done distinct
  · simp
  · intro earlier former last next inductionHypothesis put distinctNames placeholder member
    obtain ⟨earlierDistinct, isFresh⟩ := nodup_names_concat_iff.mp distinctNames
    obtain ⟨added, read, attached⟩ := exists_attached_of_putOn put
    rcases List.mem_append.mp member with inEarlier | isLast
    · obtain ⟨declared, stands⟩ := inductionHypothesis earlierDistinct placeholder inEarlier
      have otherName : last.name ≠ placeholder.name := fun same =>
        isFresh (same ▸ List.mem_map_of_mem inEarlier)
      exact ⟨declared, stands.of_attached otherName attached⟩
    · rw [List.mem_singleton.mp isLast]
      exact ⟨added, {
        read := read
        relation_stored := by rw [attached.relations_eq, Table.get?_insert, if_pos rfl]
        column_stored := attached.column_added }⟩

/-- A placeholder that has been linked belongs to an entity that was there before. -/
theorem model_mem_keys_of_relations
    {document : Document}
    {base : Context}
    (done : (relations document base).error = none) :
    ∀ placeholder ∈ placeholders document, placeholder.model ∈ base.entities.keys := by
  refine (accumulate_traced
    (fun earlier former =>
      former.outline = base.outline ∧
        ∀ placeholder ∈ earlier, placeholder.model ∈ base.entities.keys)
    ⟨rfl, by simp⟩ ?_ (Outcome.ofSteps_error_eq_none_iff.mp done)).2
  rintro earlier former last next ⟨sameOutline, inductionHypothesis⟩ added
  obtain ⟨_, _, _, entity, _, _, _, _, found, _, _⟩ := addRelation_eq_ok_iff.mp added
  obtain ⟨owner, isOwner, _⟩ := Context.exists_get?_of_outline_eq sameOutline found
  refine ⟨(outline_of_addRelation added).trans sameOutline, ?_⟩
  intro placeholder member
  rcases List.mem_append.mp member with inEarlier | isLast
  · exact inductionHypothesis placeholder inEarlier
  · rw [List.mem_singleton.mp isLast]
    exact Table.mem_keys_iff.mpr ⟨owner, isOwner⟩

/-- After linking, every placeholder stands on the entity of its model. -/
theorem exists_standsOn_of_relations
    {document : Document}
    {base : Context}
    (done : (relations document base).error = none)
    {placeholder : Placeholder}
    (member : placeholder ∈ placeholders document) :
    ∃ entity declared,
      (relations document base).context.entities.get? placeholder.model = some entity ∧
        placeholder.StandsOn base entity declared := by
  obtain ⟨former, isFormer⟩ :=
    Table.mem_keys_iff.mp (model_mem_keys_of_relations done placeholder member)
  obtain ⟨entity, isLinked, found⟩ := (linkedBy_of_ofSteps done).linked _ former isFormer
  obtain ⟨model, isModel, own⟩ := mem_placeholders_iff.mp member
  rw [ofModel_placeholders isModel] at isLinked
  have distinct := nodup_names_placeholdersOf placeholder.model model
  obtain ⟨declared, stands⟩ := exists_standsOn_of_linkEntity distinct isLinked placeholder own
  exact ⟨entity, declared, found, stands⟩

/-! Linking again. -/

/-- A relation that was read without a column stands as it was read. -/
theorem keptRelation_of_read
    {placeholder : Placeholder}
    {base : Context}
    {relation : Relation}
    (read : placeholder.read base = .ok (relation, none)) :
    keptRelation (relation, none) = relation := by
  obtain ⟨_, _, isRelation, _⟩ := Placeholder.read_eq_ok_iff.mp read
  obtain ⟨_, _, _, readFrom⟩ := exists_readFrom_of_relationOf isRelation
  exact keptRelation_of_unattached readFrom.unattached

/-- The collision of a placeholder whose column stands on its entity already. -/
def Placeholder.collision?
    (placeholder : Placeholder)
    (base : Context) :
    Option ResolveError :=
  match placeholder.read base with
  | .ok (_, some column) =>
      some (.columnCollision placeholder.model placeholder.name column.name)
  | _ => none

theorem Placeholder.StandsOn.collision?_eq
    {base : Context}
    {placeholder : Placeholder}
    {entity : Entity}
    {declared : Relation × Option Column}
    (stands : placeholder.StandsOn base entity declared) :
    placeholder.collision? base =
      declared.2.map fun column =>
        .columnCollision placeholder.model placeholder.name column.name := by
  rw [Placeholder.collision?, stands.read]
  obtain ⟨relation, column⟩ := declared
  cases column <;> rfl

/-- What keeps no column is put back into its place, and what keeps one collides with it. -/
theorem Placeholder.StandsOn.putOn_eq
    {base : Context}
    {placeholder : Placeholder}
    {entity : Entity}
    {declared : Relation × Option Column}
    (stands : placeholder.StandsOn base entity declared) :
    putOn base entity placeholder =
      (placeholder.collision? base).elim (.ok entity) .error := by
  have ⟨read, relationStored, columnStored⟩ := stands
  rw [stands.collision?_eq, putOn, read]
  obtain ⟨relation, column⟩ := declared
  cases column with
  | none =>
      rw [keptRelation_of_read read] at relationStored
      have sameRelations := Table.insert_of_get? relationStored
      simp [bind, Except.bind, attach, sameRelations]
  | some column =>
      have taken : column.name ∈ entity.columns.keys :=
        Table.mem_keys_iff.mpr ⟨column, columnStored column rfl⟩
      simp [bind, Except.bind, attach, Table.contains_iff, taken]

/-- Where a placeholder stands on its entity, linking it once more writes nothing. -/
theorem addRelation_of_standsOn
    {base context : Context}
    (sameOutline : context.outline = base.outline)
    {placeholder : Placeholder}
    {entity : Entity}
    {declared : Relation × Option Column}
    (found : context.entities.get? placeholder.model = some entity)
    (stands : placeholder.StandsOn base entity declared) :
    addRelation context placeholder =
      (placeholder.collision? base).elim (.ok context) .error := by
  rw [addRelation_of_get? sameOutline found, stands.putOn_eq]
  cases placeholder.collision? base with
  | none =>
      simp [Except.map, Table.insert_of_get? found]
  | some cause =>
      rfl

/-- Linking a context again leaves it as it is. This succeeds exactly when the document declares no
relation that keeps a column; else it stops at the first one, whose column is there already. -/
structure LinksAgain
    (document : Document)
    (context : Context) :
    Prop where
  context_eq : (relations document context).context = context
  error_eq_none_iff :
    (relations document context).error = none ↔
      ∀ placeholder ∈ placeholders document,
        placeholder.kind? ≠ some .belongsTo ∧ placeholder.kind? ≠ some .morphTo
  collides :
    ∀ first,
      (placeholders document).find? Placeholder.keepsColumn = some first →
      ∃ entity relation column,
        context.entities.get? first.model = some entity ∧
          entity.relations.get? first.name = some relation ∧
          relation.belongingColumn = some column ∧
          (relations document context).error =
            some (.columnCollision first.model first.name column)

theorem relations_of_standing
    {document : Document}
    {base context : Context}
    (done : (relations document base).error = none)
    (sameEntities : context.entities = (relations document base).context.entities) :
    relations document context =
      ⟨context, (placeholders document).findSome? (Placeholder.collision? · base)⟩ := by
  have sameOutline : context.outline = base.outline := by
    rw [← outline_relations document base, Context.outline, Context.outline, sameEntities]
  refine Outcome.ofSteps_of_unchanging fun placeholder member => ?_
  obtain ⟨entity, declared, found, stands⟩ := exists_standsOn_of_relations done member
  rw [← sameEntities] at found
  exact addRelation_of_standsOn sameOutline found stands

theorem Placeholder.StandsOn.isSome_collision?
    {base : Context}
    {placeholder : Placeholder}
    {entity : Entity}
    {declared : Relation × Option Column}
    (stands : placeholder.StandsOn base entity declared) :
    (placeholder.collision? base).isSome = placeholder.keepsColumn := by
  rw [stands.collision?_eq, Option.isSome_map, isSome_column_of_read stands.read]

end Resolution

open Resolution

/-- Whatever was done before, a context whose entities are those that linking has left, when it
succeeded, is one that linking again leaves as it is. -/
theorem linksAgain_of_relations
    {document : Document}
    {base context : Context}
    (done : (relations document base).error = none)
    (sameEntities : context.entities = (relations document base).context.entities) :
    LinksAgain document context := by
  have again := relations_of_standing done sameEntities
  have isSome (placeholder : Placeholder) (member : placeholder ∈ placeholders document) :
      (placeholder.collision? base).isSome = placeholder.keepsColumn := by
    obtain ⟨_, _, _, stands⟩ := exists_standsOn_of_relations done member
    exact stands.isSome_collision?
  refine ⟨congrArg Outcome.context again, ?_, ?_⟩
  · rw [again, List.findSome?_eq_none_iff]
    refine forall₂_congr fun placeholder member => ?_
    rw [← Option.not_isSome_iff_eq_none, isSome placeholder member, Placeholder.keepsColumn]
    simp
  · intro first isFirst
    obtain ⟨keeps, earlier, later, split, without⟩ := List.find?_eq_some_iff_append.mp isFirst
    have member : first ∈ placeholders document := by simp [split]
    obtain ⟨entity, declared, found, stands⟩ := exists_standsOn_of_relations done member
    obtain ⟨column, isColumn⟩ := Option.isSome_iff_exists.mp
      ((isSome_column_of_read stands.read).trans keeps)
    refine ⟨entity, keptRelation declared, column.name, ?_, stands.relation_stored, ?_, ?_⟩
    · rw [sameEntities, found]
    · simp [keptRelation, isColumn]
    · rw [again]
      refine List.findSome?_eq_some_iff.mpr ⟨earlier, first, later, split, ?_, ?_⟩
      · simp [stands.collision?_eq, isColumn]
      · intro placeholder before
        rw [← Option.not_isSome_iff_eq_none, isSome placeholder (by simp [split, before])]
        simpa using without placeholder before

/-- Comments are linked once; the second time their parents are in the way. -/
theorem linksAgain_commentDocument :
    (relations commentDocument (built commentDocument)).error = none ∧
      LinksAgain commentDocument (linked commentDocument) := by
  have done := (isOk_resolve_iff.mp isOk_commentDocument).relations_done
  have sameEntities (document : Document) :
      (linked document).entities = (relations document (built document)).context.entities :=
    rfl
  exact ⟨done, linksAgain_of_relations done (sameEntities commentDocument)⟩

end Blueprint
