import Blueprint.Proofs.ByteOrder
import Blueprint.Proofs.Coherence

namespace Blueprint

/-!
# Join tables from either side

Two entities may each declare a relation to the other. The join tables made up for these relations
have one name, since the classes are put in order, and the same columns, since these are put in
order as well and each keeps the type of its own side. The one is the other, put down to the other
relation.
-/

open Schema

namespace Schema

/-- The column, put down to a relation. -/
def Column.putDownTo
    (relation : String)
    (column : Column) :
    Column :=
  { column with relation := some relation }

/-- The join table, put down to a relation of an entity. -/
def Migration.putDownTo
    (entity : Entity)
    (relation : Relation)
    (pivot : Migration) :
    Migration :=
  { pivot with
    columns := pivot.columns.map (Column.putDownTo relation.name)
    source := .pivot entity.key relation.name }

/-- The join tables of two relations that lead to each other's entities differ only in the relation
that they are put down to: they have one name and the same two columns, in the order of the bytes of
their names. -/
structure Migration.SameJoin
    (entity other : Entity)
    (relation counterpart : Relation)
    (pivot opposite : Migration) :
    Prop where
  table_eq : pivot.table = opposite.table
  columns_eq :
    ∃ smaller larger,
      pivot.columns.map Column.heading = [smaller, larger] ∧
        opposite.columns.map Column.heading = [smaller, larger] ∧
        Text.bytes smaller.1 < Text.bytes larger.1
  pivot_eq : pivot = opposite.putDownTo entity relation
  opposite_eq : opposite = pivot.putDownTo other counterpart

/-- Two values in the other order, and changed but for their texts, are sorted alike. -/
theorem sortedPair_swap
    {α : Type}
    (text : α → String)
    (change : α → α)
    (kept : ∀ value, text (change value) = text value)
    {first second : α}
    (different : text first ≠ text second) :
    sortedPair text (change second) (change first) =
      (sortedPair text first second).map change change := by
  by_cases swapped : text second < text first
  · have notOrdered : ¬text first < text second := String.lt_asymm swapped
    simp [sortedPair, kept, swapped, notOrdered]
  · have ordered : text first < text second := lt_of_not_lt_of_ne swapped different
    simp [sortedPair, kept, swapped, ordered]

theorem pivotTableName_comm
    (first second : String) :
    pivotTableName first second = pivotTableName second first := by
  by_cases same : Naming.snake first = Naming.snake second
  · rw [pivotTableName, pivotTableName, same]
  · have swapped : sortedPair id (Naming.snake second) (Naming.snake first) =
        (sortedPair id (Naming.snake first) (Naming.snake second)).map id id :=
      sortedPair_swap id id (fun _ => rfl) same
    rw [pivotTableName, pivotTableName, swapped]
    rfl

/-- The columns of a join table are two, in the order of the bytes of their names. -/
theorem Migration.Joins.exists_columns
    {entity target : Entity}
    {relation : Relation}
    {pivot : Migration}
    (joins : pivot.Joins entity target relation) :
    ∃ smaller larger,
      pivot.columns.map Column.heading = [smaller, larger] ∧
        Text.bytes smaller.1 < Text.bytes larger.1 := by
  obtain ⟨_, _, _, _, perm⟩ := joins.columns_perm
  have sorted := joins.columns_sorted
  have two := perm.length_eq
  rw [List.length_map] at two
  match columns : pivot.columns, two with
  | [smaller, larger], _ =>
      simp only [columns, List.pairwise_cons, List.mem_singleton, forall_eq] at sorted
      exact ⟨smaller.heading, larger.heading, rfl, Text.bytes_lt_bytes_iff.mpr sorted.1⟩

end Schema

namespace Resolution

/-- The column of a side is the same for every relation but for the relation itself. -/
theorem sideColumn_eq_ok_of_made
    {owner relation : String}
    {side : Entity}
    {column : Column}
    (made : sideColumn owner relation side = .ok column)
    (otherOwner otherRelation : String) :
    sideColumn otherOwner otherRelation side = .ok (column.putDownTo otherRelation) := by
  cases primary : side.primary with
  | none =>
      simp [sideColumn, primary] at made
  | some key =>
      simp only [sideColumn, primary, Except.ok.injEq] at made
      subst made
      simp [sideColumn, primary, Column.putDownTo, Column.forRelation]

/-- A join table can be made from the other side too, and is then the same. -/
theorem joinTable_swap
    {entity target : Entity}
    {relation : Relation}
    {pivot : Migration}
    (made : joinTable entity target relation = .ok pivot)
    (counterpart : Relation) :
    joinTable target entity counterpart = .ok (pivot.putDownTo target counterpart) := by
  simp only [joinTable, bind_eq_ok_iff] at made
  obtain ⟨first, hasFirst, second, hasSecond, stored⟩ := made
  by_cases same : first.name = second.name
  · simp [same] at stored
  · simp only [same, ↓reduceIte, pure_eq_ok_iff] at stored
    subst stored
    have sorted := sortedPair_swap Column.name (Column.putDownTo counterpart.name)
      (fun _ => rfl) same
    have otherSame : ¬second.name = first.name := fun equal => same equal.symm
    rw [joinTable, sideColumn_eq_ok_of_made hasSecond, sideColumn_eq_ok_of_made hasFirst]
    simp only [bind, Except.bind, Column.putDownTo, otherSame, ↓reduceIte] at sorted ⊢
    rw [sorted, pivotTableName_comm]
    rfl

section Counterparts

variable {context : Context} (keyed : context.entities.Keyed Entity.key)
variable {entity other : Entity} (isEntity : entity ∈ context.entities.values)
variable (isOther : other ∈ context.entities.values) (different : entity.key ≠ other.key)
variable {relation counterpart : Relation} (leads : relation.target = some other.key)
variable (leadsBack : counterpart.target = some entity.key)
include keyed isEntity isOther different leads leadsBack

/-- Of two relations that lead to each other's entities, both have the same join table. -/
theorem pivotMigration_swap
    {pivot : Migration}
    (made : pivotMigration context entity relation = .ok pivot) :
    pivotMigration context other counterpart = .ok (pivot.putDownTo other counterpart) := by
  rw [pivotMigration_of_target leads (keyed.get?_of_mem_values isOther),
    if_neg (Ne.symm different)] at made
  rw [pivotMigration_of_target leadsBack (keyed.get?_of_mem_values isEntity), if_neg different]
  exact joinTable_swap made counterpart

theorem sameJoin_of_pivotMigration
    {pivot opposite : Migration}
    (made : pivotMigration context entity relation = .ok pivot)
    (oppositeMade : pivotMigration context other counterpart = .ok opposite) :
    pivot.SameJoin entity other relation counterpart opposite := by
  have opposite_eq : opposite = pivot.putDownTo other counterpart := by
    have swapped := pivotMigration_swap keyed isEntity isOther different leads leadsBack made
    exact Except.ok.inj (oppositeMade.symm.trans swapped)
  have pivot_eq : pivot = opposite.putDownTo entity relation := by
    have swapped :=
      pivotMigration_swap keyed isOther isEntity different.symm leadsBack leads oppositeMade
    exact Except.ok.inj (made.symm.trans swapped)
  have sameHeadings :
      opposite.columns.map Column.heading = pivot.columns.map Column.heading := by
    rw [opposite_eq, Migration.putDownTo, List.map_map]
    rfl
  rw [pivotMigration_of_target leads (keyed.get?_of_mem_values isOther),
    if_neg different.symm] at made
  obtain ⟨smaller, larger, columns, ordered⟩ := (joins_of_joinTable made).exists_columns
  exact {
    table_eq := by
      rw [opposite_eq]
      rfl
    columns_eq := ⟨smaller, larger, columns, sameHeadings.trans columns, ordered⟩
    pivot_eq := pivot_eq
    opposite_eq := opposite_eq }

end Counterparts

end Resolution

open Resolution

/--
In every context that runs of stages lead to, of two relations that lead to each other's entities
one has a join table exactly when the other has, whatever kinds they are of, and it is the same join
table.
-/
theorem sameJoin_afterRuns
    (document : Document)
    (stages : List Stage)
    {entity other : Entity}
    (isEntity : entity ∈ (Context.afterRuns document stages).entities.values)
    (isOther : other ∈ (Context.afterRuns document stages).entities.values)
    (different : entity.key ≠ other.key)
    {relation counterpart : Relation}
    (leads : relation.target = some other.key)
    (leadsBack : counterpart.target = some entity.key) :
    ((∃ pivot, pivotMigration (Context.afterRuns document stages) entity relation = .ok pivot) ↔
        ∃ opposite,
          pivotMigration (Context.afterRuns document stages) other counterpart = .ok opposite) ∧
      ∀ pivot opposite,
        pivotMigration (Context.afterRuns document stages) entity relation = .ok pivot →
        pivotMigration (Context.afterRuns document stages) other counterpart = .ok opposite →
        pivot.SameJoin entity other relation counterpart opposite := by
  have keyed := (reached_afterRuns document stages).coherent.entities_keyed
  refine ⟨⟨?_, ?_⟩, ?_⟩
  · rintro ⟨pivot, made⟩
    exact ⟨_, pivotMigration_swap keyed isEntity isOther different leads leadsBack made⟩
  · rintro ⟨opposite, made⟩
    exact ⟨_, pivotMigration_swap keyed isOther isEntity different.symm leadsBack leads made⟩
  · intro pivot opposite made oppositeMade
    exact sameJoin_of_pivotMigration keyed isEntity isOther different leads leadsBack made
      oppositeMade

/-- Tags and groups of tags that lead to each other by relations of different kinds. -/
def groupingDocument : Document :=
  Document.ofModels
    [("Tag",
      [("number", .line "increments"), ("groups", .relation (some "morphToMany:TagGroup"))]),
     ("TagGroup", [("id", .line "id"), ("tags", .relation (some "belongsToMany:Tag"))])]

theorem sameJoin_groupingDocument :
    ∃ context tag group groups tags pivot opposite,
      context = Context.afterRuns groupingDocument [.entities, .relations] ∧
        context.entities.get? "Tag" = some tag ∧
        context.entities.get? "TagGroup" = some group ∧
        tag.relations.get? "groups" = some groups ∧
        group.relations.get? "tags" = some tags ∧
        pivotMigration context tag groups = .ok pivot ∧
        pivotMigration context group tags = .ok opposite ∧
        pivot.SameJoin tag group groups tags opposite := by
  let context := Context.afterRuns groupingDocument [.entities, .relations]
  have declared :
      ((context.entities.get? "Tag").bind fun tag =>
          (tag.relations.get? "groups").map fun groups =>
            (groups.target, (pivotMigration context tag groups).isOk)) =
        some (some "TagGroup", true) := by
    decide +kernel
  have declaredBack :
      ((context.entities.get? "TagGroup").bind fun group =>
          (group.relations.get? "tags").map fun tags => tags.target) =
        some (some "Tag") := by
    decide +kernel
  simp only [Option.bind_eq_some_iff, Option.map_eq_some_iff, Prod.mk.injEq] at declared
  simp only [Option.bind_eq_some_iff, Option.map_eq_some_iff] at declaredBack
  obtain ⟨tag, isTag, groups, isGroups, leads, isOk⟩ := declared
  obtain ⟨group, isGroup, tags, isTags, leadsBack⟩ := declaredBack
  have keyed := (coherent_afterRuns groupingDocument [.entities, .relations]).entities_keyed
  have tagKey := keyed _ _ isTag
  have groupKey := keyed _ _ isGroup
  have same := sameJoin_afterRuns groupingDocument [.entities, .relations]
    (Table.mem_values_iff.mpr ⟨_, isTag⟩) (Table.mem_values_iff.mpr ⟨_, isGroup⟩)
    (by rw [tagKey, groupKey]; decide) (groupKey ▸ leads) (tagKey ▸ leadsBack)
  obtain ⟨pivot, made⟩ := exists_eq_ok_of_isOk isOk
  obtain ⟨opposite, oppositeMade⟩ := same.1.mp ⟨pivot, made⟩
  exact ⟨context, tag, group, groups, tags, pivot, opposite, rfl, isTag, isGroup, isGroups, isTags,
    made, oppositeMade, same.2 pivot opposite made oppositeMade⟩

/-- The order of the columns need not be that of the classes. -/
example :
    ((resolve groupingDocument).toOption.bind fun plan =>
        (plan.database.migrations.get? "tag_tag_group").map fun migration =>
          migration.columns.map Column.heading) =
      some [("tag_group_id", "unsignedBigInteger"), ("tag_number", "unsignedInteger")] := by
  decide +kernel

end Blueprint
