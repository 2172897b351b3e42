import Blueprint.Proofs.Needs

namespace Blueprint

/-!
# Tables that are needed

Every migration stands for a source in the document that needs a table of its name. So where a
migration finds its name taken by one of another source, two sources collide in the document.
-/

open Resolution Schema

/-- The name of a source of a table, as messages give it. -/
def Schema.MigrationSource.ownerOf
    (table : String) :
    MigrationSource →
    String
  | .entity key => key
  | .explicit => "migrations." ++ table
  | .pivot key relation => key ++ "." ++ relation

/-- Who owns a migration is told by its source and its table. -/
theorem Schema.Migration.owner_eq
    (migration : Migration) :
    migration.owner = migration.source.ownerOf migration.table := by
  unfold Migration.owner
  cases migration.source <;> rfl

namespace Document

/-- Two different sources in a document need a table of the same name. -/
def TablesCollide
    (document : Document)
    (table first second : String) :
    Prop :=
  ∃ source other,
    source ≠ other ∧
      document.NeedsTable source table ∧
      document.NeedsTable other table ∧
      first = source.ownerOf table ∧ second = other.ownerOf table

end Document

namespace Resolution

variable {document : Document}

/-- A migration stands for a source in the document that needs its table. -/
def Needed
    (document : Document)
    (migration : Migration) :
    Prop :=
  document.NeedsTable migration.source migration.table

/-- Two sources that need a table collide in it, as the owners of their migrations. -/
theorem tablesCollide_of_needed
    {first second : Migration}
    (firstNeeded : Needed document first)
    (secondNeeded : Needed document second)
    (sameTable : second.table = first.table)
    (different : first.source ≠ second.source) :
    document.TablesCollide first.table first.owner second.owner := by
  refine ⟨first.source, second.source, different, firstNeeded, ?_, first.owner_eq, ?_⟩
  · exact sameTable ▸ secondNeeded
  · rw [second.owner_eq, sameTable]

theorem needed_ofEntity
    {entity : Entity}
    (member : entity ∈ (linked document).entities.values) :
    Needed document (Migration.ofEntity entity) := by
  obtain ⟨made, ⟨model, isModel, isMade⟩, sameBare⟩ := exists_makes_of_linked member
  have madeFrom := madeFrom_of_entityOf isMade
  have sameTable : entity.table = model.table.getD (usualTable (Context.classOf entity.key)) := by
    rw [← madeFrom.className_eq, ← madeFrom.table_eq]
    exact (congrArg Entity.table sameBare).symm
  have needs := Document.NeedsTable.entity isModel
  rw [← sameTable] at needs
  exact needs

theorem needed_ofColumns
    {table : String}
    (isExplicit : table ∈ document.database.migrations.keys)
    (columns : List Column) :
    Needed document (Migration.ofColumns table columns) :=
  .explicit isExplicit

/-- A join table is needed by the relation that it is made for. -/
theorem needed_of_pivotMigration
    (done : (entities document (Context.start document)).error = none)
    {entity : Entity}
    {relation : Relation}
    (isGuessed : (entity, relation) ∈ guessedPivots (linked document))
    {pivot : Migration}
    (made : pivotMigration (linked document) entity relation = .ok pivot) :
    Needed document pivot := by
  obtain ⟨isEntity, isRelation, _⟩ := mem_guessedPivots_iff.mp isGuessed
  have wellLinked := wellLinked_linked document
  have hasModels := hasModels_linked done
  obtain ⟨key, target, isTarget, found, _, joins⟩ :=
    joins_of_pivotMigration (wellLinked.leads entity isEntity relation isRelation).target_mem made
  obtain ⟨placeholder, needs, isOwner, isNamed⟩ :=
    needsJoinTable_of_guessedPivots done isGuessed isTarget
  have entityClass :=
    hasModels.className_eq _ entity (wellLinked.keyed.get?_of_mem_values isEntity)
  have targetClass := hasModels.className_eq key target found
  have needsTable := Document.NeedsTable.pivot needs
  rw [isOwner, isNamed, ← entityClass, ← targetClass] at needsTable
  rw [Needed, joins.source_eq, joins.table_eq]
  exact needsTable

/-- Every migration of a table stands under its own name for a source that needs it. -/
structure AllNeeded
    (document : Document)
    (table : Table Migration) :
    Prop where
  keyed : table.Keyed Migration.table
  needed : ∀ migration ∈ table.values, Needed document migration

theorem AllNeeded.empty : AllNeeded document ∅ where
  keyed := Table.Keyed.empty
  needed migration member := by
    simp at member

/-- A table that is needed may be added to others that are. -/
theorem AllNeeded.insert
    {table : Table Migration}
    {migration : Migration}
    (allNeeded : AllNeeded document table)
    (needed : Needed document migration) :
    AllNeeded document (table.insert migration.table migration) where
  keyed := allNeeded.keyed.insert rfl
  needed other member := by
    rcases Table.mem_values_of_insert member with rfl | former
    · exact needed
    · exact allNeeded.needed other former

/-- A migration whose name is taken by one of another source collides with it. -/
theorem AllNeeded.collide
    {table : Table Migration}
    (allNeeded : AllNeeded document table)
    {migration existing : Migration}
    (needed : Needed document migration)
    (taken : table.get? migration.table = some existing)
    (different : migration.source ≠ existing.source) :
    existing.table = migration.table ∧
      document.TablesCollide migration.table migration.owner existing.owner := by
  have sameTable := allNeeded.keyed _ existing taken
  exact ⟨sameTable,
    tablesCollide_of_needed needed
      (allNeeded.needed existing (Table.mem_values_iff.mpr ⟨_, taken⟩)) sameTable different⟩

/-- The tables of entities are all needed. -/
theorem allNeeded_of_addEntityTable
    {table final : Table Migration}
    {entities : List Entity}
    (among : ∀ entity ∈ entities, entity ∈ (linked document).entities.values)
    (allNeeded : AllNeeded document table)
    (reached : accumulate addEntityTable table entities = .ok final) :
    AllNeeded document final := by
  refine accumulate_invariant (AllNeeded document) allNeeded ?_ reached
  intro former entity next member known added
  cases found : former.get? entity.table with
  | some existing =>
      simp [addEntityTable, found] at added
  | none =>
      simp only [addEntityTable, found, Except.ok.injEq] at added
      exact added ▸ known.insert (needed_ofEntity (among entity member))

theorem allNeeded_of_addExplicitTable
    {table final : Table Migration}
    {declarations : List (String × Document.Columns)}
    (among : ∀ entry ∈ declarations, entry ∈ document.database.migrations.entries)
    (allNeeded : AllNeeded document table)
    (reached : accumulate addExplicitTable table declarations = .ok final) :
    AllNeeded document final := by
  refine accumulate_invariant (AllNeeded document) allNeeded ?_ reached
  intro former entry next member known added
  cases read : scalarColumns ("migrations." ++ entry.1) entry.2 with
  | error cause =>
      simp [addExplicitTable, read] at added
  | ok columns =>
      cases found : former.get? entry.1 with
      | some existing =>
          simp [addExplicitTable, read, found] at added
      | none =>
          simp only [addExplicitTable, read, found, Except.ok.injEq] at added
          exact added ▸ known.insert
            (needed_ofColumns (List.mem_map_of_mem (among entry member)) columns.values)

theorem allNeeded_of_addPivotTable
    {table final : Table Migration}
    {pivots : List Migration}
    (areNeeded : ∀ pivot ∈ pivots, Needed document pivot)
    (allNeeded : AllNeeded document table)
    (reached : accumulate addPivotTable table pivots = .ok final) :
    AllNeeded document final := by
  refine accumulate_invariant (AllNeeded document) allNeeded ?_ reached
  intro former pivot next member known added
  rcases addPivotTable_eq_ok_iff.mp added with ⟨_, rfl⟩ | ⟨_, _, _, rfl⟩
  · exact known.insert (areNeeded pivot member)
  · exact known

end Resolution

end Blueprint
