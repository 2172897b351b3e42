import Blueprint.Resolution.Relations

namespace Blueprint.Resolution

/-!
# Migrations

The tables of entities, then explicit tables, then join tables made up for relations, in that
order and without two sources for one table. The migrations of a context are replaced as a whole.
-/

open Schema

/-- Add the table of an entity. -/
def addEntityTable
    (declared : Table Migration)
    (entity : Entity) :
    Except ResolveError (Table Migration) :=
  match declared.get? entity.table with
  | some existing => .error (.tableCollision entity.table entity.key existing.owner)
  | none => .ok (declared.insert entity.table (Migration.ofEntity entity))

/-- Add an explicit table. -/
def addExplicitTable
    (declared : Table Migration)
    (entry : String × Document.Columns) :
    Except ResolveError (Table Migration) :=
  let owner := "migrations." ++ entry.1
  match scalarColumns owner entry.2 with
  | .error cause => .error cause
  | .ok columns =>
      match declared.get? entry.1 with
      | some existing => .error (.tableCollision entry.1 existing.owner owner)
      | none => .ok (declared.insert entry.1 (Migration.ofColumns entry.1 columns.values))

/-- The column of a join table that refers to one side. -/
def sideColumn
    (owner relation : String)
    (side : Entity) :
    Except ResolveError Column :=
  match side.primary with
  | none => .error (.missingPrimaryKey side.key owner)
  | some primary =>
      .ok (Column.forRelation (side.singular ++ "_" ++ Naming.snake primary.column)
        primary.storageType relation)

/-- The join table of a relation between two different entities. -/
def joinTable
    (entity target : Entity)
    (relation : Relation) :
    Except ResolveError Migration := do
  let owner := entity.key ++ "." ++ relation.name
  let first ← sideColumn owner relation.name entity
  let second ← sideColumn owner relation.name target
  if first.name = second.name then
    .error (.selfReferencingPivot entity.key relation.name)
  else
    let (smaller, larger) := sortedPair Column.name first second
    pure {
      table := pivotTableName entity.className target.className
      columns := [smaller, larger]
      primary := none
      indexes := []
      source := .pivot entity.key relation.name
      timestamps := false
      softDelete := none }

/-- The join table made up for a relation. -/
def pivotMigration
    (context : Context)
    (entity : Entity)
    (relation : Relation) :
    Except ResolveError Migration :=
  let owner := entity.key ++ "." ++ relation.name
  match relation.target with
  | none => Document.refuse owner (.targetRequired "many-to-many")
  | some key =>
      if key = entity.key then
        .error (.selfReferencingPivot entity.key relation.name)
      else
        match context.entity key owner with
        | .error cause => .error cause
        | .ok target => joinTable entity target relation

/-- The relations that need a join table made up, each with its entity, in order. -/
def guessedPivots
    (context : Context) :
    List (Entity × Relation) :=
  context.entities.values.flatMap fun entity =>
    (entity.relations.values.filter Relation.needsGuessedPivot).map fun relation =>
      (entity, relation)

/-- Add a join table, unless one of its name was made up already. -/
def addPivotTable
    (declared : Table Migration)
    (pivot : Migration) :
    Except ResolveError (Table Migration) :=
  match declared.get? pivot.table with
  | none => .ok (declared.insert pivot.table pivot)
  | some existing =>
      if existing.isGuessedPivot then
        .ok declared
      else
        .error (.tableCollision pivot.table pivot.owner existing.owner)

/-- All migrations of a context. -/
def migrationTable
    (document : Document)
    (context : Context) :
    Except ResolveError (Table Migration) := do
  let entityTables ← accumulate addEntityTable ∅ context.entities.values
  let declared ← accumulate addExplicitTable entityTables document.database.migrations.entries
  let pivots ← collect (fun pair => pivotMigration context pair.1 pair.2) (guessedPivots context)
  accumulate addPivotTable declared pivots

/-- Resolve all migrations at once. -/
def migrations
    (document : Document)
    (context : Context) :
    Outcome :=
  match migrationTable document context with
  | .error cause => ⟨context, some cause⟩
  | .ok table => ⟨{ context with migrations := table }, none⟩

end Blueprint.Resolution
