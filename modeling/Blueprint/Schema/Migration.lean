import Blueprint.Schema.Entity

namespace Blueprint.Schema

/-!
# Migrations

A migration creates one table: that of an entity, one declared on its own, or a join table made
up for a relation.
-/

/-- Where a migration comes from. -/
inductive MigrationSource where
  | entity (key : String)
  | explicit
  | pivot (entity relation : String)
  deriving Repr, DecidableEq

/-- The creation of a table. -/
structure Migration where
  table : String
  columns : List Column
  primary : Option String
  indexes : List Index
  source : MigrationSource
  timestamps : Bool
  softDelete : Option String
  deriving Repr, DecidableEq

namespace Migration

/-- The class that creates the table. -/
def className
    (migration : Migration) :
    String :=
  "Create" ++ Naming.studly migration.table ++ "Table"

/-- Whether the table is a join table made up for a relation. -/
def isGuessedPivot
    (migration : Migration) :
    Bool :=
  match migration.source with
  | .pivot .. => true
  | _ => false

/-- The column of a name. -/
def column?
    (migration : Migration)
    (name : String) :
    Option Column :=
  migration.columns.find? fun column => column.name == name

/-- Who declared the table, as messages name it. -/
def owner
    (migration : Migration) :
    String :=
  match migration.source with
  | .entity key => key
  | .explicit => "migrations." ++ migration.table
  | .pivot entity relation => entity ++ "." ++ relation

/-- The table of an entity. -/
def ofEntity
    (entity : Entity) :
    Migration where
  table := entity.table
  columns := entity.columns.values
  primary := entity.primary.map (·.column)
  indexes := Index.ofColumns entity.columns.values
  source := .entity entity.key
  timestamps := entity.timestamps.enabled
  softDelete := if entity.softDelete.enabled then some entity.softDelete.column else none

/-- A table declared on its own; its first column that numbers rows is the primary key. -/
def ofColumns
    (table : String)
    (columns : List Column) :
    Migration where
  table := table
  columns := columns
  primary := (columns.find? Column.isIdentity).map (·.name)
  indexes := Index.ofColumns columns
  source := .explicit
  timestamps := false
  softDelete := none

end Migration

/-- The smaller and the larger of two values by an order on texts. -/
def sortedPair
    {α : Type}
    (text : α → String)
    (first second : α) :
    α × α :=
  if text second < text first then (second, first) else (first, second)

/-- The name of the join table of two classes, whichever comes first. -/
def pivotTableName
    (first second : String) :
    String :=
  let (smaller, larger) := sortedPair id (Naming.snake first) (Naming.snake second)
  smaller ++ "_" ++ larger

end Blueprint.Schema
