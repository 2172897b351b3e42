import Blueprint.Naming.Qualified
import Blueprint.Naming.Words
import Blueprint.Schema.Column
import Blueprint.Schema.Relation
import Blueprint.Table

namespace Blueprint.Schema

/-!
# Entities

An entity is a resolved model: its class, its table with columns and keys, and its relations.
-/

/-- A primary key: the type is that of a column which refers to it. -/
structure PrimaryKey where
  column : String
  storageType : String
  incrementing : Bool
  deriving Repr, DecidableEq

/-- Whether rows carry times, and in which columns if not the usual ones. -/
structure Timestamps where
  enabled : Bool
  createdAt : Option String
  updatedAt : Option String
  deriving Repr, DecidableEq

/-- Timestamps in the usual columns. -/
def Timestamps.usual : Timestamps :=
  ⟨true, none, none⟩

/-- Whether rows are only marked as deleted, and in which column. -/
structure SoftDelete where
  enabled : Bool
  column : String
  deriving Repr, DecidableEq

/-- The usual column of soft deletes. -/
def usualSoftDeleteColumn : String := "deleted_at"

/-- Rows that are deleted for good. -/
def SoftDelete.disabled : SoftDelete :=
  ⟨false, usualSoftDeleteColumn⟩

/-- Whether another column than the usual one is used. -/
def SoftDelete.usesOtherColumn
    (softDelete : SoftDelete) :
    Bool :=
  softDelete.column != usualSoftDeleteColumn

/-- The usual number of rows on a page. -/
def usualPerPage : UInt32 := 15

/-- The lifecycle events that handlers may be bound to. -/
def observableEvents : List String :=
  ["retrieved", "creating", "created", "updating", "updated", "saving", "saved", "restoring",
   "restored", "replicating", "deleting", "deleted", "forceDeleted"]

/-- A resolved model. -/
structure Entity where
  key : String
  className : String
  space : String
  modelType : ModelType
  table : String
  tableDeclared : Bool
  columns : Table Column
  relations : Table Relation
  primary : Option PrimaryKey
  timestamps : Timestamps
  softDelete : SoftDelete
  fillable : List String
  perPage : UInt32
  routeBinding : Option String
  usesJsonResource : Bool
  usesRepository : Bool
  usesFactory : Bool
  globalScopes : List String
  events : Table String
  deriving Repr, DecidableEq

namespace Entity

/-- The class with its namespace. -/
def fullClass
    (entity : Entity) :
    String :=
  Naming.qualify entity.space entity.className

/-- The class in snake case, as foreign keys and join tables name it. -/
def singular
    (entity : Entity) :
    String :=
  Naming.snake entity.className

/-- Whether another number of rows than the usual one is shown on a page. -/
def usesOtherPerPage
    (entity : Entity) :
    Bool :=
  entity.perPage != usualPerPage

/-- Whether the entity joins others. -/
def isPivot
    (entity : Entity) :
    Bool :=
  entity.modelType != .model

/-- The casts of the columns that need one, under the names of the columns. -/
def casts
    (entity : Entity) :
    Table CastType :=
  Table.ofList <| entity.columns.values.filterMap fun column =>
    column.castType?.map fun cast => (column.name, cast)

/-- The names of the columns that hold dates or times. -/
def dates
    (entity : Entity) :
    List String :=
  (entity.columns.values.filter Column.isDate).map (·.name)

end Entity

end Blueprint.Schema
