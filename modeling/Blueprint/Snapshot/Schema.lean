import Blueprint.Schema.Migration
import Blueprint.Snapshot.Line

namespace Blueprint.Snapshot

/-!
# Snapshots of entities and migrations
-/

open Json Schema

/-- The word for a kind of value. -/
def valueType :
    ValueType →
    Value
  | .int => text "int"
  | .float => text "float"
  | .bool => text "bool"
  | .array => text "array"
  | .dateTime => text "date_time"
  | .string => text "string"

/-- The word for a cast. -/
def castType :
    CastType →
    Value
  | .integer => text "integer"
  | .float => text "float"
  | .bool => text "bool"
  | .array => text "array"

/-- The word for a model type. -/
def modelType :
    ModelType →
    Value
  | .model => text "model"
  | .pivot => text "pivot"
  | .morphPivot => text "morphPivot"

/-- The word for a kind of index. -/
def indexKind :
    IndexKind →
    Value
  | .primary => text "primary"
  | .unique => text "unique"
  | .index => text "index"
  | .fulltext => text "fulltext"
  | .spatialIndex => text "spatialIndex"

/-- A column. -/
def column
    (value : Column) :
    Value :=
  .object
    [("name", text value.name),
     ("type", text value.columnType),
     ("type_arguments", items argument value.typeArguments),
     ("methods", items method value.methods),
     ("relation", maybe text value.relation)]

/-- A relation. -/
def relation
    (value : Relation) :
    Value :=
  .object
    [("name", text value.name),
     ("kind", text value.kind.word),
     ("target", maybe text value.target),
     ("through", maybe text value.through),
     ("using_pivot", maybe text value.usingPivot),
     ("methods", items method value.methods),
     ("belonging_column", maybe text value.belongingColumn),
     ("with_default", .bool value.withDefault),
     ("with_pivot", texts value.withPivot)]

/-- A primary key. -/
def primaryKey
    (value : PrimaryKey) :
    Value :=
  .object
    [("column", text value.column),
     ("storage_type", text value.storageType),
     ("incrementing", .bool value.incrementing)]

/-- Timestamps. -/
def timestamps
    (value : Timestamps) :
    Value :=
  .object
    [("using", .bool value.enabled),
     ("created_at", maybe text value.createdAt),
     ("updated_at", maybe text value.updatedAt)]

/-- Soft deletes. -/
def softDelete
    (value : SoftDelete) :
    Value :=
  .object [("using", .bool value.enabled), ("column", text value.column)]

/-- An entity. -/
def entity
    (value : Entity) :
    Value :=
  .object
    [("key", text value.key),
     ("class", text value.className),
     ("namespace", text value.space),
     ("model_type", modelType value.modelType),
     ("table", text value.table),
     ("table_declared", .bool value.tableDeclared),
     ("columns", entries column value.columns),
     ("relations", entries relation value.relations),
     ("primary", maybe primaryKey value.primary),
     ("timestamps", timestamps value.timestamps),
     ("soft_delete", softDelete value.softDelete),
     ("fillable", texts value.fillable),
     ("per_page", .number (.integer value.perPage.toNat)),
     ("route_binding", maybe text value.routeBinding),
     ("uses_json_resource", .bool value.usesJsonResource),
     ("uses_repository", .bool value.usesRepository),
     ("uses_factory", .bool value.usesFactory),
     ("global_scopes", texts value.globalScopes),
     ("events", entries text value.events)]

/-- An index. -/
def index
    (value : Index) :
    Value :=
  .object
    [("kind", indexKind value.kind),
     ("columns", texts value.columns),
     ("name", maybe text value.name)]

/-- Where a migration comes from. -/
def migrationSource :
    MigrationSource →
    Value
  | .entity key => .object [("source", text "entity"), ("entity", text key)]
  | .explicit => .object [("source", text "explicit")]
  | .pivot entity relation =>
      .object [("source", text "pivot"), ("entity", text entity), ("relation", text relation)]

/-- A migration. -/
def migration
    (value : Migration) :
    Value :=
  .object
    [("table", text value.table),
     ("columns", items column value.columns),
     ("primary", maybe text value.primary),
     ("indexes", items index value.indexes),
     ("source", migrationSource value.source),
     ("timestamps", .bool value.timestamps),
     ("soft_delete", maybe text value.softDelete)]

end Blueprint.Snapshot
