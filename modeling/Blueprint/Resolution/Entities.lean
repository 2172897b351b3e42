import Blueprint.Resolution.Context

namespace Blueprint.Resolution

/-!
# Entities

Every model becomes an entity with its scalar columns, its primary key and its options. Relations
are left for later, when all entities are known.
-/

open Schema

/-- The columns that are lines, in order, each with its name. -/
def columnLines
    (columns : Document.Columns) :
    List (String × String) :=
  columns.entries.filterMap fun entry =>
    match entry.2 with
    | .line text => some (entry.1, text)
    | .relation _ => none

/-- The column of a line. -/
def columnOfLine
    (owner : String)
    (entry : String × String) :
    Except ResolveError Column :=
  match Column.ofMethods? entry.1 (Method.ofLine entry.2) with
  | some column => .ok column
  | none => Document.refuse (owner ++ "." ++ entry.1) .emptyColumnLine

/-- The columns of lines under their names. -/
def tableOfColumns
    (columns : List Column) :
    Table Column :=
  Table.ofList (columns.map fun column => (column.name, column))

/-- The scalar columns in order. -/
def scalarColumns
    (owner : String)
    (columns : Document.Columns) :
    Except ResolveError (Table Column) :=
  (collect (columnOfLine owner) (columnLines columns)).map tableOfColumns

/-- The primary key of the first column that numbers its rows. -/
def inferredPrimary
    (columns : Table Column) :
    Option PrimaryKey :=
  (columns.values.find? Column.isIdentity).map fun column =>
    ⟨column.name, storageType column.columnType, true⟩

/-- The primary key: none if switched off, the declared one, or the inferred one. -/
def primaryOf
    (key : String)
    (columns : Table Column) :
    Option Document.Primary →
    Except ResolveError (Option PrimaryKey)
  | some (.toggle false) => .ok none
  | some (.block block) => do
      let (column, keyType, incrementing) ← Document.primaryParts key block
      if columns.contains column then
        pure (some ⟨column, storageType keyType, incrementing⟩)
      else
        .error (.invalidPrimaryKey key column)
  | some (.toggle true) => .ok (inferredPrimary columns)
  | none => .ok (inferredPrimary columns)

/-- The events that a model binds, each with its handler. -/
def eventHandlers
    (className : String) :
    Option Document.Events →
    List (String × String)
  | none => []
  | some (.list events) => events.map fun event => (event, className ++ Naming.upperFirst event)
  | some (.map handlers) => handlers.entries

/-- Bind one event, which must be observable. -/
def bindEvent
    (key : String)
    (events : Table String)
    (entry : String × String) :
    Except ResolveError (Table String) :=
  if entry.1 ∈ observableEvents then
    .ok (events.insert entry.1 entry.2)
  else
    .error (.missing .event entry.1 (key ++ ".events"))

/-- The bound events in order. -/
def eventsOf
    (key className : String)
    (events : Option Document.Events) :
    Except ResolveError (Table String) :=
  accumulate (bindEvent key) ∅ (eventHandlers className events)

/-- The timestamps of a model. -/
def timestampsOf :
    Option Document.Timestamps →
    Timestamps
  | none => .usual
  | some (.toggle true) => .usual
  | some (.toggle false) => ⟨false, none, none⟩
  | some (.columns columns) => ⟨true, columns.createdAt, columns.updatedAt⟩

/-- The soft deletes of a model. -/
def softDeleteOf :
    Option Document.SoftDeletes →
    SoftDelete
  | none => .disabled
  | some (.toggle false) => .disabled
  | some (.toggle true) => ⟨true, usualSoftDeleteColumn⟩
  | some (.column name) => ⟨true, name⟩

/-- The column by which a model is bound in paths, which must be one of its scalar columns. -/
def routeBindingOf
    (key : String)
    (columns : Table Column) :
    Option String →
    Except ResolveError (Option String)
  | none => .ok none
  | some column =>
      if columns.contains column then
        .ok (some column)
      else
        .error (.missing .column column (key ++ ".route"))

/-- The table of a class unless another is declared: its plural in snake case. -/
def usualTable
    (className : String) :
    String :=
  Naming.snake (Naming.pluralStudly className)

/-- The entity of a model. -/
def entityOf
    (space key : String)
    (model : Document.Model) :
    Except ResolveError Entity := do
  let className := Context.classOf key
  let declared ← Document.modelColumns key model
  let columns ← scalarColumns key declared
  let modelType ← Document.modelType key model
  let primary ← primaryOf key columns model.primary
  let routeBinding ← routeBindingOf key columns model.route
  let events ← eventsOf key className model.events
  pure {
    key := key
    className := className
    space := Naming.namespaceOf space key
    modelType := modelType
    table := model.table.getD (usualTable className)
    tableDeclared := model.table.isSome
    columns := columns
    relations := ∅
    primary := primary
    timestamps := timestampsOf model.timestamps
    softDelete := softDeleteOf model.softDeletes
    fillable := model.fillable
    perPage := model.perPage.getD usualPerPage
    routeBinding := routeBinding
    usesJsonResource := model.json
    usesRepository := model.repository
    usesFactory := model.factory.getD true
    globalScopes := model.scopes
    events := events }

/-- Put the entity of a model into the context. -/
def addEntity
    (context : Context)
    (entry : String × Document.Model) :
    Except ResolveError Context :=
  match entityOf context.databaseSpace entry.1 entry.2 with
  | .error cause => .error cause
  | .ok entity => .ok { context with entities := context.entities.insert entry.1 entity }

/-- Resolve all models. -/
def entities
    (document : Document)
    (context : Context) :
    Outcome :=
  Outcome.ofSteps addEntity context document.database.models.entries

end Blueprint.Resolution
