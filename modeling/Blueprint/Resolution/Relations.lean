import Blueprint.Resolution.Entities

namespace Blueprint.Resolution

/-!
# Relations

Every relation line is resolved against the entities and put on the entity that declares it,
together with the foreign-key column that it keeps there. The two go in at once or not at all.
-/

open Schema

/-- A relation as it stands in the document. -/
structure Placeholder where
  model : String
  name : String
  line : Option String
  deriving Repr, DecidableEq

/-- The declaration as messages name it. -/
def Placeholder.owner
    (placeholder : Placeholder) :
    String :=
  placeholder.model ++ "." ++ placeholder.name

/-- The relations among the columns of a model, in order. -/
def placeholdersOf
    (entry : String × Document.Model) :
    List Placeholder :=
  match entry.2.columns with
  | none => []
  | some columns =>
      columns.entries.filterMap fun column =>
        match column.2 with
        | .line _ => none
        | .relation line => some ⟨entry.1, column.1, line⟩

/-- All relations of a document, in order. -/
def placeholders
    (document : Document) :
    List Placeholder :=
  document.database.models.entries.flatMap placeholdersOf

/-- The type of a foreign key to an entity without a primary key. -/
def usualForeignKeyType : String := "unsignedBigInteger"

/-- The type of the column of a relation to entities of several classes. -/
def morphType : String := "morphs"

/-- The target that the first argument names; only a relation to several classes has none. -/
def targetOf
    (context : Context)
    (owner : String)
    (kind : RelationKind) :
    List Argument →
    Except ResolveError (Option String)
  | argument :: _ => (context.entityKey argument.text owner).map some
  | [] =>
      if kind = .morphTo then
        .ok none
      else
        Document.refuse owner (.targetRequired kind.word)

/-- The third entity that the second argument names, for kinds that go through one. -/
def throughOf
    (context : Context)
    (owner : String)
    (kind : RelationKind)
    (arguments : List Argument) :
    Except ResolveError (Option String) :=
  if kind.isThrough then
    match arguments[1]? with
    | some argument => (context.entityKey argument.text owner).map some
    | none => Document.refuse owner (.throughRequired kind.word)
  else
    .ok none

/-- The key of the pivot entity that a modifier names, which must be of the type of the kind. -/
def pivotOf
    (context : Context)
    (owner : String)
    (kind : RelationKind)
    (method : Method) :
    Except ResolveError String :=
  match method.firstLiteral? with
  | none => Document.refuse owner .pivotRequired
  | some name =>
      match context.entity name owner with
      | .error cause => .error cause
      | .ok entity =>
          if entity.modelType = kind.pivotType then
            .ok entity.key
          else
            Document.refuse owner (.pivotType entity.key kind.pivotType kind.word)

/-- Apply one modifier of a relation line. -/
def modify
    (context : Context)
    (owner : String)
    (relation : Relation)
    (method : Method) :
    Except ResolveError Relation :=
  if method.name = "withDefault" then
    .ok { relation with withDefault := true }
  else if method.name = "withPivot" then
    .ok { relation with withPivot := relation.withPivot ++ method.texts }
  else if method.name = "using" ∧ relation.kind.usesPivot then
    (pivotOf context owner relation.kind method).map fun key =>
      { relation with usingPivot := some key }
  else
    .ok { relation with methods := relation.methods ++ [method] }

/-- The relation of a line. -/
def relationOf
    (context : Context)
    (name line owner : String) :
    Except ResolveError Relation :=
  match Method.ofLine line with
  | [] => Document.refuse owner .emptyRelationLine
  | head :: modifiers =>
      match RelationKind.ofWord? head.name with
      | none => .error (.missing .relationKind head.name owner)
      | some kind => do
          let target ← targetOf context owner kind head.arguments
          let through ← throughOf context owner kind head.arguments
          accumulate (modify context owner)
            { name := name
              kind := kind
              target := target
              through := through
              usingPivot := none
              methods := []
              belongingColumn := none
              withDefault := false
              withPivot := [] }
            modifiers

/-- The column name that the first `column` modifier gives. -/
def declaredColumn?
    (relation : Relation) :
    Option String :=
  (relation.methods.find? fun method => method.name == "column").bind Method.firstLiteral?

/-- The usual name and the type of the column of a relation to an entity. -/
def foreignKey
    (name : String)
    (target : Entity) :
    String × String :=
  match target.primary with
  | some primary =>
      (target.singular ++ "_" ++ Naming.snake primary.column, primary.storageType)
  | none => (Naming.snake name ++ "_id", usualForeignKeyType)

/-- The column that a relation keeps on its entity, if its kind needs one. -/
def belongingColumnOf
    (context : Context)
    (name owner : String)
    (relation : Relation) :
    Except ResolveError (Option Column) :=
  match relation.kind with
  | .morphTo =>
      let column := (declaredColumn? relation).getD (Naming.snake name)
      .ok (some (Column.forRelation column morphType name))
  | .belongsTo =>
      match relation.target with
      | none => Document.refuse owner (.targetRequired relation.kind.word)
      | some key =>
          match context.entity key owner with
          | .error cause => .error cause
          | .ok target =>
              let (usualName, columnType) := foreignKey name target
              let column := (declaredColumn? relation).getD usualName
              .ok (some (Column.forRelation column columnType name))
  | _ => .ok none

/-- An entity with a relation and its column, whose name must be free. -/
def attach
    (entity : Entity)
    (key name : String)
    (relation : Relation) :
    Option Column →
    Except ResolveError Entity
  | none => .ok { entity with relations := entity.relations.insert name relation }
  | some column =>
      if entity.columns.contains column.name then
        .error (.columnCollision key name column.name)
      else
        .ok { entity with
          columns := entity.columns.insert column.name column
          relations :=
            entity.relations.insert name
              { relation with belongingColumn := some column.name } }

/-- Resolve one relation and put it on its entity. -/
def addRelation
    (context : Context)
    (placeholder : Placeholder) :
    Except ResolveError Context :=
  let owner := placeholder.owner
  match placeholder.line with
  | none => Document.refuse owner .relationLineRequired
  | some line => do
      let relation ← relationOf context placeholder.name line owner
      let column ← belongingColumnOf context placeholder.name owner relation
      match context.entities.get? placeholder.model with
      | none => .error (.missing .entity placeholder.model owner)
      | some entity => do
          let changed ← attach entity placeholder.model placeholder.name relation column
          pure { context with entities := context.entities.insert placeholder.model changed }

/-- Resolve all relations. -/
def relations
    (document : Document)
    (context : Context) :
    Outcome :=
  Outcome.ofSteps addRelation context (placeholders document)

end Blueprint.Resolution
