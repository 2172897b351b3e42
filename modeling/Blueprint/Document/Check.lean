import Blueprint.Collect
import Blueprint.Document
import Blueprint.ResolveError

namespace Blueprint.Document

/-!
# The shape of a document

What can be said against a document without following a reference: columns and relation lines
that are missing or blank, unknown model types, incomplete primary keys, and invokable controllers
that are more than that. Resolution asks the same questions again where it needs the answers.
-/

/-- A declaration without the form it needs. -/
def refuse
    {α : Type}
    (owner : String)
    (flaw : Flaw) :
    Except ResolveError α :=
  .error (.malformed owner flaw)

/-- Check one column; explicit tables have no relations. -/
def checkColumn
    (owner : String)
    (allowRelations : Bool)
    (entry : String × Column) :
    Except ResolveError Unit :=
  let columnOwner := owner ++ "." ++ entry.1
  match entry.2 with
  | .line text => if isBlankText text then refuse columnOwner .emptyColumnLine else .ok ()
  | .relation line =>
      if !allowRelations then
        refuse columnOwner .linesOnly
      else if isBlankText (line.getD "") then
        refuse columnOwner .relationLineRequired
      else
        .ok ()

/-- Check columns in order. -/
def checkColumns
    (owner : String)
    (allowRelations : Bool)
    (columns : Columns) :
    Except ResolveError Unit :=
  checkAll (checkColumn owner allowRelations) columns.entries

/-- The columns of a model, of which there must be at least one. -/
def modelColumns
    (key : String)
    (model : Model) :
    Except ResolveError Columns :=
  match model.columns with
  | none => refuse key .missingColumns
  | some columns => if columns.entries.isEmpty then refuse key .noColumns else .ok columns

/-- The type of a model; a plain one if none is given. -/
def modelType
    (key : String)
    (model : Model) :
    Except ResolveError Schema.ModelType :=
  match model.modelType with
  | none => .ok .model
  | some word =>
      match Schema.ModelType.ofWord? word with
      | some modelType => .ok modelType
      | none => refuse key (.unknownModelType word)

/-- The column, type and incrementing flag of an explicit primary key, all of which must be
given. -/
def primaryParts
    (key : String)
    (block : PrimaryBlock) :
    Except ResolveError (String × String × Bool) :=
  match block.column, block.keyType, block.incrementing with
  | some column, some keyType, some incrementing => .ok (column, keyType, incrementing)
  | _, _, _ => refuse key .incompletePrimary

/-- Check a model. -/
def checkModel
    (entry : String × Model) :
    Except ResolveError Unit := do
  let (key, model) := entry
  let columns ← modelColumns key model
  checkColumns key true columns
  let _ ← modelType key model
  match model.primary with
  | some (.block block) => do
      let _ ← primaryParts key block
      pure ()
  | _ => pure ()

/-- Check an explicit table. -/
def checkMigration
    (entry : String × Columns) :
    Except ResolveError Unit :=
  checkColumns ("migrations." ++ entry.1) false entry.2

/-- Whether a controller asks to be a resource. -/
def Controller.isResource
    (controller : Controller) :
    Bool :=
  match controller.resource with
  | some (.toggle enabled) => enabled
  | some (.block _) => true
  | none => false

/-- Check that an invokable controller has one action at most and is no resource. -/
def invokableShape
    (key : String)
    (controller : Controller) :
    Except ResolveError Unit :=
  if 1 < controller.actions.size then
    refuse key (.invokableActions controller.actions.size)
  else if controller.isResource then
    refuse key .invokableResource
  else
    .ok ()

/-- Check a controller. -/
def checkController
    (entry : String × Controller) :
    Except ResolveError Unit :=
  if entry.2.invoke then invokableShape entry.1 entry.2 else .ok ()

/-- Check the shape of a whole document: models, explicit tables, controllers. -/
def check
    (document : Document) :
    Except ResolveError Unit := do
  checkAll checkModel document.database.models.entries
  checkAll checkMigration document.database.migrations.entries
  checkAll checkController document.http.controllers.entries

end Blueprint.Document
