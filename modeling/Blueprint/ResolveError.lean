import Blueprint.Schema.Relation
import Blueprint.Text.Digits

namespace Blueprint

/-!
# Resolution errors

Why a document cannot be resolved, as causes with their particulars. The wording of every cause
stands in one place.
-/

/-- What a name was expected to refer to. -/
inductive ReferenceKind where
  | entity
  | event
  | column
  | relationKind
  | verb
  | variableName
  | policyAction
  | ability
  | resourceAction
  deriving Repr, DecidableEq

/-- The word for a kind of reference. -/
def ReferenceKind.word :
    ReferenceKind →
    String
  | entity => "entity"
  | event => "event"
  | column => "column"
  | relationKind => "relation kind"
  | verb => "verb"
  | variableName => "variable"
  | policyAction => "policy action"
  | ability => "ability"
  | resourceAction => "resource action"

/-- What is wrong with the form of a declaration. -/
inductive Flaw where
  | missingColumns
  | noColumns
  | emptyColumnLine
  | linesOnly
  | relationLineRequired
  | emptyRelationLine
  | unknownModelType (word : String)
  | incompletePrimary
  | invokableActions (count : Nat)
  | invokableResource
  | ambiguous (name first second : String)
  | targetRequired (kind : String)
  | throughRequired (kind : String)
  | pivotRequired
  | pivotType (key : String) (expected : Schema.ModelType) (kind : String)
  | resourceModelRequired
  | routeShape (line : String)
  | emptyAuthorize
  | validateShape (text : String)
  | emptyQuery
  | saveShape
  | emptyRedirect
  | emptyView
  deriving Repr, DecidableEq

/-- The wording of a flaw. -/
def Flaw.message :
    Flaw →
    String
  | missingColumns => "missing 'columns' block"
  | noColumns => "'columns' block declares no columns"
  | emptyColumnLine => "empty column line"
  | linesOnly => "explicit migrations take column lines only"
  | relationLineRequired => "nested column requires a 'relation' line"
  | emptyRelationLine => "empty relation line"
  | unknownModelType word => "unknown type '" ++ word ++ "' (expected model, pivot or morphPivot)"
  | incompletePrimary => "primary block requires 'column', 'type' and 'incrementing'"
  | invokableActions count =>
      "invokable controller declares " ++ String.ofList (Digits.numeral count) ++
        " actions, expected at most one"
  | invokableResource => "invokable controller cannot be a resource"
  | ambiguous name first second =>
      "'" ++ name ++ "' is ambiguous between entities '" ++ first ++ "' and '" ++ second ++ "'"
  | targetRequired kind => kind ++ " relation requires a target entity"
  | throughRequired kind => kind ++ " relation requires a 'through' entity"
  | pivotRequired => "'using' requires a pivot entity"
  | pivotType key expected kind =>
      "pivot entity '" ++ key ++ "' must be of type " ++ expected.title ++ " for " ++ kind
  | resourceModelRequired => "resource requires at least one model"
  | routeShape line => "route '" ++ line ++ "' must be 'verbs:path [name]'"
  | emptyAuthorize => "empty authorize line"
  | validateShape text =>
      "validate '" ++ text ++ "' must be a validator class or a map of field rules"
  | emptyQuery => "empty query line"
  | saveShape => "save map must name exactly one variable"
  | emptyRedirect => "empty redirect"
  | emptyView => "empty view"

/-- Why a document cannot be resolved. -/
inductive ResolveError where
  | missing (kind : ReferenceKind) (name owner : String)
  | malformed (owner : String) (flaw : Flaw)
  | invalidPrimaryKey (entity column : String)
  | tableCollision (table first second : String)
  | columnCollision (entity relation column : String)
  | missingPrimaryKey (entity relation : String)
  | selfReferencingPivot (entity relation : String)
  deriving Repr, DecidableEq

/-- The coarse kinds of errors. -/
inductive ErrorKind where
  | reference
  | structural
  | collision
  | precondition
  deriving Repr, DecidableEq

/-- The kind of an error. -/
def ResolveError.kind :
    ResolveError →
    ErrorKind
  | missing .. => .reference
  | malformed .. => .structural
  | invalidPrimaryKey .. => .structural
  | tableCollision .. => .collision
  | columnCollision .. => .collision
  | missingPrimaryKey .. => .precondition
  | selfReferencingPivot .. => .precondition

/-- The wording of an error. -/
def ResolveError.message :
    ResolveError →
    String
  | missing kind name owner =>
      "missing reference: " ++ kind.word ++ " '" ++ name ++ "' used by '" ++ owner ++
        "' does not exist"
  | malformed owner flaw => "invalid declaration for '" ++ owner ++ "': " ++ flaw.message
  | invalidPrimaryKey entity column =>
      "invalid primary key: entity '" ++ entity ++ "' column '" ++ column ++
        "' is not in the list of columns"
  | tableCollision table first second =>
      "table collision: table '" ++ table ++ "' of '" ++ first ++ "' is already declared by '" ++
        second ++ "'"
  | columnCollision entity relation column =>
      "column collision: column '" ++ column ++ "' of relation '" ++ relation ++
        "' is already declared on entity '" ++ entity ++ "'"
  | missingPrimaryKey entity relation =>
      "relation '" ++ relation ++ "' needs a join table: create a primary key for [" ++ entity ++
        "] or declare a pivot entity with 'using'"
  | selfReferencingPivot entity relation =>
      "relation '" ++ relation ++ "' of [" ++ entity ++
        "] references itself: declare a pivot entity with 'using'"

end Blueprint
