import Blueprint.Line.Method
import Blueprint.Text.Letter

namespace Blueprint.Schema

/-!
# Relations

A relation leads from one entity to another. Its kind decides whether it keeps a column on the
declaring entity, goes through a third entity, or needs a join table.
-/

/-- A text in small letters. -/
def lowered
    (text : String) :
    String :=
  String.ofList (Letter.lowerText text.toList)

/-- The parent type of a generated record class. -/
inductive ModelType where
  | model
  | pivot
  | morphPivot
  deriving Repr, DecidableEq

/-- The type that a word names, in letters of either case. -/
def ModelType.ofWord?
    (word : String) :
    Option ModelType :=
  match lowered word with
  | "model" => some .model
  | "pivot" => some .pivot
  | "morphpivot" => some .morphPivot
  | "morph_pivot" => some .morphPivot
  | _ => none

/-- The word for a type in messages. -/
def ModelType.title :
    ModelType →
    String
  | model => "Model"
  | pivot => "Pivot"
  | morphPivot => "MorphPivot"

/-- The kinds of relations. -/
inductive RelationKind where
  | hasOne
  | hasOneThrough
  | hasMany
  | hasManyThrough
  | belongsTo
  | belongsToMany
  | morphOne
  | morphMany
  | morphTo
  | morphToMany
  | morphedByMany
  deriving Repr, DecidableEq

namespace RelationKind

/-- The kind that a word names. -/
def ofWord? :
    String →
    Option RelationKind
  | "hasOne" => some hasOne
  | "hasOneThrough" => some hasOneThrough
  | "hasMany" => some hasMany
  | "hasManyThrough" => some hasManyThrough
  | "belongsTo" => some belongsTo
  | "belongsToMany" => some belongsToMany
  | "morphOne" => some morphOne
  | "morphMany" => some morphMany
  | "morphTo" => some morphTo
  | "morphToMany" => some morphToMany
  | "morphedByMany" => some morphedByMany
  | _ => none

/-- The word for a kind. -/
def word :
    RelationKind →
    String
  | hasOne => "hasOne"
  | hasOneThrough => "hasOneThrough"
  | hasMany => "hasMany"
  | hasManyThrough => "hasManyThrough"
  | belongsTo => "belongsTo"
  | belongsToMany => "belongsToMany"
  | morphOne => "morphOne"
  | morphMany => "morphMany"
  | morphTo => "morphTo"
  | morphToMany => "morphToMany"
  | morphedByMany => "morphedByMany"

/-- Whether the declaring entity keeps a column. -/
def needsColumn :
    RelationKind →
    Bool
  | belongsTo => true
  | morphTo => true
  | _ => false

/-- Whether both sides meet in a join table. -/
def usesPivot :
    RelationKind →
    Bool
  | belongsToMany => true
  | morphToMany => true
  | morphedByMany => true
  | _ => false

/-- Whether the join table serves entities of several classes. -/
def isPolymorphicPivot :
    RelationKind →
    Bool
  | morphToMany => true
  | morphedByMany => true
  | _ => false

/-- Whether the relation goes through a third entity. -/
def isThrough :
    RelationKind →
    Bool
  | hasOneThrough => true
  | hasManyThrough => true
  | _ => false

/-- The type that an explicit pivot entity must have. -/
def pivotType
    (kind : RelationKind) :
    ModelType :=
  if kind.isPolymorphicPivot then .morphPivot else .pivot

end RelationKind

/-- A relation between entities, named by their keys. -/
structure Relation where
  name : String
  kind : RelationKind
  target : Option String
  through : Option String
  usingPivot : Option String
  methods : List Method
  belongingColumn : Option String
  withDefault : Bool
  withPivot : List String
  deriving Repr, DecidableEq

/-- Whether a join table has to be made up for the relation. -/
def Relation.needsGuessedPivot
    (relation : Relation) :
    Bool :=
  relation.kind.usesPivot && relation.usingPivot.isNone

end Blueprint.Schema
