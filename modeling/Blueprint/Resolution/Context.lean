import Blueprint.Auth.Gate
import Blueprint.Document.Check
import Blueprint.Http.Controller
import Blueprint.Naming.Plural
import Blueprint.Schema.Migration

namespace Blueprint

/-!
# Resolution contexts

A context holds what has been resolved of a document so far, in tables keyed by name. The stages
of a resolution put entries into it one after the other, so a stage that fails leaves behind the
entries before the one that failed.
-/

/-- What has been resolved so far. -/
structure Context where
  databaseSpace : String
  httpSpace : String
  entities : Table Schema.Entity
  migrations : Table Schema.Migration
  middleware : Table Http.Middleware
  controllers : Table Http.Controller
  gates : Table Auth.Gate
  policies : Table Auth.Policy
  forms : Table Auth.Form
  deriving Repr, DecidableEq

namespace Context

/-- The namespace of entities unless another is declared. -/
def usualDatabaseSpace : String := "App"

/-- The namespace of controllers unless another is declared. -/
def usualHttpSpace : String := "App\\Http\\Controllers"

/-- The context of a document before any stage. -/
def start
    (document : Document) :
    Context where
  databaseSpace := document.database.space.getD usualDatabaseSpace
  httpSpace := document.http.space.getD usualHttpSpace
  entities := ∅
  migrations := ∅
  middleware := ∅
  controllers := ∅
  gates := ∅
  policies := ∅
  forms := ∅

/-- The class that a name may refer to. -/
def classOf
    (name : String) :
    String :=
  Naming.studly (Naming.basename name)

/-- The entities of a class, in order. -/
def entitiesOfClass
    (context : Context)
    (className : String) :
    List Schema.Entity :=
  context.entities.values.filter fun entity => entity.className == className

/-- The key of the entity that a name refers to: the name itself if it is a key, else the key of
the only entity of the class. -/
def entityKey
    (context : Context)
    (name owner : String) :
    Except ResolveError String :=
  if context.entities.contains name then
    .ok name
  else
    match context.entitiesOfClass (classOf name) with
    | [] => .error (.missing .entity name owner)
    | [entity] => .ok entity.key
    | first :: second :: _ => .error (.malformed owner (.ambiguous name first.key second.key))

/-- The entity that a name refers to. -/
def entity
    (context : Context)
    (name owner : String) :
    Except ResolveError Schema.Entity :=
  match context.entityKey name owner with
  | .error cause => .error cause
  | .ok key =>
      match context.entities.get? key with
      | some entity => .ok entity
      | none => .error (.missing .entity key owner)

end Context

/-- The context that a run of steps reached, and the error that stopped it if one did. -/
structure Outcome where
  context : Context
  error : Option ResolveError
  deriving Repr, DecidableEq

/-- Run a step for every element in order, up to the first that fails. -/
def Outcome.ofSteps
    {α : Type}
    (step : Context → α → Except ResolveError Context)
    (context : Context) :
    List α →
    Outcome
  | [] => ⟨context, none⟩
  | item :: rest =>
      match step context item with
      | .error cause => ⟨context, some cause⟩
      | .ok next => ofSteps step next rest

/-- Go on from an outcome unless an error stopped it. -/
def Outcome.andThen
    (outcome : Outcome)
    (next : Context → Outcome) :
    Outcome :=
  match outcome.error with
  | some _ => outcome
  | none => next outcome.context

end Blueprint
