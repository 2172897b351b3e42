import Blueprint.Resolution.Authorization
import Blueprint.Resolution.Controllers
import Blueprint.Resolution.Migrations

namespace Blueprint

/-!
# Resolution

A document is resolved in five stages over one context. Entities are all known before relations
are resolved, so a reference may point forwards or backwards. The first error ends a resolution;
a stage may also be run by itself on any context.
-/

/-- The stages. -/
inductive Stage where
  | entities
  | relations
  | migrations
  | http
  | auth
  deriving Repr, DecidableEq

namespace Stage

/-- The stages in the order of a resolution. -/
def all : List Stage :=
  [entities, relations, migrations, http, auth]

/-- The word for a stage. -/
def word :
    Stage →
    String
  | entities => "entities"
  | relations => "relations"
  | migrations => "migrations"
  | http => "http"
  | auth => "auth"

/-- The stage that a word names. -/
def ofWord?
    (word : String) :
    Option Stage :=
  all.find? fun stage => stage.word == word

/-- Run a stage on a context. -/
def run
    (stage : Stage)
    (document : Document)
    (context : Context) :
    Outcome :=
  match stage with
  | entities => Resolution.entities document context
  | relations => Resolution.relations document context
  | migrations => Resolution.migrations document context
  | http => Resolution.http document context
  | auth => Resolution.auth document context

end Stage

/-- Run stages one after the other, up to the first that fails. -/
def runStages
    (document : Document)
    (context : Context) :
    List Stage →
    Outcome
  | [] => ⟨context, none⟩
  | stage :: rest =>
      (stage.run document context).andThen fun context => runStages document context rest

/-- What resolution makes of the database section. -/
structure DatabasePlan where
  space : String
  entities : Table Schema.Entity
  migrations : Table Schema.Migration
  deriving Repr, DecidableEq

/-- What resolution makes of the HTTP section. -/
structure HttpPlan where
  space : String
  middleware : Table Http.Middleware
  controllers : Table Http.Controller
  deriving Repr, DecidableEq

/-- What resolution makes of the authorization section. -/
structure AuthPlan where
  gates : Table Auth.Gate
  policies : Table Auth.Policy
  forms : Table Auth.Form
  deriving Repr, DecidableEq

/-- A resolved document. -/
structure Plan where
  database : DatabasePlan
  http : HttpPlan
  auth : AuthPlan
  deriving Repr, DecidableEq

/-- The plan that a context holds. -/
def Context.plan
    (context : Context) :
    Plan where
  database := ⟨context.databaseSpace, context.entities, context.migrations⟩
  http := ⟨context.httpSpace, context.middleware, context.controllers⟩
  auth := ⟨context.gates, context.policies, context.forms⟩

/-- Run all stages from the start, without checking the shape of the document first. -/
def resolveUnchecked
    (document : Document) :
    Outcome :=
  runStages document (Context.start document) Stage.all

/-- Resolve a document: check its shape, then run all stages. -/
def resolve
    (document : Document) :
    Except ResolveError Plan := do
  document.check
  let outcome := resolveUnchecked document
  match outcome.error with
  | some cause => .error cause
  | none => pure outcome.context.plan

end Blueprint
