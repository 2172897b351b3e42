import Blueprint.Resolution.Directives

namespace Blueprint.Resolution

/-!
# Authorization

Gates first, then policies, then forms: a form may name an ability that a gate checks or a policy
grants.
-/

open Auth

/-- The suffix of the classes of form requests. -/
def formSuffix : String := "Request"

/-- Put a gate into the context. -/
def addGate
    (context : Context)
    (entry : String × Option String) :
    Except ResolveError Context :=
  .ok { context with gates := context.gates.insert entry.1 (Gate.ofHandler entry.1 entry.2) }

/-- The abilities that words grant, each once and in the order of all abilities. -/
def grantedActions
    (owner : String)
    (words : List String) :
    Except ResolveError (List String) :=
  match words.find? fun word => !policyActions.contains word with
  | some unknown => .error (.missing .policyAction unknown owner)
  | none => .ok (policyActions.filter fun action => words.contains action)

/-- The abilities that a policy grants; a policy that is switched off grants none and is none. -/
def policyGrants
    (owner : String) :
    Option Document.Policy →
    Except ResolveError (Option (List String))
  | some (.toggle false) => .ok none
  | some (.toggle true) => .ok (some policyActions)
  | none => .ok (some policyActions)
  | some (.actions words) => (grantedActions owner words.toList).map some

/-- Put a policy into the context under the key of its entity. -/
def addPolicy
    (context : Context)
    (entry : String × Option Document.Policy) :
    Except ResolveError Context :=
  let owner := "policies." ++ entry.1
  match policyGrants owner entry.2 with
  | .error cause => .error cause
  | .ok none => .ok context
  | .ok (some actions) =>
      match context.entity entry.1 owner with
      | .error cause => .error cause
      | .ok entity =>
          let policy : Policy := ⟨entity.key, entity.className ++ "Policy", actions⟩
          .ok { context with policies := context.policies.insert policy.entity policy }

/-- Whether some gate checks an ability or some policy grants it. -/
def knowsAbility
    (context : Context)
    (ability : String) :
    Bool :=
  context.gates.contains ability ||
    context.policies.values.any fun policy => policy.allows ability

/-- Who may send a form. -/
def formAuthorization
    (context : Context)
    (owner : String) :
    Option Document.Authorize →
    Except ResolveError FormAuthorization
  | none => .ok .allow
  | some (.toggle true) => .ok .allow
  | some (.toggle false) => .ok .deny
  | some (.line line) =>
      let ability := trimmed line
      if knowsAbility context ability then
        .ok (.ability ability)
      else
        .error (.missing .ability ability (owner ++ ".authorize"))

/-- The class of a form, with its suffix. -/
def formClass
    (name : String) :
    String :=
  let className := Naming.studly name
  if formSuffix.toList.isSuffixOf className.toList then className else className ++ formSuffix

/-- Put a form into the context. -/
def addForm
    (context : Context)
    (entry : String × Option Document.Form) :
    Except ResolveError Context :=
  let declared := entry.2.getD .blank
  match formAuthorization context ("forms." ++ entry.1) declared.authorize with
  | .error cause => .error cause
  | .ok authorize =>
      .ok { context with
        forms := context.forms.insert entry.1
          ⟨entry.1, formClass entry.1, authorize, fieldMethods declared.rules⟩ }

/-- Resolve all gates, then all policies, then all forms. -/
def auth
    (document : Document)
    (context : Context) :
    Outcome :=
  ((Outcome.ofSteps addGate context document.auth.gates.entries).andThen
    fun context => Outcome.ofSteps addPolicy context document.auth.policies.entries).andThen
    fun context => Outcome.ofSteps addForm context document.auth.forms.entries

end Blueprint.Resolution
