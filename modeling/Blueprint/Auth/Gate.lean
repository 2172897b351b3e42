import Blueprint.Line.Method
import Blueprint.Table
import Blueprint.Text.Blank

namespace Blueprint.Auth

/-!
# Gates, policies and forms

A gate checks one ability, a policy grants abilities on an entity, and a form request is
authorized by an ability or without one.
-/

/-- A gate with the class and method that handle it. -/
structure Gate where
  ability : String
  handler : Option String
  method : Option String
  deriving Repr, DecidableEq

/-- The gate of an ability; a handler is `Class` or `Class@method`, and a blank one is none. -/
def Gate.ofHandler
    (ability : String)
    (handler : Option String) :
    Gate :=
  match handler.map trimmed with
  | none => ⟨ability, none, none⟩
  | some text =>
      if text.isEmpty then
        ⟨ability, none, none⟩
      else
        match Text.cutFirst? '@' text.toList with
        | some (className, method) =>
            ⟨ability, some (String.ofList className), some (String.ofList method)⟩
        | none => ⟨ability, some text, none⟩

/-- The abilities that a policy may grant, in order. -/
def policyActions : List String :=
  ["index", "show", "create", "update", "delete"]

/-- A policy of an entity with the abilities that it grants. -/
structure Policy where
  entity : String
  className : String
  actions : List String
  deriving Repr, DecidableEq

/-- Whether the policy grants an ability. -/
def Policy.allows
    (policy : Policy)
    (ability : String) :
    Bool :=
  policy.actions.contains ability

/-- Who may send a form. -/
inductive FormAuthorization where
  | allow
  | deny
  | ability (name : String)
  deriving Repr, DecidableEq

/-- A form request. -/
structure Form where
  name : String
  className : String
  authorize : FormAuthorization
  rules : Table (List Method)
  deriving Repr, DecidableEq

end Blueprint.Auth
