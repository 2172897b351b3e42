import Blueprint.Auth.Gate
import Blueprint.Snapshot.Line

namespace Blueprint.Snapshot

/-!
# Snapshots of gates, policies and forms
-/

open Json Auth

/-- A gate. -/
def gate
    (value : Gate) :
    Value :=
  .object
    [("ability", text value.ability),
     ("handler", maybe text value.handler),
     ("method", maybe text value.method)]

/-- A policy. -/
def policy
    (value : Policy) :
    Value :=
  .object
    [("entity", text value.entity),
     ("class", text value.className),
     ("actions", texts value.actions)]

/-- Who may send a form. -/
def formAuthorization :
    FormAuthorization →
    Value
  | .allow => .object [("mode", text "allow")]
  | .deny => .object [("mode", text "deny")]
  | .ability name => .object [("mode", text "ability"), ("ability", text name)]

/-- A form request. -/
def form
    (value : Form) :
    Value :=
  .object
    [("name", text value.name),
     ("class", text value.className),
     ("authorize", formAuthorization value.authorize),
     ("rules", entries (items method) value.rules)]

end Blueprint.Snapshot
