import Blueprint.Http.Controller
import Blueprint.Snapshot.Line

namespace Blueprint.Snapshot

/-!
# Snapshots of middleware and controllers
-/

open Json Http

/-- The word for a verb. -/
def verb :
    Verb →
    Value
  | .options => text "OPTIONS"
  | .head => text "HEAD"
  | .get => text "GET"
  | .post => text "POST"
  | .put => text "PUT"
  | .patch => text "PATCH"
  | .delete => text "DELETE"

/-- A route. -/
def route
    (value : Route) :
    Value :=
  .object
    [("verbs", items verb value.verbs),
     ("path", text value.path),
     ("name", text value.name),
     ("guessed", .bool value.guessed)]

/-- A bound model. -/
def binding
    (value : Binding) :
    Value :=
  .object
    [("entity", text value.entity),
     ("variable", text value.variableName),
     ("bind_column", maybe text value.column)]

/-- What an action authorizes. -/
def authorize :
    Authorize →
    Value
  | .disabled => .object [("mode", text "disabled")]
  | .ability name entity parameters =>
      .object
        [("mode", text "ability"),
         ("ability", text name),
         ("entity", maybe text entity),
         ("parameters", texts parameters)]

/-- What an action validates. -/
def validation :
    Validation →
    Value
  | .delegated className =>
      .object [("mode", text "delegated"), ("class", text className)]
  | .inline fields =>
      .object [("mode", text "inline"), ("fields", entries (items method) fields)]

/-- What a query starts from. -/
def querySource :
    QuerySource →
    Value
  | .entity key => .object [("entity", text key)]
  | .result variableName => .object [("variable", text variableName)]

/-- A query. -/
def query
    (value : Query) :
    Value :=
  .object
    [("variable", text value.variableName),
     ("source", querySource value.source),
     ("methods", items method value.methods)]

/-- What an action saves. -/
def save
    (value : Save) :
    Value :=
  .object
    [("variable", text value.variableName),
     ("entity", maybe text value.entity),
     ("merge", entries id value.merge),
     ("from_form_request", .bool value.fromFormRequest)]

/-- Where an action sends the caller. -/
def redirect :
    Redirect →
    Value
  | .back => .object [("to", text "back")]
  | .url path => .object [("to", text "url"), ("path", text path)]
  | .route name arguments =>
      .object
        [("to", text "route"), ("name", text name), ("arguments", items argument arguments)]

/-- The page that an action shows. -/
def view
    (value : View) :
    Value :=
  .object [("name", text value.name), ("variables", texts value.variableNames)]

/-- An action. -/
def action
    (value : Action) :
    Value :=
  .object
    [("name", text value.name),
     ("route", route value.route),
     ("models", items binding value.models),
     ("authorize", authorize value.authorize),
     ("validate", maybe validation value.validate),
     ("queries", items query value.queries),
     ("save", maybe save value.save),
     ("delete", maybe text value.delete),
     ("fire", items call value.fire),
     ("notify", items call value.notify),
     ("flash", items call value.flash),
     ("redirect", maybe redirect value.redirect),
     ("view", maybe view value.view),
     ("from_resource", .bool value.fromResource)]

/-- A resource. -/
def resource
    (value : Resource) :
    Value :=
  .object
    [("entities", texts value.entities),
     ("json", .bool value.json),
     ("api", .bool value.api),
     ("only", texts value.only),
     ("except", texts value.except),
     ("actions", texts value.actions)]

/-- A middleware. -/
def middleware
    (value : Middleware) :
    Value :=
  .object
    [("alias", text value.shortName),
     ("class", text value.className),
     ("terminable", .bool value.terminable)]

/-- A controller. -/
def controller
    (value : Controller) :
    Value :=
  .object
    [("key", text value.key),
     ("class", text value.className),
     ("namespace", text value.space),
     ("invokable", .bool value.invokable),
     ("resource", maybe resource value.resource),
     ("middleware", items method value.middleware),
     ("actions", items action value.actions)]

end Blueprint.Snapshot
