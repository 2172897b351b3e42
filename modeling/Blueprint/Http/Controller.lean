import Blueprint.Http.Route
import Blueprint.Json.Value
import Blueprint.Line.Method
import Blueprint.Table

namespace Blueprint.Http

/-!
# Controllers

A controller has actions; an action has a route and directives that say, in order, what is
authorized, validated, read, saved, deleted, announced and answered.
-/

/-- What an action authorizes. -/
inductive Authorize where
  | disabled
  | ability (name : String) (entity : Option String) (parameters : List String)
  deriving Repr, DecidableEq

/-- What an action validates: by a class, or by rules for each field. -/
inductive Validation where
  | delegated (className : String)
  | inline (fields : Table (List Method))
  deriving Repr, DecidableEq

/-- Whether a class of its own validates. -/
def Validation.isDelegated :
    Validation →
    Bool
  | delegated _ => true
  | inline _ => false

/-- What a query starts from. -/
inductive QuerySource where
  | entity (key : String)
  | result (variableName : String)
  deriving Repr, DecidableEq

/-- A query whose result goes into a variable. -/
structure Query where
  variableName : String
  source : QuerySource
  methods : List Method
  deriving Repr, DecidableEq

/-- What an action saves. -/
structure Save where
  variableName : String
  entity : Option String
  merge : Table Json.Value
  fromFormRequest : Bool
  deriving Repr, DecidableEq

/-- Where an action sends the caller. -/
inductive Redirect where
  | back
  | url (path : String)
  | route (name : String) (arguments : List Argument)
  deriving Repr, DecidableEq

/-- The page that an action shows, with the variables it gets. -/
structure View where
  name : String
  variableNames : List String
  deriving Repr, DecidableEq

/-- An action of a controller. -/
structure Action where
  name : String
  route : Route
  models : List Binding
  authorize : Authorize
  validate : Option Validation
  queries : List Query
  save : Option Save
  delete : Option String
  fire : List Call
  notify : List Call
  flash : List Call
  redirect : Option Redirect
  view : Option View
  fromResource : Bool
  deriving Repr, DecidableEq

/-- The name of the method that runs the action. -/
def Action.methodName
    (action : Action) :
    String :=
  if action.name = invokeAction then "__invoke" else action.name

/-- The variables that directives may name: those of bound models, then those of queries. -/
def Action.scope
    (action : Action) :
    List String :=
  action.models.map (·.variableName) ++ action.queries.map (·.variableName)

/-- A resource: the entities around which it is built and the actions it has. -/
structure Resource where
  entities : List String
  json : Bool
  api : Bool
  only : List String
  except : List String
  actions : List String
  deriving Repr, DecidableEq

/-- Whether no action of the resource was left out. -/
def Resource.usesAllActions
    (resource : Resource) :
    Bool :=
  resource.only.isEmpty && resource.except.isEmpty

/-- A middleware. -/
structure Middleware where
  shortName : String
  className : String
  terminable : Bool
  deriving Repr, DecidableEq

/-- A controller. -/
structure Controller where
  key : String
  className : String
  space : String
  invokable : Bool
  resource : Option Resource
  middleware : List Method
  actions : List Action
  deriving Repr, DecidableEq

/-- The class with its namespace. -/
def Controller.fullClass
    (controller : Controller) :
    String :=
  Naming.qualify controller.space controller.className

/-- The action of a name. -/
def Controller.action?
    (controller : Controller)
    (name : String) :
    Option Action :=
  controller.actions.find? fun action => action.name == name

end Blueprint.Http
