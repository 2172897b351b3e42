import Blueprint.Naming.Qualified
import Blueprint.Naming.Words
import Blueprint.Text.Letter

namespace Blueprint.Http

/-!
# Routes

A route answers requests by verb and path and has a name. What is not declared is guessed from
the controller, the action and the models that the path binds.
-/

/-- The verbs of requests. -/
inductive Verb where
  | options
  | head
  | get
  | post
  | put
  | patch
  | delete
  deriving Repr, DecidableEq

/-- The verb that a word names, in letters of either case. -/
def Verb.ofWord?
    (word : String) :
    Option Verb :=
  match String.ofList (Letter.lowerText word.toList) with
  | "options" => some .options
  | "head" => some .head
  | "get" => some .get
  | "post" => some .post
  | "put" => some .put
  | "patch" => some .patch
  | "delete" => some .delete
  | _ => none

/-- The verbs that the usual name of an action stands for; other actions are read. -/
def Verb.forAction :
    String →
    List Verb
  | "store" => [.post]
  | "update" => [.put, .patch]
  | "destroy" => [.delete]
  | "delete" => [.delete]
  | _ => [.get]

/-- The name of the only action of an invokable controller. -/
def invokeAction : String := "invoke"

/-- The actions of a resource, in order. -/
def resourceActions : List String :=
  ["index", "create", "show", "update", "delete"]

/-- The actions of a resource that bind its first model. -/
def resourceModelActions : List String :=
  ["show", "update", "delete"]

/-- The actions whose path has no segment of its own. -/
def basePathActions : List String :=
  ["index", "store", "show", "update", "destroy", "delete"]

/-- A route of an action. -/
structure Route where
  verbs : List Verb
  path : String
  name : String
  guessed : Bool
  deriving Repr, DecidableEq

/-- The path segment of an action. -/
def actionSegment
    (action : String) :
    String :=
  if action = invokeAction ∨ action ∈ basePathActions then "" else action

/-- A model that the path binds to a variable, perhaps by a column of its own. -/
structure Binding where
  entity : String
  variableName : String
  column : Option String
  deriving Repr, DecidableEq

namespace Binding

/-- The parameter in the path. -/
def parameter
    (binding : Binding) :
    String :=
  match binding.column with
  | some column => "\x7b" ++ binding.variableName ++ ":" ++ column ++ "\x7d"
  | none => "\x7b" ++ binding.variableName ++ "\x7d"

/-- The parameter below a directory named after the entity. -/
def directoryParameter
    (binding : Binding) :
    String :=
  Naming.camel (Naming.basename binding.entity) ++ "/" ++ binding.parameter

end Binding

end Blueprint.Http
