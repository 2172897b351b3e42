import Blueprint.Line.Argument

namespace Blueprint

/-!
# Calls on a line

A builder line is a list of methods `name:argument,argument` between blanks. A directive line is
a target followed by its arguments.
-/

/-- A name with arguments. -/
structure Method where
  name : String
  arguments : List Argument
  deriving Repr, DecidableEq

namespace Method

/-- The arguments of a text between commas; empty ones are dropped. -/
def argumentsOf
    (readArgument : String → Argument)
    (text : List Char) :
    List Argument :=
  ((Text.cut (· == ',') text).filter fun part => !part.isEmpty).map
    fun part => readArgument (String.ofList part)

/-- Read `name:argument,argument`, each argument by the given reading. -/
def read
    (readArgument : String → Argument)
    (call : String) :
    Method :=
  match Text.cutFirst? ':' call.toList with
  | some (name, arguments) => ⟨String.ofList name, argumentsOf readArgument arguments⟩
  | none => ⟨call, []⟩

/-- Read a method of a builder line. -/
def ofBuilder
    (call : String) :
    Method :=
  read Argument.ofBuilder call

/-- Read a method of a directive line. -/
def ofDirective
    (call : String) :
    Method :=
  read Argument.ofDirective call

/-- The first argument, if it is a literal. -/
def firstLiteral?
    (method : Method) :
    Option String :=
  method.arguments.head?.bind Argument.literal?

/-- The texts of the arguments. -/
def texts
    (method : Method) :
    List String :=
  method.arguments.map Argument.text

/-- The methods of a builder line, in order. -/
def ofLine
    (line : String) :
    List Method :=
  (piecesOf line).map ofBuilder

end Method

/-- A target with arguments, such as an event class with what its constructor takes. -/
structure Call where
  target : String
  arguments : List Argument
  deriving Repr, DecidableEq

/-- Read a directive line; a blank line is no call. -/
def Call.ofLine?
    (line : String) :
    Option Call :=
  match piecesOf line with
  | [] => none
  | target :: arguments => some ⟨target, arguments.map Argument.ofDirective⟩

end Blueprint
