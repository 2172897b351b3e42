import Blueprint.Decimal.Written
import Blueprint.Text.Blank

namespace Blueprint

/-!
# Arguments

An argument of a call is a literal or a reference to a variable, perhaps to one of its
properties. Builder lines and directive lines read the same word differently: in a builder line
only `name.property` is a reference, in a directive line a bare identifier is one too.
-/

/-- A literal text, or a reference to a variable with an optional property. -/
inductive Argument where
  | literal (text : String)
  | reference (name : String) (property : Option String)
  deriving Repr, DecidableEq

namespace Argument

/-- The characters that may start an identifier. -/
def startsIdentifier
    (letter : Char) :
    Bool :=
  letter.isAlpha || letter == '_'

/-- Whether a text is an identifier: a letter or underscore, then letters, digits, underscores. -/
def isIdentifier :
    List Char →
    Bool
  | [] => false
  | letter :: rest =>
      startsIdentifier letter && rest.all fun other => other.isAlphanum || other == '_'

/-- The two identifiers that one point joins. -/
def reference?
    (text : List Char) :
    Option (List Char × List Char) :=
  match Text.cutFirst? '.' text with
  | some (name, property) =>
      if isIdentifier name && isIdentifier property then some (name, property) else none
  | none => none

/-- Read an argument of a builder line: `post.title` is a reference, all else is literal. -/
def ofBuilder
    (word : String) :
    Argument :=
  match reference? word.toList with
  | some (name, property) => reference (String.ofList name) (some (String.ofList property))
  | none => literal word

/-- The text between two equal quotes that enclose a word. -/
def unquoted? :
    List Char →
    Option (List Char)
  | quote :: letter :: rest =>
      if (quote = '\'' ∨ quote = '"') ∧ (letter :: rest).getLast? = some quote then
        some (letter :: rest).dropLast
      else
        none
  | _ => none

/-- The words that stand for themselves in a directive line. -/
def keywords : List String :=
  ["true", "false", "null"]

/-- Read an argument of a directive line: quoted words, keywords and numbers are literal, bare
identifiers are variables. -/
def ofDirective
    (word : String) :
    Argument :=
  match unquoted? word.toList with
  | some inner => literal (String.ofList inner)
  | none =>
      if keywords.contains word || Decimal.isWritten word then
        literal word
      else if isIdentifier word.toList then
        reference word none
      else
        ofBuilder word

/-- The text of a literal. -/
def literal? :
    Argument →
    Option String
  | literal text => some text
  | reference .. => none

/-- The text of an argument, whatever its kind. -/
def text :
    Argument →
    String
  | literal text => text
  | reference name none => name
  | reference name (some property) => name ++ "." ++ property

end Argument

end Blueprint
