import Blueprint.Text.Blank
import Blueprint.Text.Letter

namespace Blueprint.Naming

/-!
# Words of a name

A name is a sequence of words: a separator ends a word and a capital letter starts one. Table,
column, class, route and variable names are the words of a declared name, joined and cased in one
of four ways. Every conversion is a function on characters with a form on strings.
-/

/-- The characters that end a word and belong to none. -/
def isSeparator
    (letter : Char) :
    Bool :=
  letter == '_' || letter == '-' || letter == ' ' || letter == '.' || letter == '/' ||
    letter == '\\'

/-- A word under construction, unless it is still empty. -/
def finished
    (current : List Char) :
    List (List Char) :=
  if current.isEmpty then [] else [current]

/-- The words of a text that continues the word `current`. -/
def splitFrom
    (current : List Char) :
    List Char →
    List (List Char)
  | [] => finished current
  | letter :: rest =>
      if isSeparator letter then
        finished current ++ splitFrom [] rest
      else if Letter.isUpper letter then
        finished current ++ splitFrom [letter] rest
      else
        splitFrom (current ++ [letter]) rest

/-- The words of a text. -/
def split
    (text : List Char) :
    List (List Char) :=
  splitFrom [] text

/-- A text with its first character replaced by its capital form. -/
def capitalize :
    List Char →
    List Char
  | [] => []
  | letter :: rest => Letter.upper letter ++ rest

/-- A text with its first character replaced by its small form. -/
def uncapitalize :
    List Char →
    List Char
  | [] => []
  | letter :: rest => Letter.lower letter ++ rest

/-- The words in small letters with `delimiter` between them. -/
def delimit
    (delimiter text : List Char) :
    List Char :=
  delimiter.intercalate ((split text).map Letter.lowerText)

/-- The capitalized words, run together. -/
def joinCapitalized
    (text : List Char) :
    List Char :=
  ((split text).map capitalize).flatten

/-- The words of a name: `BlogPost` has `Blog` and `Post`, `user_id` has `user` and `id`. -/
def words
    (name : String) :
    List String :=
  (split name.toList).map String.ofList

/-- The words in small letters with a delimiter: `PostController` with `/` is `post/controller`. -/
def delimited
    (delimiter name : String) :
    String :=
  String.ofList (delimit delimiter.toList name.toList)

/-- The words in small letters joined by underscores: `BlogPost` is `blog_post`. -/
def snake
    (name : String) :
    String :=
  delimited "_" name

/-- The capitalized words run together: `blog_post` is `BlogPost`. -/
def studly
    (name : String) :
    String :=
  String.ofList (joinCapitalized name.toList)

/-- The studly form with a small first letter: `user_id` is `userId`. -/
def camel
    (name : String) :
    String :=
  String.ofList (uncapitalize (joinCapitalized name.toList))

/-- A name with a capital first letter. -/
def upperFirst
    (name : String) :
    String :=
  String.ofList (capitalize name.toList)

/-- A name with a small first letter. -/
def lowerFirst
    (name : String) :
    String :=
  String.ofList (uncapitalize name.toList)

/-- Whether a name starts with a capital letter, as the name of a class does. -/
def startsUpper
    (name : String) :
    Bool :=
  match name.toList with
  | [] => false
  | letter :: _ => Letter.isUpper letter

end Blueprint.Naming
