namespace Blueprint.Text

/-!
# Blanks and pieces

Text is worked on as a list of characters. A blank is a character of the Unicode `White_Space`
property; lines are cut into pieces at blanks, names and argument lists at one separator.
`cut` keeps empty parts, `pieces` drops them.
-/

/-- The characters of the `White_Space` property. -/
def isBlank
    (letter : Char) :
    Bool :=
  let code := letter.toNat
  (0x9 ≤ code && code ≤ 0xD) || code == 0x20 || code == 0x85 || code == 0xA0 ||
    code == 0x1680 || (0x2000 ≤ code && code ≤ 0x200A) || code == 0x2028 || code == 0x2029 ||
    code == 0x202F || code == 0x205F || code == 0x3000

/-- The parts of a text between the characters that satisfy `isSeparator`, empty parts included. -/
def cut
    (isSeparator : Char → Bool) :
    List Char →
    List (List Char)
  | [] => [[]]
  | letter :: rest =>
      if isSeparator letter then
        [] :: cut isSeparator rest
      else
        match cut isSeparator rest with
        | [] => [[letter]]
        | part :: parts => (letter :: part) :: parts

/-- The maximal runs of a text without blanks. -/
def pieces
    (text : List Char) :
    List (List Char) :=
  (cut isBlank text).filter fun part => !part.isEmpty

/-- What stands before and after the first `separator`, if there is one. -/
def cutFirst?
    (separator : Char) :
    List Char →
    Option (List Char × List Char)
  | [] => none
  | letter :: rest =>
      if letter = separator then
        some ([], rest)
      else
        (cutFirst? separator rest).map fun (before, after) => (letter :: before, after)

/-- What stands before and after the last `separator`, if there is one. -/
def cutLast?
    (separator : Char)
    (text : List Char) :
    Option (List Char × List Char) :=
  (cutFirst? separator text.reverse).map fun (after, before) => (before.reverse, after.reverse)

/-- A text without the characters at its end that satisfy `isRemoved`. -/
def trimEnd
    (isRemoved : Char → Bool)
    (text : List Char) :
    List Char :=
  (text.reverse.dropWhile isRemoved).reverse

/-- A text without the characters at both ends that satisfy `isRemoved`. -/
def trimBoth
    (isRemoved : Char → Bool)
    (text : List Char) :
    List Char :=
  trimEnd isRemoved (text.dropWhile isRemoved)

end Blueprint.Text

namespace Blueprint

open Text

/-- A text without the blanks at both ends. -/
def trimmed
    (text : String) :
    String :=
  String.ofList (trimBoth isBlank text.toList)

/-- Whether a text holds nothing but blanks. -/
def isBlankText
    (text : String) :
    Bool :=
  text.toList.all isBlank

/-- The maximal runs of a text without blanks. -/
def piecesOf
    (text : String) :
    List String :=
  (pieces text.toList).map String.ofList

/-- The parts of a text between the characters equal to `separator`. -/
def cutAt
    (separator : Char)
    (text : String) :
    List String :=
  (cut (· == separator) text.toList).map String.ofList

end Blueprint
