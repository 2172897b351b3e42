import Blueprint.Fault

namespace Blueprint.Yaml

/-!
# Cursors

A cursor is a place in a text: what is left of it, and where the place lies. Line breaks are line
feeds, carriage returns, both at once, and three Unicode marks; all but the last two marks count
as a line feed inside a scalar.
-/

/-- The characters that a YAML text may hold. -/
def isAllowed
    (letter : Char) :
    Bool :=
  let code := letter.toNat
  code == 0x9 || code == 0xA || code == 0xD || (0x20 ≤ code && code ≤ 0x7E) || code == 0x85 ||
    (0xA0 ≤ code && code ≤ 0xFFFD) || 0x10000 ≤ code

/-- The mark that may stand at the start of a text. -/
def byteOrderMark : Char := Char.ofNat 0xFEFF

/-- Whether a character ends a line. -/
def isBreak
    (letter : Char) :
    Bool :=
  letter == '\r' || letter == '\n' || letter.toNat == 0x85 || letter.toNat == 0x2028 ||
    letter.toNat == 0x2029

/-- Whether a character is a space or a tab. -/
def isSpacing
    (letter : Char) :
    Bool :=
  letter == ' ' || letter == '\t'

/-- Whether a text goes on with a character that satisfies `holds`. -/
def goesOn
    (holds : Char → Bool) :
    List Char →
    Bool
  | [] => false
  | letter :: _ => holds letter

/-- Whether a text ends or goes on with a line break. -/
def atLineEnd
    (text : List Char) :
    Bool :=
  text.isEmpty || goesOn isBreak text

/-- Whether a text ends or goes on with a space, a tab or a line break. -/
def atWordEnd
    (text : List Char) :
    Bool :=
  atLineEnd text || goesOn isSpacing text

/-- Whether a character may stand in a name. -/
def isNameLetter
    (letter : Char) :
    Bool :=
  letter.isAlphanum || letter == '_' || letter == '-'

/-- A place in a text. -/
structure Cursor where
  rest : List Char
  index : Nat
  line : Nat
  column : Nat
  deriving Repr

namespace Cursor

/-- The start of a text. -/
def start
    (text : List Char) :
    Cursor :=
  ⟨text, 0, 0, 0⟩

/-- A bound on how often a loop can go on from the cursor. -/
def bound
    (cursor : Cursor) :
    Nat :=
  cursor.rest.length + 1

/-- The place some characters further on the line. -/
def skip
    (cursor : Cursor)
    (count : Nat) :
    Cursor :=
  { cursor with
    rest := cursor.rest.drop count
    index := cursor.index + count
    column := cursor.column + count }

/-- The characters that satisfy `holds`, none of them a line break, and the place after them. -/
def take
    (cursor : Cursor)
    (holds : Char → Bool) :
    List Char × Cursor :=
  let taken := cursor.rest.takeWhile holds
  (taken, cursor.skip taken.length)

/-- The place after the characters that satisfy `holds`, none of them a line break. -/
def skipWhile
    (cursor : Cursor)
    (holds : Char → Bool) :
    Cursor :=
  (cursor.take holds).2

/-- The place at the start of the next line, some characters further. -/
def nextLine
    (cursor : Cursor)
    (count : Nat) :
    Cursor :=
  ⟨cursor.rest.drop count, cursor.index + count, cursor.line + 1, 0⟩

/-- The line break at the cursor as it counts inside a scalar, and the place after it. -/
def takeBreak
    (cursor : Cursor) :
    List Char × Cursor :=
  match cursor.rest with
  | '\r' :: '\n' :: _ => (['\n'], cursor.nextLine 2)
  | letter :: _ =>
      if letter.toNat == 0x2028 || letter.toNat == 0x2029 then ([letter], cursor.nextLine 1)
      else if isBreak letter then (['\n'], cursor.nextLine 1)
      else ([], cursor)
  | [] => ([], cursor)

/-- The place after the line break at the cursor. -/
def skipBreak
    (cursor : Cursor) :
    Cursor :=
  cursor.takeBreak.2

/-- The place after the comment at the cursor, if there is one. -/
def skipComment
    (cursor : Cursor) :
    Cursor :=
  if cursor.rest.head? = some '#' then
    cursor.skipWhile fun letter => !isBreak letter
  else
    cursor

/-- Whether three dashes or three dots stand alone at the start of the line. -/
def atDocumentMark
    (cursor : Cursor) :
    Bool :=
  cursor.column == 0 &&
    match cursor.rest with
    | '-' :: '-' :: '-' :: rest => atWordEnd rest
    | '.' :: '.' :: '.' :: rest => atWordEnd rest
    | _ => false

end Cursor

/-- A text that does not go on as it has to. -/
def malformed {α : Type} : Except Fault α :=
  .error .malformed

end Blueprint.Yaml
