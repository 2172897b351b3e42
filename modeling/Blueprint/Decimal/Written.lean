import Blueprint.Decimal.Binary64
import Blueprint.Text.Digits

namespace Blueprint.Decimal

/-!
# Written decimal numbers

Which words are written numbers, and the magnitude nearest to one: a sign, then an infinity, a
not-a-number or decimal digits with at most one point and an optional exponent. A point needs a
digit on one side only.
-/

/-- A text after an optional sign. -/
def unsigned :
    List Char →
    List Char
  | '+' :: rest => rest
  | '-' :: rest => rest
  | text => text

/-- Whether a text is one or more decimal digits. -/
def isDigits
    (text : List Char) :
    Bool :=
  !text.isEmpty && text.all Char.isDigit

/-- Whether a text is empty or an exponent: a mark, an optional sign and digits. -/
def isExponent :
    List Char →
    Bool
  | [] => true
  | mark :: rest => (mark == 'e' || mark == 'E') && isDigits (unsigned rest)

/-- Whether a text is decimal digits with an optional point and an optional exponent. -/
def isUnsigned
    (text : List Char) :
    Bool :=
  let whole := text.takeWhile Char.isDigit
  match text.dropWhile Char.isDigit with
  | '.' :: rest =>
      let decimals := rest.takeWhile Char.isDigit
      !(whole.isEmpty && decimals.isEmpty) && isExponent (rest.dropWhile Char.isDigit)
  | rest => !whole.isEmpty && isExponent rest

/-- The spellings, in small letters, of the numbers that have no digits. -/
def digitless : List String :=
  ["inf", "infinity", "nan"]

/-- Whether a word is a written number. -/
def isWritten
    (word : String) :
    Bool :=
  let body := unsigned word.toList
  digitless.contains (String.ofList (body.map Char.toLower)) || isUnsigned body

/-- The exponent that stands after an exponent mark. -/
def exponentOf :
    List Char →
    Int
  | _ :: '-' :: digits => -(Digits.value digits : Int)
  | _ :: '+' :: digits => Digits.value digits
  | _ :: digits => Digits.value digits
  | [] => 0

/-- The magnitude nearest to decimal digits times a power of ten. Where the first digit that is
no zero lies far outside the range of magnitudes, so does the number. -/
def nearest
    (digits : List Char)
    (exponent : Int) :
    Nat :=
  let significant := digits.dropWhile (· == '0')
  let place := significant.length + exponent
  if significant.isEmpty ∨ place < -400 then 0
  else if 400 < place then infinity
  else if 0 ≤ exponent then ofQuotient (Digits.value significant * Nat.pow 10 exponent.toNat) 1
  else ofQuotient (Digits.value significant) (Nat.pow 10 (-exponent).toNat)

/-- The magnitude nearest to a decimal number without sign. -/
def magnitudeOf
    (text : List Char) :
    Nat :=
  let whole := text.takeWhile Char.isDigit
  match text.dropWhile Char.isDigit with
  | '.' :: rest =>
      let decimals := rest.takeWhile Char.isDigit
      nearest (whole ++ decimals) (exponentOf (rest.dropWhile Char.isDigit) - decimals.length)
  | rest => nearest whole (exponentOf rest)

/-- The number that decimal digits with an optional sign denote, if it is finite. -/
def finite?
    (text : List Char) :
    Option UInt64 :=
  let body := unsigned text
  if isUnsigned body then
    let magnitude := magnitudeOf body
    if magnitude < infinity then some (signed (text.head? == some '-') magnitude) else none
  else
    none

end Blueprint.Decimal
