import Blueprint.Decimal.Written
import Blueprint.Node
import Blueprint.Text.Digits

namespace Blueprint.Scalar

/-!
# Plain scalars

What a scalar without quotes denotes: null, a truth value, an integer in one of four bases, a
floating-point number, or its own text. Digits after a needless zero are text.
-/

/-- What the words of the core schema share before the kind of value. -/
def schema : String := "tag:yaml.org,2002:"

/-- The tags that decide what a scalar denotes. -/
def nullTag : String := schema ++ "null"

/-- The tag of truth values. -/
def truthTag : String := schema ++ "bool"

/-- The tag of integers. -/
def integerTag : String := schema ++ "int"

/-- The tag of floating-point numbers. -/
def realTag : String := schema ++ "float"

/-- Whether a text is one of the words for null. -/
def isNullWord
    (text : String) :
    Bool :=
  ["~", "null", "Null", "NULL"].contains text

/-- The truth value that a word stands for. -/
def truth?
    (text : String) :
    Option Bool :=
  if ["true", "True", "TRUE"].contains text then some true
  else if ["false", "False", "FALSE"].contains text then some false
  else none

/-- Whether a text is digits after a needless zero, perhaps signed. -/
def isPadded
    (text : List Char) :
    Bool :=
  match Decimal.unsigned text with
  | '0' :: digit :: rest => (digit :: rest).all Char.isDigit
  | _ => false

/-- The base that a marked numeral is written in, and its digits. -/
def based? :
    List Char →
    Option (Nat × List Char)
  | '0' :: 'x' :: digits => some (16, digits)
  | '0' :: 'o' :: digits => some (8, digits)
  | '0' :: 'b' :: digits => some (2, digits)
  | _ => none

/-- The number of a decimal or marked numeral without sign. -/
def size?
    (text : List Char) :
    Option Nat :=
  match based? text with
  | some (base, digits) => Digits.valueIn? base digits
  | none => if isPadded text then none else Digits.valueIn? 10 text

/-- The number that a text denotes, with a plus sign or none. -/
def natural? :
    List Char →
    Option Nat
  | '+' :: rest => size? rest
  | text => size? text

/-- The integer that a text denotes, with an optional sign. -/
def integer? :
    List Char →
    Option Int
  | '-' :: rest => (size? rest).map fun size => -(size : Int)
  | text => (natural? text).map fun size => (size : Int)

/-- The smallest and the largest integer that are kept. -/
def isKept
    (value : Int) :
    Bool :=
  -0x8000000000000000 ≤ value && value < 0x10000000000000000

/-- Whether an integer fits the widest words that a reader of numbers knows. -/
def isWide
    (value : Int) :
    Bool :=
  -0x80000000000000000000000000000000 ≤ value && value < 0x100000000000000000000000000000000

/-- The floating-point number that a text denotes. -/
def real?
    (text : String) :
    Option UInt64 :=
  if [".inf", ".Inf", ".INF", "+.inf", "+.Inf", "+.INF"].contains text then
    some (Decimal.signed false Decimal.infinity)
  else if ["-.inf", "-.Inf", "-.INF"].contains text then
    some (Decimal.signed true Decimal.infinity)
  else if [".nan", ".NaN", ".NAN"].contains text then
    some (Decimal.signed false Decimal.notANumber)
  else
    Decimal.finite? text.toList

/-- The number of an integer, unless it is too wide for readers of numbers. -/
def integerNode
    (value : Int) :
    Except Fault Node :=
  if isKept value then .ok (.number (.integer value)) else .error (.mismatch .shape)

/-- What a plain scalar without a tag denotes. -/
def plain
    (text : String) :
    Except Fault Node :=
  if text.isEmpty || isNullWord text then
    .ok .null
  else
    match truth? text with
    | some value => .ok (.bool value)
    | none =>
        match (integer? text.toList).filter isWide with
        | some value => integerNode value
        | none =>
            if isPadded text.toList then
              .ok (.string text)
            else
              match real? text with
              | some bits => .ok (.number (.real bits))
              | none => .ok (.string text)

/-- What a scalar with a tag denotes. -/
def tagged
    (tag text : String) :
    Except Fault Node :=
  if tag.startsWith "!" then
    .error (.mismatch .shape)
  else if tag = truthTag then
    match truth? text with
    | some value => .ok (.bool value)
    | none => .error (.mismatch .shape)
  else if tag = integerTag then
    match (integer? text.toList).filter isWide with
    | some value => integerNode value
    | none => .error (.mismatch .shape)
  else if tag = realTag then
    match real? text with
    | some bits => .ok (.number (.real bits))
    | none => .error (.mismatch .shape)
  else if tag = nullTag then
    if isNullWord text then .ok .null else .error (.mismatch .shape)
  else
    .ok (.string text)

/-- What a scalar denotes to a reader of any value. -/
def settled
    (style : Style)
    (tag : Option String)
    (text : String) :
    Except Fault Node :=
  match tag, style with
  | some tag, _ => tagged tag text
  | none, .plain => plain text
  | none, _ => .ok (.string text)

end Blueprint.Scalar
