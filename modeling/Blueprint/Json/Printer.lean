import Blueprint.Decimal.Shortest
import Blueprint.Json.Value

namespace Blueprint.Json

/-!
# JSON text

Values are written on one line or indented by two spaces. Strings are written raw but for quotes,
backslashes and control characters; numbers that are no integers always show a point or an
exponent.
-/

/-- The hexadecimal digit of a number below sixteen, in small letters. -/
def hexDigit
    (digit : Nat) :
    Char :=
  if digit < 10 then Char.ofNat (0x30 + digit) else Char.ofNat (0x57 + digit)

/-- One character as it is written inside quotes. -/
def escape
    (letter : Char) :
    List Char :=
  match letter with
  | '"' => ['\\', '"']
  | '\\' => ['\\', '\\']
  | '\n' => ['\\', 'n']
  | '\r' => ['\\', 'r']
  | '\t' => ['\\', 't']
  | '\x08' => ['\\', 'b']
  | '\x0c' => ['\\', 'f']
  | _ =>
      let code := letter.toNat
      if code < 0x20 then
        ['\\', 'u', '0', '0', hexDigit (code / 16), hexDigit (code % 16)]
      else
        [letter]

/-- A text in quotes. -/
def quoted
    (text : String) :
    List Char :=
  '"' :: (text.toList.flatMap escape ++ ['"'])

/-- Decimal digits with the point after `place` of them, as far as no exponent is needed. -/
def positional
    (digits : List Char)
    (place : Int) :
    List Char :=
  if place ≤ 0 then
    ['0', '.'] ++ List.replicate (-place).toNat '0' ++ digits
  else if digits.length ≤ place.toNat then
    digits ++ List.replicate (place.toNat - digits.length) '0' ++ ['.', '0']
  else
    digits.take place.toNat ++ ['.'] ++ digits.drop place.toNat

/-- An integer in decimal digits. -/
def integerText
    (value : Int) :
    List Char :=
  if value < 0 then '-' :: Digits.numeral value.natAbs else Digits.numeral value.natAbs

/-- An exponent with its sign. -/
def exponentText
    (exponent : Int) :
    List Char :=
  'e' :: (if exponent < 0 then '-' else '+') :: Digits.numeral exponent.natAbs

/-- Decimal digits with the point after the first and an exponent. -/
def scientific
    (digits : List Char)
    (place : Int) :
    List Char :=
  let mantissa :=
    match digits with
    | [] => []
    | [only] => [only]
    | first :: rest => first :: '.' :: rest
  mantissa ++ exponentText (place - 1)

/-- A positive finite magnitude: positional where the point lies from four zeros before the
digits to sixteen places after their start. -/
def magnitudeText
    (magnitude : Nat) :
    List Char :=
  let (point, exponent) := Decimal.shortest magnitude
  let digits := Digits.numeral point
  let place := digits.length + exponent
  if -5 < place && place ≤ 16 then positional digits place else scientific digits place

/-- A floating-point number by the fewest digits that read back. -/
def realText
    (bits : UInt64) :
    List Char :=
  let magnitude := bits.toNat % Decimal.signBit
  let body := if magnitude = 0 then ['0', '.', '0'] else magnitudeText magnitude
  if Decimal.signBit ≤ bits.toNat then '-' :: body else body

/-- A number. -/
def Number.text :
    Number →
    List Char
  | integer value => integerText value
  | real bits => realText bits

/-- The two words for truth values. -/
def boolText
    (value : Bool) :
    List Char :=
  if value then ['t', 'r', 'u', 'e'] else ['f', 'a', 'l', 's', 'e']

namespace Value

mutual

/-- A value on one line, without spaces. -/
def compact :
    Value →
    List Char
  | null => ['n', 'u', 'l', 'l']
  | bool value => boolText value
  | number value => value.text
  | string text => quoted text
  | array items => '[' :: (compactItems items ++ [']'])
  | object members => '\x7b' :: (compactMembers members ++ ['\x7d'])

/-- The items of an array, commas between them. -/
def compactItems :
    List Value →
    List Char
  | [] => []
  | [item] => item.compact
  | item :: next :: rest => item.compact ++ ',' :: compactItems (next :: rest)

/-- The members of an object, commas between them. -/
def compactMembers :
    List (String × Value) →
    List Char
  | [] => []
  | [(name, value)] => quoted name ++ ':' :: value.compact
  | (name, value) :: next :: rest =>
      quoted name ++ ':' :: (value.compact ++ ',' :: compactMembers (next :: rest))

end

/-- A line break and the indentation of a depth. -/
def lineAt
    (depth : Nat) :
    List Char :=
  '\n' :: List.replicate (2 * depth) ' '

mutual

/-- A value over several lines, indented; empty arrays and objects stay on one. -/
def indented
    (depth : Nat) :
    Value →
    List Char
  | null => ['n', 'u', 'l', 'l']
  | bool value => boolText value
  | number value => value.text
  | string text => quoted text
  | array [] => ['[', ']']
  | array (item :: rest) =>
      '[' :: (indentedItems (depth + 1) (item :: rest) ++ lineAt depth ++ [']'])
  | object [] => ['\x7b', '\x7d']
  | object (member :: rest) =>
      '\x7b' :: (indentedMembers (depth + 1) (member :: rest) ++ lineAt depth ++ ['\x7d'])

/-- The items of an array, each on a line of its own. -/
def indentedItems
    (depth : Nat) :
    List Value →
    List Char
  | [] => []
  | [item] => lineAt depth ++ item.indented depth
  | item :: next :: rest =>
      lineAt depth ++ item.indented depth ++ ',' :: indentedItems depth (next :: rest)

/-- The members of an object, each on a line of its own. -/
def indentedMembers
    (depth : Nat) :
    List (String × Value) →
    List Char
  | [] => []
  | [(name, value)] => lineAt depth ++ quoted name ++ [':', ' '] ++ value.indented depth
  | (name, value) :: next :: rest =>
      lineAt depth ++ quoted name ++ [':', ' '] ++ value.indented depth ++
        ',' :: indentedMembers depth (next :: rest)

end

/-- The text of a value on one line. -/
def line
    (value : Value) :
    String :=
  String.ofList value.compact

/-- The text of a value over several lines. -/
def page
    (value : Value) :
    String :=
  String.ofList (value.indented 0)

end Value

end Blueprint.Json
