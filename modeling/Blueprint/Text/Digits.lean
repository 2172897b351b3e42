namespace Blueprint.Digits

/-!
# Decimal digits

Natural numbers as decimal digits and back. The numeral of zero is one zero; no other numeral
starts with one.
-/

/-- The character of a digit below ten. -/
def mark
    (digit : Nat) :
    Char :=
  Char.ofNat (0x30 + digit)

/-- The digit of a decimal character. -/
def valueOfMark
    (letter : Char) :
    Nat :=
  letter.toNat - 0x30

/-- The numeral of a number. -/
def numeral
    (number : Nat) :
    List Char :=
  if number < 10 then
    [mark number]
  else
    numeral (number / 10) ++ [mark (number % 10)]
termination_by number
decreasing_by omega

/-- The number that digits denote, read after the digits of `high`. -/
def valueFrom
    (high : Nat)
    (digits : List Char) :
    Nat :=
  digits.foldl (fun value letter => value * 10 + valueOfMark letter) high

/-- The number that digits denote. -/
def value
    (digits : List Char) :
    Nat :=
  valueFrom 0 digits

/-- The value of a digit in a base of up to sixteen. -/
def digitIn?
    (base : Nat)
    (letter : Char) :
    Option Nat :=
  let code := letter.toNat
  let digit :=
    if 0x30 ≤ code && code ≤ 0x39 then code - 0x30
    else if 0x61 ≤ code && code ≤ 0x66 then code - 0x61 + 10
    else if 0x41 ≤ code && code ≤ 0x46 then code - 0x41 + 10
    else 16
  if digit < base then some digit else none

/-- The number that digits denote in a base of up to sixteen; none for no digits or others. -/
def valueIn?
    (base : Nat) :
    List Char →
    Option Nat
  | [] => none
  | first :: rest =>
      (first :: rest).foldl
        (fun value letter =>
          match value, digitIn? base letter with
          | some high, some digit => some (high * base + digit)
          | _, _ => none)
        (some 0)

end Blueprint.Digits
