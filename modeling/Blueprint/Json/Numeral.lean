import Blueprint.Decimal.Binary64
import Blueprint.Node
import Blueprint.Text.Digits

namespace Blueprint.Json

/-!
# Numerals

A numeral is a sign, whole digits without a needless zero, and optionally decimals and an
exponent. Integers from `-2 ^ 63` to `2 ^ 64 - 1` stay exact. Every other numeral becomes a
floating-point number in two roundings: its first digits, as many as fit 64 bits, and then their
product or quotient with a power of ten.
-/

/-- The written parts of a numeral. -/
structure Numeral where
  negative : Bool
  whole : List Char
  decimals : Option (List Char)
  /-- Whether the exponent is negative, and its digits. -/
  exponent : Option (Bool × List Char)
  deriving Repr, DecidableEq

/-- The bound of 64-bit natural numbers. -/
def wordBound : Nat := 0x10000000000000000

/-- Append digits to a word as long as it fits 64 bits, and count the digits left over. -/
def fillWord
    (word : Nat) :
    List Char →
    Nat × Nat
  | [] => (word, 0)
  | letter :: rest =>
      let longer := word * 10 + Digits.valueOfMark letter
      if longer < wordBound then fillWord longer rest else (word, rest.length + 1)

/-- The first digits of a numeral as a word, and the power of ten by which they are to be
multiplied before the written exponent is applied. -/
def Numeral.significand
    (numeral : Numeral) :
    Nat × Int :=
  let (word, left) := fillWord 0 numeral.whole
  match numeral.decimals with
  | none => (word, left)
  | some decimals =>
      let (longer, ignored) := fillWord word decimals
      (longer, (left : Int) - (decimals.length - ignored : Nat))

/-- The largest exponent that is taken as it is written. -/
def exponentLimit : Nat := 0x7FFFFFFF

/-- A magnitude divided by a power of ten, in steps that the powers of ten allow. -/
def dividedByTens
    (magnitude tens : Nat) :
    Nat :=
  if magnitude = 0 then
    0
  else if tens ≤ 308 then
    Decimal.ratio magnitude (Decimal.powerOfTen tens)
  else
    dividedByTens (Decimal.ratio magnitude (Decimal.powerOfTen 308)) (tens - 308)
termination_by tens

/-- A word times a power of ten, unless the result is out of range. -/
def scaledWord?
    (word : Nat)
    (exponent : Int) :
    Option Nat :=
  let magnitude := Decimal.ofQuotient word 1
  if exponent < 0 then
    some (dividedByTens magnitude (-exponent).toNat)
  else if magnitude = 0 then
    some 0
  else if 308 < exponent then
    none
  else
    let result := Decimal.product magnitude (Decimal.powerOfTen exponent.toNat)
    if result < Decimal.infinity then some result else none

/-- The magnitude of a numeral as a floating-point number, unless it is out of range. -/
def Numeral.magnitude?
    (numeral : Numeral) :
    Option Nat :=
  let (word, tens) := numeral.significand
  match numeral.exponent with
  | none => scaledWord? word tens
  | some (negative, digits) =>
      let exponent := Digits.value digits
      if exponentLimit < exponent then
        if word ≠ 0 ∧ !negative then none else some 0
      else
        scaledWord? word (if negative then tens - exponent else tens + exponent)

/-- The number that a numeral without decimals and exponent denotes, if it stays exact. -/
def integer?
    (negative : Bool)
    (whole : List Char) :
    Option Int :=
  let size := Digits.value whole
  if negative then
    if 0 < size ∧ size ≤ 0x8000000000000000 then some (-size) else none
  else
    if size < wordBound then some size else none

/-- The number that a numeral denotes, unless it is out of range. -/
def Numeral.number?
    (numeral : Numeral) :
    Option Number :=
  let real := numeral.magnitude?.map fun magnitude =>
    Number.real (Decimal.signed numeral.negative magnitude)
  match numeral.decimals, numeral.exponent with
  | none, none =>
      match integer? numeral.negative numeral.whole with
      | some value => some (.integer value)
      | none => real
  | _, _ => real

/-- The tree of a numeral; one out of range cannot be read but can be skipped. -/
def Numeral.node
    (numeral : Numeral) :
    Node :=
  match numeral.number? with
  | some value => .number value
  | none => .guarded .malformed .null

/-- A numeral that breaks off: an early end for a reader, malformed for one that skips it. -/
def brokenOff :
    List Char →
    Node
  | [] => .guarded .ended (.fault .malformed)
  | _ :: _ => .fault .malformed

/-- Scan an exponent after a numeral whose other parts are known. -/
def scanExponent
    (numeral : Numeral) :
    List Char →
    Node × List Char
  | mark :: rest =>
      if mark = 'e' ∨ mark = 'E' then
        let (negative, digits) :=
          match rest with
          | '+' :: digits => (false, digits)
          | '-' :: digits => (true, digits)
          | digits => (false, digits)
        match digits.takeWhile Char.isDigit with
        | [] => (brokenOff digits, [])
        | first :: others =>
            ({ numeral with exponent := some (negative, first :: others) }.node,
              digits.dropWhile Char.isDigit)
      else
        (numeral.node, mark :: rest)
  | [] => (numeral.node, [])

/-- Scan decimals and an exponent after the whole part of a numeral. -/
def scanDecimals
    (numeral : Numeral) :
    List Char →
    Node × List Char
  | '.' :: rest =>
      match rest.takeWhile Char.isDigit with
      | [] => (brokenOff rest, [])
      | first :: others =>
          scanExponent { numeral with decimals := some (first :: others) }
            (rest.dropWhile Char.isDigit)
  | rest => scanExponent numeral rest

/-- Scan a numeral after its sign. -/
def scanUnsigned
    (negative : Bool)
    (text : List Char) :
    Node × List Char :=
  match text.takeWhile Char.isDigit with
  | [] => (brokenOff text, [])
  | '0' :: _ :: _ => (.fault .malformed, [])
  | digits => scanDecimals ⟨negative, digits, none, none⟩ (text.dropWhile Char.isDigit)

/-- What `dropWhile` leaves is no longer than the text. -/
theorem length_dropWhile_le
    {α : Type}
    (isDropped : α → Bool)
    (text : List α) :
    (text.dropWhile isDropped).length ≤ text.length := by
  induction text with
  | nil =>
      simp
  | cons first rest inductionHypothesis =>
      rw [List.dropWhile_cons]
      split
      · exact Nat.le_succ_of_le inductionHypothesis
      · exact Nat.le_refl _

/-- Scanning an exponent takes nothing but characters from the front. -/
theorem length_rest_scanExponent
    (numeral : Numeral)
    (text : List Char) :
    (scanExponent numeral text).2.length ≤ text.length := by
  unfold scanExponent
  split
  · next mark rest =>
      split
      · have signLength :
            (match rest with
              | '+' :: digits => (false, digits)
              | '-' :: digits => (true, digits)
              | digits => (false, digits)).2.length ≤ rest.length := by
          split <;> simp
        split
        next negative digits shape =>
          rw [shape] at signLength
          have dropped := length_dropWhile_le Char.isDigit digits
          split
          · simp
          · simp only [List.length_cons]
            simp only at signLength
            omega
      · simp
  · simp

/-- Scanning decimals takes nothing but characters from the front. -/
theorem length_rest_scanDecimals
    (numeral : Numeral)
    (text : List Char) :
    (scanDecimals numeral text).2.length ≤ text.length := by
  unfold scanDecimals
  split
  · next rest =>
      split
      · simp
      · next first others shape =>
          have scanned := length_rest_scanExponent
            { numeral with decimals := some (first :: others) } (rest.dropWhile Char.isDigit)
          have dropped := length_dropWhile_le Char.isDigit rest
          simp only [List.length_cons]
          omega
  · exact length_rest_scanExponent numeral _

/-- Scanning a numeral after its sign takes nothing but characters from the front. -/
theorem length_rest_scanUnsigned
    (negative : Bool)
    (text : List Char) :
    (scanUnsigned negative text).2.length ≤ text.length := by
  unfold scanUnsigned
  split
  · simp
  · simp
  · exact Nat.le_trans (length_rest_scanDecimals _ _) (length_dropWhile_le _ _)

/-- Scanning a numeral that starts with a digit takes at least that digit. -/
theorem length_rest_scanUnsigned_digit
    (negative : Bool)
    {letter : Char}
    (digit : letter.isDigit = true)
    (rest : List Char) :
    (scanUnsigned negative (letter :: rest)).2.length ≤ rest.length := by
  unfold scanUnsigned
  split
  · simp
  · simp
  · simp only [List.dropWhile_cons, digit, if_true]
    exact Nat.le_trans (length_rest_scanDecimals _ _) (length_dropWhile_le _ _)

end Blueprint.Json
