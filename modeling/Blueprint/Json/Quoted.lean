import Blueprint.Node
import Blueprint.Text.Digits

namespace Blueprint.Json

/-!
# Quoted text

What stands between two quotes is scanned into units: characters, and code units given by four
hexadecimal digits. A reader of the text joins code units into characters and refuses surrogates
that stand alone; a reader that skips the text does not look at them.
-/

/-- A character, or a code unit given by its number. -/
inductive TextUnit where
  | letter (letter : Char)
  | code (unit : Nat)
  deriving Repr, DecidableEq

/-- The units up to the closing quote or a fault, and what follows. -/
structure ScannedText where
  units : List TextUnit
  stop : Option Fault
  rest : List Char
  deriving Repr, DecidableEq

/-- Put a unit in front of a scanned text. -/
def ScannedText.push
    (unit : TextUnit)
    (scanned : ScannedText) :
    ScannedText :=
  { scanned with units := unit :: scanned.units }

/-- The character that a one-letter escape stands for. -/
def escaped? :
    Char →
    Option Char
  | '"' => some '"'
  | '\\' => some '\\'
  | '/' => some '/'
  | 'b' => some '\x08'
  | 'f' => some '\x0c'
  | 'n' => some '\n'
  | 'r' => some '\r'
  | 't' => some '\t'
  | _ => none

/-- The number of four hexadecimal digits. -/
def codeUnit?
    (first second third fourth : Char) :
    Option Nat :=
  match Digits.digitIn? 16 first, Digits.digitIn? 16 second, Digits.digitIn? 16 third,
    Digits.digitIn? 16 fourth with
  | some a, some b, some c, some d => some (((a * 16 + b) * 16 + c) * 16 + d)
  | _, _, _, _ => none

/-- The fault of fewer than four characters after `\u`: four bytes that are no digits are
malformed, fewer bytes are an early end. -/
def shortEscape
    (rest : List Char) :
    Fault :=
  if 4 ≤ (String.ofList rest).utf8ByteSize then .malformed else .ended

/-- Scan what follows an opening quote. -/
def scanText :
    List Char →
    ScannedText
  | [] => ⟨[], some .ended, []⟩
  | '"' :: rest => ⟨[], none, rest⟩
  | '\\' :: 'u' :: first :: second :: third :: fourth :: rest =>
      match codeUnit? first second third fourth with
      | some unit => (scanText rest).push (.code unit)
      | none => ⟨[], some .malformed, []⟩
  | '\\' :: 'u' :: rest => ⟨[], some (shortEscape rest), []⟩
  | '\\' :: letter :: rest =>
      match escaped? letter with
      | some meant => (scanText rest).push (.letter meant)
      | none => ⟨[], some .malformed, []⟩
  | ['\\'] => ⟨[], some .ended, []⟩
  | letter :: rest =>
      if letter.toNat < 0x20 then
        ⟨[], some .malformed, []⟩
      else
        (scanText rest).push (.letter letter)

/-- Whether a code unit is the first half of a character. -/
def isLeading
    (unit : Nat) :
    Bool :=
  0xD800 ≤ unit && unit < 0xDC00

/-- Whether a code unit is the second half of a character. -/
def isFollowing
    (unit : Nat) :
    Bool :=
  0xDC00 ≤ unit && unit < 0xE000

/-- The character of two halves. -/
def joinedHalves
    (leading following : Nat) :
    Char :=
  Char.ofNat (0x10000 + (leading - 0xD800) * 0x400 + (following - 0xDC00))

/-- The characters of a run of units that ends with a fault or none. -/
def charactersOf
    (stop : Option Fault) :
    List TextUnit →
    Except Fault (List Char)
  | [] =>
      match stop with
      | none => .ok []
      | some cause => .error cause
  | .letter letter :: rest => (charactersOf stop rest).map (letter :: ·)
  | .code unit :: rest =>
      if isFollowing unit then
        .error .malformed
      else if isLeading unit then
        match rest with
        | .code following :: later =>
            if isFollowing following then
              (charactersOf stop later).map (joinedHalves unit following :: ·)
            else
              .error .malformed
        | .letter _ :: _ => .error .malformed
        | [] => .error (stop.getD .malformed)
      else
        (charactersOf stop rest).map (Char.ofNat unit :: ·)

/-- The tree of a scanned text. -/
def ScannedText.node
    (scanned : ScannedText) :
    Node :=
  match charactersOf scanned.stop scanned.units with
  | .ok letters => .string (String.ofList letters)
  | .error cause =>
      match scanned.stop with
      | none => .guarded cause (.string "")
      | some later => if cause = later then .fault cause else .guarded cause (.fault later)

/-- Scanning takes nothing but characters from the front. -/
theorem length_rest_scanText
    (text : List Char) :
    (scanText text).rest.length ≤ text.length := by
  fun_induction scanText text <;> simp_all [ScannedText.push] <;> omega

end Blueprint.Json
