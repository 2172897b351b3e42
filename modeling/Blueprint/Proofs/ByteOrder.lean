import Mathlib.Algebra.Group.Nat.Defs

namespace Blueprint.Text

/-!
# The order of texts by their bytes

The order of texts is that of their bytes in UTF-8. The first byte of a character tells how many
bytes follow and carries the leading digits of the code in base 64; each byte that follows carries
one digit more. A smaller code has a smaller first byte, or the same first byte and smaller digits
after it, so that two texts compare at their first different character as their bytes do.
-/

/-- The bytes of a text in UTF-8. -/
def bytes
    (text : String) :
    List UInt8 :=
  text.toUTF8.data.toList

theorem bytes_eq_flatMap
    (text : String) :
    bytes text = text.toList.flatMap String.utf8EncodeChar := by
  have encoded : text.toUTF8 = text.toList.utf8Encode := String.utf8Encode_toList.symm
  rw [bytes, encoded]
  exact congrArg Array.toList List.data_toByteArray

/-- How many bytes follow the first one of a code. -/
def following
    (code : Nat) :
    Nat :=
  if code < 0x80 then 0 else if code < 0x800 then 1 else if code < 0x10000 then 2 else 3

/-- The mark in the first byte for the number of bytes that follow. -/
def leadMark :
    Nat →
    Nat
  | 0 => 0
  | 1 => 0xC0
  | 2 => 0xE0
  | _ => 0xF0

/-- The number in the first byte of a code. -/
def leading
    (code : Nat) :
    Nat :=
  code / 64 ^ following code + leadMark (following code)

/-- The bytes with the last digits of a code in base 64, as many as there are places. -/
def digitBytes :
    Nat →
    Nat →
    List UInt8
  | 0, _ => []
  | places + 1, code => UInt8.ofNat (code / 64 ^ places % 64 + 0x80) :: digitBytes places code

/-- The first byte tells how many bytes follow: the ranges of its number are apart. -/
theorem following_cases
    {code : Nat}
    (bound : code < 0x110000) :
    (code < 0x80 ∧ following code = 0 ∧ leading code < 0x80) ∨
      (0x80 ≤ code ∧ code < 0x800 ∧ following code = 1 ∧
        0xC0 ≤ leading code ∧ leading code < 0xE0) ∨
      (0x800 ≤ code ∧ code < 0x10000 ∧ following code = 2 ∧
        0xE0 ≤ leading code ∧ leading code < 0xF0) ∨
      (0x10000 ≤ code ∧ following code = 3 ∧ 0xF0 ≤ leading code ∧ leading code < 0xF8) := by
  by_cases isSingle : code < 0x80
  · have none_follow : following code = 0 := if_pos isSingle
    refine .inl ⟨isSingle, none_follow, ?_⟩
    simp only [leading, none_follow, leadMark]
    omega
  · by_cases isDouble : code < 0x800
    · have one_follows : following code = 1 := by simp [following, isSingle, isDouble]
      refine .inr (.inl ⟨by omega, isDouble, one_follows, ?_⟩)
      simp only [leading, one_follows, leadMark]
      omega
    · by_cases isTriple : code < 0x10000
      · have two_follow : following code = 2 := by
          simp [following, isSingle, isDouble, isTriple]
        refine .inr (.inr (.inl ⟨by omega, isTriple, two_follow, ?_⟩))
        simp only [leading, two_follow, leadMark]
        omega
      · have three_follow : following code = 3 := by
          simp [following, isSingle, isDouble, isTriple]
        refine .inr (.inr (.inr ⟨by omega, three_follow, ?_⟩))
        simp only [leading, three_follow, leadMark]
        omega

/-- A smaller code has a smaller first byte, or differs in the digits that follow. -/
theorem leading_cases
    {code other : Nat}
    (less : code < other)
    (bound : other < 0x110000) :
    leading code < leading other ∨
      leading code = leading other ∧ following code = following other ∧
        code % 64 ^ following code < other % 64 ^ following code := by
  by_cases same : following code = following other
  · have quotients : code / 64 ^ following code ≤ other / 64 ^ following code :=
      Nat.div_le_div_right (Nat.le_of_lt less)
    have split := Nat.div_add_mod code (64 ^ following code)
    have otherSplit := Nat.div_add_mod other (64 ^ following code)
    rcases Nat.lt_or_eq_of_le quotients with smaller | equal
    · left
      rw [leading, leading, ← same]
      omega
    · refine .inr ⟨?_, same, ?_⟩
      · rw [leading, leading, ← same, equal]
      · rw [equal] at split
        omega
  · left
    have ranges := following_cases (Nat.lt_trans less bound)
    have otherRanges := following_cases bound
    omega

/-- What the last places come to tells the order of the bytes of their digits. -/
theorem digitBytes_append_lt
    {places code other : Nat}
    (less : code % 64 ^ places < other % 64 ^ places)
    (rest others : List UInt8) :
    digitBytes places code ++ rest < digitBytes places other ++ others := by
  induction places with
  | zero =>
      simp [Nat.mod_one] at less
  | succ places inductionHypothesis =>
      rw [Nat.mod_pow_succ, Nat.mod_pow_succ] at less
      have positive : 0 < 64 ^ places := Nat.pow_pos (by decide)
      have below := Nat.mod_lt code positive
      have otherBelow := Nat.mod_lt other positive
      simp only [digitBytes, List.cons_append, List.cons_lt_cons_iff, UInt8.lt_iff_toNat_lt,
        ← UInt8.toNat_inj, UInt8.toNat_ofNat']
      generalize isDigit : code / 64 ^ places % 64 = digit at less
      generalize isOther : other / 64 ^ places % 64 = another at less
      rcases Nat.lt_trichotomy digit another with smaller | same | larger
      · left
        omega
      · refine .inr ⟨by rw [same], inductionHypothesis ?_⟩
        rw [same] at less
        omega
      · have above := Nat.mul_le_mul_left (64 ^ places) larger
        rw [Nat.mul_succ] at above
        omega

theorem code_lt
    (letter : Char) :
    letter.toNat < 0x110000 := by
  have valid : letter.toNat < 0xD800 ∨ 0xDFFF < letter.toNat ∧ letter.toNat < 0x110000 :=
    letter.valid
  omega

/-- A character is encoded as its first byte and its last digits. -/
theorem utf8EncodeChar_eq
    (letter : Char) :
    String.utf8EncodeChar letter =
      UInt8.ofNat (leading letter.toNat) ::
        digitBytes (following letter.toNat) letter.toNat := by
  have bound : letter.val.toNat < 0x110000 := code_lt letter
  have sameCode : letter.toNat = letter.val.toNat := rfl
  delta String.utf8EncodeChar
  dsimp only
  rw [sameCode]
  generalize letter.val.toNat = code at bound
  rcases following_cases bound with
    ⟨isSingle, none_follow, _⟩ | ⟨notSingle, isDouble, one_follows, _⟩ |
      ⟨notDouble, isTriple, two_follow, _⟩ | ⟨notTriple, three_follow, _⟩
  · rw [if_pos (by omega)]
    simp [leading, none_follow, leadMark, digitBytes]
  · rw [if_neg (by omega), if_pos (by omega)]
    have narrow : code / 64 % 32 = code / 64 := by omega
    simp [leading, one_follows, leadMark, digitBytes, narrow]
  · rw [if_neg (by omega), if_neg (by omega), if_pos (by omega)]
    have narrow : code / 4096 % 16 = code / 4096 := by omega
    simp [leading, two_follow, leadMark, digitBytes, narrow]
  · rw [if_neg (by omega), if_neg (by omega), if_neg (by omega)]
    have narrow : code / 262144 % 8 = code / 262144 := by omega
    simp [leading, three_follow, leadMark, digitBytes, narrow]

/-- The bytes of the smaller of two characters come first, whatever follows. -/
theorem utf8EncodeChar_append_lt
    {first second : Char}
    (less : first < second)
    (rest others : List UInt8) :
    String.utf8EncodeChar first ++ rest < String.utf8EncodeChar second ++ others := by
  have lessCode : first.toNat < second.toNat := less
  have bound := code_lt second
  rw [utf8EncodeChar_eq, utf8EncodeChar_eq, List.cons_append, List.cons_append,
    List.cons_lt_cons_iff, UInt8.lt_iff_toNat_lt, ← UInt8.toNat_inj, UInt8.toNat_ofNat',
    UInt8.toNat_ofNat']
  have ranges := following_cases (Nat.lt_trans lessCode bound)
  have otherRanges := following_cases bound
  rcases leading_cases lessCode bound with smaller | ⟨same, samePlaces, digits⟩
  · left
    omega
  · refine .inr ⟨by rw [same], ?_⟩
    rw [← samePlaces]
    exact digitBytes_append_lt digits rest others

theorem encode_lt_encode
    {letters others : List Char}
    (less : letters < others) :
    letters.flatMap String.utf8EncodeChar < others.flatMap String.utf8EncodeChar := by
  induction less with
  | nil =>
      rw [List.flatMap_cons, utf8EncodeChar_eq]
      exact List.nil_lt_cons _ _
  | rel smaller =>
      exact utf8EncodeChar_append_lt smaller _ _
  | cons _ inductionHypothesis =>
      exact List.append_left_lt inductionHypothesis

/-- The order of texts is that of their bytes. -/
theorem bytes_lt_bytes_iff
    {text other : String} :
    bytes text < bytes other ↔ text < other := by
  have forward {first second : String} (less : first < second) : bytes first < bytes second := by
    rw [bytes_eq_flatMap, bytes_eq_flatMap]
    exact encode_lt_encode less
  constructor
  · intro less
    by_cases ordered : text < other
    · exact ordered
    · rcases Decidable.em (other < text) with swapped | notSwapped
      · exact absurd (forward swapped) (List.lt_asymm less)
      · have same : text = other :=
          String.le_antisymm (String.not_lt.mp notSwapped) (String.not_lt.mp ordered)
        rw [same] at less
        exact absurd less (List.lt_irrefl _)
  · exact forward

end Blueprint.Text
