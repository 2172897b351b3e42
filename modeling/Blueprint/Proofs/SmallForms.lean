import Blueprint.Naming.Words
import Blueprint.Proofs.CapitalForms

namespace Blueprint

/-!
# Small forms

On the first 128 characters capital and small forms are single characters, and the small form of a
text is that of each of its characters. No small form of a character beyond them ends in a `y`, so
that a text whose small form ends in a `y` ends in one itself, in letters of either case.
-/

/-- A text of the first 128 characters. -/
def IsAscii
    (text : List Char) :
    Prop :=
  ∀ letter ∈ text, letter.toNat < 0x80

instance
    (text : List Char) :
    Decidable (IsAscii text) :=
  List.decidableBAll (fun letter : Char => letter.toNat < 0x80) text

theorem IsAscii.append
    {text rest : List Char}
    (ascii : IsAscii text)
    (restAscii : IsAscii rest) :
    IsAscii (text ++ rest) :=
  List.forall_mem_append.mpr ⟨ascii, restAscii⟩

namespace Letter

/-! Letters of the first characters. -/

/-- Letters are among the first characters, beyond the digits and marks. -/
theorem code_of_isAlpha
    {letter : Char}
    (isAlpha : letter.isAlpha = true) :
    0x40 < letter.toNat ∧ letter.toNat < 0x80 := by
  have isLetter : (letter.isUpper || letter.isLower) = true := isAlpha
  have code : letter.toNat = letter.val.toNat := rfl
  rcases (Bool.or_eq_true _ _).mp isLetter with isUpper | isLower
  · have range : 'A'.val ≤ letter.val ∧ letter.val ≤ 'Z'.val := of_decide_eq_true isUpper
    rw [UInt32.le_iff_toNat_le, UInt32.le_iff_toNat_le] at range
    have first : 'A'.val.toNat = 65 := rfl
    have last : 'Z'.val.toNat = 90 := rfl
    omega
  · obtain ⟨above, below⟩ := (Bool.and_eq_true _ _).mp isLower
    have range : 'a'.val ≤ letter.val ∧ letter.val ≤ 'z'.val :=
      ⟨of_decide_eq_true above, of_decide_eq_true below⟩
    rw [UInt32.le_iff_toNat_le, UInt32.le_iff_toNat_le] at range
    have first : 'a'.val.toNat = 97 := rfl
    have last : 'z'.val.toNat = 122 := rfl
    omega

/-- What holds of the first 128 characters one by one holds of each of them. -/
@[elab_as_elim]
theorem forall_ascii
    {holds : Char → Prop}
    (each : ∀ code < 0x80, holds (Char.ofNat code))
    (letter : Char)
    (isAscii : letter.toNat < 0x80) :
    holds letter := by
  have ofCode := each letter.toNat isAscii
  rwa [Char.ofNat_toNat] at ofCode

variable {letter : Char}

theorem toLower_ascii
    (isAscii : letter.toNat < 0x80) :
    letter.toLower.toNat < 0x80 :=
  forall_ascii (by decide) letter isAscii

theorem toUpper_ascii
    (isAscii : letter.toNat < 0x80) :
    letter.toUpper.toNat < 0x80 :=
  forall_ascii (by decide) letter isAscii

theorem toLower_toLower_of_ascii
    (isAscii : letter.toNat < 0x80) :
    letter.toLower.toLower = letter.toLower :=
  forall_ascii (by decide) letter isAscii

/-- A capital form has the small form of its letter. -/
theorem toLower_toUpper_of_ascii
    (isAscii : letter.toNat < 0x80) :
    letter.toUpper.toLower = letter.toLower :=
  forall_ascii (by decide) letter isAscii

/-- A small form has the capital form of its letter. -/
theorem toUpper_toLower_of_ascii
    (isAscii : letter.toNat < 0x80) :
    letter.toLower.toUpper = letter.toUpper :=
  forall_ascii (by decide) letter isAscii

theorem toUpper_toUpper_of_ascii
    (isAscii : letter.toNat < 0x80) :
    letter.toUpper.toUpper = letter.toUpper :=
  forall_ascii (by decide) letter isAscii

/-- Only capital letters have another small form. -/
theorem toLower_of_not_isUpper_of_ascii
    (isAscii : letter.toNat < 0x80)
    (isSmall : letter.isUpper = false) :
    letter.toLower = letter :=
  forall_ascii (by decide) letter isAscii isSmall

/-- No small form is a capital letter. -/
theorem isUpper_toLower_of_ascii
    (isAscii : letter.toNat < 0x80) :
    letter.toLower.isUpper = false :=
  forall_ascii (by decide) letter isAscii

/-- The capital form of a letter is a capital letter, and of nothing else. -/
theorem isUpper_toUpper_of_ascii
    (isAscii : letter.toNat < 0x80) :
    letter.toUpper.isUpper = letter.isAlpha :=
  forall_ascii (by decide) letter isAscii

theorem upper_of_ascii
    (isAscii : letter.toNat < 0x80) :
    upper letter = [letter.toUpper] :=
  if_pos isAscii

theorem lower_of_ascii
    (isAscii : letter.toNat < 0x80) :
    lower letter = [letter.toLower] :=
  if_pos isAscii

theorem isUpper_of_ascii
    (isAscii : letter.toNat < 0x80) :
    isUpper letter = letter.isUpper :=
  if_pos isAscii

/-- The small form of a text of the first 128 characters is that of each character. -/
theorem lowerText_of_ascii
    {text : List Char}
    (ascii : IsAscii text) :
    lowerText text = text.map Char.toLower := by
  have lowered (before : List Char) :
      lowerFrom before text = text.map Char.toLower := by
    induction text generalizing before with
    | nil =>
        rfl
    | cons letter rest inductionHypothesis =>
        have isAscii := ascii letter (by simp)
        have noSigma : letter ≠ 'Σ' := by
          rintro rfl
          exact absurd isAscii (by decide)
        have later := inductionHypothesis (fun other inRest => ascii other (by simp [inRest]))
          (letter :: before)
        simp [lowerFrom, lower, isAscii, noSigma, later]
  exact lowered []

/-! What becomes a `y`. -/

/-- Only shifts of the first characters lead to a `y`. -/
theorem smallShifts_y :
    ∀ shift ∈ smallShifts, shift.target.holds 0x79 = true → shift.last < 0x80 := by
  decide +kernel

/-- No small form of several characters ends in a y. -/
theorem smallSequences_y : ∀ entry ∈ smallSequences, entry.2.getLast? ≠ some 0x79 := by
  decide +kernel

/-- The code of a y is the only one that gives it. -/
theorem toNat_of_ofNat_eq_y
    {code : Nat}
    (isY : Char.ofNat code = 'y') :
    code = 0x79 := by
  by_cases valid : code.isValidChar
  · rw [Char.ofNat, dif_pos valid] at isY
    exact congrArg Char.toNat isY
  · rw [Char.ofNat, dif_neg valid] at isY
    exact absurd isY (by decide)

/-- A letter beyond the first characters has no small form that ends in a `y`. -/
theorem getLast?_lower_ne_y
    (notAscii : ¬letter.toNat < 0x80) :
    (lower letter).getLast? ≠ some 'y' := by
  intro isY
  rw [lower, if_neg notAscii] at isY
  rcases formIn_cases smallSequences smallShifts letter with
    ⟨shift, code, isShift, onTarget, below, isForm⟩ | ⟨codes, isEntry, isForm⟩ | isForm
  · rw [isForm, List.getLast?_singleton, Option.some.injEq] at isY
    rw [toNat_of_ofNat_eq_y isY] at onTarget
    exact notAscii (Nat.lt_of_le_of_lt below (smallShifts_y shift isShift onTarget))
  · rw [isForm, List.getLast?_map, Option.map_eq_some_iff] at isY
    obtain ⟨code, isLast, isY⟩ := isY
    exact smallSequences_y _ isEntry (toNat_of_ofNat_eq_y isY ▸ isLast)
  · rw [isForm, List.getLast?_singleton, Option.some.injEq] at isY
    exact notAscii (isY ▸ by decide)

/-- A letter whose small form ends in a `y` is one, small or capital. -/
theorem eq_y_of_getLast?_lower
    (isY : (lower letter).getLast? = some 'y') :
    letter = 'y' ∨ letter = 'Y' := by
  by_cases isAscii : letter.toNat < 0x80
  · have each :
        ∀ code < 0x80,
          (Char.ofNat code).toLower = 'y' → Char.ofNat code = 'y' ∨ Char.ofNat code = 'Y' := by
      decide
    rw [lower_of_ascii isAscii, List.getLast?_singleton, Option.some.injEq] at isY
    have ofCode := each letter.toNat isAscii
    rw [Char.ofNat_toNat] at ofCode
    exact ofCode isY
  · exact absurd isY (getLast?_lower_ne_y isAscii)

theorem smallSequences_ne_nil : ∀ entry ∈ smallSequences, entry.2 ≠ [] := by
  decide

theorem lower_ne_nil
    (letter : Char) :
    lower letter ≠ [] := by
  unfold lower
  split
  · simp
  · exact formIn_ne_nil smallSequences_ne_nil _ _

/-- What stands at the end of a text is lowered last. -/
theorem exists_lowerFrom_append
    (before text rest : List Char) :
    ∃ lowered,
      lowerFrom before (text ++ rest) = lowered ++ lowerFrom (text.reverse ++ before) rest := by
  induction text generalizing before with
  | nil =>
      exact ⟨[], rfl⟩
  | cons letter others inductionHypothesis =>
      obtain ⟨lowered, isLowered⟩ := inductionHypothesis (letter :: before)
      rw [List.cons_append, lowerFrom, isLowered, ← List.append_assoc, List.reverse_cons,
        List.append_assoc others.reverse, List.singleton_append]
      exact ⟨_, rfl⟩

/-- A text whose small form ends in a `y` ends in one, small or capital. -/
theorem exists_eq_concat_of_getLast?_lowerText
    {text : List Char}
    (isY : (lowerText text).getLast? = some 'y') :
    ∃ before last, text = before ++ [last] ∧ (last = 'y' ∨ last = 'Y') := by
  rcases List.eq_nil_or_concat text with rfl | ⟨before, last, rfl⟩
  · simp [lowerText, lowerFrom] at isY
  · refine ⟨before, last, List.concat_eq_append, ?_⟩
    obtain ⟨lowered, isLowered⟩ := exists_lowerFrom_append [] before [last]
    rw [lowerText, List.concat_eq_append, isLowered, lowerFrom, lowerFrom, List.append_nil] at isY
    split at isY
    · rw [List.getLast?_concat, Option.some.injEq, lowerSigma] at isY
      split at isY <;> exact absurd isY (by decide)
    · rw [List.getLast?_append, List.getLast?_eq_some_getLast (lower_ne_nil last), Option.some_or,
        ← List.getLast?_eq_some_getLast] at isY
      exact eq_y_of_getLast?_lower isY

end Letter

end Blueprint
