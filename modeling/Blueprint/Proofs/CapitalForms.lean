import Blueprint.Naming.Words

namespace Blueprint

/-!
# Capital forms

The capital form of a letter is not empty and final: each character of it is its own capital form.
Capital letters are their own capital form, and no capital form brings a separator in. All this is
read off the letter case data. Sets of code points are compared as the bits of numbers: the runs on
which capital letters and capital forms lie have no bit in common with those of the code points
that have another capital form.
-/

namespace Letter

/-- The code points on a run, in order. -/
def Run.codes
    (run : Run) :
    List Nat :=
  (List.range ((run.last - run.first) / run.step + 1)).map fun place =>
    run.first + place * run.step

/-- The code points on a run as the bits of a number. -/
def Run.bits
    (run : Run) :
    Nat :=
  run.codes.foldr (fun code bits => 1 <<< code ||| bits) 0

/-- The code points on some of the runs as the bits of a number. -/
def bitsOfRuns
    (runs : List Run) :
    Nat :=
  runs.foldr (fun run bits => run.bits ||| bits) 0

/-- The run of a single code point. -/
def Run.single
    (code : Nat) :
    Run :=
  ⟨code, code, 1⟩

/-- The code points that a shift changes. -/
def Shift.source
    (shift : Shift) :
    Run :=
  ⟨shift.first, shift.last, shift.step⟩

/-- The code points that a shift leads to. -/
def Shift.target
    (shift : Shift) :
    Run :=
  ⟨shift.image, shift.image + (shift.last - shift.first), shift.step⟩

/-- The code points that have another capital form. -/
def smallRuns : List Run :=
  capitalShifts.map Shift.source ++ (capitalSequences.map Prod.fst).map Run.single

/-- The code points of capital forms. -/
def capitalRuns : List Run :=
  capitalShifts.map Shift.target ++ (capitalSequences.flatMap Prod.snd).map Run.single

/-- The code points of separators. -/
def separatorRuns : List Run :=
  [0x5F, 0x2D, 0x20, 0x2E, 0x2F, 0x5C].map Run.single

/-! What the data says. -/

/-- No character with a capital form is a capital letter. -/
theorem uppercaseRuns_apart : bitsOfRuns uppercaseRuns &&& bitsOfRuns smallRuns = 0 := by
  decide +kernel

/-- No capital form is a separator or has another capital form. -/
theorem capitalRuns_apart :
    bitsOfRuns capitalRuns &&& bitsOfRuns (smallRuns ++ separatorRuns) = 0 := by
  decide +kernel

/-- Capital forms are characters: none is a surrogate or too large. -/
theorem capitalRuns_valid :
    ∀ run ∈ capitalRuns, run.last < 0xD800 ∨ 0xE000 ≤ run.first ∧ run.last < 0x110000 := by
  decide +kernel

/-- No character is capitalized to nothing. -/
theorem capitalSequences_ne_nil : ∀ entry ∈ capitalSequences, entry.2 ≠ [] := by
  decide +kernel

/-! What the bits of runs say of the code points on them. -/

/-- A run holds the codes from its first to its last at equal steps. -/
theorem Run.holds_iff
    {run : Run}
    {code : Nat} :
    run.holds code = true ↔
      run.first ≤ code ∧ code ≤ run.last ∧ (code - run.first) % run.step = 0 := by
  simp [Run.holds, and_assoc]

theorem Run.holds_single_iff
    {asked code : Nat} :
    (Run.single asked).holds code = true ↔ code = asked := by
  rw [Run.holds_iff]
  simp only [Run.single]
  omega

/-- A code that a run holds is one of the listed ones. -/
theorem Run.mem_codes_of_holds
    {run : Run}
    {code : Nat}
    (holds : run.holds code = true) :
    code ∈ run.codes := by
  obtain ⟨above, below, onStep⟩ := Run.holds_iff.mp holds
  have place : (code - run.first) / run.step * run.step = code - run.first :=
    Nat.div_mul_cancel (Nat.dvd_of_mod_eq_zero onStep)
  have inside : (code - run.first) / run.step ≤ (run.last - run.first) / run.step :=
    Nat.div_le_div_right (by omega)
  exact List.mem_map.mpr ⟨_, List.mem_range.mpr (Nat.lt_succ_of_le inside), by omega⟩

/-- The bit of every listed code is set. -/
theorem testBit_foldr_of_mem
    {codes : List Nat}
    {code : Nat}
    (member : code ∈ codes) :
    (codes.foldr (fun code bits => 1 <<< code ||| bits) 0).testBit code = true := by
  induction codes with
  | nil =>
      simp at member
  | cons first rest inductionHypothesis =>
      rw [List.foldr_cons, Nat.testBit_or, Bool.or_eq_true]
      rcases List.mem_cons.mp member with rfl | inRest
      · exact .inl (by simp [Nat.one_shiftLeft])
      · exact .inr (inductionHypothesis inRest)

/-- The bit of every code that a run holds is set. -/
theorem testBit_bitsOfRuns_of_mem
    {runs : List Run}
    {run : Run}
    {code : Nat}
    (member : run ∈ runs)
    (holds : run.holds code = true) :
    (bitsOfRuns runs).testBit code = true := by
  induction runs with
  | nil =>
      simp at member
  | cons first rest inductionHypothesis =>
      rw [bitsOfRuns, List.foldr_cons, Nat.testBit_or, Bool.or_eq_true]
      rcases List.mem_cons.mp member with rfl | inRest
      · exact .inl (testBit_foldr_of_mem (Run.mem_codes_of_holds holds))
      · exact .inr (inductionHypothesis inRest)

/-- Runs without a common bit have no code point in common. -/
theorem holds_eq_false_of_apart
    {runs others : List Run}
    (apart : bitsOfRuns runs &&& bitsOfRuns others = 0)
    {run other : Run}
    {code : Nat}
    (member : run ∈ runs)
    (holds : run.holds code = true)
    (otherMember : other ∈ others) :
    other.holds code = false := by
  rw [Bool.eq_false_iff]
  intro common
  have both : (bitsOfRuns runs &&& bitsOfRuns others).testBit code = true := by
    rw [Nat.testBit_and, testBit_bitsOfRuns_of_mem member holds,
      testBit_bitsOfRuns_of_mem otherMember common]
    rfl
  simp [apart] at both

/-! What capital forms are made of. -/

/-- A shift moves the codes of its source, all by the same distance. -/
theorem Shift.apply?_eq_some_iff
    {shift : Shift}
    {code image : Nat} :
    shift.apply? code = some image ↔
      shift.source.holds code = true ∧ shift.image + (code - shift.first) = image := by
  simp only [Shift.source, Shift.apply?, Option.ite_none_right_eq_some, Option.some.injEq]

/-- A shift leads into the run of its images. -/
theorem Shift.holds_target
    {shift : Shift}
    {code : Nat}
    (holds : shift.source.holds code = true) :
    shift.target.holds (shift.image + (code - shift.first)) = true := by
  obtain ⟨above, below, onStep⟩ := Run.holds_iff.mp holds
  simp only [Shift.source] at above below onStep
  rw [Run.holds_iff]
  refine ⟨?_, ?_, ?_⟩
  · simp [Shift.target]
  · simp only [Shift.target]
    omega
  · simpa [Shift.target] using onStep

theorem mem_of_lookup
    {α β : Type}
    [BEq α]
    [LawfulBEq α]
    {entries : List (α × β)}
    {key : α}
    {value : β}
    (found : entries.lookup key = some value) :
    (key, value) ∈ entries := by
  obtain ⟨before, after, rfl, _⟩ := List.lookup_eq_some_iff.mp found
  simp

/-- A character has the form that a shift leads to, or the one that is listed, or is its own. -/
theorem formIn_cases
    (sequences : List (Nat × List Nat))
    (shifts : List Shift)
    (letter : Char) :
    (∃ shift code,
        shift ∈ shifts ∧
          shift.target.holds code = true ∧
          letter.toNat ≤ shift.last ∧
          formIn sequences shifts letter = [Char.ofNat code]) ∨
      (∃ codes,
        (letter.toNat, codes) ∈ sequences ∧
          formIn sequences shifts letter = codes.map Char.ofNat) ∨
      formIn sequences shifts letter = [letter] := by
  unfold formIn
  split
  · next code shifted =>
    obtain ⟨shift, isShift, applied⟩ := List.exists_of_findSome?_eq_some shifted
    obtain ⟨holds, rfl⟩ := Shift.apply?_eq_some_iff.mp applied
    have below := (Run.holds_iff.mp holds).2.1
    exact .inl ⟨shift, _, isShift, Shift.holds_target holds, below, rfl⟩
  · split
    · next codes found =>
      exact .inr (.inl ⟨codes, mem_of_lookup found, rfl⟩)
    · exact .inr (.inr rfl)

/-- The small letters among the first code points are on a run of small letters. -/
theorem asciiSmall_mem : (⟨0x61, 0x7A, 1⟩ : Run) ∈ smallRuns := by
  decide +kernel

theorem asciiCapital_mem : (⟨0x41, 0x5A, 1⟩ : Run) ∈ capitalRuns := by
  decide +kernel

theorem source_mem_smallRuns
    {shift : Shift}
    (member : shift ∈ capitalShifts) :
    shift.source ∈ smallRuns :=
  List.mem_append_left _ (List.mem_map_of_mem member)

theorem single_mem_smallRuns
    {entry : Nat × List Nat}
    (member : entry ∈ capitalSequences) :
    Run.single entry.1 ∈ smallRuns :=
  List.mem_append_right _ (List.mem_map_of_mem (List.mem_map_of_mem member))

/-- Only the small letters from a to z have another capital form there. -/
theorem toUpper_eq_self
    {letter : Char}
    (notSmall : ¬(0x61 ≤ letter.toNat ∧ letter.toNat ≤ 0x7A)) :
    letter.toUpper = letter := by
  have notLower : ¬('a'.val ≤ letter.val ∧ letter.val ≤ 'z'.val) := by
    rw [UInt32.le_iff_toNat_le, UInt32.le_iff_toNat_le]
    exact notSmall
  exact dif_neg notLower

/-- The letters from a to z are as far from their capitals as all others. -/
theorem toNat_toUpper
    {letter : Char}
    (small : 0x61 ≤ letter.toNat ∧ letter.toNat ≤ 0x7A) :
    letter.toUpper.toNat = letter.toNat - 0x20 := by
  have isLower : 'a'.val ≤ letter.val ∧ letter.val ≤ 'z'.val := by
    rw [UInt32.le_iff_toNat_le, UInt32.le_iff_toNat_le]
    exact small
  have distance : ('A'.val - 'a'.val).toNat = 2 ^ 32 - 0x20 := rfl
  delta Char.toUpper
  rw [dif_pos isLower]
  simp only [Char.toNat] at small ⊢
  rw [UInt32.toNat_add, distance]
  omega

/-- What is on no run of small letters is its own capital form. -/
theorem upper_eq_self
    {letter : Char}
    (notSmall : ∀ run ∈ smallRuns, run.holds letter.toNat = false) :
    upper letter = [letter] := by
  unfold upper
  split
  · have outside := notSmall _ asciiSmall_mem
    rw [Bool.eq_false_iff, ne_eq, Run.holds_iff] at outside
    rw [toUpper_eq_self fun small => outside ⟨small.1, small.2, Nat.mod_one _⟩]
  · have unshifted : capitalShifts.findSome? (fun shift => shift.apply? letter.toNat) = none := by
      rw [List.findSome?_eq_none_iff]
      intro shift member
      have outside : ¬shift.source.holds letter.toNat = true := by
        simp [notSmall _ (source_mem_smallRuns member)]
      exact if_neg outside
    have single : capitalSequences.lookup letter.toNat = none := by
      rw [List.lookup_eq_none_iff]
      intro entry member
      rw [bne_iff_ne]
      intro same
      have outside := notSmall _ (single_mem_smallRuns member)
      rw [Bool.eq_false_iff, ne_eq, Run.holds_single_iff] at outside
      exact outside same
    simp only [formIn, unshifted, single]

/-- Every capital form is a character, so its code is kept. -/
theorem toNat_ofNat_of_capital
    {run : Run}
    {code : Nat}
    (member : run ∈ capitalRuns)
    (holds : run.holds code = true) :
    (Char.ofNat code).toNat = code := by
  obtain ⟨above, below, _⟩ := Run.holds_iff.mp holds
  have valid : code.isValidChar := by
    rcases capitalRuns_valid run member with low | ⟨high, bounded⟩
    · exact .inl (by omega)
    · exact .inr ⟨by omega, by omega⟩
  rw [Char.ofNat, dif_pos valid]
  rfl

/-- A character of a capital form is the letter itself, or it is on a run of capital forms. -/
theorem mem_upper_cases
    {letter form : Char}
    (member : form ∈ upper letter) :
    upper letter = [letter] ∧ form = letter ∨
      ∃ run ∈ capitalRuns, run.holds form.toNat = true := by
  unfold upper at member ⊢
  split at member
  · next isAscii =>
    rw [if_pos isAscii]
    rw [List.mem_singleton] at member
    by_cases small : 0x61 ≤ letter.toNat ∧ letter.toNat ≤ 0x7A
    · refine .inr ⟨_, asciiCapital_mem, ?_⟩
      rw [Run.holds_iff, member, toNat_toUpper small]
      dsimp only
      exact ⟨by omega, by omega, Nat.mod_one _⟩
    · rw [toUpper_eq_self small] at member ⊢
      exact .inl ⟨rfl, member⟩
  · next notAscii =>
    rw [if_neg notAscii]
    rcases formIn_cases capitalSequences capitalShifts letter with
      ⟨shift, code, isShift, onTarget, _, isForm⟩ | ⟨codes, isEntry, isForm⟩ | isForm
    · rw [isForm, List.mem_singleton] at member
      have isCapital : shift.target ∈ capitalRuns :=
        List.mem_append_left _ (List.mem_map_of_mem isShift)
      refine .inr ⟨_, isCapital, ?_⟩
      rwa [member, toNat_ofNat_of_capital isCapital onTarget]
    · rw [isForm] at member
      obtain ⟨code, isCode, rfl⟩ := List.mem_map.mp member
      have inForms : code ∈ capitalSequences.flatMap Prod.snd :=
        List.mem_flatMap.mpr ⟨_, isEntry, isCode⟩
      have isCapital : Run.single code ∈ capitalRuns :=
        List.mem_append_right _ (List.mem_map_of_mem inForms)
      have onSingle : (Run.single code).holds code = true := Run.holds_single_iff.mpr rfl
      refine .inr ⟨_, isCapital, ?_⟩
      rwa [toNat_ofNat_of_capital isCapital onSingle]
    · rw [isForm] at member
      exact .inl ⟨isForm, List.mem_singleton.mp member⟩

/-- A character has some form, if only itself. -/
theorem formIn_ne_nil
    {sequences : List (Nat × List Nat)}
    (nonempty : ∀ entry ∈ sequences, entry.2 ≠ [])
    (shifts : List Shift)
    (letter : Char) :
    formIn sequences shifts letter ≠ [] := by
  rcases formIn_cases sequences shifts letter with
    ⟨_, _, _, _, _, isForm⟩ | ⟨codes, isEntry, isForm⟩ | isForm
  · simp [isForm]
  · simpa [isForm] using nonempty _ isEntry
  · simp [isForm]

theorem upper_ne_nil
    (letter : Char) :
    upper letter ≠ [] := by
  unfold upper
  split
  · simp
  · exact formIn_ne_nil capitalSequences_ne_nil _ _

/-- Every character of a capital form is its own capital form. -/
theorem upper_of_mem_upper
    {letter form : Char}
    (member : form ∈ upper letter) :
    upper form = [form] := by
  rcases mem_upper_cases member with ⟨isOwn, rfl⟩ | ⟨run, isCapital, holds⟩
  · exact isOwn
  · exact upper_eq_self fun other isSmall =>
      holds_eq_false_of_apart capitalRuns_apart isCapital holds (List.mem_append_left _ isSmall)

/-- Capital letters are their own capital form. -/
theorem upper_of_isUpper
    {letter : Char}
    (isCapital : isUpper letter = true) :
    upper letter = [letter] := by
  apply upper_eq_self
  intro run isSmall
  unfold isUpper at isCapital
  split at isCapital
  · have onCapitals : (⟨0x41, 0x5A, 1⟩ : Run).holds letter.toNat = true := by
      rw [Run.holds_iff]
      have ⟨above, below⟩ : 'A'.val ≤ letter.val ∧ letter.val ≤ 'Z'.val :=
        of_decide_eq_true isCapital
      exact ⟨above, below, Nat.mod_one _⟩
    exact holds_eq_false_of_apart capitalRuns_apart asciiCapital_mem onCapitals
      (List.mem_append_left _ isSmall)
  · obtain ⟨other, member, holds⟩ := List.any_eq_true.mp isCapital
    exact holds_eq_false_of_apart uppercaseRuns_apart member holds isSmall

end Letter

namespace Naming

open Letter

/-- No capital form brings a separator in. -/
theorem isSeparator_of_mem_upper
    {letter form : Char}
    (notSeparator : isSeparator letter = false)
    (member : form ∈ upper letter) :
    isSeparator form = false := by
  rcases mem_upper_cases member with ⟨_, rfl⟩ | ⟨run, isCapital, holds⟩
  · exact notSeparator
  · rw [Bool.eq_false_iff]
    intro isMark
    have onMark : ∃ mark ∈ separatorRuns, mark.holds form.toNat = true := by
      simp only [isSeparator, Bool.or_eq_true, beq_iff_eq] at isMark
      rcases isMark with ((((rfl | rfl) | rfl) | rfl) | rfl) | rfl <;> decide
    obtain ⟨mark, isRun, onRun⟩ := onMark
    have outside := holds_eq_false_of_apart capitalRuns_apart isCapital holds
      (List.mem_append_right _ isRun)
    simp [outside] at onRun

end Naming

end Blueprint
