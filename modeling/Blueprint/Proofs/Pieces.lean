import Mathlib.Data.List.DropRight
import Blueprint.Text.Blank

namespace Blueprint.Text

/-!
# Words in a text

A word is a run of characters without blanks, a gap a run of nothing else. The pieces of a text are
the words that stand in it with gaps around them, and no others: the text may be put together of
its words and gaps again. A trimmed text has no gap at either end, and is what trimming leaves of it
between any two gaps.
-/

/-- A run of blanks, perhaps an empty one. -/
def IsGap
    (text : List Char) :
    Prop :=
  ∀ letter ∈ text, isBlank letter = true

instance
    (text : List Char) :
    Decidable (IsGap text) :=
  decidable_of_iff (text.all isBlank = true) List.all_eq_true

/-- A run of characters that are no blanks. -/
structure IsWord
    (text : List Char) :
    Prop where
  ne_nil : text ≠ []
  unbroken : ∀ letter ∈ text, isBlank letter = false

instance
    (text : List Char) :
    Decidable (IsWord text) :=
  decidable_of_iff (text ≠ [] ∧ text.all (!isBlank ·) = true) <| by
    constructor
    · rintro ⟨ne_nil, unbroken⟩
      exact ⟨ne_nil, by simpa using unbroken⟩
    · rintro ⟨ne_nil, unbroken⟩
      exact ⟨ne_nil, by simpa using unbroken⟩

/-- A text that neither begins nor ends with a blank. -/
structure IsTrimmed
    (text : List Char) :
    Prop where
  head : ∀ letter ∈ text.head?, isBlank letter = false
  last : ∀ letter ∈ text.getLast?, isBlank letter = false

/-- Words stand in a text in order, with a gap between any two of them and perhaps at its ends. -/
inductive Spaced :
    List (List Char) →
    List Char →
    Prop where
  | nil
      {gap : List Char}
      (isGap : IsGap gap) :
      Spaced [] gap
  | cons
      {gap word rest : List Char}
      {words : List (List Char)}
      (isGap : IsGap gap)
      (isWord : IsWord word)
      (apart : ∀ letter ∈ rest.head?, isBlank letter = true)
      (spaced : Spaced words rest) :
      Spaced (word :: words) (gap ++ (word ++ rest))

theorem IsGap.head_eq
    {text : List Char}
    (isGap : IsGap text) :
    ∀ letter ∈ text.head?, isBlank letter = true :=
  fun letter isHead => isGap letter (List.mem_of_mem_head? isHead)

/-- A gap that a text begins with is empty if the text does not begin with a blank. -/
theorem IsGap.eq_nil_of_head
    {gap rest : List Char}
    (isGap : IsGap gap)
    (unbroken : ∀ letter ∈ (gap ++ rest).head?, isBlank letter = false) :
    gap = [] := by
  cases gap with
  | nil =>
      rfl
  | cons letter others =>
      have blank := isGap letter (by simp)
      have notBlank := unbroken letter (by simp)
      simp [blank] at notBlank

/-- A gap that a text ends with is empty if the text does not end with a blank. -/
theorem IsGap.eq_nil_of_last
    {gap before : List Char}
    (isGap : IsGap gap)
    (unbroken : ∀ letter ∈ (before ++ gap).getLast?, isBlank letter = false) :
    gap = [] := by
  rcases List.eq_nil_or_concat gap with rfl | ⟨others, letter, rfl⟩
  · rfl
  · have blank := isGap letter (by simp)
    have notBlank := unbroken letter (by simp)
    simp [blank] at notBlank

theorem IsWord.isTrimmed
    {word : List Char}
    (isWord : IsWord word) :
    IsTrimmed word where
  head letter isHead := isWord.unbroken letter (List.mem_of_mem_head? isHead)
  last letter isLast := isWord.unbroken letter (List.mem_of_mem_getLast? isLast)

/-! Parts between separators. -/

/-- Cutting a text is splitting it at its separators. -/
theorem cut_eq_splitOnP
    (isSeparator : Char → Bool)
    (text : List Char) :
    cut isSeparator text = text.splitOnP isSeparator := by
  induction text with
  | nil =>
      rfl
  | cons letter rest inductionHypothesis =>
      rw [List.splitOnP_cons_eq_if_modifyHead, cut, inductionHypothesis]
      by_cases separates : isSeparator letter = true
      · simp [separates]
      · simp only [separates, Bool.false_eq_true, ↓reduceIte]
        cases parts : rest.splitOnP isSeparator with
        | nil =>
            exact absurd parts (List.splitOnP_ne_nil _ _)
        | cons first others =>
            rfl

/-- A part is made of characters of the text. -/
theorem mem_of_mem_cut
    {isSeparator : Char → Bool}
    {text part : List Char}
    (member : part ∈ cut isSeparator text)
    {letter : Char}
    (inPart : letter ∈ part) :
    letter ∈ text := by
  induction text generalizing part with
  | nil =>
      rw [cut, List.mem_singleton] at member
      exact member ▸ inPart
  | cons first rest inductionHypothesis =>
      rw [cut_eq_splitOnP, List.splitOnP_cons_eq_if_modifyHead, ← cut_eq_splitOnP] at member
      by_cases separates : isSeparator first = true
      · rw [if_pos separates] at member
        rcases List.mem_cons.mp member with rfl | inRest
        · simp at inPart
        · exact List.mem_cons_of_mem first (inductionHypothesis inRest inPart)
      · rw [if_neg separates] at member
        cases parts : cut isSeparator rest with
        | nil =>
            simp [parts] at member
        | cons head others =>
            rw [parts, List.modifyHead_cons] at member
            rcases List.mem_cons.mp member with rfl | isOther
            · rcases List.mem_cons.mp inPart with rfl | inHead
              · exact List.mem_cons_self
              · exact List.mem_cons_of_mem first (inductionHypothesis (by simp [parts]) inHead)
            · exact List.mem_cons_of_mem first
                (inductionHypothesis (by simp [parts, isOther]) inPart)

theorem isSeparator_of_mem_cut
    {isSeparator : Char → Bool}
    {text part : List Char}
    (member : part ∈ cut isSeparator text) :
    ∀ letter ∈ part, isSeparator letter = false := by
  induction text generalizing part with
  | nil =>
      simp only [cut, List.mem_singleton] at member
      simp [member]
  | cons letter rest inductionHypothesis =>
      by_cases separates : isSeparator letter = true
      · simp only [cut, separates, ↓reduceIte, List.mem_cons] at member
        rcases member with isEmpty | inRest
        · simp [isEmpty]
        · exact inductionHypothesis inRest
      · cases parts : cut isSeparator rest with
        | nil =>
            simp only [cut, separates, Bool.false_eq_true, ↓reduceIte, parts,
              List.mem_singleton] at member
            simp [member, separates]
        | cons first others =>
            simp only [cut, separates, Bool.false_eq_true, ↓reduceIte, parts,
              List.mem_cons] at member
            rcases member with isFirst | isOther
            · subst isFirst
              intro asked isAsked
              rcases List.mem_cons.mp isAsked with isLetter | inFirst
              · simp [isLetter, separates]
              · exact inductionHypothesis (by simp [parts]) asked inFirst
            · exact inductionHypothesis (by simp [parts, isOther])

/-- All parts are empty exactly when a text holds nothing but separators. -/
theorem forall_mem_cut_eq_nil_iff
    {isSeparator : Char → Bool}
    {text : List Char} :
    (∀ part ∈ cut isSeparator text, part = []) ↔ text.all isSeparator = true := by
  induction text with
  | nil =>
      simp [cut]
  | cons letter rest inductionHypothesis =>
      by_cases separates : isSeparator letter = true
      · simpa [cut, separates] using inductionHypothesis
      · cases parts : cut isSeparator rest <;> simp [cut, separates, parts]

theorem cutFirst?_eq_some_iff
    {separator : Char}
    {text before after : List Char} :
    cutFirst? separator text = some (before, after) ↔
      text = before ++ separator :: after ∧ separator ∉ before := by
  induction text generalizing before with
  | nil =>
      simp [cutFirst?]
  | cons letter rest inductionHypothesis =>
      by_cases isFirst : letter = separator
      · subst isFirst
        cases before with
        | nil =>
            simp [cutFirst?]
        | cons first others =>
            simp only [cutFirst?, ↓reduceIte, Option.some.injEq, Prod.mk.injEq, reduceCtorEq,
              false_and, List.cons_append, List.cons.injEq, List.mem_cons, not_or, false_iff]
            rintro ⟨⟨isLetter, _⟩, different, _⟩
            exact different isLetter
      · cases before with
        | nil =>
            simp [cutFirst?, isFirst]
        | cons first others =>
            simp only [cutFirst?, isFirst, ↓reduceIte, Option.map_eq_some_iff, Prod.exists,
              Prod.mk.injEq, List.cons.injEq, List.cons_append, List.mem_cons, not_or]
            constructor
            · rintro ⟨_, _, found, ⟨rfl, rfl⟩, rfl⟩
              obtain ⟨rfl, absent⟩ := inductionHypothesis.mp found
              exact ⟨⟨rfl, rfl⟩, fun same => isFirst same.symm, absent⟩
            · rintro ⟨⟨rfl, isRest⟩, _, absent⟩
              exact ⟨others, after, inductionHypothesis.mpr ⟨isRest, absent⟩, ⟨rfl, rfl⟩, rfl⟩

theorem cutFirst?_eq_none_iff
    {separator : Char}
    {text : List Char} :
    cutFirst? separator text = none ↔ separator ∉ text := by
  induction text with
  | nil =>
      simp [cutFirst?]
  | cons letter rest inductionHypothesis =>
      by_cases isFirst : letter = separator
      · simp [cutFirst?, isFirst]
      · have different : ¬separator = letter := fun same => isFirst same.symm
        simp [cutFirst?, isFirst, different, inductionHypothesis]

/-! The pieces of a text. -/

theorem pieces_cons_of_isBlank
    {letter : Char}
    (blank : isBlank letter = true)
    (rest : List Char) :
    pieces (letter :: rest) = pieces rest := by
  simp [pieces, cut, blank]

theorem pieces_append_of_isGap
    {gap : List Char}
    (isGap : IsGap gap)
    (rest : List Char) :
    pieces (gap ++ rest) = pieces rest := by
  induction gap with
  | nil =>
      rfl
  | cons letter others inductionHypothesis =>
      rw [List.cons_append, pieces_cons_of_isBlank (isGap letter (by simp))]
      exact inductionHypothesis fun other inOthers => isGap other (by simp [inOthers])

/-- A word is a piece of every text that begins with it and does not go on with it. -/
theorem pieces_append_of_isWord
    {word rest : List Char}
    (isWord : IsWord word)
    (apart : ∀ letter ∈ rest.head?, isBlank letter = true) :
    pieces (word ++ rest) = word :: pieces rest := by
  have kept : word.isEmpty = false := by
    simpa using isWord.ne_nil
  cases rest with
  | nil =>
      simp [pieces, cut_eq_splitOnP, List.splitOnP_eq_singleton isWord.unbroken, kept]
  | cons letter others =>
      have blank := apart letter (by simp)
      rw [pieces_cons_of_isBlank blank]
      simp [pieces, cut_eq_splitOnP,
        List.splitOnP_append_cons_of_forall_mem isWord.unbroken letter blank, kept]

theorem pieces_of_isWord
    {word : List Char}
    (isWord : IsWord word) :
    pieces word = [word] := by
  simpa [pieces, cut] using @pieces_append_of_isWord word [] isWord (by simp)

theorem pieces_of_spaced
    {words : List (List Char)}
    {text : List Char}
    (spaced : Spaced words text) :
    pieces text = words := by
  induction spaced with
  | @nil gap isGap =>
      simpa [pieces, cut] using pieces_append_of_isGap isGap []
  | cons isGap isWord apart _ inductionHypothesis =>
      rw [pieces_append_of_isGap isGap, pieces_append_of_isWord isWord apart, inductionHypothesis]

/-- A blank before a text widens the first gap. -/
theorem Spaced.cons_blank
    {words : List (List Char)}
    {text : List Char}
    (spaced : Spaced words text)
    {letter : Char}
    (blank : isBlank letter = true) :
    Spaced words (letter :: text) := by
  have widened {gap : List Char} (isGap : IsGap gap) : IsGap (letter :: gap) :=
    List.forall_mem_cons.mpr ⟨blank, isGap⟩
  cases spaced with
  | nil isGap =>
      exact .nil (widened isGap)
  | cons isGap isWord apart later =>
      exact .cons (widened isGap) isWord apart later

/-- In every text there stand words. -/
theorem exists_spaced
    (text : List Char) :
    ∃ words, Spaced words text := by
  induction text with
  | nil =>
      exact ⟨[], .nil (by simp [IsGap])⟩
  | cons letter rest inductionHypothesis =>
      obtain ⟨words, spaced⟩ := inductionHypothesis
      by_cases blank : isBlank letter = true
      · exact ⟨words, spaced.cons_blank blank⟩
      · -- The character is a word by itself unless the text goes on with one.
        have notBlank : isBlank letter = false := by simpa using blank
        have noGap : IsGap [] := by simp [IsGap]
        have single : IsWord [letter] := ⟨by simp, by simpa using notBlank⟩
        cases spaced with
        | nil isGap =>
            exact ⟨[[letter]], .cons noGap single isGap.head_eq (.nil isGap)⟩
        | @cons gap word later words isGap isWord apart spaced =>
            cases gap with
            | nil =>
                have longer : IsWord (letter :: word) :=
                  ⟨by simp, List.forall_mem_cons.mpr ⟨notBlank, isWord.unbroken⟩⟩
                exact ⟨_, .cons noGap longer apart spaced⟩
            | cons first others =>
                have between : ∀ letter ∈ ((first :: others) ++ (word ++ later)).head?,
                    isBlank letter = true := by
                  simpa using isGap first (by simp)
                exact ⟨_, .cons noGap single between (.cons isGap isWord apart spaced)⟩

/-- The pieces of a text are the words that stand in it. -/
theorem pieces_eq_iff
    {words : List (List Char)}
    {text : List Char} :
    pieces text = words ↔ Spaced words text := by
  constructor
  · rintro rfl
    obtain ⟨words, spaced⟩ := exists_spaced text
    exact (pieces_of_spaced spaced).symm ▸ spaced
  · exact pieces_of_spaced

/-- The pieces of a text are words. -/
theorem isWord_of_mem_piecesOf
    {text word : String}
    (member : word ∈ piecesOf text) :
    IsWord word.toList := by
  obtain ⟨letters, isPiece, rfl⟩ := List.mem_map.mp member
  obtain ⟨inCut, notEmpty⟩ := List.mem_filter.mp isPiece
  rw [String.toList_ofList]
  exact ⟨by simpa using notEmpty, isSeparator_of_mem_cut inCut⟩

/-- The pieces of words with spaces between them are the words. -/
theorem piecesOf_intercalate
    {words : List String}
    (areWords : ∀ word ∈ words, IsWord word.toList) :
    piecesOf (" ".intercalate words) = words := by
  have pieces_eq :
      pieces ([' '].intercalate (words.map String.toList)) = words.map String.toList := by
    induction words with
    | nil =>
        rfl
    | cons word others inductionHypothesis =>
        obtain ⟨isWord, othersAreWords⟩ := List.forall_mem_cons.mp areWords
        cases others with
        | nil =>
            simpa using pieces_of_isWord isWord
        | cons next later =>
            simp only [List.map_cons] at inductionHypothesis ⊢
            rw [List.intercalate_cons_cons, List.append_assoc,
              pieces_append_of_isWord isWord (by simp [isBlank]), List.singleton_append,
              pieces_cons_of_isBlank (by decide), inductionHypothesis othersAreWords]
  rw [piecesOf, String.toList_intercalate]
  simp [pieces_eq]

/-! Trimmed texts. -/

/-- A trimmed text with one piece is that piece. -/
theorem eq_of_pieces_eq_singleton
    {text word : List Char}
    (isTrimmed : IsTrimmed text)
    (isOnly : pieces text = [word]) :
    text = word ∧ IsWord word := by
  cases pieces_eq_iff.mp isOnly with
  | cons isGap isWord _ spaced =>
      cases isGap.eq_nil_of_head isTrimmed.head
      cases spaced with
      | nil afterIsGap =>
          cases afterIsGap.eq_nil_of_last isTrimmed.last
          exact ⟨by simp, isWord⟩

/-- A trimmed text with two pieces is these with a gap between them. -/
theorem exists_gap_of_pieces_eq_pair
    {text first second : List Char}
    (isTrimmed : IsTrimmed text)
    (areBoth : pieces text = [first, second]) :
    ∃ gap,
      text = first ++ (gap ++ second) ∧
        gap ≠ [] ∧ IsGap gap ∧ IsWord first ∧ IsWord second := by
  cases pieces_eq_iff.mp areBoth with
  | cons isGap isFirst apart spaced =>
      cases isGap.eq_nil_of_head isTrimmed.head
      cases spaced with
      | @cons gap _ _ _ between isSecond _ last =>
          cases last with
          | nil afterIsGap =>
              have endsUnbroken := isTrimmed.last
              simp only [List.nil_append, ← List.append_assoc] at endsUnbroken
              cases afterIsGap.eq_nil_of_last endsUnbroken
              refine ⟨gap, by simp, ?_, between, isFirst, isSecond⟩
              rintro rfl
              obtain ⟨letter, others, rfl⟩ := List.exists_cons_of_ne_nil isSecond.ne_nil
              have blank := apart letter (by simp)
              simp [isSecond.unbroken letter (by simp)] at blank

theorem dropWhile_append_of_isGap
    {gap : List Char}
    (isGap : IsGap gap)
    {rest : List Char}
    (unbroken : ∀ letter ∈ rest.head?, isBlank letter = false) :
    (gap ++ rest).dropWhile isBlank = rest := by
  rw [List.dropWhile_append_of_pos isGap]
  cases rest with
  | nil =>
      rfl
  | cons letter others =>
      simp [unbroken letter (by simp)]

/-- Gaps around a trimmed text are trimmed away. -/
theorem trimBoth_of_isTrimmed
    {before text after : List Char}
    (isGap : IsGap before)
    (isTrimmed : IsTrimmed text)
    (afterIsGap : IsGap after) :
    trimBoth isBlank (before ++ (text ++ after)) = text := by
  have reversedGap : IsGap after.reverse :=
    fun letter member => afterIsGap letter (List.mem_reverse.mp member)
  have reversedHead : ∀ letter ∈ text.reverse.head?, isBlank letter = false := by
    simpa using isTrimmed.last
  cases text with
  | nil =>
      have allBlank : IsGap (before ++ after) := List.forall_mem_append.mpr ⟨isGap, afterIsGap⟩
      have nothing : (before ++ after).dropWhile isBlank = [] :=
        List.dropWhile_eq_nil_iff.mpr allBlank
      simp [trimBoth, trimEnd, nothing]
  | cons letter rest =>
      have startsUnbroken : ∀ other ∈ (letter :: rest ++ after).head?, isBlank other = false := by
        simpa using isTrimmed.head
      rw [trimBoth, dropWhile_append_of_isGap isGap startsUnbroken, trimEnd, List.reverse_append,
        dropWhile_append_of_isGap reversedGap reversedHead, List.reverse_reverse]

/-- Trimming leaves a trimmed text. -/
theorem isTrimmed_trimBoth
    (text : List Char) :
    IsTrimmed (trimBoth isBlank text) where
  head letter isHead := by
    have startsUnbroken := List.head?_dropWhile_not isBlank text
    -- What is left at the end is an initial part of what is left at the start.
    have initial : trimBoth isBlank text <+: text.dropWhile isBlank :=
      List.rdropWhile_prefix isBlank _
    obtain ⟨later, split⟩ := initial
    rw [Option.mem_def] at isHead
    simpa [← split, List.head?_append, isHead] using startsUnbroken
  last letter isLast := by
    rw [Option.mem_def] at isLast
    obtain ⟨notEmpty, rfl⟩ := List.mem_getLast?_eq_getLast isLast
    exact Bool.eq_false_iff.mpr
      (List.rdropWhile_last_not isBlank (text.dropWhile isBlank) notEmpty)

end Blueprint.Text
