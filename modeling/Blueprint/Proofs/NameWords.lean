import Blueprint.Naming.Words

namespace Blueprint

/-!
# Words of a name

A word of a name starts with any character but a separator and goes on without separators and
capital letters. In a text without separators every word but the first starts with a capital letter,
and nothing is lost between the words. Conversely what is put together of such words comes apart
into the same words: with a separator between any two of them in every case, and with nothing
between them if every word but the first starts with a capital letter.
-/

namespace Naming

open Letter

/-- A character that may stand in a word after the first. -/
def IsInner
    (letter : Char) :
    Prop :=
  isSeparator letter = false ∧ isUpper letter = false

instance
    (letter : Char) :
    Decidable (IsInner letter) :=
  inferInstanceAs (Decidable (_ ∧ _))

/-- A word of a name. -/
inductive IsNameWord :
    List Char →
    Prop
  | cons
      (head : Char)
      (tail : List Char)
      (headWhole : isSeparator head = false)
      (tailInner : ∀ letter ∈ tail, IsInner letter) :
      IsNameWord (head :: tail)

/-- A word starts with no separator and goes on with inner letters. -/
theorem isNameWord_cons_iff
    {head : Char}
    {tail : List Char} :
    IsNameWord (head :: tail) ↔ isSeparator head = false ∧ ∀ letter ∈ tail, IsInner letter := by
  constructor
  · rintro ⟨_, _, headWhole, tailInner⟩
    exact ⟨headWhole, tailInner⟩
  · rintro ⟨headWhole, tailInner⟩
    exact .cons head tail headWhole tailInner

instance : DecidablePred IsNameWord
  | [] => .isFalse nofun
  | _ :: tail =>
      have := List.decidableBAll IsInner tail
      decidable_of_iff _ isNameWord_cons_iff.symm

/-- A text that starts with a capital letter. -/
def StartsCapital
    (text : List Char) :
    Prop :=
  ∃ head ∈ text.head?, isUpper head = true

instance
    (text : List Char) :
    Decidable (StartsCapital text) :=
  decidable_of_iff (text.head?.any isUpper = true) (by cases text <;> simp [StartsCapital])

theorem IsNameWord.ne_nil
    {word : List Char}
    (isWord : IsNameWord word) :
    word ≠ [] := by
  cases isWord
  simp

/-- Inner letters may follow at the end of a word. -/
theorem IsNameWord.append
    {word ending : List Char}
    (isWord : IsNameWord word)
    (endingInner : ∀ letter ∈ ending, IsInner letter) :
    IsNameWord (word ++ ending) := by
  cases isWord with
  | cons head tail headWhole tailInner =>
      exact .cons head (tail ++ ending) headWhole
        (List.forall_mem_append.mpr ⟨tailInner, endingInner⟩)

/-! The words of a text. -/

theorem mem_finished_iff
    {current word : List Char} :
    word ∈ finished current ↔ current ≠ [] ∧ word = current := by
  cases current <;> simp [finished]

theorem finished_of_ne_nil
    {current : List Char}
    (ne_nil : current ≠ []) :
    finished current = [current] := by
  obtain ⟨head, tail, rfl⟩ := List.exists_cons_of_ne_nil ne_nil
  rfl

/-- What holds of the current word holds of what is finished. -/
theorem forall_mem_finished
    {Holds : List Char → Prop}
    {current : List Char}
    (started : current = [] ∨ Holds current) :
    ∀ word ∈ finished current, Holds word := by
  intro word isCurrent
  obtain ⟨ne_nil, rfl⟩ := mem_finished_iff.mp isCurrent
  exact started.resolve_left ne_nil

/-- What holds of a word that starts with a capital letter, and of every word that is started and
goes on, holds of all words of a text. -/
theorem forall_mem_splitFrom
    {Holds : List Char → Prop}
    {current text : List Char}
    (capital :
      ∀ letter ∈ text, isSeparator letter = false → isUpper letter = true → Holds [letter])
    (longer :
      ∀ letter ∈ text,
        IsInner letter → ∀ started, started = [] ∨ Holds started → Holds (started ++ [letter]))
    (started : current = [] ∨ Holds current) :
    ∀ word ∈ splitFrom current text, Holds word := by
  induction text generalizing current with
  | nil =>
      exact forall_mem_finished started
  | cons next rest inductionHypothesis =>
      obtain ⟨capitalNext, capitalRest⟩ := List.forall_mem_cons.mp capital
      obtain ⟨longerNext, longerRest⟩ := List.forall_mem_cons.mp longer
      have later {current : List Char} (started : current = [] ∨ Holds current) :
          ∀ word ∈ splitFrom current rest, Holds word :=
        inductionHypothesis capitalRest longerRest started
      rw [splitFrom]
      split
      · exact List.forall_mem_append.mpr ⟨forall_mem_finished started, later (.inl rfl)⟩
      · next goesOn =>
        rw [Bool.not_eq_true] at goesOn
        split
        · next isCapital =>
          have ofNext := later (.inr (capitalNext goesOn isCapital))
          exact List.forall_mem_append.mpr ⟨forall_mem_finished started, ofNext⟩
        · next notCapital =>
          rw [Bool.not_eq_true] at notCapital
          exact later (.inr (longerNext ⟨goesOn, notCapital⟩ current started))

/-- A text is taken apart into words. -/
theorem isNameWord_of_mem_split
    {text : List Char} :
    ∀ word ∈ split text, IsNameWord word := by
  refine forall_mem_splitFrom ?_ ?_ (.inl rfl)
  · intro letter _ whole _
    exact .cons letter [] whole (by simp)
  · rintro letter _ inner started (rfl | isWord)
    · exact .cons letter [] inner.1 (by simp)
    · exact isWord.append (by simpa using inner)

/-- What holds of all characters of a text holds of those of its words. -/
theorem forall_mem_of_mem_split
    {Holds : Char → Prop}
    {text : List Char}
    (ofText : ∀ letter ∈ text, Holds letter) :
    ∀ word ∈ split text, ∀ letter ∈ word, Holds letter := by
  refine forall_mem_splitFrom ?_ ?_ (.inl rfl)
  · intro letter inText _ _
    simpa using ofText letter inText
  · rintro letter inText _ started (rfl | ofStarted)
    · simpa using ofText letter inText
    · exact List.forall_mem_append.mpr ⟨ofStarted, by simpa using ofText letter inText⟩

/-- Nothing of a text without separators is lost between its words. -/
theorem flatten_splitFrom
    {current text : List Char}
    (whole : ∀ letter ∈ text, isSeparator letter = false) :
    (splitFrom current text).flatten = current ++ text := by
  induction text generalizing current with
  | nil =>
      cases current <;> simp [splitFrom, finished]
  | cons next rest inductionHypothesis =>
      have goesOn : ¬isSeparator next = true := by simp [whole next]
      have later {current : List Char} :
          (splitFrom current rest).flatten = current ++ rest :=
        inductionHypothesis fun letter inRest => whole letter (by simp [inRest])
      rw [splitFrom, if_neg goesOn]
      split
      · cases current <;> simp [finished, later]
      · simp [later]

/-- In a text without separators a word starts with a capital letter, or the text starts with it. -/
theorem head_of_mem_splitFrom
    {current text word : List Char}
    (whole : ∀ letter ∈ text, isSeparator letter = false)
    (member : word ∈ splitFrom current text) :
    ∃ head tail,
      word = head :: tail ∧ (isUpper head = true ∨ (current ++ text).head? = some head) := by
  induction text generalizing current with
  | nil =>
      obtain ⟨ne_nil, rfl⟩ := mem_finished_iff.mp member
      obtain ⟨head, tail, rfl⟩ := List.exists_cons_of_ne_nil ne_nil
      exact ⟨head, tail, rfl, .inr rfl⟩
  | cons next rest inductionHypothesis =>
      have goesOn : ¬isSeparator next = true := by simp [whole next]
      have restWhole : ∀ letter ∈ rest, isSeparator letter = false :=
        fun letter inRest => whole letter (by simp [inRest])
      rw [splitFrom, if_neg goesOn] at member
      split at member
      · next isCapital =>
        rcases List.mem_append.mp member with isCurrent | inRest
        · obtain ⟨ne_nil, rfl⟩ := mem_finished_iff.mp isCurrent
          obtain ⟨head, tail, rfl⟩ := List.exists_cons_of_ne_nil ne_nil
          exact ⟨head, tail, rfl, .inr rfl⟩
        · obtain ⟨head, tail, rfl, upper | first⟩ := inductionHypothesis restWhole inRest
          · exact ⟨head, tail, rfl, .inl upper⟩
          · cases first
            exact ⟨next, tail, rfl, .inl isCapital⟩
      · simpa using inductionHypothesis restWhole member

/-- In a text without separators every word but the first starts with a capital letter. -/
theorem startsCapital_of_mem_tail_splitFrom
    {current text : List Char}
    (whole : ∀ letter ∈ text, isSeparator letter = false) :
    ∀ word ∈ (splitFrom current text).tail, StartsCapital word := by
  induction text generalizing current with
  | nil =>
      cases current <;> simp [splitFrom, finished]
  | cons next rest inductionHypothesis =>
      have goesOn : ¬isSeparator next = true := by simp [whole next]
      have restWhole : ∀ letter ∈ rest, isSeparator letter = false :=
        fun letter inRest => whole letter (by simp [inRest])
      rw [splitFrom, if_neg goesOn]
      split
      · next isCapital =>
        cases current with
        | nil =>
            exact inductionHypothesis restWhole
        | cons first others =>
            intro word member
            obtain ⟨head, tail, rfl, upper | isNext⟩ := head_of_mem_splitFrom restWhole member
            · exact ⟨head, rfl, upper⟩
            · cases isNext
              exact ⟨next, rfl, isCapital⟩
      · exact inductionHypothesis restWhole

/-! Words put together. -/

/-- A word goes on with the characters that may stand in it after the first. -/
theorem splitFrom_append_of_isInner
    {part : List Char}
    (inner : ∀ letter ∈ part, IsInner letter)
    (current rest : List Char) :
    splitFrom current (part ++ rest) = splitFrom (current ++ part) rest := by
  induction part generalizing current with
  | nil =>
      simp
  | cons letter others inductionHypothesis =>
      obtain ⟨⟨whole, small⟩, othersInner⟩ := List.forall_mem_cons.mp inner
      rw [List.cons_append, splitFrom, if_neg (by simp [whole]), if_neg (by simp [small]),
        inductionHypothesis othersInner]
      simp

/-- A first letter that is no separator starts the first word. -/
theorem split_cons
    {head : Char}
    (headWhole : isSeparator head = false)
    (rest : List Char) :
    split (head :: rest) = splitFrom [head] rest := by
  rw [split, splitFrom, if_neg (by simp [headWhole])]
  split <;> simp [finished]

/-- A word at the start may go on with what follows. -/
theorem split_append
    {word : List Char}
    (isWord : IsNameWord word)
    (rest : List Char) :
    split (word ++ rest) = splitFrom word rest := by
  cases isWord with
  | cons head tail headWhole tailInner =>
      rw [List.cons_append, split_cons headWhole, splitFrom_append_of_isInner tailInner,
        List.singleton_append]

/-- A word is not taken apart. -/
theorem split_of_isNameWord
    {word : List Char}
    (isWord : IsNameWord word) :
    split word = [word] := by
  have single := split_append isWord []
  rwa [List.append_nil, splitFrom, finished_of_ne_nil isWord.ne_nil] at single

/-- Words with separators between them come apart into the same words. -/
theorem split_intercalate
    {mark : Char}
    (isMark : isSeparator mark = true)
    {words : List (List Char)}
    (areWords : ∀ word ∈ words, IsNameWord word) :
    split ([mark].intercalate words) = words := by
  induction words with
  | nil =>
      rfl
  | cons word rest inductionHypothesis =>
      obtain ⟨isWord, restWords⟩ := List.forall_mem_cons.mp areWords
      cases rest with
      | nil =>
          simpa using split_of_isNameWord isWord
      | cons next others =>
          rw [List.intercalate_cons_cons, List.append_assoc, split_append isWord,
            List.singleton_append, splitFrom, if_pos isMark, finished_of_ne_nil isWord.ne_nil]
          exact congrArg (word :: ·) (inductionHypothesis restWords)

/-- Words of which all but the first start with a capital letter come apart into the same words
where there is nothing between them. -/
theorem split_flatten
    {words : List (List Char)}
    (areWords : ∀ word ∈ words, IsNameWord word)
    (capital : ∀ word ∈ words.tail, StartsCapital word) :
    split words.flatten = words := by
  induction words with
  | nil =>
      rfl
  | cons word rest inductionHypothesis =>
      obtain ⟨isWord, restWords⟩ := List.forall_mem_cons.mp areWords
      have later := inductionHypothesis restWords
        fun other inTail => capital other (List.mem_of_mem_tail inTail)
      rw [List.flatten_cons, split_append isWord]
      cases rest with
      | nil =>
          rw [List.flatten_nil, splitFrom, finished_of_ne_nil isWord.ne_nil]
      | cons next others =>
          obtain ⟨head, isHead, isCapital⟩ := capital next (by simp)
          cases restWords next (by simp) with
          | cons first tail headWhole tailInner =>
              cases isHead
              rw [List.flatten_cons, List.cons_append, split_cons headWhole] at later
              rw [List.flatten_cons, List.cons_append, splitFrom, if_neg (by simp [headWhole]),
                if_pos isCapital, finished_of_ne_nil isWord.ne_nil, later, List.singleton_append]

end Naming

end Blueprint
