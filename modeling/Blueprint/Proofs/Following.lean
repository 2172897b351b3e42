import Blueprint.Proofs.Filling
import Blueprint.Proofs.Steps

namespace Blueprint

/-!
# Results that follow others

The same thing may be built in two contexts that answer the same questions. One result follows
another if it is the same wherever the other is a success, and if only known errors make the other
fail. Following passes through every way in which results are put together, so that it is enough to
know it of the look-ups at the bottom. Compared with itself, a result says which errors it can end
with.
-/

open Resolution

variable {ε α β : Type}

/-- The second result is the first one if that is a success; the first one fails with known errors
only. -/
structure Follows
    (known : ε → Prop)
    (first second : Except ε α) :
    Prop where
  of_ok : ∀ value, first = .ok value → second = .ok value
  of_error : ∀ cause, first = .error cause → known cause

namespace Follows

variable {known : ε → Prop}

theorem ok
    (value : α) :
    Follows known (.ok value : Except ε α) (.ok value) :=
  ⟨fun _ isValue => isValue, by simp⟩

theorem error
    {cause : ε}
    (isKnown : known cause)
    (second : Except ε α) :
    Follows known (.error cause) second where
  of_ok := by simp
  of_error other same := by
    cases same
    exact isKnown

/-- A result follows itself if its error is known. -/
theorem self
    {result : Except ε α}
    (fails : ∀ cause, result = .error cause → known cause) :
    Follows known result result :=
  ⟨fun _ isValue => isValue, fails⟩

/-- Either the first result fails with a known error, or both are the same success. -/
theorem cases
    {first second : Except ε α}
    (follows : Follows known first second) :
    (∃ cause, first = .error cause ∧ known cause) ∨
      ∃ value, first = .ok value ∧ second = .ok value := by
  cases result : first with
  | error cause =>
      exact .inl ⟨cause, rfl, follows.of_error cause result⟩
  | ok value =>
      exact .inr ⟨value, rfl, follows.of_ok value result⟩

/-- A step may assume that what it goes on from has succeeded in the first run. -/
theorem bind_of_ok
    {first second : Except ε α}
    {next later : α → Except ε β}
    (follows : Follows known first second)
    (nextFollows : ∀ value, first = .ok value → Follows known (next value) (later value)) :
    Follows known (first >>= next) (second >>= later) := by
  rcases follows.cases with ⟨cause, failed, isKnown⟩ | ⟨value, succeeded, also⟩
  · rw [failed]
    exact error isKnown _
  · rw [also]
    have same := nextFollows value succeeded
    rw [succeeded]
    exact same

theorem bind
    {first second : Except ε α}
    {next later : α → Except ε β}
    (follows : Follows known first second)
    (nextFollows : ∀ value, Follows known (next value) (later value)) :
    Follows known (first >>= next) (second >>= later) :=
  follows.bind_of_ok fun value _ => nextFollows value

theorem map
    {first second : Except ε α}
    (follows : Follows known first second)
    (change : α → β) :
    Follows known (first.map change) (second.map change) := by
  rcases follows.cases with ⟨cause, failed, isKnown⟩ | ⟨value, succeeded, also⟩
  · rw [failed]
    exact error isKnown _
  · rw [succeeded, also]
    exact ok (change value)

/-- Results that follow one by one follow as a list. -/
theorem collect
    {step later : α → Except ε β}
    {items : List α}
    (follows : ∀ item ∈ items, Follows known (step item) (later item)) :
    Follows known (Blueprint.collect step items) (Blueprint.collect later items) := by
  induction items with
  | nil =>
      exact ok []
  | cons item rest inductionHypothesis =>
      have others := inductionHypothesis fun other inRest => follows other (by simp [inRest])
      rcases (follows item (by simp)).cases with
        ⟨cause, failed, isKnown⟩ | ⟨value, succeeded, also⟩
      · simp only [Blueprint.collect, failed]
        exact error isKnown _
      · rcases others.cases with ⟨cause, failed, isKnown⟩ | ⟨values, restSucceeded, restAlso⟩
        · simp only [Blueprint.collect, succeeded, failed]
          exact error isKnown _
        · simp only [Blueprint.collect, succeeded, also, restSucceeded, restAlso]
          exact ok (value :: values)

/-- Steps that follow from every state follow one after the other. -/
theorem accumulate
    {step later : β → α → Except ε β}
    {state : β}
    {items : List α}
    (follows : ∀ former, ∀ item ∈ items, Follows known (step former item) (later former item)) :
    Follows known (Blueprint.accumulate step state items)
      (Blueprint.accumulate later state items) := by
  induction items generalizing state with
  | nil =>
      exact ok state
  | cons item rest inductionHypothesis =>
      rcases (follows state item (by simp)).cases with
        ⟨cause, failed, isKnown⟩ | ⟨next, succeeded, also⟩
      · simp only [Blueprint.accumulate, failed]
        exact error isKnown _
      · simp only [Blueprint.accumulate, succeeded, also]
        exact inductionHypothesis fun former other inRest => follows former other (by simp [inRest])

theorem checkAll
    {check : α → Except ε Unit}
    {items : List α}
    (follows : ∀ item ∈ items, Follows known (check item) (check item)) :
    Follows known (Blueprint.checkAll check items) (Blueprint.checkAll check items) := by
  apply self
  intro cause failed
  obtain ⟨item, member, fails⟩ := exists_failing_of_checkAll failed
  exact (follows item member).of_error cause fails

/-- A part that may be left out follows if it follows where it is there. -/
theorem whenPresent
    {known : ResolveError → Prop}
    {step later : α → Except ResolveError β}
    (follows : ∀ value, Follows known (step value) (later value))
    (part : Option α) :
    Follows known (Resolution.whenPresent step part) (Resolution.whenPresent later part) := by
  cases part with
  | none =>
      exact ok none
  | some value =>
      exact (follows value).map some

end Follows

/-- Builds that follow element by element gather the same entries and fail with known errors. -/
theorem gathered_of_follows
    {known : ε → Prop}
    {build other : α → Except ε (Option β)}
    {items : List α}
    (follows : ∀ item ∈ items, Follows known (build item) (other item)) :
    (failure? build items = none →
        gathered other items = gathered build items ∧ failure? other items = none) ∧
      ∀ cause, failure? build items = some cause → known cause := by
  induction items with
  | nil =>
      simp [gathered, failure?]
  | cons item rest inductionHypothesis =>
      have later := inductionHypothesis fun other inRest => follows other (by simp [inRest])
      rcases (follows item (by simp)).cases with
        ⟨cause, failed, isKnown⟩ | ⟨built, succeeded, also⟩
      · simpa [failure?, failed] using isKnown
      · simp only [gathered, failure?, succeeded, also]
        refine ⟨fun done => ?_, later.2⟩
        obtain ⟨sameEntries, done⟩ := later.1 done
        exact ⟨by rw [sameEntries], done⟩

/-- The second outcome is a success that agrees with the first one if that is a success; the first
one fails with known errors only. -/
structure Outcome.Follows
    (known : ResolveError → Prop)
    (agrees : Context → Context → Prop)
    (first second : Outcome) :
    Prop where
  of_done : first.error = none → second.error = none ∧ agrees first.context second.context
  of_error : ∀ cause, first.error = some cause → known cause

/-- Outcomes that follow on others that follow each other do so as well. -/
theorem Outcome.Follows.andThen
    {known : ResolveError → Prop}
    {agrees : Context → Context → Prop}
    {first second : Outcome}
    {next later : Context → Outcome}
    (follows : Outcome.Follows known agrees first second)
    (nextFollows :
      ∀ context other,
        agrees context other →
        Outcome.Follows known agrees (next context) (later other)) :
    Outcome.Follows known agrees (first.andThen next) (second.andThen later) := by
  cases failed : first.error with
  | some cause =>
      have stopped : first.andThen next = first := by
        simp [Outcome.andThen, failed]
      rw [stopped]
      exact ⟨by simp [failed], follows.of_error⟩
  | none =>
      obtain ⟨succeeded, agreed⟩ := follows.of_done failed
      rw [Outcome.andThen_of_error_eq_none failed, Outcome.andThen_of_error_eq_none succeeded]
      exact nextFollows _ _ agreed

/-- Filling the same slot of contexts that agree leaves contexts that agree, as long as what is
built in the one follows what is built in the other. -/
theorem Fills.ofSteps_follows
    {slot : Slot α}
    {build : Context → β → Except ResolveError (Option (String × α))}
    {step : Context → β → Except ResolveError Context}
    (fills : Fills slot build step)
    {known : ResolveError → Prop}
    {agrees : Context → Context → Prop}
    {context other : Context}
    {items : List β}
    (sameTable : slot.read other = slot.read context)
    (agreesOn : ∀ table, agrees (slot.write context table) (slot.write other table))
    (follows : ∀ item ∈ items, Blueprint.Follows known (build context item) (build other item)) :
    Outcome.Follows known agrees (Outcome.ofSteps step context items)
      (Outcome.ofSteps step other items) := by
  obtain ⟨sameEntries, isKnown⟩ := gathered_of_follows follows
  simp only [fills.ofSteps_eq, sameTable]
  refine ⟨fun done => ?_, isKnown⟩
  obtain ⟨gatheredSame, succeeded⟩ := sameEntries done
  exact ⟨succeeded, gatheredSame ▸ agreesOn _⟩

end Blueprint
