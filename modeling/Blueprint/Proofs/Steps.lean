import Mathlib.Data.List.Forall2
import Mathlib.Data.List.Induction
import Blueprint.Resolution.Context

namespace Blueprint

/-!
# Steps that succeed

What can be said of a chain of steps that may fail once it is known to have succeeded, and of the
context that a run of steps leaves behind whether or not it succeeded. A property that every step
preserves holds at the end of a run; a collected list stands element by element for the list that
it was collected from. A chain that fails does so at one of its steps, after earlier ones that
succeeded.
-/

variable {ε α β : Type}

/-- Two steps in a row succeed exactly when the first one does and the second does on its result. -/
theorem bind_eq_ok_iff
    {result : Except ε α}
    {next : α → Except ε β}
    {value : β} :
    (result >>= next) = .ok value ↔
      ∃ middle, result = .ok middle ∧ next middle = .ok value := by
  cases result with
  | error cause =>
      simp [bind, Except.bind]
  | ok middle =>
      simp [bind, Except.bind]

/-- Two steps in a row fail where the first one fails, or where the second does on its result. -/
theorem bind_eq_error_iff
    {result : Except ε α}
    {next : α → Except ε β}
    {cause : ε} :
    (result >>= next) = .error cause ↔
      result = .error cause ∨ ∃ middle, result = .ok middle ∧ next middle = .error cause := by
  cases result with
  | error reason =>
      simp [bind, Except.bind]
  | ok middle =>
      simp [bind, Except.bind]

/-- Two steps may be exchanged that agree on what the step before them can give. -/
theorem bind_congr_of_ok
    {result : Except ε α}
    {next later : α → Except ε β}
    (same : ∀ value, result = .ok value → next value = later value) :
    (result >>= next) = (result >>= later) := by
  cases result with
  | error cause =>
      rfl
  | ok value =>
      exact same value rfl

/-- A changed result is that of a success. -/
theorem map_eq_ok_iff
    {result : Except ε α}
    {change : α → β}
    {value : β} :
    result.map change = .ok value ↔
      ∃ former, result = .ok former ∧ change former = value := by
  cases result with
  | error cause =>
      simp [Except.map]
  | ok former =>
      simp [Except.map]

theorem map_eq_error_iff
    {result : Except ε α}
    {change : α → β}
    {cause : ε} :
    result.map change = .error cause ↔ result = .error cause := by
  cases result with
  | error reason =>
      simp [Except.map]
  | ok former =>
      simp [Except.map]

theorem pure_eq_ok_iff
    {former value : α} :
    (pure former : Except ε α) = .ok value ↔ former = value := by
  simp [pure, Except.pure]

theorem exists_eq_ok_of_isOk
    {result : Except ε α}
    (succeeds : result.isOk = true) :
    ∃ value, result = .ok value := by
  cases result with
  | error cause =>
      simp [Except.isOk, Except.toBool] at succeeds
  | ok value =>
      exact ⟨value, rfl⟩

theorem collect_cons
    (step : α → Except ε β)
    (item : α)
    (rest : List α) :
    collect step (item :: rest) = (do
      let first ← step item
      let others ← collect step rest
      pure (first :: others)) := by
  rw [collect]
  cases step item with
  | error cause =>
      rfl
  | ok first =>
      cases collect step rest <;> rfl

/-- Elements that are changed first may be changed as the step takes them. -/
theorem collect_map
    {γ : Type}
    (step : α → Except ε β)
    (change : γ → α)
    (items : List γ) :
    collect step (items.map change) = collect (fun item => step (change item)) items := by
  induction items with
  | nil =>
      rfl
  | cons item rest inductionHypothesis =>
      rw [List.map_cons, collect_cons, collect_cons, inductionHypothesis]

/-- Steps that agree on all items collect the same. -/
theorem collect_congr
    {step other : α → Except ε β}
    {items : List α}
    (same : ∀ item ∈ items, step item = other item) :
    collect step items = collect other items := by
  induction items with
  | nil =>
      rfl
  | cons item rest inductionHypothesis =>
      have sameRest := inductionHypothesis fun later inRest => same later (by simp [inRest])
      rw [collect_cons, collect_cons, same item (by simp), sameRest]

theorem collect_append
    (step : α → Except ε β)
    (items others : List α) :
    collect step (items ++ others) = (do
      let first ← collect step items
      let second ← collect step others
      pure (first ++ second)) := by
  induction items with
  | nil =>
      rw [List.nil_append]
      cases collect step others <;> rfl
  | cons item rest inductionHypothesis =>
      rw [List.cons_append, collect_cons, collect_cons, inductionHypothesis]
      simp only [bind_assoc, pure_bind, List.cons_append]

theorem accumulate_cons
    (step : β → α → Except ε β)
    (state : β)
    (item : α)
    (rest : List α) :
    accumulate step state (item :: rest) = (do
      let next ← step state item
      accumulate step next rest) := by
  rw [accumulate]
  cases step state item <;> rfl

/-- Collecting succeeds exactly when every step does, and gives their results in order. -/
theorem collect_eq_ok_iff
    {step : α → Except ε β}
    {items : List α}
    {results : List β} :
    collect step items = .ok results ↔
      List.Forall₂ (fun item result => step item = .ok result) items results := by
  induction items generalizing results with
  | nil =>
      cases results <;> simp [collect]
  | cons item rest inductionHypothesis =>
      cases first : step item with
      | error cause =>
          cases results <;> simp [collect, first]
      | ok result =>
          cases others : collect step rest with
          | error cause =>
              cases results with
              | nil =>
                  simp [collect, first, others]
              | cons head tail =>
                  have noTail :
                      ¬List.Forall₂ (fun item result => step item = .ok result) rest tail := by
                    rw [← inductionHypothesis, others]
                    simp
                  simp [collect, first, others, noTail]
          | ok tail =>
              cases results with
              | nil =>
                  simp [collect, first, others]
              | cons head remaining =>
                  simp only [collect, first, others, Except.ok.injEq, List.cons.injEq,
                    List.forall₂_cons, ← inductionHypothesis]

/-- Whatever stands in the second of two matching lists matches an element of the first. -/
theorem exists_of_mem_matched
    {matching : α → β → Prop}
    {items : List α}
    {results : List β}
    (matched : List.Forall₂ matching items results)
    {result : β}
    (member : result ∈ results) :
    ∃ item ∈ items, matching item result := by
  induction matched with
  | nil =>
      simp at member
  | @cons item head rest tail first _ inductionHypothesis =>
      rcases List.mem_cons.mp member with isHead | inTail
      · subst isHead
        exact ⟨item, by simp, first⟩
      · obtain ⟨found, inRest, matches_found⟩ := inductionHypothesis inTail
        exact ⟨found, by simp [inRest], matches_found⟩

/-- The first element of the second list with a property that matching elements share matches the
first such element of the first list. -/
theorem find?_eq_some_of_matched
    {matching : α → β → Prop}
    {asked : β → Bool}
    {items : List α}
    {results : List β}
    (wanted : α → Bool)
    (matched : List.Forall₂ matching items results)
    (shared : ∀ item ∈ items, ∀ result, matching item result → wanted item = asked result)
    {result : β}
    (found : results.find? asked = some result) :
    ∃ item, items.find? wanted = some item ∧ matching item result := by
  induction matched with
  | nil =>
      simp at found
  | @cons item head rest tail first _ inductionHypothesis =>
      have same := shared item (by simp) head first
      by_cases isHead : asked head
      · simp only [List.find?_cons, isHead, Option.some.injEq] at found
        subst found
        exact ⟨item, by simp [same, isHead], first⟩
      · simp only [List.find?_cons, isHead] at found
        obtain ⟨other, foundOther, matchesOther⟩ :=
          inductionHypothesis (fun later inRest => shared later (by simp [inRest])) found
        exact ⟨other, by simpa [same, isHead] using foundOther, matchesOther⟩

/-- Checks succeed together exactly when each of them does. -/
theorem checkAll_eq_ok_iff
    {check : α → Except ε Unit}
    {items : List α} :
    checkAll check items = .ok () ↔ ∀ item ∈ items, check item = .ok () := by
  induction items with
  | nil =>
      simp [checkAll]
  | cons item rest inductionHypothesis =>
      cases first : check item with
      | error cause =>
          simp [checkAll, first]
      | ok =>
          simpa [checkAll, first] using inductionHypothesis

/-- What is collected comes from one of the items. -/
theorem exists_of_mem_collect
    {step : α → Except ε β}
    {items : List α}
    {results : List β}
    (collected : collect step items = .ok results)
    {result : β}
    (member : result ∈ results) :
    ∃ item ∈ items, step item = .ok result :=
  exists_of_mem_matched (collect_eq_ok_iff.mp collected) member

/-- What every step preserves holds of the state that all steps lead to. -/
theorem accumulate_invariant
    {step : β → α → Except ε β}
    (holds : β → Prop)
    {state final : β}
    {items : List α}
    (start : holds state)
    (preserved :
      ∀ former item next,
        item ∈ items →
        holds former →
        step former item = .ok next →
        holds next)
    (done : accumulate step state items = .ok final) :
    holds final := by
  induction items generalizing state with
  | nil =>
      simp only [accumulate, Except.ok.injEq] at done
      exact done ▸ start
  | cons item rest inductionHypothesis =>
      cases stepped : step state item with
      | error cause =>
          simp [accumulate, stepped] at done
      | ok next =>
          simp only [accumulate, stepped] at done
          exact inductionHypothesis
            (preserved state item next (by simp) start stepped)
            (fun former later result inRest => preserved former later result (by simp [inRest]))
            done

/-- Items are accumulated in two parts, one after the other. -/
theorem accumulate_append
    (step : β → α → Except ε β)
    (state : β)
    (items others : List α) :
    accumulate step state (items ++ others) = (do
      let middle ← accumulate step state items
      accumulate step middle others) := by
  induction items generalizing state with
  | nil =>
      rfl
  | cons item rest inductionHypothesis =>
      rw [List.cons_append, accumulate_cons, accumulate_cons, bind_assoc]
      simp only [inductionHypothesis]

/-- Two parts succeed exactly when the second goes on from where the first leads. -/
theorem accumulate_append_eq_ok_iff
    {step : β → α → Except ε β}
    {state final : β}
    {items others : List α} :
    accumulate step state (items ++ others) = .ok final ↔
      ∃ middle, accumulate step state items = .ok middle ∧
        accumulate step middle others = .ok final := by
  rw [accumulate_append, bind_eq_ok_iff]

/-- The last item goes on from where all others lead. -/
theorem accumulate_concat_eq_ok_iff
    {step : β → α → Except ε β}
    {state final : β}
    {items : List α}
    {last : α} :
    accumulate step state (items ++ [last]) = .ok final ↔
      ∃ middle, accumulate step state items = .ok middle ∧ step middle last = .ok final := by
  have single (middle : β) : accumulate step middle [last] = step middle last := by
    cases stepped : step middle last <;> simp [accumulate, stepped]
  simp only [accumulate_append_eq_ok_iff, single]

/-- What each step passes on from the elements before it holds of all elements and of the state that
they lead to. -/
theorem accumulate_traced
    {step : β → α → Except ε β}
    (holds : List α → β → Prop)
    {state final : β}
    {items : List α}
    (start : holds [] state)
    (passed :
      ∀ earlier former item next,
        holds earlier former →
        step former item = .ok next →
        holds (earlier ++ [item]) next)
    (reached : accumulate step state items = .ok final) :
    holds items final := by
  induction items using List.reverseRecOn generalizing final with
  | nil =>
      simp only [accumulate, Except.ok.injEq] at reached
      exact reached ▸ start
  | append_singleton earlier last inductionHypothesis =>
      obtain ⟨middle, done, stepped⟩ := accumulate_concat_eq_ok_iff.mp reached
      exact passed earlier middle last final (inductionHypothesis done) stepped

/-- A chain of steps fails at a step that follows on earlier ones. -/
theorem exists_failing_of_accumulate
    {step : β → α → Except ε β}
    {state : β}
    {items : List α}
    {cause : ε}
    (failed : accumulate step state items = .error cause) :
    ∃ earlier item later middle,
      items = earlier ++ item :: later ∧
        accumulate step state earlier = .ok middle ∧
        step middle item = .error cause := by
  induction items generalizing state with
  | nil =>
      simp [accumulate] at failed
  | cons item rest inductionHypothesis =>
      cases stepped : step state item with
      | error reason =>
          simp only [accumulate, stepped, Except.error.injEq] at failed
          exact ⟨[], item, rest, state, rfl, rfl, by rw [stepped, failed]⟩
      | ok next =>
          simp only [accumulate, stepped] at failed
          obtain ⟨earlier, failing, later, middle, split, reached, fails⟩ :=
            inductionHypothesis failed
          exact ⟨item :: earlier, failing, later, middle, by simp [split],
            by simp [accumulate, stepped, reached], fails⟩

/-- Collecting fails at the first element that the step fails on. -/
theorem collect_eq_error_iff
    {step : α → Except ε β}
    {items : List α}
    {cause : ε} :
    collect step items = .error cause ↔
      ∃ earlier item later,
        items = earlier ++ item :: later ∧
          (∀ other ∈ earlier, ∃ result, step other = .ok result) ∧
          step item = .error cause := by
  induction items with
  | nil =>
      simp [collect]
  | cons head rest inductionHypothesis =>
      cases first : step head with
      | error reason =>
          simp only [collect, first, Except.error.injEq]
          constructor
          · rintro rfl
            exact ⟨[], head, rest, rfl, by simp, first⟩
          · rintro ⟨earlier, item, later, split, succeeded, failed⟩
            cases earlier with
            | nil =>
                cases split
                simpa [first] using failed
            | cons other others =>
                cases split
                obtain ⟨result, isOk⟩ := succeeded head (by simp)
                simp [first] at isOk
      | ok result =>
          have sameError : collect step (head :: rest) = .error cause ↔
              collect step rest = .error cause := by
            cases others : collect step rest <;> simp [collect, first, others]
          rw [sameError, inductionHypothesis]
          constructor
          · rintro ⟨earlier, item, later, rfl, succeeded, failed⟩
            exact ⟨head :: earlier, item, later, rfl,
              List.forall_mem_cons.mpr ⟨⟨result, first⟩, succeeded⟩, failed⟩
          · rintro ⟨earlier, item, later, split, succeeded, failed⟩
            cases earlier with
            | nil =>
                cases split
                simp [first] at failed
            | cons other others =>
                cases split
                exact ⟨others, item, later, rfl, (List.forall_mem_cons.mp succeeded).2, failed⟩

/-- Where collecting fails, one of the items does. -/
theorem exists_failing_of_collect
    {step : α → Except ε β}
    {items : List α}
    {cause : ε}
    (failed : collect step items = .error cause) :
    ∃ item ∈ items, step item = .error cause := by
  obtain ⟨earlier, item, later, rfl, _, fails⟩ := collect_eq_error_iff.mp failed
  exact ⟨item, by simp, fails⟩

/-- If every item succeeds they are collected. -/
theorem exists_collect_of_forall
    {step : α → Except ε β}
    {items : List α}
    (each : ∀ item ∈ items, ∃ result, step item = .ok result) :
    ∃ results, collect step items = .ok results := by
  cases collected : collect step items with
  | error cause =>
      obtain ⟨item, member, fails⟩ := exists_failing_of_collect collected
      obtain ⟨result, succeeds⟩ := each item member
      simp [succeeds] at fails
  | ok results =>
      exact ⟨results, rfl⟩

theorem exists_failing_of_checkAll
    {check : α → Except ε Unit}
    {items : List α}
    {cause : ε}
    (failed : checkAll check items = .error cause) :
    ∃ item ∈ items, check item = .error cause := by
  induction items with
  | nil =>
      simp [checkAll] at failed
  | cons item rest inductionHypothesis =>
      cases first : check item with
      | error reason =>
          simp only [checkAll, first, Except.error.injEq] at failed
          exact ⟨item, by simp, by rw [first, failed]⟩
      | ok =>
          simp only [checkAll, first] at failed
          obtain ⟨failing, inRest, fails⟩ := inductionHypothesis failed
          exact ⟨failing, by simp [inRest], fails⟩

namespace Outcome

/-- A run fails at a step that follows on earlier ones. -/
theorem exists_failing_of_ofSteps
    {step : Context → α → Except ResolveError Context}
    {context : Context}
    {items : List α}
    {cause : ResolveError}
    (failed : (ofSteps step context items).error = some cause) :
    ∃ earlier item later,
      items = earlier ++ item :: later ∧
        (ofSteps step context earlier).error = none ∧
        step (ofSteps step context earlier).context item = .error cause := by
  induction items generalizing context with
  | nil =>
      simp [ofSteps] at failed
  | cons item rest inductionHypothesis =>
      cases stepped : step context item with
      | error reason =>
          simp only [ofSteps, stepped, Option.some.injEq] at failed
          exact ⟨[], item, rest, rfl, rfl, by rw [ofSteps, stepped, failed]⟩
      | ok next =>
          simp only [ofSteps, stepped] at failed
          obtain ⟨earlier, failing, later, split, reached, fails⟩ := inductionHypothesis failed
          refine ⟨item :: earlier, failing, later, by simp [split], ?_, ?_⟩
          · simpa [ofSteps, stepped] using reached
          · simpa [ofSteps, stepped] using fails

/-- In a run without failure every step has succeeded. -/
theorem exists_step_of_mem
    {step : Context → α → Except ResolveError Context}
    {context : Context}
    {items : List α}
    (done : (ofSteps step context items).error = none)
    {item : α}
    (member : item ∈ items) :
    ∃ former next, step former item = .ok next := by
  induction items generalizing context with
  | nil =>
      simp at member
  | cons head rest inductionHypothesis =>
      cases stepped : step context head with
      | error cause =>
          simp [ofSteps, stepped] at done
      | ok next =>
          simp only [ofSteps, stepped] at done
          rcases List.mem_cons.mp member with rfl | inRest
          · exact ⟨context, next, stepped⟩
          · exact inductionHypothesis done inRest

/-- A run without failure leaves the context that its steps lead to. -/
theorem ofSteps_error_eq_none_iff
    {step : Context → α → Except ResolveError Context}
    {context : Context}
    {items : List α} :
    (ofSteps step context items).error = none ↔
      accumulate step context items = .ok (ofSteps step context items).context := by
  induction items generalizing context with
  | nil =>
      simp [ofSteps, accumulate]
  | cons item rest inductionHypothesis =>
      cases stepped : step context item with
      | error cause =>
          simp [ofSteps, accumulate, stepped]
      | ok next =>
          simpa [ofSteps, accumulate, stepped] using inductionHypothesis

/-- What every step preserves holds of the context that a run leaves, also of one that fails. -/
theorem ofSteps_invariant
    {step : Context → α → Except ResolveError Context}
    (holds : Context → Prop)
    {context : Context}
    {items : List α}
    (start : holds context)
    (preserved :
      ∀ former item next,
        item ∈ items →
        holds former →
        step former item = .ok next →
        holds next) :
    holds (ofSteps step context items).context := by
  induction items generalizing context with
  | nil =>
      exact start
  | cons item rest inductionHypothesis =>
      cases stepped : step context item with
      | error cause =>
          simpa [ofSteps, stepped] using start
      | ok next =>
          simp only [ofSteps, stepped]
          exact inductionHypothesis
            (preserved context item next (by simp) start stepped)
            fun former later result inRest => preserved former later result (by simp [inRest])

/-- Steps that each leave the context as it is, or fail, leave it as it is together, and fail where
the first of them does. -/
theorem ofSteps_of_unchanging
    {step : Context → α → Except ResolveError Context}
    {context : Context}
    {items : List α}
    {failure : α → Option ResolveError}
    (unchanging :
      ∀ item ∈ items, step context item = (failure item).elim (.ok context) .error) :
    ofSteps step context items = ⟨context, items.findSome? failure⟩ := by
  induction items with
  | nil =>
      rfl
  | cons item rest inductionHypothesis =>
      obtain ⟨first, others⟩ := List.forall_mem_cons.mp unchanging
      rw [ofSteps, first, List.findSome?_cons]
      cases failure item with
      | none =>
          exact inductionHypothesis others
      | some cause =>
          rfl

/-- Two stages succeed exactly when the second does after the first has. -/
theorem andThen_error_eq_none_iff
    {outcome : Outcome}
    {next : Context → Outcome} :
    (outcome.andThen next).error = none ↔
      outcome.error = none ∧ (next outcome.context).error = none := by
  cases failed : outcome.error with
  | none =>
      simp [andThen, failed]
  | some cause =>
      simp [andThen, failed]

/-- The second part fails after the first one has succeeded. -/
theorem andThen_error_eq_some_iff
    {outcome : Outcome}
    {next : Context → Outcome}
    {cause : ResolveError} :
    (outcome.andThen next).error = some cause ↔
      outcome.error = some cause ∨
        outcome.error = none ∧ (next outcome.context).error = some cause := by
  cases failed : outcome.error with
  | none =>
      simp [andThen, failed]
  | some reason =>
      simp [andThen, failed]

/-- After a success the second stage goes on from where the first leads. -/
theorem andThen_of_error_eq_none
    {outcome : Outcome}
    {next : Context → Outcome}
    (succeeded : outcome.error = none) :
    outcome.andThen next = next outcome.context := by
  simp [andThen, succeeded]

/-- What both parts preserve, the whole preserves, whether or not a part fails. -/
theorem andThen_invariant
    {outcome : Outcome}
    {next : Context → Outcome}
    (holds : Context → Prop)
    (first : holds outcome.context)
    (second : ∀ context, holds context → holds (next context).context) :
    holds (outcome.andThen next).context := by
  cases failed : outcome.error with
  | none =>
      simpa [andThen, failed] using second outcome.context first
  | some cause =>
      simpa [andThen, failed] using first

end Outcome

end Blueprint
