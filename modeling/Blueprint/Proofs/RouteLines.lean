import Blueprint.Proofs.Pieces
import Blueprint.Proofs.SmallForms
import Blueprint.Proofs.Steps
import Blueprint.Resolution.Directives

namespace Blueprint

/-!
# Lines of routes

A route line is `verbs:path` or `verbs:path name`: verbs in letters of either case between bars, a
path and perhaps a name, each a word, with gaps around the line and before the name. Whatever is
written so is read back with the same verbs in the same order, the same path and the same name, and
a route is read of no other line. Where a line is not of that form this is its error, and otherwise
the first word among the verbs that is no verb is.
-/

/-- Whatever is true of the separator and of the parts is true of the parts joined by it. -/
theorem forall_mem_intercalate
    {α : Type}
    {separator : List α}
    {parts : List (List α)}
    {Holds : α → Prop}
    (ofSeparator : ∀ item ∈ separator, Holds item)
    (ofParts : ∀ part ∈ parts, ∀ item ∈ part, Holds item) :
    ∀ item ∈ separator.intercalate parts, Holds item := by
  induction parts with
  | nil =>
      simp
  | cons part others inductionHypothesis =>
      obtain ⟨ofPart, ofOthers⟩ := List.forall_mem_cons.mp ofParts
      cases others with
      | nil =>
          simpa using ofPart
      | cons next later =>
          rw [List.intercalate_cons_cons]
          exact List.forall_mem_append.mpr
            ⟨List.forall_mem_append.mpr ⟨ofPart, ofSeparator⟩, inductionHypothesis ofOthers⟩

open Http Text

/-! Verbs as they are written. -/

namespace Http.Verb

/-- The word for a verb, in small letters. -/
def word :
    Verb →
    String
  | options => "options"
  | head => "head"
  | get => "get"
  | post => "post"
  | put => "put"
  | patch => "patch"
  | delete => "delete"

/-- Letters of either case spell a verb. -/
def SpelledBy
    (verb : Verb)
    (letters : List Char) :
    Prop :=
  letters.map Char.toLower = verb.word.toList

instance
    (verb : Verb)
    (letters : List Char) :
    Decidable (verb.SpelledBy letters) :=
  inferInstanceAs (Decidable (letters.map Char.toLower = verb.word.toList))

/-- A verb is found by its spelling in letters of either case. -/
theorem ofWord?_eq_some_iff
    {letters : List Char}
    (ascii : ∀ letter ∈ letters, letter.toNat < 0x80)
    {verb : Verb} :
    ofWord? (String.ofList letters) = some verb ↔ verb.SpelledBy letters := by
  rw [ofWord?, String.toList_ofList, Letter.lowerText_of_ascii ascii, SpelledBy,
    ← String.ofList_inj, String.ofList_toList]
  generalize String.ofList (letters.map Char.toLower) = lowered
  constructor
  · intro found
    split at found <;> cases found <;> rfl
  · rintro rfl
    cases verb <;> rfl

/-- Only what is a letter is a small letter once it is lowered. -/
theorem isAlpha_of_isLower_toLower
    {letter : Char}
    (isLower : letter.toLower.isLower = true) :
    letter.isAlpha = true := by
  by_cases isUpper : letter.isUpper = true
  · exact (Bool.or_eq_true _ _).mpr (.inl isUpper)
  · have unchanged : letter.toLower = letter :=
      dif_neg fun range => isUpper (decide_eq_true range)
    rw [unchanged] at isLower
    exact (Bool.or_eq_true _ _).mpr (.inr isLower)

namespace SpelledBy

variable {verb : Verb} {letters : List Char}

theorem isAlpha
    (spelled : verb.SpelledBy letters) :
    ∀ letter ∈ letters, letter.isAlpha = true := by
  have areLower : verb.word.toList.all Char.isLower = true := by
    cases verb <;> decide
  intro letter member
  apply isAlpha_of_isLower_toLower
  apply List.all_eq_true.mp areLower
  rw [← spelled]
  exact List.mem_map_of_mem member

theorem ne_nil
    (spelled : verb.SpelledBy letters) :
    letters ≠ [] := by
  rintro rfl
  cases verb <;> simp [SpelledBy, word] at spelled

end SpelledBy

end Http.Verb

namespace Resolution

/-! The parts of a line. -/

theorem isBlank_of_isVerbLetter
    {letter : Char}
    (isVerb : isVerbLetter letter = true) :
    isBlank letter = false := by
  simp only [isVerbLetter, Bool.or_eq_true, beq_iff_eq] at isVerb
  rcases isVerb with isAlpha | rfl
  · obtain ⟨low, high⟩ := Letter.code_of_isAlpha isAlpha
    simp [isBlank]
    omega
  · decide

namespace RouteLine

/-- The parts of a route line stand in a text as `verbs:path` or as `verbs:path name`. -/
inductive StandsIn :
    RouteLine →
    List Char →
    Prop where
  | unnamed
      {verbs path : List Char}
      (verbs_ne_nil : verbs ≠ [])
      (verbLetters : ∀ letter ∈ verbs, isVerbLetter letter = true)
      (isPath : IsWord path) :
      StandsIn ⟨verbs, path, none⟩ (verbs ++ ':' :: path)
  | named
      {verbs path gap name : List Char}
      (verbs_ne_nil : verbs ≠ [])
      (verbLetters : ∀ letter ∈ verbs, isVerbLetter letter = true)
      (isPath : IsWord path)
      (gap_ne_nil : gap ≠ [])
      (isGap : IsGap gap)
      (isName : IsWord name) :
      StandsIn ⟨verbs, path, some name⟩ (verbs ++ ':' :: (path ++ (gap ++ name)))

/-- The words between the bars of the verbs, empty ones left out. -/
def words
    (parts : RouteLine) :
    List (List Char) :=
  (parts.verbs.splitOn '|').filter fun word => !word.isEmpty

/-- What stands before the first colon is written with verb letters. -/
theorem StandsIn.verbLetters
    {parts : RouteLine}
    {text : List Char}
    (stands : parts.StandsIn text) :
    ∀ letter ∈ parts.verbs, isVerbLetter letter = true := by
  cases stands with
  | unnamed _ verbLetters _ =>
      exact verbLetters
  | named _ verbLetters _ _ _ _ =>
      exact verbLetters

/-- A text in which the parts of a route stand begins with a verb and ends with a word. -/
theorem StandsIn.isTrimmed
    {parts : RouteLine}
    {text : List Char}
    (stands : parts.StandsIn text) :
    IsTrimmed text where
  head letter isHead := by
    have startsText {verbs after : List Char}
        (verbs_ne_nil : verbs ≠ [])
        (verbLetters : ∀ letter ∈ verbs, isVerbLetter letter = true)
        (isHead : letter ∈ (verbs ++ ':' :: after).head?) :
        isBlank letter = false := by
      obtain ⟨first, others, rfl⟩ := List.exists_cons_of_ne_nil verbs_ne_nil
      cases Option.some.inj isHead
      exact isBlank_of_isVerbLetter (verbLetters letter (by simp))
    cases stands with
    | unnamed verbs_ne_nil verbLetters _ =>
        exact startsText verbs_ne_nil verbLetters isHead
    | named verbs_ne_nil verbLetters _ _ _ _ =>
        exact startsText verbs_ne_nil verbLetters isHead
  last letter isLast := by
    cases stands with
    | unnamed _ _ isPath =>
        apply isPath.isTrimmed.last
        obtain ⟨first, others, rfl⟩ := List.exists_cons_of_ne_nil isPath.ne_nil
        simpa using isLast
    | named _ _ _ _ _ isName =>
        apply isName.isTrimmed.last
        obtain ⟨first, others, rfl⟩ := List.exists_cons_of_ne_nil isName.ne_nil
        simpa [List.getLast?_cons, List.getLast?_append] using isLast

theorem colon_notMem
    {verbs : List Char}
    (verbLetters : ∀ letter ∈ verbs, isVerbLetter letter = true) :
    ':' ∉ verbs :=
  fun member => absurd (verbLetters ':' member) (by decide)

/-- What stands after the verbs is a path, or a path and a name. -/
theorem ofText?_of_pieces
    {verbs after : List Char}
    (verbs_ne_nil : verbs ≠ [])
    (verbLetters : ∀ letter ∈ verbs, isVerbLetter letter = true)
    (after_ne_nil : after ≠ [])
    (startsUnbroken : ∀ letter ∈ after.head?, isBlank letter = false) :
    ofText? (verbs ++ ':' :: after) =
      match pieces after with
      | [path] => some ⟨verbs, path, none⟩
      | [path, name] => some ⟨verbs, path, some name⟩
      | _ => none := by
  have found : cutFirst? ':' (verbs ++ ':' :: after) = some (verbs, after) :=
    cutFirst?_eq_some_iff.mpr ⟨rfl, colon_notMem verbLetters⟩
  have accepted :
      (verbs.isEmpty || !verbs.all isVerbLetter || after.head?.all isBlank) = false := by
    cases after with
    | nil =>
        exact absurd rfl after_ne_nil
    | cons letter rest =>
        have notBlank := startsUnbroken letter (by simp)
        simpa [verbs_ne_nil, notBlank] using verbLetters
  rw [ofText?, found]
  refine if_neg ?_
  rw [accepted]
  exact Bool.false_ne_true

/-- The parts that stand in a line are those that are found. -/
theorem ofText?_of_standsIn
    {parts : RouteLine}
    {text : List Char}
    (stands : parts.StandsIn text) :
    ofText? text = some parts := by
  cases stands with
  | @unnamed verbs path verbs_ne_nil verbLetters isPath =>
      rw [ofText?_of_pieces verbs_ne_nil verbLetters isPath.ne_nil isPath.isTrimmed.head,
        pieces_of_isWord isPath]
  | @named verbs path gap name verbs_ne_nil verbLetters isPath gap_ne_nil isGap isName =>
      have apart : ∀ letter ∈ (gap ++ name).head?, isBlank letter = true := by
        cases gap with
        | nil =>
            exact absurd rfl gap_ne_nil
        | cons letter others =>
            simpa using isGap letter (by simp)
      have areBoth : pieces (path ++ (gap ++ name)) = [path, name] := by
        rw [pieces_append_of_isWord isPath apart, pieces_append_of_isGap isGap,
          pieces_of_isWord isName]
      have startsUnbroken :
          ∀ letter ∈ (path ++ (gap ++ name)).head?, isBlank letter = false := by
        intro letter isHead
        cases path with
        | nil =>
            exact absurd rfl isPath.ne_nil
        | cons first others =>
            exact isPath.isTrimmed.head letter (by simpa using isHead)
      rw [ofText?_of_pieces verbs_ne_nil verbLetters (by simp [isPath.ne_nil]) startsUnbroken,
        areBoth]

/-- The parts that are found stand in the line. -/
theorem standsIn_of_ofText?
    {parts : RouteLine}
    {text : List Char}
    (isTrimmed : IsTrimmed text)
    (found : ofText? text = some parts) :
    parts.StandsIn text := by
  unfold ofText? at found
  split at found
  · simp at found
  · next verbs after isCut =>
      obtain ⟨rfl, -⟩ := cutFirst?_eq_some_iff.mp isCut
      split at found
      · simp at found
      · next accepted =>
          have accepted :
              verbs ≠ [] ∧ (∀ letter ∈ verbs, isVerbLetter letter = true) ∧
                after.head?.all isBlank = false := by
            simpa [and_assoc] using accepted
          obtain ⟨verbs_ne_nil, verbLetters, started⟩ := accepted
          have afterTrimmed : IsTrimmed after :=
            { head := by
                intro letter isHead
                rw [Option.mem_def] at isHead
                simpa [isHead] using started
              last := by
                intro letter isLast
                apply isTrimmed.last
                rw [Option.mem_def] at isLast
                simp [List.getLast?_append, List.getLast?_cons, isLast] }
          split at found
          · next path isOnly =>
              cases found
              obtain ⟨rfl, isPath⟩ := eq_of_pieces_eq_singleton afterTrimmed isOnly
              exact .unnamed verbs_ne_nil verbLetters isPath
          · next path name areBoth =>
              cases found
              obtain ⟨gap, rfl, gap_ne_nil, isGap, isPath, isName⟩ :=
                exists_gap_of_pieces_eq_pair afterTrimmed areBoth
              exact .named verbs_ne_nil verbLetters isPath gap_ne_nil isGap isName
          · simp at found

/-- The words among the verbs are made of their letters. -/
theorem StandsIn.ascii_of_mem_words
    {parts : RouteLine}
    {text : List Char}
    (stands : parts.StandsIn text)
    {word : List Char}
    (member : word ∈ parts.words) :
    ∀ letter ∈ word, letter.toNat < 0x80 := by
  obtain ⟨inSplit, _⟩ := List.mem_filter.mp member
  rw [List.splitOn_eq_splitOnP, ← cut_eq_splitOnP] at inSplit
  intro letter isLetter
  have stood := stands.verbLetters letter (mem_of_mem_cut inSplit isLetter)
  simp only [isVerbLetter, Bool.or_eq_true, beq_iff_eq] at stood
  rcases stood with isAlpha | rfl
  · exact (Letter.code_of_isAlpha isAlpha).2
  · decide

/-- A route says what the parts of a line say; where these have no name it has the usual one. -/
structure Declares
    (parts : RouteLine)
    (controller action : String)
    (route : Route) :
    Prop where
  verbs_spelled :
    List.Forall₂ (fun word verb => Verb.SpelledBy verb word) parts.words route.verbs
  path_eq : route.path = String.ofList parts.path
  name_eq :
    route.name = (parts.name.map String.ofList).getD (usualRouteName controller action)
  guessed_eq : route.guessed = false

end RouteLine

/-- A word is a verb exactly when it spells one. -/
theorem verbOf_eq_ok_iff
    {owner : String}
    {word : List Char}
    (ascii : ∀ letter ∈ word, letter.toNat < 0x80)
    {verb : Verb} :
    verbOf owner word = .ok verb ↔ verb.SpelledBy word := by
  rw [← Verb.ofWord?_eq_some_iff ascii, verbOf]
  cases Verb.ofWord? (String.ofList word) <;> simp

/-- A word that spells no verb is reported as a missing one. -/
theorem verbOf_eq_error_iff
    {owner : String}
    {word : List Char}
    (ascii : ∀ letter ∈ word, letter.toNat < 0x80)
    {cause : ResolveError} :
    verbOf owner word = .error cause ↔
      (∀ verb : Verb, ¬verb.SpelledBy word) ∧
        cause = .missing .verb (String.ofList word) (owner ++ ".route") := by
  simp only [← Verb.ofWord?_eq_some_iff ascii, verbOf]
  cases Verb.ofWord? (String.ofList word) <;> simp [eq_comm]

/-! Reading a line. -/

section

variable {controller action owner line : String}

/-- What is read of a line in which the parts of a route stand. -/
theorem declaredRoute_of_standsIn
    {parts : RouteLine}
    (stands : parts.StandsIn (trimBoth isBlank line.toList)) :
    declaredRoute controller action owner line =
      (collect (verbOf owner) parts.words).map fun verbs =>
        ⟨verbs, String.ofList parts.path,
          (parts.name.map String.ofList).getD (usualRouteName controller action), false⟩ := by
  have sameWords : ((cut (· == '|') parts.verbs).filter fun word => !word.isEmpty) =
      parts.words := by
    rw [cut_eq_splitOnP, ← List.splitOn_eq_splitOnP, RouteLine.words]
  simp only [declaredRoute, RouteLine.ofText?_of_standsIn stands, sameWords]
  cases collect (verbOf owner) parts.words with
  | error cause =>
      rfl
  | ok verbs =>
      cases parts.name <;> rfl

/-- A line in which no parts of a route stand is refused. -/
theorem declaredRoute_of_forall_not_standsIn
    (noParts : ∀ parts : RouteLine, ¬parts.StandsIn (trimBoth isBlank line.toList)) :
    declaredRoute controller action owner line = .error (.malformed owner (.routeShape line)) := by
  have notFound : RouteLine.ofText? (trimBoth isBlank line.toList) = none := by
    rw [Option.eq_none_iff_forall_ne_some]
    intro parts found
    exact noParts parts (RouteLine.standsIn_of_ofText? (isTrimmed_trimBoth _) found)
  simp only [declaredRoute, notFound]
  rfl

/-- Verbs are collected of the words that spell them. -/
theorem collect_verbOf_eq_ok_iff
    {parts : RouteLine}
    {text : List Char}
    (stands : parts.StandsIn text)
    {verbs : List Verb} :
    collect (verbOf owner) parts.words = .ok verbs ↔
      List.Forall₂ (fun word verb => Verb.SpelledBy verb word) parts.words verbs := by
  have ascii : ∀ word ∈ parts.words, ∀ letter ∈ word, letter.toNat < 0x80 :=
    fun _ member => stands.ascii_of_mem_words member
  rw [collect_eq_ok_iff]
  constructor
  · intro collected
    refine ((List.forall₂_and_left _ _).mpr ⟨ascii, collected⟩).imp ?_
    rintro word verb ⟨isAscii, isVerb⟩
    exact (verbOf_eq_ok_iff isAscii).mp isVerb
  · intro spelled
    refine ((List.forall₂_and_left _ _).mpr ⟨ascii, spelled⟩).imp ?_
    rintro word verb ⟨isAscii, isSpelled⟩
    exact (verbOf_eq_ok_iff isAscii).mpr isSpelled

/-- A route is read of a line exactly when its parts stand in the line and say what it says. -/
theorem declaredRoute_eq_ok_iff
    {route : Route} :
    declaredRoute controller action owner line = .ok route ↔
      ∃ parts : RouteLine,
        parts.StandsIn (trimBoth isBlank line.toList) ∧
          parts.Declares controller action route := by
  constructor
  · intro read
    by_cases hasParts : ∃ parts : RouteLine, parts.StandsIn (trimBoth isBlank line.toList)
    · obtain ⟨parts, stands⟩ := hasParts
      rw [declaredRoute_of_standsIn stands, map_eq_ok_iff] at read
      obtain ⟨verbs, collected, rfl⟩ := read
      exact ⟨parts, stands, (collect_verbOf_eq_ok_iff stands).mp collected, rfl, rfl, rfl⟩
    · rw [declaredRoute_of_forall_not_standsIn (not_exists.mp hasParts)] at read
      cases read
  · rintro ⟨parts, stands, declares⟩
    obtain ⟨verbs, path, name, guessed⟩ := route
    obtain ⟨areVerbs, rfl, rfl, rfl⟩ := declares
    rw [declaredRoute_of_standsIn stands, map_eq_ok_iff]
    exact ⟨verbs, (collect_verbOf_eq_ok_iff stands).mpr areVerbs, rfl⟩

/-- No route is read of a line that has not the form of one, or in which a word among the verbs is
none; the first such word is the one that is reported. -/
theorem declaredRoute_eq_error_iff
    {cause : ResolveError} :
    declaredRoute controller action owner line = .error cause ↔
      ((∀ parts : RouteLine, ¬parts.StandsIn (trimBoth isBlank line.toList)) ∧
          cause = .malformed owner (.routeShape line)) ∨
        ∃ parts : RouteLine, ∃ known unknown later,
          parts.StandsIn (trimBoth isBlank line.toList) ∧
            parts.words = known ++ unknown :: later ∧
            (∀ word ∈ known, ∃ verb : Verb, verb.SpelledBy word) ∧
            (∀ verb : Verb, ¬verb.SpelledBy unknown) ∧
            cause = .missing .verb (String.ofList unknown) (owner ++ ".route") := by
  constructor
  · intro failed
    by_cases hasParts : ∃ parts : RouteLine, parts.StandsIn (trimBoth isBlank line.toList)
    · obtain ⟨parts, stands⟩ := hasParts
      rw [declaredRoute_of_standsIn stands, map_eq_error_iff, collect_eq_error_iff] at failed
      obtain ⟨known, unknown, later, split, succeeded, fails⟩ := failed
      have ascii : ∀ word ∈ parts.words, ∀ letter ∈ word, letter.toNat < 0x80 :=
        fun _ member => stands.ascii_of_mem_words member
      rw [verbOf_eq_error_iff (ascii unknown (by simp [split]))] at fails
      refine .inr ⟨parts, known, unknown, later, stands, split, ?_, fails⟩
      intro word isKnown
      obtain ⟨verb, isVerb⟩ := succeeded word isKnown
      exact ⟨verb, (verbOf_eq_ok_iff (ascii word (by simp [split, isKnown]))).mp isVerb⟩
    · rw [not_exists] at hasParts
      rw [declaredRoute_of_forall_not_standsIn hasParts, Except.error.injEq] at failed
      exact .inl ⟨hasParts, failed.symm⟩
  · rintro (⟨noParts, rfl⟩ | ⟨parts, known, unknown, later, stands, split, areVerbs, isNone, rfl⟩)
    · exact declaredRoute_of_forall_not_standsIn noParts
    · have ascii : ∀ word ∈ parts.words, ∀ letter ∈ word, letter.toNat < 0x80 :=
        fun _ member => stands.ascii_of_mem_words member
      rw [declaredRoute_of_standsIn stands, map_eq_error_iff, collect_eq_error_iff]
      refine ⟨known, unknown, later, split, ?_, ?_⟩
      · intro word isKnown
        obtain ⟨verb, spelled⟩ := areVerbs word isKnown
        exact ⟨verb, (verbOf_eq_ok_iff (ascii word (by simp [split, isKnown]))).mpr spelled⟩
      · exact (verbOf_eq_error_iff (ascii unknown (by simp [split]))).mpr ⟨isNone, rfl⟩

end

/-! Lines as they are written. -/

/-- A verb in letters of either case. -/
structure WrittenVerb where
  verb : Verb
  letters : List Char
  spelled : verb.SpelledBy letters

/-- A name with the gap before it. -/
structure WrittenName where
  gap : List Char
  letters : List Char
  gap_ne_nil : gap ≠ []
  isGap : IsGap gap
  isName : IsWord letters

/-- A route as it is written: at least one verb, a path, and a name if it is given one. -/
structure WrittenRoute where
  verbs : List WrittenVerb
  path : List Char
  name : Option WrittenName
  verbs_ne_nil : verbs ≠ []
  isPath : IsWord path

namespace WrittenRoute

variable (written : WrittenRoute)

/-- The verbs between bars. -/
def verbLetters :
    List Char :=
  ['|'].intercalate (written.verbs.map (·.letters))

/-- The line, without gaps around it. -/
def text :
    List Char :=
  match written.name with
  | none => written.verbLetters ++ ':' :: written.path
  | some name => written.verbLetters ++ ':' :: (written.path ++ (name.gap ++ name.letters))

/-- The parts of the line. -/
def parts :
    RouteLine :=
  ⟨written.verbLetters, written.path, written.name.map (·.letters)⟩

/-- The route that is meant. -/
def route
    (controller action : String) :
    Route where
  verbs := written.verbs.map (·.verb)
  path := String.ofList written.path
  name :=
    (written.name.map fun name => String.ofList name.letters).getD
      (usualRouteName controller action)
  guessed := false

/-- Verbs and bars are written with verb letters. -/
theorem isVerbLetter_of_mem_verbLetters :
    ∀ letter ∈ written.verbLetters, isVerbLetter letter = true := by
  refine forall_mem_intercalate (by simp [isVerbLetter]) ?_
  intro letters inVerbs letter member
  obtain ⟨verb, _, rfl⟩ := List.mem_map.mp inVerbs
  simp [isVerbLetter, verb.spelled.isAlpha letter member]

theorem verbLetters_ne_nil :
    written.verbLetters ≠ [] := by
  cases verbsShape : written.verbs with
  | nil =>
      exact absurd verbsShape written.verbs_ne_nil
  | cons verb others =>
      cases others with
      | nil =>
          simpa [verbLetters, verbsShape] using verb.spelled.ne_nil
      | cons next later =>
          simp [verbLetters, verbsShape, verb.spelled.ne_nil]

theorem parts_standsIn :
    written.parts.StandsIn written.text := by
  cases nameShape : written.name with
  | none =>
      simpa [parts, text, nameShape] using
        RouteLine.StandsIn.unnamed written.verbLetters_ne_nil
          written.isVerbLetter_of_mem_verbLetters written.isPath
  | some name =>
      simpa [parts, text, nameShape] using
        RouteLine.StandsIn.named written.verbLetters_ne_nil
          written.isVerbLetter_of_mem_verbLetters written.isPath name.gap_ne_nil name.isGap
          name.isName

/-- Nothing is lost between the bars, since no verb has a bar and none is without letters. -/
theorem words_parts :
    written.parts.words = written.verbs.map (·.letters) := by
  have noBar : ∀ letters ∈ written.verbs.map (·.letters), '|' ∉ letters := by
    intro letters inVerbs member
    obtain ⟨verb, _, rfl⟩ := List.mem_map.mp inVerbs
    exact absurd (verb.spelled.isAlpha '|' member) (by decide)
  have isSplit :
      written.verbLetters.splitOn '|' = written.verbs.map (·.letters) :=
    List.splitOn_intercalate '|' noBar (by simpa using written.verbs_ne_nil)
  rw [RouteLine.words, parts, isSplit, List.filter_eq_self]
  intro letters inVerbs
  obtain ⟨verb, _, rfl⟩ := List.mem_map.mp inVerbs
  simpa using verb.spelled.ne_nil

/-- The parts of a written line declare the route that it was written for. -/
theorem parts_declares
    (controller action : String) :
    written.parts.Declares controller action (written.route controller action) where
  verbs_spelled := by
    rw [words_parts, route, List.forall₂_map_left_iff, List.forall₂_map_right_iff,
      List.forall₂_same]
    exact fun verb _ => verb.spelled
  path_eq := rfl
  name_eq := by
    rw [parts, route, Option.map_map]
    rfl
  guessed_eq := rfl

end WrittenRoute

/-- A route line is read as it was written, whatever gaps stand around it; a route is read only of
a line in which parts stand that declare it, the verbs being the words between the bars in order;
and a line is refused only for its form or for the first word that is no verb. -/
theorem declaredRoute_faithful
    (controller action owner : String) :
    (∀ written : WrittenRoute, ∀ before after : List Char,
        IsGap before →
          IsGap after →
            declaredRoute controller action owner
                (String.ofList (before ++ (written.text ++ after))) =
              .ok (written.route controller action)) ∧
      (∀ line : String, ∀ route : Route,
        declaredRoute controller action owner line = .ok route ↔
          ∃ parts : RouteLine,
            parts.StandsIn (trimBoth isBlank line.toList) ∧
              parts.Declares controller action route) ∧
      ∀ line : String, ∀ cause : ResolveError,
        declaredRoute controller action owner line = .error cause ↔
          ((∀ parts : RouteLine, ¬parts.StandsIn (trimBoth isBlank line.toList)) ∧
              cause = .malformed owner (.routeShape line)) ∨
            ∃ parts : RouteLine, ∃ known unknown later,
              parts.StandsIn (trimBoth isBlank line.toList) ∧
                parts.words = known ++ unknown :: later ∧
                (∀ word ∈ known, ∃ verb : Verb, verb.SpelledBy word) ∧
                (∀ verb : Verb, ¬verb.SpelledBy unknown) ∧
                cause = .missing .verb (String.ofList unknown) (owner ++ ".route") := by
  refine ⟨?_, fun _ _ => declaredRoute_eq_ok_iff, fun _ _ => declaredRoute_eq_error_iff⟩
  intro written before after isGap afterIsGap
  rw [declaredRoute_eq_ok_iff, String.toList_ofList,
    trimBoth_of_isTrimmed isGap written.parts_standsIn.isTrimmed afterIsGap]
  exact ⟨written.parts, written.parts_standsIn, written.parts_declares controller action⟩

theorem declaredRoute_draftLine :
    declaredRoute "PostController" "show" "PostController.show"
        " Get|POST:posts/\x7bpost\x7d:draft \t posts.show\n" =
      .ok ⟨[.get, .post], "posts/\x7bpost\x7d:draft", "posts.show", false⟩ ∧
    declaredRoute "PostController" "show" "PostController.show" "get||send:posts" =
      .error (.missing .verb "send" "PostController.show.route") := by
  obtain ⟨reads, _, refuses⟩ :=
    declaredRoute_faithful "PostController" "show" "PostController.show"
  let written : WrittenRoute :=
    { verbs := [⟨.get, ['G', 'e', 't'], rfl⟩, ⟨.post, ['P', 'O', 'S', 'T'], rfl⟩]
      path := "posts/\x7bpost\x7d:draft".toList
      name := some
        ⟨[' ', '\t', ' '], "posts.show".toList, by decide, by decide, by decide⟩
      verbs_ne_nil := by decide
      isPath := by decide }
  constructor
  · exact reads written [' '] ['\n'] (by decide) (by decide)
  · rw [refuses]
    refine .inr ⟨⟨"get||send".toList, "posts".toList, none⟩, ["get".toList], "send".toList, [],
      ?_, by decide, ?_, ?_, rfl⟩
    · exact .unnamed (by decide) (by simp [isVerbLetter]) (by decide)
    · exact fun word isGet => ⟨.get, List.mem_singleton.mp isGet ▸ rfl⟩
    · intro verb
      cases verb <;> decide

end Resolution

end Blueprint
