import Blueprint.Proofs.RouteLines

namespace Blueprint

/-!
# Lines written out again

A method is written as its name, a colon and the texts of its arguments between commas, a builder
line as its methods between spaces, and a directive line as its target and its arguments, literals
in single quotes. The methods that are read of builder lines are exactly those that can be written,
and what can be written is read back. A directive line is read back from what is written of it,
although not every literal was quoted when it was read first.
-/

open Text

/-! Identifiers. -/

/-- Letters and digits are beyond all other marks of a line. -/
theorem Letter.code_of_isAlphanum
    {letter : Char}
    (isAlphanum : letter.isAlphanum = true) :
    0x2F < letter.toNat ∧ letter.toNat < 0x80 := by
  rcases (Bool.or_eq_true _ _).mp isAlphanum with isAlpha | isDigit
  · obtain ⟨low, high⟩ := Letter.code_of_isAlpha isAlpha
    exact ⟨by omega, high⟩
  · obtain ⟨above, below⟩ := (Bool.and_eq_true _ _).mp isDigit
    have low : '0'.val ≤ letter.val := of_decide_eq_true above
    have high : letter.val ≤ '9'.val := of_decide_eq_true below
    rw [UInt32.le_iff_toNat_le] at low high
    have code : letter.toNat = letter.val.toNat := rfl
    have first : '0'.val.toNat = 48 := rfl
    have last : '9'.val.toNat = 57 := rfl
    omega

namespace Argument

/-- Identifiers are written with letters, digits and underscores. -/
theorem isAlphanum_or_of_isIdentifier
    {text : List Char}
    (isName : isIdentifier text = true) :
    ∀ letter ∈ text, letter.isAlphanum = true ∨ letter = '_' := by
  cases text with
  | nil =>
      simp
  | cons first rest =>
      simp only [isIdentifier, startsIdentifier, Bool.and_eq_true, Bool.or_eq_true, beq_iff_eq,
        List.all_eq_true] at isName
      obtain ⟨starts, goesOn⟩ := isName
      refine List.forall_mem_cons.mpr ⟨?_, goesOn⟩
      exact starts.imp_left fun isAlpha => (Bool.or_eq_true _ _).mpr (.inl isAlpha)

/-- No blank, point or comma is in an identifier. -/
theorem plain_of_isIdentifier
    {text : List Char}
    (isName : isIdentifier text = true) :
    ∀ letter ∈ text, isBlank letter = false ∧ letter ≠ '.' ∧ letter ≠ ',' := by
  intro letter member
  rcases isAlphanum_or_of_isIdentifier isName letter member with isAlphanum | rfl
  · obtain ⟨low, high⟩ := Letter.code_of_isAlphanum isAlphanum
    refine ⟨?_, ?_, ?_⟩
    · simp [isBlank]
      omega
    · rintro rfl
      exact absurd low (by decide)
    · rintro rfl
      exact absurd low (by decide)
  · decide

/-- Two identifiers with a point between them. -/
def JoinsIdentifiers
    (text : List Char) :
    Prop :=
  ∃ name property,
    isIdentifier name = true ∧ isIdentifier property = true ∧ text = name ++ '.' :: property

/-- A reference is two identifiers with a dot between them. -/
theorem reference?_eq_some_iff
    {text name property : List Char} :
    reference? text = some (name, property) ↔
      isIdentifier name = true ∧ isIdentifier property = true ∧
        text = name ++ '.' :: property := by
  constructor
  · intro found
    unfold reference? at found
    split at found
    · next isCut =>
        split at found
        · next areBoth =>
            cases found
            obtain ⟨isName, isProperty⟩ := (Bool.and_eq_true _ _).mp areBoth
            exact ⟨isName, isProperty, (cutFirst?_eq_some_iff.mp isCut).1⟩
        · cases found
    · cases found
  · rintro ⟨isName, isProperty, rfl⟩
    have isCut : cutFirst? '.' (name ++ '.' :: property) = some (name, property) :=
      cutFirst?_eq_some_iff.mpr
        ⟨rfl, fun member => (plain_of_isIdentifier isName '.' member).2.1 rfl⟩
    simp [reference?, isCut, isName, isProperty]

theorem reference?_eq_none_iff
    {text : List Char} :
    reference? text = none ↔ ¬JoinsIdentifiers text := by
  rw [Option.eq_none_iff_forall_ne_some, JoinsIdentifiers]
  simp only [Prod.forall, ne_eq, reference?_eq_some_iff, not_exists]

instance
    (text : List Char) :
    Decidable (JoinsIdentifiers text) :=
  decidable_of_iff (¬reference? text = none) (by rw [reference?_eq_none_iff, not_not])

/-! Arguments of builder lines. -/

/-- An argument that can be written in a builder line: a literal is a word without commas, and not
in the form of a reference, which has a property. -/
inductive IsWritable :
    Argument →
    Prop where
  | literal
      {text : String}
      (isWord : IsWord text.toList)
      (noComma : ',' ∉ text.toList)
      (notJoined : ¬JoinsIdentifiers text.toList) :
      IsWritable (.literal text)
  | reference
      {name property : String}
      (isName : isIdentifier name.toList = true)
      (isProperty : isIdentifier property.toList = true) :
      IsWritable (.reference name (some property))

/-- What is read of an argument is all of it. -/
theorem text_ofBuilder
    (word : String) :
    (ofBuilder word).text = word := by
  unfold ofBuilder
  split
  · next name property found =>
      obtain ⟨_, _, split⟩ := reference?_eq_some_iff.mp found
      rw [text, ← String.toList_inj, split]
      simp
  · rfl

/-- What is read from a word can be written as that word. -/
theorem isWritable_ofBuilder
    {word : String}
    (isWord : IsWord word.toList)
    (noComma : ',' ∉ word.toList) :
    (ofBuilder word).IsWritable := by
  unfold ofBuilder
  split
  · next name property found =>
      obtain ⟨isName, isProperty, _⟩ := reference?_eq_some_iff.mp found
      exact .reference (by simpa using isName) (by simpa using isProperty)
  · next notFound =>
      exact .literal isWord noComma (reference?_eq_none_iff.mp notFound)

namespace IsWritable

variable {argument : Argument}

/-- A writable argument is read back from its text. -/
theorem ofBuilder_text
    (writable : argument.IsWritable) :
    ofBuilder argument.text = argument := by
  cases writable with
  | literal isWord noComma notJoined =>
      rw [text, ofBuilder, reference?_eq_none_iff.mpr notJoined]
  | @reference name property isName isProperty =>
      have found : reference? (name ++ "." ++ property).toList =
          some (name.toList, property.toList) :=
        reference?_eq_some_iff.mpr ⟨isName, isProperty, by simp⟩
      rw [text, ofBuilder, found]
      simp

/-- The text of an argument is a word in which no comma stands. -/
theorem isWord_text
    (writable : argument.IsWritable) :
    IsWord argument.text.toList ∧ ',' ∉ argument.text.toList := by
  cases writable with
  | literal isWord noComma _ =>
      exact ⟨isWord, noComma⟩
  | @reference name property isName isProperty =>
      have isPlain : ∀ letter ∈ (name ++ "." ++ property).toList,
          isBlank letter = false ∧ letter ≠ ',' := by
        simp only [String.toList_append, List.forall_mem_append]
        refine ⟨⟨?_, by simp [isBlank]⟩, ?_⟩
        · exact fun letter member =>
            (plain_of_isIdentifier isName letter member).imp_right And.right
        · exact fun letter member =>
            (plain_of_isIdentifier isProperty letter member).imp_right And.right
      exact ⟨⟨by simp [text], fun letter member => (isPlain letter member).1⟩,
        fun member => (isPlain ',' member).2 rfl⟩

end IsWritable

end Argument

/-! Builder lines. -/

namespace Method

/-- A method as it is written. -/
def written
    (method : Method) :
    String :=
  method.name ++ ":" ++ ",".intercalate method.texts

/-- The builder line on which methods are written. -/
def lineOf
    (methods : List Method) :
    String :=
  " ".intercalate (methods.map written)

/-- A method that can be written on a builder line. Its name may be empty. -/
structure IsWritable
    (method : Method) :
    Prop where
  name_unbroken : ∀ letter ∈ method.name.toList, isBlank letter = false
  name_noColon : ':' ∉ method.name.toList
  arguments_writable : ∀ argument ∈ method.arguments, argument.IsWritable

/-- A method is written as its name, a colon and its arguments with commas between them. -/
theorem toList_written
    (method : Method) :
    method.written.toList =
      method.name.toList ++ ':' :: [','].intercalate (method.texts.map String.toList) := by
  simp [written, String.toList_intercalate]

/-- Arguments are read back from between commas. If there is none, the only part is empty. -/
theorem argumentsOf_intercalate
    {arguments : List Argument}
    (writable : ∀ argument ∈ arguments, argument.IsWritable) :
    argumentsOf Argument.ofBuilder
        ([','].intercalate ((arguments.map Argument.text).map String.toList)) =
      arguments := by
  have kept : (cut (· == ',')
      ([','].intercalate ((arguments.map Argument.text).map String.toList))).filter
        (fun part => !part.isEmpty) =
      (arguments.map Argument.text).map String.toList := by
    have areWords : ∀ part ∈ (arguments.map Argument.text).map String.toList,
        IsWord part ∧ ',' ∉ part := by
      simpa using fun argument member => (writable argument member).isWord_text
    rw [cut_eq_splitOnP, ← List.splitOn_eq_splitOnP]
    generalize (arguments.map Argument.text).map String.toList = parts at areWords ⊢
    by_cases isEmpty : parts = []
    · subst isEmpty
      rfl
    · rw [List.splitOn_intercalate ',' (fun part member => (areWords part member).2) isEmpty,
        List.filter_eq_self]
      exact fun part member => by simpa using (areWords part member).1.ne_nil
  rw [argumentsOf, kept]
  simp only [List.map_map]
  refine (List.map_congr_left fun argument member => ?_).trans (List.map_id arguments)
  simpa using (writable argument member).ofBuilder_text

namespace IsWritable

variable {method : Method}

/-- A writable method is read back from what is written. -/
theorem ofBuilder_written
    (writable : method.IsWritable) :
    ofBuilder method.written = method := by
  have isCut := cutFirst?_eq_some_iff.mpr ⟨method.toList_written, writable.name_noColon⟩
  rw [ofBuilder, read, isCut]
  dsimp only
  rw [texts, argumentsOf_intercalate writable.arguments_writable, String.ofList_toList]

theorem isWord_written
    (writable : method.IsWritable) :
    IsWord method.written.toList := by
  rw [toList_written]
  refine ⟨by simp, List.forall_mem_append.mpr ⟨writable.name_unbroken, ?_⟩⟩
  refine List.forall_mem_cons.mpr ⟨by decide, forall_mem_intercalate (by simp [isBlank]) ?_⟩
  simpa [texts] using fun argument member =>
    (writable.arguments_writable argument member).isWord_text.1.unbroken

end IsWritable

/-- The methods on a line that is written are read back. -/
theorem ofLine_lineOf
    {methods : List Method}
    (writable : ∀ method ∈ methods, method.IsWritable) :
    ofLine (lineOf methods) = methods := by
  have areWords : ∀ word ∈ methods.map written, IsWord word.toList := by
    simpa using fun method member => (writable method member).isWord_written
  rw [ofLine, lineOf, piecesOf_intercalate areWords, List.map_map]
  refine (List.map_congr_left fun method member => ?_).trans (List.map_id methods)
  exact (writable method member).ofBuilder_written

/-- What stands between commas in a word is empty or a word without commas. -/
theorem isWritable_of_mem_argumentsOf
    {text : List Char}
    (unbroken : ∀ letter ∈ text, isBlank letter = false)
    {argument : Argument}
    (member : argument ∈ argumentsOf Argument.ofBuilder text) :
    argument.IsWritable := by
  obtain ⟨part, isPart, rfl⟩ := List.mem_map.mp member
  obtain ⟨inCut, notEmpty⟩ := List.mem_filter.mp isPart
  refine Argument.isWritable_ofBuilder ?_ ?_
  · rw [String.toList_ofList]
    refine ⟨by simpa using notEmpty, fun letter inPart => ?_⟩
    exact unbroken letter (mem_of_mem_cut inCut inPart)
  · rw [String.toList_ofList]
    exact fun isComma => by simpa using isSeparator_of_mem_cut inCut ',' isComma

theorem isWritable_ofBuilder
    {word : String}
    (isWord : IsWord word.toList) :
    (ofBuilder word).IsWritable := by
  unfold ofBuilder read
  split
  · next name arguments isCut =>
      obtain ⟨split, noColon⟩ := cutFirst?_eq_some_iff.mp isCut
      have unbroken := isWord.unbroken
      rw [split, List.forall_mem_append, List.forall_mem_cons] at unbroken
      obtain ⟨ofName, _, ofArguments⟩ := unbroken
      exact {
        name_unbroken := by simpa using ofName
        name_noColon := by simpa using noColon
        arguments_writable := fun _ member => isWritable_of_mem_argumentsOf ofArguments member }
  · next noCut =>
      exact {
        name_unbroken := isWord.unbroken
        name_noColon := cutFirst?_eq_none_iff.mp noCut
        arguments_writable := by simp }

/-- Methods that are read from a line can be written. -/
theorem isWritable_of_mem_ofLine
    {line : String}
    {method : Method}
    (member : method ∈ ofLine line) :
    method.IsWritable := by
  obtain ⟨word, isPiece, rfl⟩ := List.mem_map.mp member
  exact isWritable_ofBuilder (isWord_of_mem_piecesOf isPiece)

end Method

/-! Directive lines. -/

namespace Argument

/-- An argument as it is written in a directive line, where a bare word would not be literal. -/
def quoted :
    Argument →
    String
  | literal text => "'" ++ text ++ "'"
  | reference name none => name
  | reference name (some property) => name ++ "." ++ property

/-- Quotes around a text are taken off. -/
theorem unquoted?_quote
    (inner : List Char) :
    unquoted? ('\'' :: (inner ++ ['\''])) = some inner := by
  cases inner with
  | nil =>
      rfl
  | cons letter rest =>
      have isLast : (letter :: rest ++ ['\'']).getLast? = some '\'' := List.getLast?_concat
      have others : (letter :: rest ++ ['\'']).dropLast = letter :: rest := List.dropLast_concat
      exact (if_pos ⟨.inl rfl, isLast⟩).trans (congrArg some others)

/-- What stands between quotes stands in the text. -/
theorem mem_of_unquoted?
    {text inner : List Char}
    (found : unquoted? text = some inner)
    {letter : Char}
    (member : letter ∈ inner) :
    letter ∈ text := by
  unfold unquoted? at found
  split at found
  · split at found
    · cases found
      exact List.mem_cons_of_mem _ (List.dropLast_subset _ member)
    · cases found
  · cases found

/-- A word in a directive line is a literal without a blank in it, or it is the text of a
reference. -/
theorem cases_ofDirective
    {word : String}
    (isWord : IsWord word.toList) :
    (∃ text, ofDirective word = literal text ∧ ∀ letter ∈ text.toList, isBlank letter = false) ∨
      (ofDirective word).quoted = word := by
  unfold ofDirective
  split
  · next inner found =>
      refine .inl ⟨_, rfl, fun letter member => isWord.unbroken letter ?_⟩
      rw [String.toList_ofList] at member
      exact mem_of_unquoted? found member
  · split
    · exact .inl ⟨word, rfl, isWord.unbroken⟩
    · split
      · exact .inr rfl
      · unfold ofBuilder
        split
        · next name property found =>
            obtain ⟨_, _, split⟩ := reference?_eq_some_iff.mp found
            refine .inr ?_
            rw [quoted, ← String.toList_inj, split]
            simp
        · exact .inl ⟨word, rfl, isWord.unbroken⟩

/-- A quoted literal is read as that literal. -/
theorem ofDirective_quoted_literal
    (text : String) :
    ofDirective (literal text).quoted = literal text := by
  have isQuoted : (literal text).quoted.toList = '\'' :: (text.toList ++ ['\'']) := by
    simp [quoted]
  rw [ofDirective, isQuoted, unquoted?_quote]
  simp

/-- What is written of an argument is read as the same argument, and is a word. -/
theorem ofDirective_quoted
    {word : String}
    (isWord : IsWord word.toList) :
    ofDirective (ofDirective word).quoted = ofDirective word ∧
      IsWord (ofDirective word).quoted.toList := by
  rcases cases_ofDirective isWord with ⟨text, isLiteral, unbroken⟩ | same
  · rw [isLiteral]
    refine ⟨ofDirective_quoted_literal text, by simp [quoted], ?_⟩
    simp only [quoted, String.toList_append, List.forall_mem_append]
    have quoteUnbroken : ∀ letter ∈ "'".toList, isBlank letter = false := by
      simp [isBlank]
    exact ⟨⟨quoteUnbroken, unbroken⟩, quoteUnbroken⟩
  · rw [same]
    exact ⟨rfl, isWord⟩

end Argument

namespace Call

/-- A call as it is written. -/
def written
    (call : Call) :
    String :=
  " ".intercalate (call.target :: call.arguments.map Argument.quoted)

/-- A call that was read of a line is read back. -/
theorem ofLine?_written
    {line : String}
    {call : Call}
    (found : ofLine? line = some call) :
    ofLine? call.written = some call := by
  unfold ofLine? at found
  split at found
  · cases found
  · next target words arePieces =>
      cases found
      have areWords : ∀ word ∈ target :: words, IsWord word.toList :=
        fun word member => isWord_of_mem_piecesOf (arePieces ▸ member)
      obtain ⟨isTarget, areArguments⟩ := List.forall_mem_cons.mp areWords
      have areWritten :
          ∀ word ∈ target :: (words.map Argument.ofDirective).map Argument.quoted,
            IsWord word.toList := by
        refine List.forall_mem_cons.mpr ⟨isTarget, ?_⟩
        simpa using fun word member => (Argument.ofDirective_quoted (areArguments word member)).2
      rw [ofLine?, written, piecesOf_intercalate areWritten]
      simp only [List.map_map, Option.some.injEq, Call.mk.injEq, true_and]
      exact List.map_congr_left fun word member =>
        (Argument.ofDirective_quoted (areArguments word member)).1

end Call

/-- Methods that can be written on a line are read back from it, and no others are read of any
line; so reading a line, writing it and reading it again gives the same methods. What is read of an
argument keeps its text. A directive line is read back as well. -/
theorem lines_readBack :
    (∀ methods : List Method,
        (∀ method ∈ methods, method.IsWritable) →
          Method.ofLine (Method.lineOf methods) = methods) ∧
      (∀ line : String, ∀ method ∈ Method.ofLine line, method.IsWritable) ∧
      (∀ line : String,
        Method.ofLine (Method.lineOf (Method.ofLine line)) = Method.ofLine line) ∧
      (∀ token : String, (Argument.ofBuilder token).text = token) ∧
      ∀ line : String, ∀ call : Call,
        Call.ofLine? line = some call → Call.ofLine? call.written = some call := by
  refine ⟨fun _ => Method.ofLine_lineOf, fun _ _ => Method.isWritable_of_mem_ofLine, ?_,
    Argument.text_ofBuilder, fun _ _ => Call.ofLine?_written⟩
  exact fun line => Method.ofLine_lineOf fun _ => Method.isWritable_of_mem_ofLine

/-- A method without a name and one without arguments; lone, quoted and unfinished quotes. -/
theorem lines_readBack_mentionLine :
    Method.ofLine ":user.id,a:b unique:" =
        [⟨"", [.reference "user" (some "id"), .literal "a:b"]⟩, ⟨"unique", []⟩] ∧
      (∀ method ∈ Method.ofLine "string:a..b,, 'x", method.IsWritable) ∧
      Call.ofLine? "Mention '' 'it's' ''' '1.5' 'post' post post.title" =
        some
          ⟨"Mention",
            [.literal "", .literal "it's", .literal "'", .literal "1.5", .literal "post",
              .reference "post" none, .reference "post" (some "title")]⟩ := by
  obtain ⟨readsBack, areWritable, _, _, callsBack⟩ := lines_readBack
  let methods : List Method :=
    [⟨"", [.reference "user" (some "id"), .literal "a:b"]⟩, ⟨"unique", []⟩]
  have writable : ∀ method ∈ methods, method.IsWritable := by
    have isLiteral : (Argument.literal "a:b").IsWritable :=
      .literal (by decide) (by decide) (by decide)
    have isReference : (Argument.reference "user" (some "id")).IsWritable :=
      .reference (by decide) (by decide)
    refine List.forall_mem_cons.mpr ⟨⟨by simp, by simp, ?_⟩, ?_⟩
    · exact List.forall_mem_cons.mpr ⟨isReference, by simpa using isLiteral⟩
    · simpa using ⟨by simp [isBlank], by simp, by simp⟩
  have isRead :
      Call.ofLine? "Mention '' \"it's\" ' 1.5 \"post\" post post.title" =
        some
          ⟨"Mention",
            [.literal "", .literal "it's", .literal "'", .literal "1.5", .literal "post",
              .reference "post" none, .reference "post" (some "title")]⟩ := by
    decide +kernel
  exact ⟨readsBack methods writable, areWritable _, callsBack _ _ isRead⟩

end Blueprint
