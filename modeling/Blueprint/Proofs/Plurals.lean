import Mathlib.Data.List.Infix
import Mathlib.Data.String.Basic
import Blueprint.Naming.Plural
import Blueprint.Proofs.CaseConversions

namespace Blueprint

/-!
# Plurals of words

The plural of a word is the word itself, a plural of its own, or the word with an ending, after the
last letter or in place of a final `y`. So it is a word again, with a capital initial if the word
has one, and the plural of a word in small letters is its plural in small letters. A final `y` is a
character of one byte, whatever stands before it.
-/

namespace Naming

open Letter

/-- A rule by which a word may get its plural. -/
inductive Inflects :
    List Char →
    List Char →
    Prop
  | same
      (word : List Char) :
      Inflects word word
  | small
      (word : List Char)
      (entry : String × String)
      (isEntry : entry ∈ irregular)
      (notCapital : ¬StartsCapital word) :
      Inflects word entry.2.toList
  | capital
      (word : List Char)
      (entry : String × String)
      (isEntry : entry ∈ irregular) :
      Inflects word (capitalize entry.2.toList)
  | longer
      (word ending : List Char)
      (isEnding : ending = ['s'] ∨ ending = ['e', 's']) :
      Inflects word (word ++ ending)
  | finalY
      (head last : Char)
      (others : List Char)
      (isY : last = 'y' ∨ last = 'Y') :
      Inflects (head :: others ++ [last]) (head :: others ++ ['i', 'e', 's'])

/-! Words that end in a `y`. -/

theorem getLast?_of_endsInConsonantY
    {text : List Char}
    (ends : endsInConsonantY text = true) :
    text.getLast? = some 'y' := by
  rw [List.getLast?_eq_head?_reverse]
  unfold endsInConsonantY at ends
  split at ends
  · next reversed =>
    rw [reversed, List.head?_cons]
  · exact absurd ends (by decide)

/-- A word that ends in a `y` after a consonant, in letters of either case, has two letters. -/
theorem exists_of_endsInConsonantY
    {word : List Char}
    (ends : endsInConsonantY (lowerText word) = true) :
    ∃ head others last, word = head :: others ++ [last] ∧ (last = 'y' ∨ last = 'Y') := by
  obtain ⟨before, last, rfl, isY⟩ :=
    exists_eq_concat_of_getLast?_lowerText (getLast?_of_endsInConsonantY ends)
  -- A `y` alone has nothing before it, and the rule is not for it.
  cases before with
  | nil =>
      rcases isY with rfl | rfl <;> exact absurd ends (by decide)
  | cons head others =>
      exact ⟨head, others, last, rfl, isY⟩

/-- The regular plural of a word only changes its ending. -/
theorem inflects_regularPlural
    (word : List Char) :
    Inflects word (regularPlural word) := by
  unfold regularPlural
  split
  · exact .longer word _ (.inr rfl)
  · split
    · next ends =>
      obtain ⟨head, others, last, rfl, isY⟩ := exists_of_endsInConsonantY ends
      rw [List.dropLast_concat]
      exact .finalY head last others isY
    · exact .longer word _ (.inl rfl)

/-- A word that is not its own plural gets its irregular plural, or else the regular one. -/
theorem pluralize_of_countable
    {word : List Char}
    (countable : ¬uncountable.contains (String.ofList (lowerText word)) = true) :
    pluralize word =
      match irregular.lookup (String.ofList (lowerText word)) with
      | some form => if StartsCapital word then capitalize form.toList else form.toList
      | none => regularPlural word := by
  unfold pluralize
  rw [if_neg countable]
  cases irregular.lookup (String.ofList (lowerText word)) with
  | none =>
      rfl
  | some form =>
      cases word <;> simp [StartsCapital]

/-- The plural of a word is formed by one of the rules. -/
theorem inflects_pluralize
    (word : List Char) :
    Inflects word (pluralize word) := by
  by_cases isUncountable : uncountable.contains (String.ofList (lowerText word)) = true
  · rw [pluralize, if_pos isUncountable]
    exact .same word
  · rw [pluralize_of_countable isUncountable]
    cases isForm : irregular.lookup (String.ofList (lowerText word)) with
    | none =>
        exact inflects_regularPlural word
    | some form =>
        have isEntry := mem_of_lookup isForm
        dsimp only
        split
        · exact .capital word _ isEntry
        · next notCapital =>
          exact .small word _ isEntry notCapital

/-! Shapes of plurals. -/

/-- Irregular plurals are words, capitalized or not. -/
theorem isNameWord_irregular :
    ∀ entry ∈ irregular,
      IsNameWord entry.2.toList ∧ IsNameWord (capitalize entry.2.toList) := by
  decide +kernel

theorem isAscii_irregular :
    ∀ entry ∈ irregular, IsAscii entry.2.toList ∧ IsAscii (capitalize entry.2.toList) := by
  decide +kernel

/-- Irregular plurals start with a capital letter once they are capitalized. -/
theorem startsCapital_capitalize_irregular :
    ∀ entry ∈ irregular, StartsCapital (capitalize entry.2.toList) := by
  decide +kernel

namespace Inflects

variable {word form : List Char}

/-- The plural of a word is one word. -/
theorem isNameWord
    (inflects : Inflects word form)
    (isWord : IsNameWord word) :
    IsNameWord form := by
  cases inflects with
  | same _ =>
      exact isWord
  | small _ entry isEntry notCapital =>
      exact (isNameWord_irregular entry isEntry).1
  | capital _ entry isEntry =>
      exact (isNameWord_irregular entry isEntry).2
  | longer _ ending isEnding =>
      rcases isEnding with rfl | rfl <;>
        exact isWord.append (by simp [IsInner, isSeparator, isUpper])
  | finalY head last others isY =>
      obtain ⟨headWhole, restInner⟩ := isNameWord_cons_iff.mp isWord
      have isStem : IsNameWord (head :: others) :=
        .cons head others headWhole (List.forall_mem_append.mp restInner).1
      exact isStem.append (by simp [IsInner, isSeparator, isUpper])

theorem isAscii
    (inflects : Inflects word form)
    (ascii : IsAscii word) :
    IsAscii form := by
  cases inflects with
  | same _ =>
      exact ascii
  | small _ entry isEntry notCapital =>
      exact (isAscii_irregular entry isEntry).1
  | capital _ entry isEntry =>
      exact (isAscii_irregular entry isEntry).2
  | longer _ ending isEnding =>
      rcases isEnding with rfl | rfl <;> exact ascii.append (by decide)
  | finalY head last others isY =>
      have stemAscii : IsAscii (head :: others) := (List.forall_mem_append.mp ascii).1
      exact stemAscii.append (by decide)

/-- The plural of a word with a capital initial has one as well. -/
theorem startsCapital
    (inflects : Inflects word form)
    (isCapital : StartsCapital word) :
    StartsCapital form := by
  cases inflects with
  | same _ =>
      exact isCapital
  | small _ entry isEntry notCapital =>
      exact absurd isCapital notCapital
  | capital _ entry isEntry =>
      exact startsCapital_capitalize_irregular entry isEntry
  | longer _ ending isEnding =>
      obtain ⟨head, isHead, isUpper⟩ := isCapital
      exact ⟨head, by simp [Option.mem_def.mp isHead], isUpper⟩
  | finalY head last others isY =>
      exact isCapital

end Inflects

/-! Plurals in small letters. -/

/-- Irregular plurals are listed in small letters. -/
theorem lowerText_irregular :
    ∀ entry ∈ irregular,
      lowerText entry.2.toList = entry.2.toList ∧
        lowerText (capitalize entry.2.toList) = entry.2.toList := by
  decide +kernel

variable {word : List Char}

/-- An ASCII text is put in small letters part by part. -/
theorem lowerText_append_of_ascii
    {ending : List Char}
    (ascii : IsAscii word)
    (endingAscii : IsAscii ending) :
    lowerText (word ++ ending) = lowerText word ++ lowerText ending := by
  rw [lowerText_of_ascii (ascii.append endingAscii), List.map_append, lowerText_of_ascii ascii,
    lowerText_of_ascii endingAscii]

/-- The regular plural may be formed before or after a word is put in small letters. -/
theorem lowerText_regularPlural
    (ascii : IsAscii word) :
    lowerText (regularPlural word) = regularPlural (lowerText word) := by
  have again := lowerText_lowerText_of_ascii ascii
  unfold regularPlural
  rw [again]
  split
  · exact lowerText_append_of_ascii ascii (by decide)
  · split
    · have stemAscii : IsAscii word.dropLast := fun letter inStem =>
        ascii letter (List.mem_of_mem_dropLast inStem)
      rw [lowerText_append_of_ascii stemAscii (by decide), lowerText_of_ascii stemAscii,
        List.map_dropLast, lowerText_of_ascii ascii]
      rfl
    · exact lowerText_append_of_ascii ascii (by decide)

/-- A word in small letters does not start with a capital one. -/
theorem not_startsCapital_lowerText
    (ascii : IsAscii word) :
    ¬StartsCapital (lowerText word) := by
  rintro ⟨head, isHead, isCapital⟩
  rw [lowerText_of_ascii ascii, List.head?_map, Option.mem_def, Option.map_eq_some_iff] at isHead
  obtain ⟨letter, isFirst, rfl⟩ := isHead
  have isAscii := ascii letter (List.mem_of_mem_head? isFirst)
  rw [isUpper_of_ascii (toLower_ascii isAscii), isUpper_toLower_of_ascii isAscii] at isCapital
  exact absurd isCapital (by decide)

/-- The plural of a word in small letters is its plural in small letters. -/
theorem lowerText_pluralize
    (ascii : IsAscii word) :
    lowerText (pluralize word) = pluralize (lowerText word) := by
  have again := lowerText_lowerText_of_ascii ascii
  -- Words are looked up in small letters, so both sides are by the same rule.
  by_cases isUncountable : uncountable.contains (String.ofList (lowerText word)) = true
  · rw [pluralize, if_pos isUncountable, pluralize, again, if_pos isUncountable]
  · rw [pluralize_of_countable isUncountable, pluralize_of_countable (again.symm ▸ isUncountable),
      again]
    cases isForm : irregular.lookup (String.ofList (lowerText word)) with
    | none =>
        exact lowerText_regularPlural ascii
    | some form =>
        obtain ⟨ofForm, ofCapital⟩ := lowerText_irregular _ (mem_of_lookup isForm)
        dsimp only
        rw [if_neg (not_startsCapital_lowerText ascii)]
        split
        · exact ofCapital
        · exact ofForm

/-- In a text of the first characters small letters are those of the standard library. -/
theorem toLower_ofList
    (ascii : IsAscii word) :
    (String.ofList word).toLower = String.ofList (lowerText word) := by
  have eachLetter : (String.ofList word).toLower = (String.ofList word).map Char.toLower := rfl
  rw [eachLetter, ← String.toList_inj, String.toList_map, lowerText_of_ascii ascii,
    String.toList_ofList, String.toList_ofList]

/-- The plural may be formed before or after a name is put in small letters. -/
theorem plural_toLower
    {name : String}
    (ascii : IsAscii name.toList) :
    plural name.toLower = (plural name).toLower := by
  have lowered : name.toLower = String.ofList (lowerText name.toList) := by
    rw [← toLower_ofList ascii, String.ofList_toList]
  rw [lowered, plural, String.toList_ofList, ← lowerText_pluralize ascii, plural,
    toLower_ofList ((inflects_pluralize _).isAscii ascii)]

/-! The cut before a final `y`. -/

/-- The place of the last byte of a text. -/
def lastByte
    (text : String) :
    String.Pos.Raw :=
  ⟨text.utf8ByteSize - 1⟩

/-- No uncountable word ends in a consonant and a y. -/
theorem uncountable_not_endsInConsonantY :
    ∀ word ∈ uncountable, endsInConsonantY word.toList = false := by
  decide +kernel

/-- No word with an irregular plural ends in a consonant and a y. -/
theorem irregular_not_endsInConsonantY :
    ∀ entry ∈ irregular, endsInConsonantY entry.1.toList = false := by
  decide +kernel

/-- A word that ends in a y ends in no hiss. -/
theorem endsInHiss_of_endsInConsonantY
    {text : List Char}
    (ends : endsInConsonantY text = true) :
    endsInHiss text = false := by
  have isLast := getLast?_of_endsInConsonantY ends
  rw [List.getLast?_eq_head?_reverse] at isLast
  unfold endsInHiss
  cases reversed : text.reverse with
  | nil =>
      rfl
  | cons last others =>
      rw [reversed, List.head?_cons, Option.some.injEq] at isLast
      subst last
      rfl

/-- Where a word ends in a `y` after a consonant, its plural is by that rule. -/
theorem pluralize_of_endsInConsonantY
    (ends : endsInConsonantY (lowerText word) = true) :
    pluralize word = word.dropLast ++ ['i', 'e', 's'] := by
  have countable : ¬uncountable.contains (String.ofList (lowerText word)) = true := by
    intro contained
    have none := uncountable_not_endsInConsonantY _ (List.contains_iff_mem.mp contained)
    simp [ends] at none
  have unlisted : irregular.lookup (String.ofList (lowerText word)) = none := by
    rw [Option.eq_none_iff_forall_ne_some]
    intro form isForm
    have none := irregular_not_endsInConsonantY _ (mem_of_lookup isForm)
    simp [ends] at none
  rw [pluralize_of_countable countable, unlisted]
  dsimp only
  rw [regularPlural, if_neg (by simp [endsInHiss_of_endsInConsonantY ends]), if_pos ends]

/-- The cut of a final `y` is one of the last byte, and it leaves a text. -/
theorem plural_of_endsInConsonantY
    {name : String}
    (ends : endsInConsonantY (lowerText name.toList) = true) :
    (lastByte name).IsValid name ∧
      plural name = String.Pos.Raw.extract name 0 (lastByte name) ++ "ies" := by
  obtain ⟨head, others, last, shape, isY⟩ := exists_of_endsInConsonantY ends
  have joined : name = String.ofList (head :: others ++ [last]) := by
    rw [← shape, String.ofList_toList]
  have oneByte : last.utf8Size = 1 := by
    rcases isY with rfl | rfl <;> rfl
  have isEnd : lastByte name = ⟨String.utf8Len (head :: others)⟩ := by
    rw [lastByte, joined, String.utf8ByteSize_ofList, String.utf8Len_append,
      String.utf8Len_cons last, String.utf8Len_nil, Nat.zero_add, oneByte, Nat.add_sub_cancel]
  constructor
  · rw [String.Pos.Raw.isValid_iff_exists_append, isEnd, joined]
    refine ⟨String.ofList (head :: others), String.ofList [last], String.ofList_append, ?_⟩
    rw [String.rawEndPos, String.utf8ByteSize_ofList]
  · have cut := String.extract_of_valid [] (head :: others) [last]
    rw [List.nil_append, String.utf8Len_nil, Nat.zero_add] at cut
    rw [plural, pluralize_of_endsInConsonantY ends, shape, List.dropLast_concat,
      String.ofList_append, isEnd, joined]
    exact congrArg (· ++ "ies") cut.symm

end Naming

end Blueprint
