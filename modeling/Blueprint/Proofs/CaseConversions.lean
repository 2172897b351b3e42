import Blueprint.Proofs.SmallForms
import Blueprint.Proofs.StudlyNames

namespace Blueprint

/-!
# Conversions of names

A name of the first 128 characters and what it is converted to have the same words up to the case of
their first letters. The snake form keeps its words apart by underscores, whatever they start with.
The studly and the camel form keep them apart by capital letters alone, and therefore only if every
word starts with a letter.
-/

namespace Naming

open Letter

/-- A word of the first 128 characters. -/
structure IsAsciiWord
    (word : List Char) :
    Prop where
  isNameWord : IsNameWord word
  ascii : IsAscii word

/-! First letters. -/

/-- The small form of a character is a separator exactly if the character is. -/
theorem isSeparator_toLower
    {letter : Char}
    (isAscii : letter.toNat < 0x80) :
    isSeparator letter.toLower = isSeparator letter :=
  forall_ascii (by decide) letter isAscii

/-- The capital form of a character is a separator exactly if the character is. -/
theorem isSeparator_toUpper
    {letter : Char}
    (isAscii : letter.toNat < 0x80) :
    isSeparator letter.toUpper = isSeparator letter :=
  forall_ascii (by decide) letter isAscii

theorem isAscii_lowerText
    {text : List Char}
    (ascii : IsAscii text) :
    IsAscii (lowerText text) := by
  rw [lowerText_of_ascii ascii]
  intro small member
  obtain ⟨letter, inText, rfl⟩ := List.mem_map.mp member
  exact toLower_ascii (ascii letter inText)

/-- A text in small letters is its own small form. -/
theorem lowerText_lowerText_of_ascii
    {text : List Char}
    (ascii : IsAscii text) :
    lowerText (lowerText text) = lowerText text := by
  have loweredAscii := isAscii_lowerText ascii
  rw [lowerText_of_ascii ascii] at loweredAscii ⊢
  rw [lowerText_of_ascii loweredAscii, List.map_map]
  exact List.map_congr_left fun letter inText => toLower_toLower_of_ascii (ascii letter inText)

namespace IsAsciiWord

variable {head : Char} {tail : List Char}

theorem head_ascii
    (isWord : IsAsciiWord (head :: tail)) :
    head.toNat < 0x80 :=
  isWord.ascii head (by simp)

/-- The capital form of a word changes its first letter only. -/
theorem capitalize_eq
    (isWord : IsAsciiWord (head :: tail)) :
    capitalize (head :: tail) = head.toUpper :: tail := by
  rw [capitalize, upper_of_ascii isWord.head_ascii, List.singleton_append]

/-- Only the first letter of a word can be another in small letters. -/
theorem lowerText_eq
    (isWord : IsAsciiWord (head :: tail)) :
    lowerText (head :: tail) = head.toLower :: tail := by
  have same : ∀ letter ∈ tail, letter.toLower = letter := by
    intro letter inTail
    have isAscii := isWord.ascii letter (by simp [inTail])
    have small := ((isNameWord_cons_iff.mp isWord.isNameWord).2 letter inTail).2
    rw [isUpper_of_ascii isAscii] at small
    exact toLower_of_not_isUpper_of_ascii isAscii small
  rw [lowerText_of_ascii isWord.ascii, List.map_cons, List.map_congr_left same, List.map_id']

/-- A word with another first letter is a word, unless that letter is a separator. -/
theorem changeHead
    (isWord : IsAsciiWord (head :: tail))
    {other : Char}
    (isAscii : other.toNat < 0x80)
    (whole : isSeparator other = false) :
    IsAsciiWord (other :: tail) where
  isNameWord := .cons other tail whole (isNameWord_cons_iff.mp isWord.isNameWord).2
  ascii := by
    intro letter member
    rcases List.mem_cons.mp member with rfl | inTail
    · exact isAscii
    · exact isWord.ascii letter (by simp [inTail])

theorem head_whole
    (isWord : IsAsciiWord (head :: tail)) :
    isSeparator head = false :=
  (isNameWord_cons_iff.mp isWord.isNameWord).1

theorem small
    (isWord : IsAsciiWord (head :: tail)) :
    IsAsciiWord (head.toLower :: tail) :=
  isWord.changeHead (toLower_ascii isWord.head_ascii)
    ((isSeparator_toLower isWord.head_ascii).trans isWord.head_whole)

theorem capital
    (isWord : IsAsciiWord (head :: tail)) :
    IsAsciiWord (head.toUpper :: tail) :=
  isWord.changeHead (toUpper_ascii isWord.head_ascii)
    ((isSeparator_toUpper isWord.head_ascii).trans isWord.head_whole)

theorem exists_cons
    {word : List Char}
    (isWord : IsAsciiWord word) :
    ∃ head tail, word = head :: tail :=
  List.exists_cons_of_ne_nil isWord.isNameWord.ne_nil

/-! Forms of forms. -/

variable {word : List Char}

theorem lowerText
    (isWord : IsAsciiWord word) :
    IsAsciiWord (lowerText word) := by
  obtain ⟨head, tail, rfl⟩ := isWord.exists_cons
  rw [isWord.lowerText_eq]
  exact isWord.small

theorem capitalize
    (isWord : IsAsciiWord word) :
    IsAsciiWord (capitalize word) := by
  obtain ⟨head, tail, rfl⟩ := isWord.exists_cons
  rw [isWord.capitalize_eq]
  exact isWord.capital

/-- A word may be capitalized before it is put in small letters. -/
theorem lowerText_capitalize
    (isWord : IsAsciiWord word) :
    Letter.lowerText (Naming.capitalize word) = Letter.lowerText word := by
  obtain ⟨head, tail, rfl⟩ := isWord.exists_cons
  rw [isWord.capitalize_eq, isWord.capital.lowerText_eq, isWord.lowerText_eq,
    toLower_toUpper_of_ascii isWord.head_ascii]

/-- A word may be put in small letters before it is capitalized. -/
theorem capitalize_lowerText
    (isWord : IsAsciiWord word) :
    Naming.capitalize (Letter.lowerText word) = Naming.capitalize word := by
  obtain ⟨head, tail, rfl⟩ := isWord.exists_cons
  rw [isWord.lowerText_eq, isWord.small.capitalize_eq, isWord.capitalize_eq,
    toUpper_toLower_of_ascii isWord.head_ascii]

/-- A capitalized word is its own capital form. -/
theorem capitalize_capitalize
    (isWord : IsAsciiWord word) :
    Naming.capitalize (Naming.capitalize word) = Naming.capitalize word := by
  obtain ⟨head, tail, rfl⟩ := isWord.exists_cons
  rw [isWord.capitalize_eq, isWord.capital.capitalize_eq,
    toUpper_toUpper_of_ascii isWord.head_ascii]

/-- A capitalized word with a small first letter is the word in small letters. -/
theorem uncapitalize_capitalize_append
    (isWord : IsAsciiWord word)
    (rest : List Char) :
    uncapitalize (Naming.capitalize word ++ rest) = Letter.lowerText word ++ rest := by
  obtain ⟨head, tail, rfl⟩ := isWord.exists_cons
  rw [isWord.capitalize_eq, isWord.lowerText_eq, List.cons_append, uncapitalize,
    lower_of_ascii isWord.capital.head_ascii, toLower_toUpper_of_ascii isWord.head_ascii]
  rfl

/-- A word that starts with a letter starts with a capital one once capitalized. -/
theorem startsCapital_capitalize
    (isWord : IsAsciiWord word)
    (startsAlpha : ∃ letter ∈ word.head?, letter.isAlpha = true) :
    StartsCapital (Naming.capitalize word) := by
  obtain ⟨head, tail, rfl⟩ := isWord.exists_cons
  obtain ⟨letter, isHead, isAlpha⟩ := startsAlpha
  cases isHead
  refine ⟨head.toUpper, by rw [isWord.capitalize_eq]; rfl, ?_⟩
  rw [isUpper_of_ascii isWord.capital.head_ascii, isUpper_toUpper_of_ascii isWord.head_ascii,
    isAlpha]

end IsAsciiWord

/-- Two conversions of every word in turn are a third one if they are for each word. -/
theorem map_map_of_areWords
    {first second both : List Char → List Char}
    (same : ∀ {word}, IsAsciiWord word → second (first word) = both word)
    {words : List (List Char)}
    (areWords : ∀ word ∈ words, IsAsciiWord word) :
    (words.map first).map second = words.map both := by
  rw [List.map_map]
  exact List.map_congr_left fun word isWord => same (areWords word isWord)

/-! Texts of the first characters. -/

variable {text : List Char}

theorem isAsciiWord_of_mem_split
    (ascii : IsAscii text) :
    ∀ word ∈ split text, IsAsciiWord word := by
  intro word member
  exact ⟨isNameWord_of_mem_split word member, forall_mem_of_mem_split ascii word member⟩

/-- The words of the snake form are those of the text in small letters. -/
theorem split_delimit
    (ascii : IsAscii text) :
    split (delimit ['_'] text) = (split text).map lowerText := by
  refine split_intercalate rfl ?_
  intro lowered member
  obtain ⟨word, isWord, rfl⟩ := List.mem_map.mp member
  exact (isAsciiWord_of_mem_split ascii word isWord).lowerText.isNameWord

/-- The snake form of a text is its own snake form. -/
theorem delimit_delimit
    (ascii : IsAscii text) :
    delimit ['_'] (delimit ['_'] text) = delimit ['_'] text := by
  have areWords := isAsciiWord_of_mem_split ascii
  rw [delimit, split_delimit ascii,
    map_map_of_areWords (fun isWord => lowerText_lowerText_of_ascii isWord.ascii) areWords, delimit]

/-- The studly form of a text is that of its snake form. -/
theorem joinCapitalized_delimit
    (ascii : IsAscii text) :
    joinCapitalized (delimit ['_'] text) = joinCapitalized text := by
  have areWords := isAsciiWord_of_mem_split ascii
  rw [joinCapitalized, split_delimit ascii,
    map_map_of_areWords IsAsciiWord.capitalize_lowerText areWords, joinCapitalized]

/-- Every word of a text starts with a letter. -/
def IsLettered
    (text : List Char) :
    Prop :=
  ∀ word ∈ split text, ∃ letter ∈ word.head?, letter.isAlpha = true

/-- Words that start with letters all start with capitals once capitalized. -/
theorem startsCapital_of_mem_map_capitalize
    {words : List (List Char)}
    (areWords : ∀ word ∈ words, IsAsciiWord word)
    (lettered : ∀ word ∈ words, ∃ letter ∈ word.head?, letter.isAlpha = true) :
    ∀ word ∈ words.map capitalize, StartsCapital word := by
  intro capitalized member
  obtain ⟨word, isWord, rfl⟩ := List.mem_map.mp member
  exact (areWords word isWord).startsCapital_capitalize (lettered word isWord)

/-- The words of the studly form are those of the text, capitalized. -/
theorem split_joinCapitalized
    (ascii : IsAscii text)
    (lettered : IsLettered text) :
    split (joinCapitalized text) = (split text).map capitalize := by
  have areWords := isAsciiWord_of_mem_split ascii
  have capital := startsCapital_of_mem_map_capitalize areWords lettered
  refine split_flatten ?_ fun word inTail => capital word (List.mem_of_mem_tail inTail)
  intro capitalized member
  obtain ⟨word, isWord, rfl⟩ := List.mem_map.mp member
  exact (areWords word isWord).capitalize.isNameWord

/-- The words of the camel form are those of the text, all capitalized but the first. -/
theorem split_uncapitalize_joinCapitalized
    (ascii : IsAscii text)
    (lettered : IsLettered text)
    {first : List Char}
    {others : List (List Char)}
    (shape : split text = first :: others) :
    split (uncapitalize (joinCapitalized text)) = lowerText first :: others.map capitalize := by
  have areWords := isAsciiWord_of_mem_split ascii
  rw [IsLettered] at lettered
  rw [shape] at areWords lettered
  obtain ⟨isFirst, areOthers⟩ := List.forall_mem_cons.mp areWords
  have joined :
      uncapitalize (joinCapitalized text) = (lowerText first :: others.map capitalize).flatten := by
    rw [joinCapitalized, shape, List.map_cons, List.flatten_cons,
      isFirst.uncapitalize_capitalize_append, List.flatten_cons]
  rw [joined]
  refine split_flatten ?_
    (startsCapital_of_mem_map_capitalize areOthers (List.forall_mem_cons.mp lettered).2)
  refine List.forall_mem_cons.mpr ⟨isFirst.lowerText.isNameWord, ?_⟩
  intro capitalized member
  obtain ⟨word, isWord, rfl⟩ := List.mem_map.mp member
  exact (areOthers word isWord).capitalize.isNameWord

/-- The snake form of a text with lettered words is that of its studly form. -/
theorem delimit_joinCapitalized
    (ascii : IsAscii text)
    (lettered : IsLettered text) :
    delimit ['_'] (joinCapitalized text) = delimit ['_'] text := by
  have areWords := isAsciiWord_of_mem_split ascii
  rw [delimit, split_joinCapitalized ascii lettered,
    map_map_of_areWords IsAsciiWord.lowerText_capitalize areWords, delimit]

/-- A text without words has no studly form. -/
theorem joinCapitalized_of_split_eq_nil
    (noWords : split text = []) :
    joinCapitalized text = [] := by
  rw [joinCapitalized, noWords]
  rfl

/-- The snake form of a text with lettered words is that of its camel form. -/
theorem delimit_uncapitalize_joinCapitalized
    (ascii : IsAscii text)
    (lettered : IsLettered text) :
    delimit ['_'] (uncapitalize (joinCapitalized text)) = delimit ['_'] text := by
  have areWords := isAsciiWord_of_mem_split ascii
  cases shape : split text with
  | nil =>
      rw [joinCapitalized_of_split_eq_nil shape, delimit, delimit, shape]
      rfl
  | cons first others =>
      rw [shape] at areWords
      obtain ⟨isFirst, areOthers⟩ := List.forall_mem_cons.mp areWords
      rw [delimit, split_uncapitalize_joinCapitalized ascii lettered shape, List.map_cons,
        map_map_of_areWords IsAsciiWord.lowerText_capitalize areOthers,
        lowerText_lowerText_of_ascii isFirst.ascii, delimit, shape, List.map_cons]

/-- The studly form of a text with lettered words is that of its camel form. -/
theorem joinCapitalized_uncapitalize
    (ascii : IsAscii text)
    (lettered : IsLettered text) :
    joinCapitalized (uncapitalize (joinCapitalized text)) = joinCapitalized text := by
  have areWords := isAsciiWord_of_mem_split ascii
  cases shape : split text with
  | nil =>
      rw [joinCapitalized_of_split_eq_nil shape]
      rfl
  | cons first others =>
      rw [shape] at areWords
      obtain ⟨isFirst, areOthers⟩ := List.forall_mem_cons.mp areWords
      have words := split_uncapitalize_joinCapitalized ascii lettered shape
      rw [joinCapitalized, words, List.map_cons,
        map_map_of_areWords IsAsciiWord.capitalize_capitalize areOthers,
        isFirst.capitalize_lowerText, joinCapitalized, shape, List.map_cons]

/-! Names. -/

theorem snake_eq
    (name : String) :
    snake name = String.ofList (delimit ['_'] name.toList) :=
  rfl

/-- The initial of a word as a capital letter. -/
def withCapital
    (word : String) :
    String :=
  String.ofList (word.toList.modifyHead Char.toUpper)

/-- The words of the studly form of a name are those of the name with capital initials. -/
theorem words_studly
    {name : String}
    (ascii : IsAscii name.toList)
    (lettered : IsLettered name.toList) :
    words (studly name) = (words name).map withCapital := by
  have areWords := isAsciiWord_of_mem_split ascii
  rw [words, studly, String.toList_ofList, split_joinCapitalized ascii lettered, words,
    List.map_map, List.map_map]
  apply List.map_congr_left
  intro word member
  have isWord := areWords word member
  obtain ⟨head, tail, rfl⟩ := isWord.exists_cons
  simp [withCapital, isWord.capitalize_eq]

/-- A name is lettered if every one of its words starts with a letter. -/
theorem isLettered_toList_iff
    {name : String} :
    IsLettered name.toList ↔
      ∀ word ∈ words name, ∃ letter ∈ word.toList.head?, letter.isAlpha = true := by
  simp [IsLettered, words]

/-- Names of the first characters keep their words in snake form, and in studly and camel form as
long as all words start with letters. -/
theorem conversions_agree
    (name : String)
    (ascii : IsAscii name.toList) :
    (snake (snake name) = snake name ∧
        studly (snake name) = studly name ∧ camel (snake name) = camel name) ∧
      ((∀ word ∈ words name, ∃ letter ∈ word.toList.head?, letter.isAlpha = true) →
        words (studly name) = (words name).map withCapital ∧
          snake (studly name) = snake name ∧
          snake (camel name) = snake name ∧ studly (camel name) = studly name) := by
  rw [← isLettered_toList_iff]
  constructor
  · simp only [snake_eq, studly, camel, String.toList_ofList, delimit_delimit ascii,
      joinCapitalized_delimit ascii, and_self]
  · intro lettered
    refine ⟨words_studly ascii lettered, ?_⟩
    simp only [snake_eq, studly, camel, String.toList_ofList,
      delimit_joinCapitalized ascii lettered, delimit_uncapitalize_joinCapitalized ascii lettered,
      joinCapitalized_uncapitalize ascii lettered, and_self]

/-- A name with dashes, dots, capitals and a digit keeps its seven words. -/
theorem conversions_agree_mixedName :
    IsAscii "getURL-for.user_id2".toList ∧
      words (studly "getURL-for.user_id2") = ["Get", "U", "R", "L", "For", "User", "Id2"] ∧
      snake (camel "getURL-for.user_id2") = "get_u_r_l_for_user_id2" ∧
      studly (camel "getURL-for.user_id2") = studly (snake "getURL-for.user_id2") := by
  have ascii : IsAscii "getURL-for.user_id2".toList := by decide
  have isWords :
      words "getURL-for.user_id2" = ["get", "U", "R", "L", "for", "user", "id2"] := by
    decide +kernel
  have lettered :
      ∀ word ∈ words "getURL-for.user_id2",
        ∃ letter ∈ word.toList.head?, letter.isAlpha = true := by
    simp [isWords]
  obtain ⟨⟨_, ofSnake, _⟩, ofWords⟩ := conversions_agree "getURL-for.user_id2" ascii
  obtain ⟨studlyWords, _, snakeCamel, studlyCamel⟩ := ofWords lettered
  refine ⟨ascii, ?_, ?_, studlyCamel.trans ofSnake.symm⟩
  · rw [studlyWords, isWords]
    decide +kernel
  · rw [snakeCamel]
    decide +kernel

end Naming

end Blueprint
