import Blueprint.Proofs.EntityNames
import Blueprint.Proofs.Plurals

namespace Blueprint

/-!
# Tables of classes

The table of a model that declares none is named by the words of its class, in small letters and
with the last one in the plural. The words of a class are capitalized and nothing stands between
them; the plural of the last one is again one word with a capital initial, so that the words of the
table are as many as those of the class and all but the last are the same.
-/

open Resolution Schema

namespace Naming

open Letter

theorem changeLast_concat
    {α : Type}
    (change : α → α)
    (initial : List α)
    (last : α) :
    changeLast change (initial ++ [last]) = initial ++ [change last] := by
  induction initial with
  | nil =>
      rfl
  | cons first rest inductionHypothesis =>
      cases rest with
      | nil =>
          rfl
      | cons second others =>
          exact congrArg (first :: ·) inductionHypothesis

/-! Words of a class. -/

theorem isAscii_joinCapitalized
    {text : List Char}
    (ascii : IsAscii text) :
    IsAscii (joinCapitalized text) := by
  intro letter member
  obtain ⟨capitalized, isCapitalized, inside⟩ := List.mem_flatten.mp member
  obtain ⟨word, isWord, rfl⟩ := List.mem_map.mp isCapitalized
  exact (isAsciiWord_of_mem_split ascii word isWord).capitalize.ascii letter inside

/-- The words of a studly text are capitalized. -/
theorem capitalize_of_mem_split_joinCapitalized
    {text : List Char} :
    ∀ word ∈ split (joinCapitalized text), capitalize word = word :=
  capitalize_of_mem_split isSeparator_of_mem_joinCapitalized upper_head_flatten

section Class

variable {text : List Char} {initial : List (List Char)} {last : List Char}

/-- A studly text with its last word in the plural. -/
theorem toList_pluralStudly
    (shape : split (joinCapitalized text) = initial ++ [last]) :
    (pluralStudly (String.ofList (joinCapitalized text))).toList =
      (initial ++ [pluralize last]).flatten := by
  have same : (split (joinCapitalized text)).map capitalize = split (joinCapitalized text) := by
    rw [List.map_congr_left capitalize_of_mem_split_joinCapitalized, List.map_id']
  rw [pluralStudly, String.toList_ofList, String.toList_ofList, same, shape, changeLast_concat]

/-- What holds of all elements of a list holds of them with another last one that keeps it. -/
theorem forall_mem_concat_of
    {α : Type}
    {Holds : α → Prop}
    {initial : List α}
    {last changed : α}
    (all : ∀ element ∈ initial ++ [last], Holds element)
    (keeps : Holds last → Holds changed) :
    ∀ element ∈ initial ++ [changed], Holds element := by
  obtain ⟨ofInitial, ofLast⟩ := List.forall_mem_append.mp all
  refine List.forall_mem_append.mpr ⟨ofInitial, ?_⟩
  simpa using keeps (ofLast last (by simp))

/-- The plural of the last word comes apart from the others as the word did. -/
theorem split_pluralStudly
    (shape : split (joinCapitalized text) = initial ++ [last]) :
    split (pluralStudly (String.ofList (joinCapitalized text))).toList =
      initial ++ [pluralize last] := by
  have areWords : ∀ word ∈ initial ++ [last], IsNameWord word :=
    shape ▸ isNameWord_of_mem_split
  have capital : ∀ word ∈ (initial ++ [last]).tail, StartsCapital word :=
    shape ▸ startsCapital_of_mem_tail_splitFrom isSeparator_of_mem_joinCapitalized
  have inflects := inflects_pluralize last
  rw [toList_pluralStudly shape]
  refine split_flatten (forall_mem_concat_of areWords inflects.isNameWord) ?_
  -- Only with words before it need the plural start with a capital letter, as the word then does.
  cases initial with
  | nil =>
      simp
  | cons first rest =>
      exact forall_mem_concat_of capital inflects.startsCapital

variable (ascii : IsAscii text)
include ascii

/-- The words of a studly form are ASCII words. -/
theorem isAsciiWord_of_shape
    (shape : split (joinCapitalized text) = initial ++ [last]) :
    ∀ word ∈ initial ++ [last], IsAsciiWord word :=
  shape ▸ isAsciiWord_of_mem_split (isAscii_joinCapitalized ascii)

/-- The usual table of a class has its words in small letters, the last one in the plural. -/
theorem usualTable_eq
    (shape : split (joinCapitalized text) = initial ++ [last]) :
    usualTable (String.ofList (joinCapitalized text)) =
      String.ofList
        ("_".toList.intercalate (initial.map lowerText ++ [pluralize (lowerText last)])) := by
  have lastAscii := (isAsciiWord_of_shape ascii shape last (by simp)).ascii
  rw [usualTable, snake, delimited, delimit, split_pluralStudly shape, List.map_append,
    List.map_singleton, lowerText_pluralize lastAscii]

/-- The words of the table of a class are those that it is put together of. -/
theorem split_usualTable
    (shape : split (joinCapitalized text) = initial ++ [last]) :
    split (usualTable (String.ofList (joinCapitalized text))).toList =
      initial.map lowerText ++ [pluralize (lowerText last)] := by
  have areWords := isAsciiWord_of_shape ascii shape
  have areLowered : ∀ word ∈ initial.map lowerText ++ [lowerText last], IsNameWord word := by
    rw [← List.map_singleton, ← List.map_append, List.forall_mem_map]
    exact fun word member => (areWords word member).lowerText.isNameWord
  rw [usualTable_eq ascii shape, String.toList_ofList]
  exact split_intercalate rfl
    (forall_mem_concat_of areLowered (inflects_pluralize (lowerText last)).isNameWord)

end Class

/-- Parts are joined as texts or as lists of characters. -/
theorem ofList_intercalate
    (delimiter : String)
    (parts : List (List Char)) :
    String.ofList (delimiter.toList.intercalate parts) =
      delimiter.intercalate (parts.map String.ofList) := by
  rw [← String.toList_inj, String.toList_ofList, String.toList_intercalate, List.map_map]
  simp [Function.comp_def]

/-- ASCII words are put in small letters as texts or as lists of characters. -/
theorem map_toLower_ofList
    {words : List (List Char)}
    (ascii : ∀ word ∈ words, IsAscii word) :
    (words.map String.ofList).map String.toLower = (words.map lowerText).map String.ofList := by
  rw [List.map_map, List.map_map]
  exact List.map_congr_left fun word member => toLower_ofList (ascii word member)

end Naming

/-- The table of an entity is named by the words of its class in small letters, the last one in the
plural. They are words of the table, as those of the class are words of its singular. -/
structure Schema.Entity.HasPluralTable
    (entity : Entity)
    (initial : List String)
    (last : String) :
    Prop where
  class_words : Naming.words entity.className = initial ++ [last]
  table_eq :
    entity.table = "_".intercalate (initial.map String.toLower ++ [Naming.plural last.toLower])
  plural_words :
    Naming.words (Naming.pluralStudly entity.className) = initial ++ [Naming.plural last]
  table_words :
    Naming.words entity.table = initial.map String.toLower ++ [Naming.plural last.toLower]
  singular_words : Naming.words entity.singular = initial.map String.toLower ++ [last.toLower]

open Naming Letter

/-- A class with a word has its table after its words. -/
theorem Schema.Entity.exists_hasPluralTable
    {entity : Entity}
    {name : String}
    (ascii : IsAscii name.toList)
    (ofName : entity.className = studly name)
    (ofClass : entity.table = usualTable entity.className)
    (hasWord : words entity.className ≠ []) :
    ∃ initial last, entity.HasPluralTable initial last := by
  have isStudly : entity.className = String.ofList (joinCapitalized name.toList) := ofName
  rw [isStudly] at ofClass
  rw [words, isStudly, String.toList_ofList, ne_eq, List.map_eq_nil_iff] at hasWord
  obtain ⟨initial, last, shape⟩ :=
    (List.eq_nil_or_concat' (split (joinCapitalized name.toList))).resolve_left hasWord
  have areWords := isAsciiWord_of_shape ascii shape
  have lowered :
      (initial.map String.ofList).map String.toLower = (initial.map lowerText).map String.ofList :=
    map_toLower_ofList fun word member => (areWords word (by simp [member])).ascii
  have loweredLast : (String.ofList last).toLower = String.ofList (lowerText last) :=
    toLower_ofList (areWords last (by simp)).ascii
  have pluralLast :
      plural (String.ofList last).toLower = String.ofList (pluralize (lowerText last)) := by
    rw [loweredLast, plural, String.toList_ofList]
  refine ⟨initial.map String.ofList, String.ofList last, ?_⟩
  constructor
  case class_words =>
    rw [words, isStudly, String.toList_ofList, shape, List.map_append, List.map_singleton]
  case table_eq =>
    rw [lowered, pluralLast, ofClass, usualTable_eq ascii shape, ofList_intercalate,
      List.map_append, List.map_singleton]
  case plural_words =>
    rw [words, isStudly, split_pluralStudly shape, plural, String.toList_ofList, List.map_append,
      List.map_singleton]
  case table_words =>
    rw [words, ofClass, split_usualTable ascii shape, lowered, pluralLast, List.map_append,
      List.map_singleton]
  case singular_words =>
    rw [words, Entity.singular, isStudly, snake_eq, String.toList_ofList, String.toList_ofList,
      split_delimit (isAscii_joinCapitalized ascii), shape, lowered, loweredLast, List.map_append,
      List.map_append, List.map_singleton, List.map_singleton]

/-- Whatever stages have been run, the table of an entity that declares none is named by its class,
with the last word in the plural. A word may be put in small letters before or after that, and
where its final `y` is cut off, this is its last byte. -/
theorem tables_pluralize :
    (∀ document stages key model entity,
      document.database.models.get? key = some model →
        model.table = none →
        IsAscii (basename key).toList →
        (Context.afterRuns document stages).entities.get? key = some entity →
        words entity.className ≠ [] →
        ∃ initial last, entity.HasPluralTable initial last) ∧
      (∀ word : String, IsAscii word.toList → plural word.toLower = (plural word).toLower) ∧
      ∀ word : String,
        endsInConsonantY (lowerText word.toList) = true →
          (lastByte word).IsValid word ∧
            plural word = String.Pos.Raw.extract word 0 (lastByte word) ++ "ies" := by
  refine ⟨?_, fun word => plural_toLower, fun word => plural_of_endsInConsonantY⟩
  intro document stages key model entity isModel undeclared ascii found hasWord
  obtain ⟨made, stored, sameBare, isStored, madeFrom⟩ :=
    (reached_afterRuns document stages).exists_madeFrom found
  cases isModel.symm.trans isStored
  have sameClass : made.className = entity.className :=
    (congrArg Entity.className sameBare :)
  have sameTable : made.table = entity.table :=
    (congrArg Entity.table sameBare :)
  have ofClass := madeFrom.table_eq
  rw [undeclared, Option.getD_none, sameTable, sameClass] at ofClass
  exact Entity.exists_hasPluralTable ascii (sameClass.symm.trans madeFrom.className_eq) ofClass
    hasWord

/-- A document with one model, whose name has words of both cases. -/
def categoryDocument : Document :=
  let model := { Document.Model.blank with columns := some (.ofList [("id", .line "id")]) }
  let models : Table Document.Model := .ofList [("Shop\\blog_Category", model)]
  { Document.blank with database := { Document.Database.blank with models := models } }

theorem tables_pluralize_categoryDocument :
    (∃ entity,
      (Context.afterRuns categoryDocument [.entities]).entities.get? "Shop\\blog_Category" =
          some entity ∧
        entity.table = "blog_categories" ∧ words entity.singular = ["blog", "category"]) ∧
      (plural "PERSON").toLower = "people" ∧
      (lastByte "naïvety").IsValid "naïvety" := by
  obtain ⟨tables, small, cut⟩ := tables_pluralize
  have present :
      ((Context.afterRuns categoryDocument [.entities]).entities.get?
        "Shop\\blog_Category").isSome = true := by
    decide +kernel
  obtain ⟨entity, found⟩ := Option.isSome_iff_exists.mp present
  have ofClass :
      ((Context.afterRuns categoryDocument [.entities]).entities.get?
        "Shop\\blog_Category").map (words ∘ Entity.className) = some ["Blog", "Category"] := by
    decide +kernel
  rw [found, Option.map_some, Option.some.injEq, Function.comp_apply] at ofClass
  obtain ⟨initial, last, named⟩ :=
    tables categoryDocument [.entities] _ _ entity rfl rfl (by decide +kernel) found
      (by simp [ofClass])
  have isWords : ["Blog"] ++ ["Category"] = initial ++ [last] :=
    ofClass.symm.trans named.class_words
  obtain ⟨rfl, sameLast⟩ := List.append_inj' isWords rfl
  cases sameLast
  refine ⟨⟨entity, found, ?_, ?_⟩, ?_, (cut "naïvety" (by decide +kernel)).1⟩
  · rw [named.table_eq]
    decide +kernel
  · rw [named.singular_words]
    decide +kernel
  · rw [← small "PERSON" (by decide +kernel)]
    decide +kernel

end Blueprint
