import Blueprint.Proofs.CapitalForms
import Blueprint.Proofs.NameWords
import Blueprint.Proofs.Pieces
import Blueprint.Resolution.Context

namespace Blueprint

/-!
# Studly names

A word of a name has no separator in it and starts with a capital letter or where the name starts.
So a name without separators that starts with its own capital form is studly already, and making a
name studly once is enough. A studly name is a single segment: it is the last segment of itself and
of every name that it is qualified to.
-/

namespace Naming

open Letter

/-! Studly texts. -/

/-- In a text that has no separators and starts with its own capital form all words do. -/
theorem capitalize_of_mem_split
    {text : List Char}
    (whole : ∀ letter ∈ text, isSeparator letter = false)
    (capital : ∀ head ∈ text.head?, upper head = [head]) :
    ∀ word ∈ split text, capitalize word = word := by
  intro word member
  obtain ⟨head, tail, rfl, isCapital | first⟩ := head_of_mem_splitFrom whole member
  · simp [capitalize, upper_of_isUpper isCapital]
  · simp [capitalize, capital head first]

/-- A text that has no separators and starts with its own capital form is studly already. -/
theorem joinCapitalized_eq_self
    {text : List Char}
    (whole : ∀ letter ∈ text, isSeparator letter = false)
    (capital : ∀ head ∈ text.head?, upper head = [head]) :
    joinCapitalized text = text :=
  calc
    joinCapitalized text = ((split text).map id).flatten :=
      congrArg List.flatten (List.map_congr_left (capitalize_of_mem_split whole capital))
    _ = (split text).flatten := by rw [List.map_id]
    _ = text := flatten_splitFrom whole

theorem isSeparator_of_mem_joinCapitalized
    {text : List Char} :
    ∀ letter ∈ joinCapitalized text, isSeparator letter = false := by
  intro letter member
  obtain ⟨capitalized, isCapitalized, inside⟩ := List.mem_flatten.mp member
  obtain ⟨word, isWord, rfl⟩ := List.mem_map.mp isCapitalized
  cases isNameWord_of_mem_split word isWord with
  | cons head tail headWhole tailInner =>
      rcases List.mem_append.mp inside with isForm | inTail
      · exact isSeparator_of_mem_upper headWhole isForm
      · exact (tailInner letter inTail).1

/-- Capitalized words run together start with a character of a capital form. -/
theorem upper_head_flatten
    {words : List (List Char)} :
    ∀ head ∈ (words.map capitalize).flatten.head?, upper head = [head] := by
  induction words with
  | nil =>
      simp
  | cons word rest inductionHypothesis =>
      cases word with
      | nil =>
          exact inductionHypothesis
      | cons letter tail =>
          intro head first
          obtain ⟨form, forms, isForm⟩ := List.exists_cons_of_ne_nil (upper_ne_nil letter)
          simp only [List.map_cons, List.flatten_cons, capitalize, isForm, List.cons_append,
            List.head?_cons, Option.mem_some_iff] at first
          have isFirst : form ∈ upper letter := by simp [isForm]
          exact first ▸ upper_of_mem_upper isFirst

/-- Making a text studly twice is making it studly once. -/
theorem joinCapitalized_idem
    (text : List Char) :
    joinCapitalized (joinCapitalized text) = joinCapitalized text :=
  joinCapitalized_eq_self isSeparator_of_mem_joinCapitalized upper_head_flatten

theorem studly_idem
    (name : String) :
    studly (studly name) = studly name := by
  simp only [studly, String.toList_ofList, joinCapitalized_idem]

/-! Studly names as segments. -/

theorem segmentMark_notMem_studly
    (name : String) :
    segmentMark ∉ (studly name).toList := by
  rw [studly, String.toList_ofList]
  intro member
  have notSeparator := isSeparator_of_mem_joinCapitalized _ member
  exact absurd notSeparator (by decide)

/-- A name of one segment is its own last segment. -/
theorem basename_eq_self
    {name : String}
    (single : segmentMark ∉ name.toList) :
    basename name = name := by
  unfold basename
  cases cutOff : Text.cutLast? segmentMark name.toList with
  | none =>
      rfl
  | some parts =>
      obtain ⟨⟨after, before⟩, found, _⟩ := Option.map_eq_some_iff.mp cutOff
      obtain ⟨shape, _⟩ := Text.cutFirst?_eq_some_iff.mp found
      have member : segmentMark ∈ name.toList.reverse := by simp [shape]
      exact absurd (List.mem_reverse.mp member) single

/-- The last segment of a name of one segment in a namespace is that name. -/
theorem basename_qualify
    {className : String}
    (single : segmentMark ∉ className.toList)
    (space : String) :
    basename (qualify space className) = className := by
  have shape : (qualify space className).toList.reverse =
      className.toList.reverse ++
        segmentMark :: (Text.trimBoth (· == segmentMark) space.toList).reverse := by
    simp [qualify, segmentMark]
  have found : Text.cutFirst? segmentMark (qualify space className).toList.reverse =
      some (className.toList.reverse, (Text.trimBoth (· == segmentMark) space.toList).reverse) :=
    Text.cutFirst?_eq_some_iff.mpr ⟨shape, by simpa using single⟩
  simp [basename, Text.cutLast?, found]

end Naming

namespace Context

/-- The class that a name may refer to refers to itself. -/
theorem classOf_classOf
    (name : String) :
    classOf (classOf name) = classOf name := by
  have single := Naming.segmentMark_notMem_studly (Naming.basename name)
  rw [classOf, classOf, Naming.basename_eq_self single, Naming.studly_idem]

/-- A class qualified by a namespace refers to that class. -/
theorem classOf_qualify
    (space name : String) :
    classOf (Naming.qualify space (classOf name)) = classOf name := by
  have single := Naming.segmentMark_notMem_studly (Naming.basename name)
  rw [classOf, classOf, Naming.basename_qualify single, Naming.studly_idem]

end Context

end Blueprint
