import Blueprint.Proofs.WrittenLines
import Blueprint.Schema.Column

namespace Blueprint

/-!
# Indexes of columns

The modifiers with an index word declare the indexes of a list of columns, one each and in their
order. An index is named by the first argument of its modifier. Where columns are read of lines,
every name that is written is kept exactly when none of them is in the form of a reference: only a
literal is taken for a name, and `users.email` is not one.
-/

open Schema

namespace Schema

/-- The word for a kind of index. -/
def IndexKind.word :
    IndexKind →
    String
  | primary => "primary"
  | unique => "unique"
  | index => "index"
  | fulltext => "fulltext"
  | spatialIndex => "spatialIndex"

/-- The words that declare an index. -/
def indexWords : List String :=
  ["primary", "unique", "index", "fulltext", "spatialIndex"]

/-- The word of a kind of index is the one that it is found by. -/
theorem IndexKind.word_of_ofWord?
    {word : String}
    {kind : IndexKind}
    (found : ofWord? word = some kind) :
    kind.word = word := by
  unfold ofWord? at found
  split at found <;> cases found <;> rfl

/-- Just the index words name a kind of index. -/
theorem IndexKind.isSome_ofWord?
    {word : String} :
    (ofWord? word).isSome = true ↔ word ∈ indexWords := by
  constructor
  · intro isSome
    obtain ⟨kind, found⟩ := Option.isSome_iff_exists.mp isSome
    rw [← word_of_ofWord? found]
    cases kind <;> decide
  · intro member
    simp only [indexWords, List.mem_cons, List.not_mem_nil, or_false] at member
    rcases member with rfl | rfl | rfl | rfl | rfl <;> rfl

/-- The modifiers of columns that declare an index, in order, each after the name of its column. -/
def indexModifiers
    (columns : List Column) :
    List (String × Method) :=
  columns.flatMap fun column =>
    (column.methods.filter fun method => indexWords.contains method.name).map
      fun method => (column.name, method)

/-- An index is that of a modifier: the kind is the one of its word, the only column is its own. -/
structure Index.DeclaredBy
    (modifier : String × Method)
    (index : Index) :
    Prop where
  word_kind : index.kind.word = modifier.2.name
  columns_eq : index.columns = [modifier.1]

/-- The name of an index is what is written first in its modifier, if anything is. -/
def Index.KeepsName
    (modifier : String × Method)
    (index : Index) :
    Prop :=
  index.name = modifier.2.arguments.head?.map Argument.text

/-- A column that was read of a line. -/
def Column.IsRead
    (column : Column) :
    Prop :=
  ∃ name line, Column.ofMethods? name (Method.ofLine line) = some column

/-! One index for each modifier. -/

/-- Every modifier of a column that declares an index gives one, in order. -/
theorem Index.forall₂_ofMethods
    (column : String)
    (methods : List Method) :
    List.Forall₂ (fun modifier index => ofMethod? modifier.1 modifier.2 = some index)
      ((methods.filter fun method => indexWords.contains method.name).map
        fun method => (column, method))
      (methods.filterMap (ofMethod? column)) := by
  induction methods with
  | nil =>
      exact .nil
  | cons method others inductionHypothesis =>
      by_cases member : method.name ∈ indexWords
      · obtain ⟨kind, found⟩ := Option.isSome_iff_exists.mp (IndexKind.isSome_ofWord?.mpr member)
        have declares : ofMethod? column method = some ⟨kind, [column], method.firstLiteral?⟩ := by
          rw [ofMethod?, found, Option.map_some]
        rw [List.filter_cons_of_pos (by simpa using member), List.map_cons,
          List.filterMap_cons_some declares]
        exact .cons declares inductionHypothesis
      · have notFound : IndexKind.ofWord? method.name = none := by
          rw [← Option.not_isSome_iff_eq_none, IndexKind.isSome_ofWord?]
          exact member
        rw [List.filter_cons_of_neg (by simpa using member),
          List.filterMap_cons_none (by rw [ofMethod?, notFound, Option.map_none])]
        exact inductionHypothesis

/-- Every modifier that declares an index gives one, column after column. -/
theorem Index.forall₂_ofColumns
    (columns : List Column) :
    List.Forall₂ (fun modifier index => ofMethod? modifier.1 modifier.2 = some index)
      (indexModifiers columns) (ofColumns columns) := by
  induction columns with
  | nil =>
      exact .nil
  | cons column others inductionHypothesis =>
      exact List.rel_append (forall₂_ofMethods column.name column.methods) inductionHypothesis

/-- An index has the kind of its word, one column and perhaps a name. -/
theorem Index.exists_of_ofMethod?
    {column : String}
    {method : Method}
    {index : Index}
    (declares : ofMethod? column method = some index) :
    ∃ kind, IndexKind.ofWord? method.name = some kind ∧
      index = ⟨kind, [column], method.firstLiteral?⟩ := by
  obtain ⟨kind, found, rfl⟩ := Option.map_eq_some_iff.mp declares
  exact ⟨kind, found, rfl⟩

/-- The indexes of columns are those of their index modifiers, in order. -/
theorem Index.declaredBy_ofColumns
    (columns : List Column) :
    List.Forall₂ DeclaredBy (indexModifiers columns) (ofColumns columns) := by
  refine (forall₂_ofColumns columns).imp fun modifier index declares => ?_
  obtain ⟨kind, found, rfl⟩ := exists_of_ofMethod? declares
  exact ⟨IndexKind.word_of_ofWord? found, rfl⟩

end Schema

/-! Names. -/

/-- The first literal is what is written first unless that is in the form of a reference. -/
theorem Method.firstLiteral?_eq_iff
    {method : Method}
    (writable : ∀ argument ∈ method.arguments, argument.IsWritable) :
    method.firstLiteral? = method.arguments.head?.map Argument.text ↔
      ∀ first ∈ method.arguments.head?, ¬Argument.JoinsIdentifiers first.text.toList := by
  obtain ⟨name, arguments⟩ := method
  cases arguments with
  | nil =>
      simp [firstLiteral?]
  | cons first others =>
      simp only [firstLiteral?, List.head?_cons, Option.bind_some, Option.map_some,
        Option.mem_some_iff, forall_eq']
      cases writable first List.mem_cons_self with
      | literal _ _ notJoined =>
          exact iff_of_true rfl notJoined
      | reference isName isProperty =>
          refine iff_of_false (by simp [Argument.literal?]) (not_not_intro ?_)
          exact ⟨_, _, isName, isProperty, by simp [Argument.text]⟩

namespace Schema

/-- The modifiers of a column that is read could be written as they are. -/
theorem Column.IsRead.writable
    {column : Column}
    (isRead : column.IsRead) :
    ∀ method ∈ column.methods, method.IsWritable := by
  obtain ⟨name, line, found⟩ := isRead
  intro method member
  have onLine : method ∈ Method.ofLine line := by
    cases methods : Method.ofLine line with
    | nil =>
        rw [methods] at found
        cases found
    | cons typeCall modifiers =>
        rw [methods] at found
        cases found
        exact List.mem_cons_of_mem _ member
  exact Method.isWritable_of_mem_ofLine onLine

theorem writable_of_mem_indexModifiers
    {columns : List Column}
    (areRead : ∀ column ∈ columns, column.IsRead)
    {modifier : String × Method}
    (member : modifier ∈ indexModifiers columns) :
    modifier.2.IsWritable := by
  obtain ⟨column, isColumn, isModifier⟩ := List.mem_flatMap.mp member
  obtain ⟨method, isKept, rfl⟩ := List.mem_map.mp isModifier
  exact (areRead column isColumn).writable method (List.mem_of_mem_filter isKept)

end Schema

/-- Between lists that correspond, a second relation holds throughout exactly when each element of
the first meets what decides it. -/
theorem forall₂_iff_forall_mem
    {α β : Type}
    {made wanted : α → β → Prop}
    {fits : α → Prop}
    {sources : List α}
    {results : List β}
    (correspond : List.Forall₂ made sources results)
    (decides : ∀ source ∈ sources, ∀ result, made source result →
      (wanted source result ↔ fits source)) :
    List.Forall₂ wanted sources results ↔ ∀ source ∈ sources, fits source := by
  induction correspond with
  | nil =>
      simp
  | cons isMade _ inductionHypothesis =>
      obtain ⟨decidesFirst, decidesOthers⟩ := List.forall_mem_cons.mp decides
      rw [List.forall₂_cons, List.forall_mem_cons, decidesFirst _ isMade,
        inductionHypothesis decidesOthers]

/-- The indexes of columns are those of their index modifiers, one each and in order. All names that
are written are kept exactly when none is in the form of a reference. -/
theorem indexes_keepNames_iff
    {columns : List Column}
    (areRead : ∀ column ∈ columns, column.IsRead) :
    List.Forall₂ Index.DeclaredBy (indexModifiers columns) (Index.ofColumns columns) ∧
      (List.Forall₂ Index.KeepsName (indexModifiers columns) (Index.ofColumns columns) ↔
        ∀ modifier ∈ indexModifiers columns,
          ∀ first ∈ modifier.2.arguments.head?,
            ¬Argument.JoinsIdentifiers first.text.toList) := by
  refine ⟨Index.declaredBy_ofColumns columns, ?_⟩
  refine forall₂_iff_forall_mem (Index.forall₂_ofColumns columns) ?_
  intro modifier member index declares
  obtain ⟨kind, _, rfl⟩ := Index.exists_of_ofMethod? declares
  exact Method.firstLiteral?_eq_iff
    (writable_of_mem_indexModifiers areRead member).arguments_writable

/-- A named and an unnamed index of one column, and one index whose name has two points. -/
theorem indexes_keepNames_slugColumn :
    ∃ columns : List Column,
      (∀ column ∈ columns, column.IsRead) ∧
        List.Forall₂ Index.DeclaredBy (indexModifiers columns) (Index.ofColumns columns) ∧
        List.Forall₂ Index.KeepsName (indexModifiers columns) (Index.ofColumns columns) ∧
        Index.ofColumns columns =
          [⟨.unique, ["slug"], some "posts_slug"⟩, ⟨.index, ["slug"], none⟩,
            ⟨.fulltext, ["body"], some "a.b.c"⟩] := by
  let columns : List Column :=
    [("slug", "string:40 unique:posts_slug,extra nullable index"), ("body", "text fulltext:a.b.c")]
      |>.filterMap fun entry => Column.ofMethods? entry.1 (Method.ofLine entry.2)
  have areRead : ∀ column ∈ columns, column.IsRead := by
    intro column member
    obtain ⟨entry, _, found⟩ := List.mem_filterMap.mp member
    exact ⟨entry.1, entry.2, found⟩
  obtain ⟨declared, keepNames_iff⟩ := indexes_keepNames_iff areRead
  exact ⟨columns, areRead, declared, keepNames_iff.mpr (by decide +kernel), by decide +kernel⟩

/-- The name `app.users_email` of an index is lost. -/
theorem exists_not_keepName :
    ∃ column : Column,
      column.IsRead ∧
        indexModifiers [column] =
          [("email", ⟨"unique", [.reference "app" (some "users_email")]⟩)] ∧
        Index.ofColumns [column] = [⟨.unique, ["email"], none⟩] ∧
        ¬List.Forall₂ Index.KeepsName (indexModifiers [column]) (Index.ofColumns [column]) := by
  let methods : List Method := [⟨"unique", [.reference "app" (some "users_email")]⟩]
  have found : Column.ofMethods? "email" (Method.ofLine "string unique:app.users_email") =
      some ⟨"email", "string", [], methods, none⟩ := by
    decide +kernel
  refine ⟨_, ⟨_, _, found⟩, by decide, by decide, ?_⟩
  rintro (_ | ⟨keepsName, _⟩)
  cases keepsName

end Blueprint
