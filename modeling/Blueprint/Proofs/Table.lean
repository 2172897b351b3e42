import Mathlib.Data.List.Induction
import Mathlib.Data.List.Nodup
import Blueprint.Table

namespace Blueprint

/-!
# Tables as maps with an order

A table is determined by its names in order and by the value under each name. Insertion changes
one value and appends at most one name, so that inserting a list of entries keeps the first
occurrence of every name and the last value under it. Inserting the same entries again into a
table that holds an initial part of their names gives the same table: what such a table held
before is overwritten, and the names that are missing follow in order.
-/

namespace FirstOccurrences

variable {α : Type} [DecidableEq α]

/-- An item at the end is a duplicate or stays there. -/
theorem eraseDups_concat
    (items : List α)
    (item : α) :
    (items ++ [item]).eraseDups =
      if item ∈ items then items.eraseDups else items.eraseDups ++ [item] := by
  by_cases present : item ∈ items <;>
    simp [List.eraseDups_append, List.removeAll, List.eraseDups_cons, present]

/-- First occurrences are distinct. -/
theorem nodup_eraseDups
    (items : List α) :
    items.eraseDups.Nodup := by
  induction items using List.reverseRecOn with
  | nil =>
      simp
  | append_singleton items item inductionHypothesis =>
      by_cases present : item ∈ items
      · simpa [eraseDups_concat, present] using inductionHypothesis
      · simpa [eraseDups_concat, present, List.nodup_append] using
          ⟨inductionHypothesis, fun other member equal => present (equal ▸ member)⟩

/-- Distinct items are all first occurrences. -/
theorem eraseDups_of_nodup
    {items : List α}
    (distinct : items.Nodup) :
    items.eraseDups = items := by
  induction items using List.reverseRecOn with
  | nil =>
      simp
  | append_singleton items item inductionHypothesis =>
      have parts := List.nodup_append.mp distinct
      have fresh : item ∉ items := fun present => parts.2.2 item present item (by simp) rfl
      rw [eraseDups_concat, if_neg fresh, inductionHypothesis parts.1]

/-- The first occurrences among some items are those of the list that are among them. -/
theorem eraseDups_filter
    (kept : α → Bool)
    (items : List α) :
    (items.filter kept).eraseDups = items.eraseDups.filter kept := by
  induction items using List.reverseRecOn with
  | nil =>
      simp
  | append_singleton items item inductionHypothesis =>
      by_cases stays : kept item
      · by_cases present : item ∈ items <;>
          simp [eraseDups_concat, stays, present, inductionHypothesis]
      · by_cases present : item ∈ items <;>
          simp [eraseDups_concat, stays, present, inductionHypothesis]

/-- The first item of a kind is a first occurrence. -/
theorem find?_eraseDups
    (asked : α → Bool)
    (items : List α) :
    items.eraseDups.find? asked = items.find? asked := by
  rw [← List.head?_filter, ← List.head?_filter, ← eraseDups_filter]
  cases items.filter asked with
  | nil =>
      rfl
  | cons first rest =>
      simp [List.eraseDups_cons]

/-- What follows distinct elements adds the first occurrences that are not among them. -/
theorem eraseDups_append_of_nodup
    {known : List α}
    (distinct : known.Nodup)
    (items : List α) :
    (known ++ items).eraseDups = known ++ items.eraseDups.removeAll known := by
  rw [List.eraseDups_append, eraseDups_of_nodup distinct]
  simp only [List.removeAll, eraseDups_filter]

/-- Elements that follow an initial part of their first occurrences add the other ones. -/
theorem eraseDups_append_of_initial
    {known items : List α}
    (initial : known <+: items.eraseDups) :
    (known ++ items).eraseDups = items.eraseDups := by
  obtain ⟨later, split⟩ := initial
  have nodup := nodup_eraseDups items
  rw [← split, List.nodup_append] at nodup
  have apart : ∀ item ∈ later, item ∉ known := fun item inLater inKnown =>
    nodup.2.2 item inKnown item inLater rfl
  rw [eraseDups_append_of_nodup nodup.1, ← split]
  simp only [List.removeAll, List.filter_append]
  rw [List.filter_eq_nil_iff.mpr (by simp), List.filter_eq_self.mpr (by simpa using apart)]
  simp

/-- Items that are known already add nothing. -/
theorem eraseDups_append_of_subset
    {known items : List α}
    (distinct : known.Nodup)
    (covered : items ⊆ known) :
    (known ++ items).eraseDups = known := by
  have nothing : items.eraseDups.removeAll known = [] := by
    simpa [List.removeAll] using fun item member => covered member
  rw [eraseDups_append_of_nodup distinct, nothing, List.append_nil]

end FirstOccurrences
variable {α β : Type}

namespace Entries

/-- An insertion is found under its own name and changes nothing under another. -/
theorem get?_insert
    (name other : String)
    (value : α)
    (entries : List (String × α)) :
    get? other (insert name value entries) =
      if name = other then some value else get? other entries := by
  induction entries with
  | nil =>
      simp [insert, get?]
  | cons entry rest inductionHypothesis =>
      by_cases same : entry.1 = name
      · by_cases asked : name = other <;> simp [insert, get?, same, asked]
      · by_cases asked : entry.1 = other
        · have different : name ≠ other := fun equal => same (asked.trans equal.symm)
          have unlike : ¬other = name := fun equal => different equal.symm
          simp [insert, get?, asked, different, unlike]
        · simp [insert, get?, same, asked, inductionHypothesis]

/-- An insertion adds its name at the end unless it is there. -/
theorem names_insert
    (name : String)
    (value : α)
    (entries : List (String × α)) :
    names (insert name value entries) =
      if name ∈ names entries then names entries else names entries ++ [name] := by
  induction entries with
  | nil =>
      simp [insert, names]
  | cons entry rest inductionHypothesis =>
      simp only [names] at inductionHypothesis
      by_cases same : entry.1 = name
      · simp [insert, names, same]
      · by_cases inRest : name ∈ rest.map Prod.fst
        · simp [insert, names, same, inRest, inductionHypothesis]
        · have different : ¬name = entry.1 := fun equal => same equal.symm
          simp [insert, names, same, different, inRest, inductionHypothesis]

/-- What stands after an insertion was inserted or stood there before. -/
theorem mem_of_mem_insert
    {name : String}
    {value : α}
    {entries : List (String × α)}
    {entry : String × α}
    (member : entry ∈ insert name value entries) :
    entry = (name, value) ∨ entry ∈ entries := by
  induction entries with
  | nil =>
      exact .inl (List.mem_singleton.mp member)
  | cons first rest inductionHypothesis =>
      by_cases same : first.1 = name
      · rw [insert, if_pos same] at member
        rcases List.mem_cons.mp member with isNew | inRest
        · exact .inl isNew
        · exact .inr (List.mem_cons_of_mem _ inRest)
      · rw [insert, if_neg same] at member
        rcases List.mem_cons.mp member with isFirst | inRest
        · exact .inr (isFirst ▸ List.mem_cons_self)
        · rcases inductionHypothesis inRest with isNew | stood
          · exact .inl isNew
          · exact .inr (List.mem_cons_of_mem _ stood)

/-- A fresh entry is put at the end. -/
theorem insert_of_notMem
    {name : String}
    {value : α}
    {entries : List (String × α)}
    (fresh : name ∉ names entries) :
    insert name value entries = entries ++ [(name, value)] := by
  induction entries with
  | nil =>
      rfl
  | cons entry rest inductionHypothesis =>
      simp only [names, List.map_cons, List.mem_cons, not_or] at fresh
      have different : entry.1 ≠ name := fun equal => fresh.1 equal.symm
      simp [insert, different, inductionHypothesis fresh.2]

/-- Something is found under the names of the entries only. -/
theorem isSome_get?_iff
    {name : String}
    {entries : List (String × α)} :
    (get? name entries).isSome ↔ name ∈ names entries := by
  induction entries with
  | nil =>
      simp [get?, names]
  | cons entry rest inductionHypothesis =>
      by_cases same : entry.1 = name
      · simp [get?, names, same]
      · have different : name ≠ entry.1 := fun equal => same equal.symm
        simpa [get?, names, same, different] using inductionHypothesis

/-- If names are distinct, what is found is an entry and every entry is found. -/
theorem get?_eq_some_iff
    {name : String}
    {value : α}
    {entries : List (String × α)}
    (distinct : (names entries).Nodup) :
    get? name entries = some value ↔ (name, value) ∈ entries := by
  induction entries with
  | nil =>
      simp [get?]
  | cons entry rest inductionHypothesis =>
      obtain ⟨head, former⟩ := entry
      have parts := List.nodup_cons.mp distinct
      by_cases same : head = name
      · subst head
        have notLater : (name, value) ∉ rest := fun inRest =>
          parts.1 (List.mem_map.mpr ⟨(name, value), inRest, rfl⟩)
        simp [get?, notLater, eq_comm]
      · have different : ¬name = head := fun equal => same equal.symm
        simpa [get?, same, different] using inductionHypothesis parts.2

end Entries

namespace Table

@[simp] theorem entries_empty : (∅ : Table α).entries = [] := rfl

@[simp] theorem keys_empty : (∅ : Table α).keys = [] := rfl

@[simp] theorem values_empty : (∅ : Table α).values = [] := rfl

theorem nodup_keys
    (table : Table α) :
    table.keys.Nodup :=
  table.distinct

/-- An insertion is found under its own name and changes nothing under another. -/
@[simp] theorem get?_insert
    (table : Table α)
    (name other : String)
    (value : α) :
    (table.insert name value).get? other = if name = other then some value else table.get? other :=
  Entries.get?_insert name other value table.entries

theorem keys_insert
    (table : Table α)
    (name : String)
    (value : α) :
    (table.insert name value).keys =
      if name ∈ table.keys then table.keys else table.keys ++ [name] :=
  Entries.names_insert name value table.entries

/-- An insertion under a name of the table changes no names. -/
theorem keys_insert_of_mem
    {table : Table α}
    {name : String}
    {value : α}
    (present : name ∈ table.keys) :
    (table.insert name value).keys = table.keys := by
  rw [keys_insert, if_pos present]

theorem entries_insert_of_notMem
    {table : Table α}
    {name : String}
    {value : α}
    (fresh : name ∉ table.keys) :
    (table.insert name value).entries = table.entries ++ [(name, value)] :=
  Entries.insert_of_notMem fresh

theorem contains_iff
    {table : Table α}
    {name : String} :
    table.contains name = true ↔ name ∈ table.keys :=
  Entries.isSome_get?_iff

/-- A table has a name exactly when it has a value there. -/
theorem mem_keys_iff
    {table : Table α}
    {name : String} :
    name ∈ table.keys ↔ ∃ value, table.get? name = some value := by
  rw [← contains_iff, contains, Option.isSome_iff_exists]

theorem get?_eq_none_iff
    {table : Table α}
    {name : String} :
    table.get? name = none ↔ name ∉ table.keys := by
  rw [mem_keys_iff, Option.eq_none_iff_forall_ne_some, not_exists]

/-- What is found in a table is one of its entries. -/
theorem get?_eq_some_iff
    {table : Table α}
    {name : String}
    {value : α} :
    table.get? name = some value ↔ (name, value) ∈ table.entries :=
  Entries.get?_eq_some_iff table.distinct

theorem mem_values_iff
    {table : Table α}
    {value : α} :
    value ∈ table.values ↔ ∃ name, table.get? name = some value := by
  constructor
  · intro member
    obtain ⟨entry, inEntries, isValue⟩ := List.mem_map.mp member
    exact ⟨entry.1, get?_eq_some_iff.mpr (isValue ▸ inEntries)⟩
  · rintro ⟨name, found⟩
    exact List.mem_map.mpr ⟨(name, value), get?_eq_some_iff.mp found, rfl⟩

theorem values_insert_of_notMem
    {table : Table α}
    {name : String}
    {value : α}
    (fresh : name ∉ table.keys) :
    (table.insert name value).values = table.values ++ [value] := by
  simp [values, entries_insert_of_notMem fresh]

/-- A value is in a table after an insertion only if it was inserted or there before. -/
theorem mem_values_of_insert
    {table : Table α}
    {name : String}
    {value other : α}
    (member : other ∈ (table.insert name value).values) :
    other = value ∨ other ∈ table.values := by
  obtain ⟨asked, found⟩ := mem_values_iff.mp member
  rw [get?_insert] at found
  by_cases isNew : name = asked
  · rw [if_pos isNew, Option.some.injEq] at found
    exact .inl found.symm
  · rw [if_neg isNew] at found
    exact .inr (mem_values_iff.mpr ⟨asked, found⟩)

/-- The entries of a table are its names, each with the value under it. -/
theorem map_entries_eq_map_keys
    (table : Table α) :
    (table.entries.map fun entry => (entry.1, some entry.2)) =
      table.keys.map fun name => (name, table.get? name) := by
  simp only [keys, Entries.names, List.map_map]
  apply List.map_congr_left
  intro entry member
  have found : table.get? entry.1 = some entry.2 := get?_eq_some_iff.mpr member
  simp [found]

/-- Entries under the names of a table, in their order and with its values, are its own. -/
theorem entries_eq_of_keys_get?
    {table : Table α}
    {entries : List (String × α)}
    (sameNames : table.keys = Entries.names entries)
    (found : ∀ entry ∈ entries, table.get? entry.1 = some entry.2) :
    table.entries = entries := by
  have sameEntries :
      (table.entries.map fun entry => (entry.1, some entry.2)) =
        entries.map fun entry => (entry.1, some entry.2) := by
    rw [map_entries_eq_map_keys, sameNames, Entries.names, List.map_map]
    apply List.map_congr_left
    intro entry member
    simp [found entry member]
  apply List.map_injective_iff.mpr _ sameEntries
  rintro ⟨name, value⟩ ⟨other, another⟩ same
  simpa using same

/-- Tables with the same names in the same order and the same values under them are equal. -/
theorem ext_of_keys_get?
    {first second : Table α}
    (sameKeys : first.keys = second.keys)
    (sameValues : ∀ name, first.get? name = second.get? name) :
    first = second := by
  apply Table.ext
  apply entries_eq_of_keys_get? sameKeys
  intro entry member
  rw [sameValues, get?_eq_some_iff]
  exact member

/-- The entries inserted one after the other into a table. -/
def insertAll
    (table : Table α)
    (entries : List (String × α)) :
    Table α :=
  entries.foldl (fun table entry => table.insert entry.1 entry.2) table

theorem ofList_eq_insertAll
    (entries : List (String × α)) :
    ofList entries = insertAll ∅ entries :=
  rfl

@[simp] theorem insertAll_nil
    (table : Table α) :
    table.insertAll [] = table :=
  rfl

@[simp] theorem insertAll_cons
    (table : Table α)
    (entry : String × α)
    (rest : List (String × α)) :
    table.insertAll (entry :: rest) = (table.insert entry.1 entry.2).insertAll rest :=
  rfl

/-- The names after inserting entries are the first occurrences of the old and the new names. -/
theorem keys_insertAll
    (table : Table α)
    (entries : List (String × α)) :
    (table.insertAll entries).keys = (table.keys ++ Entries.names entries).eraseDups := by
  induction entries using List.reverseRecOn with
  | nil =>
      simp [Entries.names, FirstOccurrences.eraseDups_of_nodup table.nodup_keys]
  | append_singleton entries entry inductionHypothesis =>
      have unfolded :
          table.insertAll (entries ++ [entry]) =
            (table.insertAll entries).insert entry.1 entry.2 := by
        simp [insertAll]
      have names :
          table.keys ++ Entries.names (entries ++ [entry]) =
            table.keys ++ Entries.names entries ++ [entry.1] := by
        simp [Entries.names]
      rw [unfolded, names, keys_insert, inductionHypothesis, FirstOccurrences.eraseDups_concat]
      simp

/-- The names of a table made of entries are their first occurrences. -/
theorem keys_ofList
    (entries : List (String × α)) :
    (ofList entries).keys = (Entries.names entries).eraseDups := by
  rw [ofList_eq_insertAll, keys_insertAll]
  simp

/-- Under a name stands the last value inserted, or the former one if none was. -/
theorem get?_insertAll
    (table : Table α)
    (entries : List (String × α))
    (name : String) :
    (table.insertAll entries).get? name = ((ofList entries).get? name).or (table.get? name) := by
  induction entries using List.reverseRecOn with
  | nil =>
      rfl
  | append_singleton entries entry inductionHypothesis =>
      simp only [insertAll, List.foldl_append, List.foldl_cons, List.foldl_nil, ofList]
        at inductionHypothesis ⊢
      by_cases asked : entry.1 = name
      · simp [asked]
      · simp [asked, inductionHypothesis]

/--
Entries inserted into a table that holds an initial part of their names overwrite all that it
held: the table is that of the entries alone.
-/
theorem insertAll_eq_ofList
    {table : Table α}
    {entries : List (String × α)}
    (initial : table.keys <+: (ofList entries).keys) :
    table.insertAll entries = ofList entries := by
  have sameKeys : (table.insertAll entries).keys = (ofList entries).keys := by
    rw [keys_insertAll, keys_ofList]
    rw [keys_ofList] at initial
    exact FirstOccurrences.eraseDups_append_of_initial initial
  apply ext_of_keys_get? sameKeys
  intro name
  rw [get?_insertAll]
  cases found : (ofList entries).get? name with
  | some value =>
      rfl
  | none =>
      have absent : name ∉ table.keys := fun present =>
        get?_eq_none_iff.mp found (initial.subset present)
      simp [get?_eq_none_iff.mpr absent]

/--
A part of the entries, inserted into a table that holds an initial part of all their names, leaves
such a table again.
-/
theorem keys_insertAll_initial
    {table : Table α}
    {entries part : List (String × α)}
    (initial : table.keys <+: (ofList entries).keys)
    (fromStart : Entries.names part <+: Entries.names entries) :
    (table.insertAll part).keys <+: (ofList entries).keys := by
  rw [keys_ofList] at initial ⊢
  rw [keys_insertAll]
  obtain ⟨others, split⟩ := fromStart
  have partInitial : (Entries.names part).eraseDups <+: (Entries.names entries).eraseDups := by
    rw [← split, List.eraseDups_append]
    exact List.prefix_append _ _
  rcases List.prefix_or_prefix_of_prefix initial partInitial with shorter | longer
  · rw [FirstOccurrences.eraseDups_append_of_initial shorter]
    exact partInitial
  · have covered : Entries.names part ⊆ table.keys := fun name member =>
      longer.subset (by simpa using member)
    rw [FirstOccurrences.eraseDups_append_of_subset table.nodup_keys covered]
    exact initial

/-- What is found in a table made of entries is one of them. -/
theorem mem_of_get?_ofList
    {entries : List (String × α)}
    {name : String}
    {value : α}
    (found : (ofList entries).get? name = some value) :
    (name, value) ∈ entries := by
  induction entries using List.reverseRecOn with
  | nil =>
      simp [ofList, empty, get?, Entries.get?] at found
  | append_singleton entries entry inductionHypothesis =>
      have unfolded : ofList (entries ++ [entry]) = (ofList entries).insert entry.1 entry.2 := by
        simp [ofList]
      rw [unfolded, get?_insert] at found
      by_cases isLast : entry.1 = name
      · rw [if_pos isLast, Option.some.injEq] at found
        simp [← isLast, ← found]
      · rw [if_neg isLast] at found
        simp [inductionHypothesis found]

/-- Entries under distinct names are those of the table made of them. -/
theorem entries_ofList
    {entries : List (String × α)}
    (distinct : (Entries.names entries).Nodup) :
    (ofList entries).entries = entries := by
  induction entries using List.reverseRecOn with
  | nil =>
      rfl
  | append_singleton entries entry inductionHypothesis =>
      have names : Entries.names (entries ++ [entry]) = Entries.names entries ++ [entry.1] := by
        simp [Entries.names]
      rw [names] at distinct
      have parts := List.nodup_append.mp distinct
      have former := inductionHypothesis parts.1
      have fresh : entry.1 ∉ (ofList entries).keys := by
        rw [keys, former]
        exact fun present => parts.2.2 entry.1 present entry.1 (by simp) rfl
      have unfolded : ofList (entries ++ [entry]) = (ofList entries).insert entry.1 entry.2 := by
        simp [ofList]
      rw [unfolded, entries_insert_of_notMem fresh, former]

theorem get?_ofList_singleton
    {name other : String}
    {value found : α} :
    (ofList [(name, value)]).get? other = some found ↔ other = name ∧ found = value := by
  have entries : (ofList [(name, value)]).entries = [(name, value)] := rfl
  simp [get?_eq_some_iff, entries]

/-- A table is what its entries make. -/
@[simp] theorem ofList_entries
    (table : Table α) :
    ofList table.entries = table :=
  ext (entries_ofList table.distinct)

@[simp] theorem entries_map
    (table : Table α)
    (change : String → α → β) :
    (table.map change).entries =
      table.entries.map fun entry => (entry.1, change entry.1 entry.2) :=
  rfl

/-- A change of the values keeps the names in order. -/
@[simp] theorem keys_map
    (table : Table α)
    (change : String → α → β) :
    (table.map change).keys = table.keys := by
  simp [map, keys, Entries.names]

/-- A change of the values is found under the same names. -/
@[simp] theorem get?_map
    (table : Table α)
    (change : String → α → β)
    (name : String) :
    (table.map change).get? name = (table.get? name).map (change name) := by
  cases found : table.get? name with
  | none =>
      simpa [get?_eq_none_iff] using found
  | some value =>
      have member := get?_eq_some_iff.mp found
      exact get?_eq_some_iff.mpr (List.mem_map.mpr ⟨(name, value), member, rfl⟩)

theorem values_map
    (table : Table α)
    (change : α → β) :
    (table.map fun _ => change).values = table.values.map change := by
  simp [map, values]

/-- Inserting what stands there already changes nothing. -/
theorem insert_of_get?
    {table : Table α}
    {name : String}
    {value : α}
    (present : table.get? name = some value) :
    table.insert name value = table := by
  apply ext_of_keys_get?
  · exact keys_insert_of_mem (mem_keys_iff.mpr ⟨value, present⟩)
  · intro asked
    rw [get?_insert]
    split
    · next same =>
        rw [← same, present]
    · rfl

/-- Replacing a value by one that a change makes the same is no difference after the change. -/
theorem map_insert_of_get?
    {table : Table α}
    {change : String → α → β}
    {name : String}
    {former value : α}
    (present : table.get? name = some former)
    (same : change name value = change name former) :
    (table.insert name value).map change = table.map change := by
  apply ext_of_keys_get?
  · rw [keys_map, keys_map, keys_insert_of_mem (mem_keys_iff.mpr ⟨former, present⟩)]
  · intro asked
    rw [get?_map, get?_map, get?_insert]
    by_cases isName : name = asked
    · subst isName
      simp [present, same]
    · simp [isName]

/-- Every value stands under the name that it bears itself. -/
def Keyed
    (nameOf : α → String)
    (table : Table α) :
    Prop :=
  ∀ name value, table.get? name = some value → nameOf value = name

namespace Keyed

variable {nameOf : α → String}

theorem empty : (∅ : Table α).Keyed nameOf := by
  intro name value found
  simp [get?, Entries.get?] at found

theorem insert
    {table : Table α}
    {name : String}
    {value : α}
    (keyed : table.Keyed nameOf)
    (own : nameOf value = name) :
    (table.insert name value).Keyed nameOf := by
  intro asked found lookup
  rw [get?_insert] at lookup
  by_cases same : name = asked
  · rw [if_pos same, Option.some.injEq] at lookup
    exact lookup ▸ own.trans same
  · rw [if_neg same] at lookup
    exact keyed asked found lookup

theorem insertAll
    {table : Table α}
    {entries : List (String × α)}
    (keyed : table.Keyed nameOf)
    (own : ∀ entry ∈ entries, nameOf entry.2 = entry.1) :
    (table.insertAll entries).Keyed nameOf := by
  induction entries generalizing table with
  | nil =>
      exact keyed
  | cons entry rest inductionHypothesis =>
      exact inductionHypothesis (keyed.insert (own entry (by simp)))
        fun other inRest => own other (by simp [inRest])

/-- A value that stands under its own name is found by it. -/
theorem get?_of_mem_values
    {table : Table α}
    (keyed : table.Keyed nameOf)
    {value : α}
    (member : value ∈ table.values) :
    table.get? (nameOf value) = some value := by
  obtain ⟨name, found⟩ := mem_values_iff.mp member
  rw [keyed name value found]
  exact found

theorem eq_of_mem_values
    {table : Table α}
    (keyed : table.Keyed nameOf)
    {value other : α}
    (member : value ∈ table.values)
    (otherMember : other ∈ table.values)
    (same : nameOf value = nameOf other) :
    value = other := by
  have found := keyed.get?_of_mem_values member
  rw [same, keyed.get?_of_mem_values otherMember, Option.some.injEq] at found
  exact found.symm

/-- The names of a keyed table are those that its values bear. -/
theorem map_values
    {table : Table α}
    (keyed : table.Keyed nameOf) :
    table.values.map nameOf = table.keys := by
  simp only [values, keys, Entries.names, List.map_map]
  apply List.map_congr_left
  intro entry member
  exact keyed entry.1 entry.2 (get?_eq_some_iff.mpr member)

end Keyed

end Table

end Blueprint
