namespace Blueprint

/-!
# Tables

A table holds values under names, each name once, in the order in which the names first came.
Inserting under a name that is present replaces its value and keeps its place.
-/

namespace Entries

variable {α : Type}

/-- The names of a list of entries, in order. -/
def names
    (entries : List (String × α)) :
    List String :=
  entries.map Prod.fst

/-- The value of the first entry under a name. -/
def get?
    (name : String) :
    List (String × α) →
    Option α
  | [] => none
  | (other, value) :: rest => if other = name then some value else get? name rest

/-- Replace the value under a name where it stands, else append the entry. -/
def insert
    (name : String)
    (value : α) :
    List (String × α) →
    List (String × α)
  | [] => [(name, value)]
  | (other, former) :: rest =>
      if other = name then (name, value) :: rest else (other, former) :: insert name value rest

/-- Insertion adds at most the inserted name. -/
theorem mem_names_insert
    {name member : String}
    {value : α}
    {entries : List (String × α)} :
    member ∈ names (insert name value entries) ↔ member = name ∨ member ∈ names entries := by
  induction entries with
  | nil =>
      simp [insert, names]
  | cons entry rest inductionHypothesis =>
      by_cases same : entry.1 = name
      · simp [insert, names, same]
      · simp only [names] at inductionHypothesis
        simp [insert, names, same, inductionHypothesis, or_left_comm]

/-- Insertion keeps the names distinct. -/
theorem nodup_names_insert
    {name : String}
    {value : α}
    {entries : List (String × α)}
    (distinct : (names entries).Nodup) :
    (names (insert name value entries)).Nodup := by
  induction entries with
  | nil =>
      simp [insert, names]
  | cons entry rest inductionHypothesis =>
      have parts := List.nodup_cons.mp distinct
      by_cases same : entry.1 = name
      · simpa [insert, names, same] using distinct
      · have fresh : entry.1 ∉ names (insert name value rest) := by
          rw [mem_names_insert]
          exact fun present => present.elim same parts.1
        simpa [insert, same, names] using
          List.nodup_cons.mpr ⟨fresh, inductionHypothesis parts.2⟩

end Entries

/-- Entries under pairwise distinct names. -/
structure Table (α : Type) where
  entries : List (String × α)
  distinct : (Entries.names entries).Nodup
  deriving Repr, DecidableEq

namespace Table

variable {α β : Type}

/-- The table without entries. -/
def empty : Table α :=
  ⟨[], List.nodup_nil⟩

instance : EmptyCollection (Table α) :=
  ⟨empty⟩

instance : Inhabited (Table α) :=
  ⟨empty⟩

/-- Tables with the same entries are equal. -/
@[ext] theorem ext
    {first second : Table α}
    (same : first.entries = second.entries) :
    first = second := by
  cases first
  cases second
  cases same
  rfl

/-- The names of the entries, in order. -/
def keys
    (table : Table α) :
    List String :=
  Entries.names table.entries

/-- The values of the entries, in order. -/
def values
    (table : Table α) :
    List α :=
  table.entries.map Prod.snd

/-- The number of entries. -/
def size
    (table : Table α) :
    Nat :=
  table.entries.length

/-- The value under a name. -/
def get?
    (table : Table α)
    (name : String) :
    Option α :=
  Entries.get? name table.entries

/-- Whether there is an entry under a name. -/
def contains
    (table : Table α)
    (name : String) :
    Bool :=
  (table.get? name).isSome

/-- Put a value under a name, in the place of the former one if there was one. -/
def insert
    (table : Table α)
    (name : String)
    (value : α) :
    Table α :=
  ⟨Entries.insert name value table.entries, Entries.nodup_names_insert table.distinct⟩

/-- The entries inserted one after the other: first place, last value. -/
def ofList
    (entries : List (String × α)) :
    Table α :=
  entries.foldl (fun table entry => table.insert entry.1 entry.2) empty

/-- Change every value and keep the names. -/
def map
    (change : String → α → β)
    (table : Table α) :
    Table β where
  entries :=
    table.entries.map fun entry => (entry.1, change entry.1 entry.2)
  distinct := by
    have distinct := table.distinct
    simp only [Entries.names] at distinct
    simpa [Entries.names, List.map_map, Function.comp_def] using distinct

end Table

end Blueprint
