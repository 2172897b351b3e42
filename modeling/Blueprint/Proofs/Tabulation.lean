import Blueprint.Proofs.MigrationSet

namespace Blueprint

/-!
# When migrations can be put together

The migrations of a context can be put together exactly when the tables of its entities and the
explicit tables all have different names, the lines of the explicit tables can be read, and every
join table that is needed can be made and has a name of its own.
-/

open Schema

namespace Resolution

/-- The tables of the entities and the explicit tables, in order. -/
def declaredTables
    (document : Document)
    (context : Context) :
    List String :=
  context.entities.values.map Entity.table ++ document.database.migrations.keys

/-- What it takes to put the migrations of a context together. -/
structure Tabulable
    (document : Document)
    (context : Context) :
    Prop where
  tables_distinct : (declaredTables document context).Nodup
  explicit_read :
    ∀ entry ∈ document.database.migrations.entries,
      ∃ columns, scalarColumns ("migrations." ++ entry.1) entry.2 = .ok columns
  pivots_made :
    ∀ pair ∈ guessedPivots context,
      ∃ pivot,
        pivotMigration context pair.1 pair.2 = .ok pivot ∧
          pivot.table ∉ declaredTables document context

/-- Steps that put an entry under a name wherever it is free succeed on distinct names. -/
theorem exists_accumulate_of_distinct
    {α : Type}
    {step : Table Migration → α → Except ResolveError (Table Migration)}
    (nameOf : α → String)
    {table : Table Migration}
    {items : List α}
    (inserts :
      ∀ item ∈ items, ∀ table : Table Migration,
        nameOf item ∉ table.keys →
        ∃ value, step table item = .ok (table.insert (nameOf item) value))
    (distinct : (table.keys ++ items.map nameOf).Nodup) :
    ∃ final,
      accumulate step table items = .ok final ∧ final.keys = table.keys ++ items.map nameOf := by
  induction items generalizing table with
  | nil =>
      exact ⟨table, rfl, by simp⟩
  | cons item rest inductionHypothesis =>
      have fresh : nameOf item ∉ table.keys := fun present =>
        (List.nodup_append.mp distinct).2.2 _ present (nameOf item) (by simp) rfl
      obtain ⟨value, stepped⟩ := inserts item (by simp) table fresh
      have keys : (table.insert (nameOf item) value).keys = table.keys ++ [nameOf item] := by
        rw [Table.keys_insert, if_neg fresh]
      have restDistinct :
          ((table.insert (nameOf item) value).keys ++ rest.map nameOf).Nodup := by
        simpa [keys] using distinct
      obtain ⟨final, done, finalKeys⟩ :=
        inductionHypothesis (fun other inRest => inserts other (by simp [inRest])) restDistinct
      refine ⟨final, ?_, ?_⟩
      · simpa [accumulate, stepped] using done
      · simpa [keys] using finalKeys

/-- Join tables can be added as long as only join tables stand under their names. -/
theorem exists_accumulate_addPivotTable
    {table : Table Migration}
    {pivots : List Migration}
    (areGuessed : ∀ pivot ∈ pivots, pivot.isGuessedPivot = true)
    (apart :
      ∀ pivot ∈ pivots, ∀ existing,
        table.get? pivot.table = some existing → existing.isGuessedPivot = true) :
    ∃ final, accumulate addPivotTable table pivots = .ok final := by
  induction pivots generalizing table with
  | nil =>
      exact ⟨table, rfl⟩
  | cons pivot rest inductionHypothesis =>
      have isGuessed := areGuessed pivot (by simp)
      cases found : table.get? pivot.table with
      | none =>
          have stillApart (other : Migration) (inRest : other ∈ rest) (existing : Migration)
              (stored : (table.insert pivot.table pivot).get? other.table = some existing) :
              existing.isGuessedPivot = true := by
            rw [Table.get?_insert] at stored
            split at stored
            · rw [Option.some.injEq] at stored
              exact stored ▸ isGuessed
            · exact apart other (by simp [inRest]) existing stored
          obtain ⟨final, done⟩ :=
            inductionHypothesis (fun other inRest => areGuessed other (by simp [inRest]))
              stillApart
          exact ⟨final, by simpa [accumulate, addPivotTable, found] using done⟩
      | some existing =>
          have existingIsGuessed := apart pivot (by simp) existing found
          obtain ⟨final, done⟩ :=
            inductionHypothesis (fun other inRest => areGuessed other (by simp [inRest]))
              (fun other inRest => apart other (by simp [inRest]))
          exact ⟨final, by simpa [accumulate, addPivotTable, found, existingIsGuessed] using done⟩

theorem Tabulable.exists_migrationTable
    {document : Document}
    {context : Context}
    (tabulable : Tabulable document context) :
    ∃ table, migrationTable document context = .ok table := by
  have distinct := List.nodup_append.mp tabulable.tables_distinct
  obtain ⟨entityTables, entitiesDone, entityKeys⟩ :
      ∃ table,
        accumulate addEntityTable ∅ context.entities.values = .ok table ∧
          table.keys = context.entities.values.map Entity.table := by
    apply exists_accumulate_of_distinct Entity.table
    · intro entity _ table free
      exact ⟨Migration.ofEntity entity, by
        simp [addEntityTable, Table.get?_eq_none_iff.mpr free]⟩
    · simpa using distinct.1
  obtain ⟨declared, explicitDone, declaredKeys⟩ :
      ∃ table,
        accumulate addExplicitTable entityTables document.database.migrations.entries =
            .ok table ∧
          table.keys = declaredTables document context := by
    rw [declaredTables, ← entityKeys]
    apply exists_accumulate_of_distinct Prod.fst
    · intro entry isEntry table free
      obtain ⟨columns, read⟩ := tabulable.explicit_read entry isEntry
      exact ⟨Migration.ofColumns entry.1 columns.values, by
        simp [addExplicitTable, read, Table.get?_eq_none_iff.mpr free]⟩
    · rw [entityKeys]
      exact tabulable.tables_distinct
  obtain ⟨pivots, made⟩ :
      ∃ pivots,
        collect (fun pair => pivotMigration context pair.1 pair.2) (guessedPivots context) =
          .ok pivots := by
    apply exists_collect_of_forall
    intro pair isGuessed
    obtain ⟨pivot, isMade, _⟩ := tabulable.pivots_made pair isGuessed
    exact ⟨pivot, isMade⟩
  have madeFor (pivot : Migration) (member : pivot ∈ pivots) :
      pivot.isGuessedPivot = true ∧ pivot.table ∉ declared.keys := by
    obtain ⟨pair, isGuessed, isMade⟩ := exists_of_mem_collect made member
    obtain ⟨other, otherIsMade, apart⟩ := tabulable.pivots_made pair isGuessed
    cases isMade.symm.trans otherIsMade
    exact ⟨isGuessedPivot_of_pivotMigration isMade, declaredKeys ▸ apart⟩
  obtain ⟨table, pivotsDone⟩ :=
    exists_accumulate_addPivotTable (fun pivot member => (madeFor pivot member).1)
      fun pivot member existing stored =>
        absurd (Table.mem_keys_iff.mpr ⟨existing, stored⟩) (madeFor pivot member).2
  refine ⟨table, ?_⟩
  simp only [migrationTable, bind_eq_ok_iff]
  exact ⟨entityTables, entitiesDone, declared, explicitDone, pivots, made, pivotsDone⟩

theorem Tabulated.tabulable
    {document : Document}
    {context : Context}
    {explicit : List (String × Migration)}
    {pivots : List Migration}
    {table : Table Migration}
    (tabulated : Tabulated document context explicit pivots table) :
    Tabulable document context := by
  have keys := tabulated.keys_eq
  rw [tabulated.names_eq] at keys
  have distinct := List.nodup_append.mp (keys ▸ table.nodup_keys)
  exact {
    tables_distinct := distinct.1
    explicit_read := by
      intro entry isEntry
      obtain ⟨_, _, columns, read, _⟩ :=
        exists_of_mem_matched tabulated.explicit_read.flip isEntry
      exact ⟨columns, read⟩
    pivots_made := by
      intro pair isGuessed
      obtain ⟨pivot, isPivot, isMade⟩ :=
        exists_of_mem_matched tabulated.pivots_made.flip isGuessed
      refine ⟨pivot, isMade, fun present => ?_⟩
      have named : pivot.table ∈ (pivots.map Migration.table).eraseDups :=
        List.mem_eraseDups.mpr (List.mem_map_of_mem isPivot)
      exact distinct.2.2 _ present _ named rfl }

/-- The names of the migrations are those of the declared tables and of the join tables. -/
theorem Tabulated.mem_keys_iff
    {document : Document}
    {context : Context}
    {explicit : List (String × Migration)}
    {pivots : List Migration}
    {table : Table Migration}
    (tabulated : Tabulated document context explicit pivots table)
    {name : String} :
    name ∈ table.keys ↔
      name ∈ declaredTables document context ∨
        ∃ pair ∈ guessedPivots context,
          ∃ pivot,
            pivotMigration context pair.1 pair.2 = .ok pivot ∧ pivot.table = name := by
  rw [tabulated.keys_eq, tabulated.names_eq, List.mem_append, List.mem_eraseDups, List.mem_map,
    declaredTables]
  refine or_congr_right ⟨?_, ?_⟩
  · rintro ⟨pivot, isPivot, named⟩
    obtain ⟨pair, isGuessed, isMade⟩ := exists_of_mem_matched tabulated.pivots_made isPivot
    exact ⟨pair, isGuessed, pivot, isMade, named⟩
  · rintro ⟨pair, isGuessed, pivot, isMade, named⟩
    obtain ⟨other, isPivot, otherIsMade⟩ :=
      exists_of_mem_matched tabulated.pivots_made.flip isGuessed
    cases isMade.symm.trans otherIsMade
    exact ⟨pivot, isPivot, named⟩

theorem ExplicitEntry.unique
    {declared : String × Document.Columns}
    {entry other : String × Migration}
    (isEntry : ExplicitEntry declared entry)
    (otherIsEntry : ExplicitEntry declared other) :
    entry = other := by
  obtain ⟨columns, read, rfl⟩ := isEntry
  obtain ⟨otherColumns, otherRead, rfl⟩ := otherIsEntry
  cases read.symm.trans otherRead
  rfl

/-- Every migration but a join table is that of an entity or of an explicit table. -/
theorem Tabulated.get?_eq_some_iff_of_not_isGuessedPivot
    {document : Document}
    {context : Context}
    {explicit : List (String × Migration)}
    {pivots : List Migration}
    {table : Table Migration}
    (tabulated : Tabulated document context explicit pivots table)
    {name : String}
    {migration : Migration}
    (notGuessed : migration.isGuessedPivot = false) :
    table.get? name = some migration ↔
      (∃ entity ∈ context.entities.values, entityTableEntry entity = (name, migration)) ∨
        ∃ declared ∈ document.database.migrations.entries,
          ExplicitEntry declared (name, migration) := by
  rw [tabulated.get?_eq, List.mem_append, List.mem_map]
  constructor
  · rintro ((ofEntity | isExplicit) | ⟨_, found⟩)
    · exact .inl ofEntity
    · obtain ⟨declared, isDeclared, isEntry⟩ :=
        exists_of_mem_matched tabulated.explicit_read isExplicit
      exact .inr ⟨declared, isDeclared, isEntry⟩
    · obtain ⟨pair, _, isMade⟩ :=
        exists_of_mem_matched tabulated.pivots_made (List.mem_of_find?_eq_some found)
      simp [isGuessedPivot_of_pivotMigration isMade] at notGuessed
  · rintro (ofEntity | ⟨declared, isDeclared, isEntry⟩)
    · exact .inl (.inl ofEntity)
    · obtain ⟨entry, isExplicit, otherIsEntry⟩ :=
        exists_of_mem_matched tabulated.explicit_read.flip isDeclared
      cases isEntry.unique otherIsEntry
      exact .inl (.inr isExplicit)

/-- The first join table of every name, under that name. -/
def firstPivots
    (pivots : List Migration) :
    List (String × Migration) :=
  (pivots.map Migration.table).eraseDups.filterMap fun name =>
    (pivots.find? fun pivot => pivot.table == name).map fun pivot => (name, pivot)

theorem names_firstPivots
    (pivots : List Migration) :
    Entries.names (firstPivots pivots) = (pivots.map Migration.table).eraseDups := by
  rw [Entries.names, firstPivots, List.map_filterMap]
  calc
    _ = (pivots.map Migration.table).eraseDups.filterMap some := by
      apply List.filterMap_congr
      intro name member
      obtain ⟨pivot, isPivot, named⟩ := List.mem_map.mp (List.mem_eraseDups.mp member)
      obtain ⟨first, found⟩ :
          ∃ first, pivots.find? (fun pivot => pivot.table == name) = some first := by
        rw [← Option.isSome_iff_exists, List.find?_isSome]
        exact ⟨pivot, isPivot, by simp [named]⟩
      simp [found]
    _ = (pivots.map Migration.table).eraseDups := List.filterMap_some

/-- A table of migrations holds the tables of entities, then the explicit tables, then the first
join table of every name. -/
theorem Tabulated.entries_eq
    {document : Document}
    {context : Context}
    {explicit : List (String × Migration)}
    {pivots : List Migration}
    {table : Table Migration}
    (tabulated : Tabulated document context explicit pivots table) :
    table.entries =
      context.entities.values.map entityTableEntry ++ (explicit ++ firstPivots pivots) := by
  have keys := tabulated.keys_eq
  rw [← names_firstPivots] at keys
  have distinct := List.nodup_append.mp (keys ▸ table.nodup_keys)
  rw [← List.append_assoc]
  apply Table.entries_eq_of_keys_get?
  · simp only [keys, Entries.names, List.map_append]
  · rintro ⟨name, migration⟩ member
    rw [tabulated.get?_eq]
    rcases List.mem_append.mp member with isDeclared | isFirst
    · exact .inl isDeclared
    · refine .inr ⟨fun isDeclared => ?_, ?_⟩
      · exact distinct.2.2 name isDeclared name (List.mem_map_of_mem isFirst) rfl
      · obtain ⟨asked, _, found⟩ := List.mem_filterMap.mp isFirst
        obtain ⟨pivot, isFound, same⟩ := Option.map_eq_some_iff.mp found
        cases same
        exact isFound

/-- The migrations of a context can be put together exactly when nothing stands against it. -/
theorem migrations_error_eq_none_iff
    {document : Document}
    {context : Context} :
    (migrations document context).error = none ↔ Tabulable document context := by
  constructor
  · intro done
    cases made : migrationTable document context with
    | error cause =>
        simp [migrations, made] at done
    | ok table =>
        obtain ⟨explicit, pivots, tabulated⟩ := tabulated_of_migrationTable made
        exact tabulated.tabulable
  · intro tabulable
    obtain ⟨table, made⟩ := tabulable.exists_migrationTable
    simp [migrations, made]

end Resolution

end Blueprint
