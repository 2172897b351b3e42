import Blueprint.Proofs.LinkedEntities

namespace Blueprint

/-!
# The parts of the table of migrations

The tables of entities and the explicit tables each go in under a name that was free, so they
append one entry each. Of the join tables only the first of every name goes in, and only if no
other table has its name.
-/

open Schema

/-- The name and the type of the column by which other tables refer to an entity. -/
def Schema.Entity.keyColumn?
    (entity : Entity) :
    Option (String × String) :=
  entity.primary.map fun primary =>
    (entity.singular ++ "_" ++ Naming.snake primary.column, primary.storageType)

/-- The name and the type of a column. -/
def Schema.Column.heading
    (column : Column) :
    String × String :=
  (column.name, column.columnType)

/-- The join table of two entities, made up for a relation of the first. -/
structure Schema.Migration.Joins
    (entity target : Entity)
    (relation : Relation)
    (pivot : Migration) :
    Prop where
  table_eq : pivot.table = pivotTableName entity.className target.className
  source_eq : pivot.source = .pivot entity.key relation.name
  primary_eq : pivot.primary = none
  indexes_eq : pivot.indexes = []
  columns_sorted : pivot.columns.Pairwise fun first second => first.name < second.name
  columns_perm :
    ∃ first ∈ entity.keyColumn?, ∃ second ∈ target.keyColumn?,
      (pivot.columns.map Column.heading).Perm [first, second]

namespace Schema

theorem lt_of_not_lt_of_ne
    {first second : String}
    (notLess : ¬second < first)
    (different : first ≠ second) :
    first < second := by
  by_contra notOrdered
  exact different (String.le_antisymm (String.not_lt.mp notLess) (String.not_lt.mp notOrdered))

/-- Two values with different texts are the sorted pair, in one order or the other. -/
theorem sortedPair_of_ne
    {α : Type}
    {text : α → String}
    {first second : α}
    (different : text first ≠ text second) :
    ∃ smaller larger,
      sortedPair text first second = (smaller, larger) ∧
        text smaller < text larger ∧
        List.Perm [smaller, larger] [first, second] := by
  by_cases swapped : text second < text first
  · exact ⟨second, first, by simp [sortedPair, swapped], swapped, List.Perm.swap first second []⟩
  · have ordered : text first < text second := lt_of_not_lt_of_ne swapped different
    exact ⟨first, second, by simp [sortedPair, swapped], ordered, List.Perm.refl _⟩

end Schema

namespace Resolution

theorem heading_of_sideColumn
    {owner relation : String}
    {side : Entity}
    {column : Column}
    (made : sideColumn owner relation side = .ok column) :
    side.keyColumn? = some column.heading := by
  cases primary : side.primary with
  | none =>
      simp [sideColumn, primary] at made
  | some key =>
      simp only [sideColumn, primary, Except.ok.injEq] at made
      subst made
      simp [Entity.keyColumn?, primary, Column.heading, Column.forRelation]

/-- A join table has the key columns of both sides in the order of their names. -/
theorem joins_of_joinTable
    {entity target : Entity}
    {relation : Relation}
    {pivot : Migration}
    (made : joinTable entity target relation = .ok pivot) :
    pivot.Joins entity target relation := by
  simp only [joinTable, bind_eq_ok_iff] at made
  obtain ⟨first, hasFirst, second, hasSecond, stored⟩ := made
  by_cases same : first.name = second.name
  · simp [same] at stored
  · obtain ⟨smaller, larger, sorted, ordered, perm⟩ := sortedPair_of_ne same
    simp only [same, ↓reduceIte, sorted, pure_eq_ok_iff] at stored
    subst stored
    exact {
      table_eq := rfl
      source_eq := rfl
      primary_eq := rfl
      indexes_eq := rfl
      columns_sorted := by simpa using ordered
      columns_perm := ⟨first.heading, heading_of_sideColumn hasFirst, second.heading,
        heading_of_sideColumn hasSecond, perm.map Column.heading⟩ }

theorem isGuessedPivot_of_pivotMigration
    {context : Context}
    {entity : Entity}
    {relation : Relation}
    {pivot : Migration}
    (made : pivotMigration context entity relation = .ok pivot) :
    pivot.isGuessedPivot = true := by
  unfold pivotMigration at made
  cases named : relation.target with
  | none =>
      simp [named, Document.refuse] at made
  | some key =>
      by_cases isSelf : key = entity.key
      · simp [named, isSelf] at made
      · cases found : context.entity key (entity.key ++ "." ++ relation.name) with
        | error cause =>
            simp [named, isSelf, found] at made
        | ok target =>
            simp only [named, isSelf, ↓reduceIte, found] at made
            simp [Migration.isGuessedPivot, (joins_of_joinTable made).source_eq]

theorem missingPrimaryKey_of_sideColumn
    {owner relation : String}
    {side : Entity}
    {cause : ResolveError}
    (failed : sideColumn owner relation side = .error cause) :
    side.primary = none ∧ cause = .missingPrimaryKey side.key owner := by
  cases primary : side.primary with
  | none =>
      simp only [sideColumn, primary, Except.error.injEq] at failed
      exact ⟨rfl, failed.symm⟩
  | some key =>
      simp [sideColumn, primary] at failed

/-- A join table of two entities cannot be made where one has no key or both have a key column of
the same name. -/
theorem cases_of_joinTable
    {entity target : Entity}
    {relation : Relation}
    {cause : ResolveError}
    (failed : joinTable entity target relation = .error cause) :
    (∃ side,
        (side = entity ∨ side = target) ∧
          side.primary = none ∧
          cause = .missingPrimaryKey side.key (entity.key ++ "." ++ relation.name)) ∨
      (∃ name,
        entity.keyColumn?.map Prod.fst = some name ∧
          target.keyColumn?.map Prod.fst = some name ∧
          cause = .selfReferencingPivot entity.key relation.name) := by
  unfold joinTable at failed
  cases first : sideColumn (entity.key ++ "." ++ relation.name) relation.name entity with
  | error reason =>
      obtain ⟨keyless, rfl⟩ := missingPrimaryKey_of_sideColumn first
      simp only [first, bind, Except.bind, Except.error.injEq] at failed
      exact .inl ⟨entity, .inl rfl, keyless, failed.symm⟩
  | ok column =>
      cases second : sideColumn (entity.key ++ "." ++ relation.name) relation.name target with
      | error reason =>
          obtain ⟨keyless, rfl⟩ := missingPrimaryKey_of_sideColumn second
          simp only [first, second, bind, Except.bind, Except.error.injEq] at failed
          exact .inl ⟨target, .inr rfl, keyless, failed.symm⟩
      | ok other =>
          by_cases same : column.name = other.name
          · simp only [first, second, bind, Except.bind, same, ↓reduceIte,
              Except.error.injEq] at failed
            refine .inr ⟨column.name, ?_, ?_, failed.symm⟩
            · simp [heading_of_sideColumn first, Column.heading]
            · simp [heading_of_sideColumn second, Column.heading, same]
          · simp [first, second, bind, Except.bind, same, pure, Except.pure] at failed

/-- A join table can be made of two entities exactly when both have a key column, of different
names. -/
theorem exists_joinTable_iff
    {entity target : Entity}
    {relation : Relation} :
    (∃ pivot, joinTable entity target relation = .ok pivot) ↔
      ∃ first second,
        entity.keyColumn?.map Prod.fst = some first ∧
          target.keyColumn?.map Prod.fst = some second ∧ first ≠ second := by
  constructor
  · rintro ⟨pivot, made⟩
    simp only [joinTable, bind_eq_ok_iff] at made
    obtain ⟨first, hasFirst, second, hasSecond, stored⟩ := made
    refine ⟨first.name, second.name, ?_, ?_, fun same => ?_⟩
    · simp [heading_of_sideColumn hasFirst, Column.heading]
    · simp [heading_of_sideColumn hasSecond, Column.heading]
    · simp [same] at stored
  · rintro ⟨first, second, hasFirst, hasSecond, different⟩
    cases made : joinTable entity target relation with
    | ok pivot =>
        exact ⟨pivot, rfl⟩
    | error cause =>
        rcases cases_of_joinTable made with ⟨side, isSide, keyless, _⟩ | ⟨name, named, alsoNamed, _⟩
        · rcases isSide with rfl | rfl
          · simp [Entity.keyColumn?, keyless] at hasFirst
          · simp [Entity.keyColumn?, keyless] at hasSecond
        · cases hasFirst.symm.trans named
          cases hasSecond.symm.trans alsoNamed
          exact absurd rfl different

/-- A relation whose target is there has the join table of its entity and its target, unless the
two are one. -/
theorem pivotMigration_of_target
    {context : Context}
    {entity target : Entity}
    {relation : Relation}
    {key : String}
    (isTarget : relation.target = some key)
    (found : context.entities.get? key = some target) :
    pivotMigration context entity relation =
      if key = entity.key then
        .error (.selfReferencingPivot entity.key relation.name)
      else
        joinTable entity target relation := by
  simp only [pivotMigration, isTarget, Context.entity_of_get? found]

/-- The join table made up for a relation joins its entity and its target. -/
theorem joins_of_pivotMigration
    {context : Context}
    {entity : Entity}
    {relation : Relation}
    {pivot : Migration}
    (targets : ∀ key ∈ relation.target, key ∈ context.entities.keys)
    (made : pivotMigration context entity relation = .ok pivot) :
    ∃ key target,
      relation.target = some key ∧
        context.entities.get? key = some target ∧
        key ≠ entity.key ∧
        pivot.Joins entity target relation := by
  cases named : relation.target with
  | none =>
      simp [pivotMigration, named, Document.refuse] at made
  | some key =>
      obtain ⟨target, found⟩ := Table.mem_keys_iff.mp (targets key named)
      rw [pivotMigration_of_target named found] at made
      by_cases isSelf : key = entity.key
      · simp [isSelf] at made
      · rw [if_neg isSelf] at made
        exact ⟨key, target, rfl, found, isSelf, joins_of_joinTable made⟩

theorem mem_guessedPivots_iff
    {context : Context}
    {entity : Entity}
    {relation : Relation} :
    (entity, relation) ∈ guessedPivots context ↔
      entity ∈ context.entities.values ∧
        relation ∈ entity.relations.values ∧ relation.needsGuessedPivot = true := by
  simp only [guessedPivots, List.mem_flatMap, List.mem_map, List.mem_filter, Prod.mk.injEq]
  constructor
  · rintro ⟨_, isEntity, _, ⟨isRelation, needed⟩, rfl, rfl⟩
    exact ⟨isEntity, isRelation, needed⟩
  · rintro ⟨isEntity, isRelation, needed⟩
    exact ⟨entity, isEntity, relation, ⟨isRelation, needed⟩, rfl, rfl⟩

/-- Steps that each put an entry under a free name append those entries in order. -/
theorem entries_of_accumulate
    {α : Type}
    {step : Table Migration → α → Except ResolveError (Table Migration)}
    {made : α → String × Migration → Prop}
    (inserts :
      ∀ table item next,
        step table item = .ok next →
        ∃ entry,
          made item entry ∧ entry.1 ∉ table.keys ∧ next = table.insert entry.1 entry.2)
    {table final : Table Migration}
    {items : List α}
    (done : accumulate step table items = .ok final) :
    ∃ entries,
      List.Forall₂ made items entries ∧ final.entries = table.entries ++ entries := by
  induction items generalizing table with
  | nil =>
      simp only [accumulate, Except.ok.injEq] at done
      exact ⟨[], .nil, by simp [done]⟩
  | cons item rest inductionHypothesis =>
      cases stepped : step table item with
      | error cause =>
          simp [accumulate, stepped] at done
      | ok next =>
          simp only [accumulate, stepped] at done
          obtain ⟨entry, isMade, fresh, rfl⟩ := inserts table item next stepped
          obtain ⟨entries, matched, shape⟩ := inductionHypothesis done
          refine ⟨entry :: entries, .cons isMade matched, ?_⟩
          rw [shape, Table.entries_insert_of_notMem fresh, List.append_assoc]
          rfl

/-- The entry that an explicit table goes in as. -/
def ExplicitEntry
    (declared : String × Document.Columns)
    (entry : String × Migration) :
    Prop :=
  ∃ columns,
    scalarColumns ("migrations." ++ declared.1) declared.2 = .ok columns ∧
      entry = (declared.1, Migration.ofColumns declared.1 columns.values)

theorem entries_of_addEntityTable
    {table final : Table Migration}
    {entities : List Entity}
    (done : accumulate addEntityTable table entities = .ok final) :
    final.entries =
      table.entries ++ entities.map fun entity => (entity.table, Migration.ofEntity entity) := by
  have inserts (declared : Table Migration) (entity : Entity) (next : Table Migration)
      (stepped : addEntityTable declared entity = .ok next) :
      ∃ entry,
        (entity.table, Migration.ofEntity entity) = entry ∧
          entry.1 ∉ declared.keys ∧ next = declared.insert entry.1 entry.2 := by
    cases found : declared.get? entity.table with
    | some existing =>
        simp [addEntityTable, found] at stepped
    | none =>
        simp only [addEntityTable, found, Except.ok.injEq] at stepped
        exact ⟨_, rfl, Table.get?_eq_none_iff.mp found, stepped.symm⟩
  obtain ⟨entries, matched, shape⟩ := entries_of_accumulate inserts done
  rw [← List.forall₂_map_left_iff, List.forall₂_eq_eq_eq] at matched
  rw [shape, matched]

theorem entries_of_addExplicitTable
    {table final : Table Migration}
    {declarations : List (String × Document.Columns)}
    (done : accumulate addExplicitTable table declarations = .ok final) :
    ∃ entries,
      List.Forall₂ ExplicitEntry declarations entries ∧
        final.entries = table.entries ++ entries := by
  apply entries_of_accumulate _ done
  intro declared entry next stepped
  cases read : scalarColumns ("migrations." ++ entry.1) entry.2 with
  | error cause =>
      simp [addExplicitTable, read] at stepped
  | ok columns =>
      cases found : declared.get? entry.1 with
      | some existing =>
          simp [addExplicitTable, read, found] at stepped
      | none =>
          simp only [addExplicitTable, read, found, Except.ok.injEq] at stepped
          exact ⟨_, ⟨columns, read, rfl⟩, Table.get?_eq_none_iff.mp found, stepped.symm⟩

/-- The entry that the table of an entity goes in as. -/
def entityTableEntry
    (entity : Entity) :
    String × Migration :=
  (entity.table, Migration.ofEntity entity)

/-- The tables of entities and explicit tables go in one entry each, in order. -/
theorem exists_entries_of_declared
    {entities : List Entity}
    {entityTables declared : Table Migration}
    {declarations : List (String × Document.Columns)}
    (entitiesDone : accumulate addEntityTable ∅ entities = .ok entityTables)
    (explicitDone : accumulate addExplicitTable entityTables declarations = .ok declared) :
    ∃ explicit,
      List.Forall₂ ExplicitEntry declarations explicit ∧
        declared.entries = entities.map entityTableEntry ++ explicit := by
  obtain ⟨explicit, explicitRead, declaredEntries⟩ := entries_of_addExplicitTable explicitDone
  rw [entries_of_addEntityTable entitiesDone, Table.entries_empty, List.nil_append]
    at declaredEntries
  exact ⟨explicit, explicitRead, declaredEntries⟩

/-- What stands under a name among them is the table of an entity, or the explicit one of that
name. -/
theorem cases_of_declared
    {entities : List Entity}
    {entityTables declared : Table Migration}
    {declarations : List (String × Document.Columns)}
    (entitiesDone : accumulate addEntityTable ∅ entities = .ok entityTables)
    (explicitDone : accumulate addExplicitTable entityTables declarations = .ok declared)
    {name : String}
    {migration : Migration}
    (found : declared.get? name = some migration) :
    (∃ entity ∈ entities, entity.table = name ∧ migration = Migration.ofEntity entity) ∨
      name ∈ Entries.names declarations ∧
        ∃ columns, migration = Migration.ofColumns name columns := by
  obtain ⟨explicit, explicitRead, entries⟩ := exists_entries_of_declared entitiesDone explicitDone
  have stored := Table.get?_eq_some_iff.mp found
  rw [entries] at stored
  rcases List.mem_append.mp stored with ofEntity | isExplicit
  · obtain ⟨entity, member, same⟩ := List.mem_map.mp ofEntity
    cases same
    exact .inl ⟨entity, member, rfl, rfl⟩
  · obtain ⟨entry, member, columns, _, same⟩ := exists_of_mem_matched explicitRead isExplicit
    cases same
    exact .inr ⟨List.mem_map_of_mem member, columns.values, rfl⟩

theorem not_isGuessedPivot_of_declared
    {entities : List Entity}
    {entityTables declared : Table Migration}
    {declarations : List (String × Document.Columns)}
    (entitiesDone : accumulate addEntityTable ∅ entities = .ok entityTables)
    (explicitDone : accumulate addExplicitTable entityTables declarations = .ok declared) :
    ∀ existing ∈ declared.values, existing.isGuessedPivot = false := by
  intro existing member
  obtain ⟨name, found⟩ := Table.mem_values_iff.mp member
  rcases cases_of_declared entitiesDone explicitDone found with ⟨_, _, _, rfl⟩ | ⟨_, _, rfl⟩
  · rfl
  · rfl

/-- A join table goes in under a free name, and is left out where another one has its name. -/
theorem addPivotTable_eq_ok_iff
    {declared next : Table Migration}
    {pivot : Migration} :
    addPivotTable declared pivot = .ok next ↔
      (pivot.table ∉ declared.keys ∧ next = declared.insert pivot.table pivot) ∨
        ∃ existing,
          declared.get? pivot.table = some existing ∧
            existing.isGuessedPivot = true ∧ next = declared := by
  rw [← Table.get?_eq_none_iff]
  cases found : declared.get? pivot.table with
  | none =>
      simp [addPivotTable, found, eq_comm (b := next)]
  | some existing =>
      by_cases isPivot : existing.isGuessedPivot
      · simp [addPivotTable, found, isPivot, eq_comm (b := next)]
      · simp [addPivotTable, found, isPivot]

/-- A join table that is found was made up before, as no other table is one. -/
theorem find?_of_isGuessedPivot
    {declared : Table Migration}
    (noPivots : ∀ existing ∈ declared.values, existing.isGuessedPivot = false)
    {earlier : List Migration}
    {name : String}
    {existing : Migration}
    (isPivot : existing.isGuessedPivot = true)
    (found :
      (declared.get? name).or (earlier.find? fun pivot => pivot.table == name) = some existing) :
    earlier.find? (fun pivot => pivot.table == name) = some existing := by
  cases former : declared.get? name with
  | none =>
      simpa [former] using found
  | some other =>
      simp only [former, Option.some_or, Option.some.injEq] at found
      have isValue := Table.mem_values_iff.mpr ⟨name, former⟩
      simp [← found, noPivots other isValue] at isPivot

/--
Of the join tables the first of every name goes in, after all other tables; the others are left
out, and none has the name of another table.
-/
theorem of_addPivotTable
    {declared final : Table Migration}
    (noPivots : ∀ existing ∈ declared.values, existing.isGuessedPivot = false)
    {pivots : List Migration}
    (done : accumulate addPivotTable declared pivots = .ok final) :
    final.keys = declared.keys ++ (pivots.map Migration.table).eraseDups ∧
      ∀ name,
        final.get? name =
          (declared.get? name).or (pivots.find? fun pivot => pivot.table == name) := by
  -- From the right: what the last join table does depends on the names of all earlier ones.
  induction pivots using List.reverseRecOn generalizing final with
  | nil =>
      simp only [accumulate, Except.ok.injEq] at done
      simp [done]
  | append_singleton earlier last inductionHypothesis =>
      obtain ⟨middle, reached, stepped⟩ := accumulate_concat_eq_ok_iff.mp done
      obtain ⟨keys, lookup⟩ := inductionHypothesis reached
      rw [List.map_append, List.map_singleton, FirstOccurrences.eraseDups_concat]
      rcases addPivotTable_eq_ok_iff.mp stepped with
        ⟨fresh, rfl⟩ | ⟨existing, found, isPivot, rfl⟩
      · have unseen : last.table ∉ earlier.map Migration.table := by
          rw [keys, List.mem_append, List.mem_eraseDups, not_or] at fresh
          exact fresh.2
        constructor
        · rw [Table.keys_insert, if_neg fresh, if_neg unseen, keys, List.append_assoc]
        · intro name
          rw [Table.get?_insert, lookup, List.find?_append]
          by_cases isLast : last.table = name
          · subst isLast
            have free := Table.get?_eq_none_iff.mpr fresh
            rw [lookup, Option.or_eq_none_iff] at free
            simp [free]
          · simp [isLast]
      · rw [lookup] at found
        have first := find?_of_isGuessedPivot noPivots isPivot found
        have seen : last.table ∈ earlier.map Migration.table := by
          have named := List.find?_some first
          exact List.mem_map.mpr
            ⟨existing, List.mem_of_find?_eq_some first, by simpa using named⟩
        constructor
        · rw [if_pos seen, keys]
        · intro name
          rw [lookup, List.find?_append]
          by_cases isLast : last.table = name
          · subst isLast
            simp [first]
          · simp [isLast]

/-- A table of migrations, put together from explicit tables and join tables and the tables of
the entities of a context. -/
structure Tabulated
    (document : Document)
    (context : Context)
    (explicit : List (String × Migration))
    (pivots : List Migration)
    (table : Table Migration) :
    Prop where
  explicit_read :
    List.Forall₂ ExplicitEntry document.database.migrations.entries explicit
  pivots_made :
    List.Forall₂ (fun pair pivot => pivotMigration context pair.1 pair.2 = .ok pivot)
      (guessedPivots context) pivots
  keys_eq :
    table.keys =
      Entries.names (context.entities.values.map entityTableEntry ++ explicit) ++
        (pivots.map Migration.table).eraseDups
  get?_eq :
    ∀ name migration,
      table.get? name = some migration ↔
        (name, migration) ∈ context.entities.values.map entityTableEntry ++ explicit ∨
          name ∉ Entries.names (context.entities.values.map entityTableEntry ++ explicit) ∧
            pivots.find? (fun pivot => pivot.table == name) = some migration

/-- The stage of migrations fails where the table of migrations cannot be put together. -/
theorem migrationTable_eq_error_iff
    {document : Document}
    {context : Context}
    {cause : ResolveError} :
    migrationTable document context = .error cause ↔
      (migrations document context).error = some cause := by
  cases made : migrationTable document context <;> simp [migrations, made]

/-- A resolved table of migrations is put together from its parts. -/
theorem tabulated_of_migrationTable
    {document : Document}
    {context : Context}
    {table : Table Migration}
    (resolved : migrationTable document context = .ok table) :
    ∃ explicit pivots, Tabulated document context explicit pivots table := by
  simp only [migrationTable, bind_eq_ok_iff] at resolved
  obtain ⟨entityTables, entitiesDone, declared, explicitDone, pivots, made, pivotsDone⟩ := resolved
  obtain ⟨explicit, explicitRead, declaredEntries⟩ :=
    exists_entries_of_declared entitiesDone explicitDone
  have noPivots := not_isGuessedPivot_of_declared entitiesDone explicitDone
  obtain ⟨keys, lookup⟩ := of_addPivotTable noPivots pivotsDone
  have names : declared.keys =
      Entries.names (context.entities.values.map entityTableEntry ++ explicit) :=
    congrArg Entries.names declaredEntries
  refine ⟨explicit, pivots, explicitRead, collect_eq_ok_iff.mp made, names ▸ keys, ?_⟩
  intro name migration
  have isDeclared : declared.get? name = some migration ↔
      (name, migration) ∈ context.entities.values.map entityTableEntry ++ explicit := by
    rw [Table.get?_eq_some_iff, declaredEntries]
  rw [lookup, Option.or_eq_some_iff, isDeclared, Table.get?_eq_none_iff, names]

theorem Resolves.tabulated
    {document : Document}
    (resolves : Resolves document) :
    ∃ explicit pivots,
      Tabulated document (linked document) explicit pivots (tabled document).migrations :=
  tabulated_of_migrationTable resolves.migrationTable_eq

end Resolution

end Blueprint
