import Blueprint.Proofs.Coherence
import Blueprint.Proofs.Shape

namespace Blueprint

/-!
# Conditions for migrations

Migrations are put together exactly when no two declarations need one table, the lines of explicit
tables have something on them, and the entities that a join table is for can meet in one. Where
they are not, the error reports one of these conditions that does not hold, and the context is as
it was.
-/

open Schema

/-- Two entities can meet in a join table: they are two, both have a primary key, and the columns
that would refer to the keys have different names. -/
structure Schema.Entity.CanMeet
    (entity target : Entity) :
    Prop where
  different : target.key ≠ entity.key
  columns_differ :
    ∃ primary other,
      entity.primary = some primary ∧
        target.primary = some other ∧
        entity.singular ++ "_" ++ Naming.snake primary.column ≠
          target.singular ++ "_" ++ Naming.snake other.column

namespace Context

/-- A relation of an entity needs a join table made up with a target. -/
structure NeedsJoin
    (context : Context)
    (entity : Entity)
    (relation : Relation)
    (target : Entity) :
    Prop where
  isEntity : entity ∈ context.entities.values
  isRelation : relation ∈ entity.relations.values
  needed : relation.needsGuessedPivot = true
  isTarget : relation.target = some target.key
  targetIsEntity : target ∈ context.entities.values

end Context

namespace Resolution

/-- Nothing stands against the migrations of a context. -/
structure TablesFit
    (document : Document)
    (context : Context) :
    Prop where
  entities_apart :
    ∀ entity ∈ context.entities.values,
      ∀ other ∈ context.entities.values, entity.key ≠ other.key → entity.table ≠ other.table
  explicit_apart :
    ∀ entity ∈ context.entities.values, entity.table ∉ document.database.migrations.keys
  explicit_written :
    ∀ table declared column text,
      document.database.migrations.get? table = some declared →
      declared.get? column = some (.line text) →
      isBlankText text = false
  joins_meet :
    ∀ entity ∈ context.entities.values,
      ∀ relation ∈ entity.relations.values,
        relation.needsGuessedPivot = true →
        ∃ target, context.NeedsJoin entity relation target ∧ entity.CanMeet target
  joins_apart :
    ∀ entity relation target,
      context.NeedsJoin entity relation target →
      pivotTableName entity.className target.className ∉
          context.entities.values.map Entity.table ∧
        pivotTableName entity.className target.className ∉ document.database.migrations.keys

/-- An error reports two owners of one table. -/
inductive ReportsClash
    (document : Document)
    (context : Context) :
    ResolveError →
    Prop where
  | entities
      {entity other : Entity}
      (isEntity : entity ∈ context.entities.values)
      (isOther : other ∈ context.entities.values)
      (different : entity.key ≠ other.key)
      (sameTable : other.table = entity.table) :
      ReportsClash document context (.tableCollision entity.table entity.key other.key)
  | explicit
      {entity : Entity}
      (isEntity : entity ∈ context.entities.values)
      (isExplicit : entity.table ∈ document.database.migrations.keys) :
      ReportsClash document context
        (.tableCollision entity.table entity.key ("migrations." ++ entity.table))
  | joinOfEntity
      {entity target other : Entity}
      {relation : Relation}
      (needed : context.NeedsJoin entity relation target)
      (isOther : other ∈ context.entities.values)
      (sameTable : other.table = pivotTableName entity.className target.className) :
      ReportsClash document context
        (.tableCollision other.table (entity.key ++ "." ++ relation.name) other.key)
  | joinOfExplicit
      {entity target : Entity}
      {relation : Relation}
      {table : String}
      (needed : context.NeedsJoin entity relation target)
      (isExplicit : table ∈ document.database.migrations.keys)
      (sameTable : table = pivotTableName entity.className target.className) :
      ReportsClash document context
        (.tableCollision table (entity.key ++ "." ++ relation.name) ("migrations." ++ table))

/-- An error reports a line of an explicit table with nothing on it. -/
inductive ReportsBlankLine
    (document : Document) :
    ResolveError →
    Prop where
  | line
      {table column text : String}
      {declared : Document.Columns}
      (isExplicit : document.database.migrations.get? table = some declared)
      (isLine : declared.get? column = some (.line text))
      (isBlank : isBlankText text = true) :
      ReportsBlankLine document
        (.malformed ("migrations." ++ table ++ "." ++ column) .emptyColumnLine)

/-- An error reports two entities that cannot meet in the join table of a relation. -/
inductive ReportsNoJoin
    (context : Context) :
    ResolveError →
    Prop where
  | self
      {entity target : Entity}
      {relation : Relation}
      (needed : context.NeedsJoin entity relation target)
      (isSelf : target.key = entity.key) :
      ReportsNoJoin context (.selfReferencingPivot entity.key relation.name)
  | keyless
      {entity target side : Entity}
      {relation : Relation}
      (needed : context.NeedsJoin entity relation target)
      (isSide : side = entity ∨ side = target)
      (noPrimary : side.primary = none) :
      ReportsNoJoin context
        (.missingPrimaryKey side.key (entity.key ++ "." ++ relation.name))
  | sameColumn
      {entity target : Entity}
      {relation : Relation}
      {primary other : PrimaryKey}
      (needed : context.NeedsJoin entity relation target)
      (hasPrimary : entity.primary = some primary)
      (hasOther : target.primary = some other)
      (same :
        entity.singular ++ "_" ++ Naming.snake primary.column =
          target.singular ++ "_" ++ Naming.snake other.column) :
      ReportsNoJoin context (.selfReferencingPivot entity.key relation.name)

theorem ReportsClash.kind_eq
    {document : Document}
    {context : Context}
    {cause : ResolveError}
    (reports : ReportsClash document context cause) :
    cause.kind = .collision := by
  cases reports <;> rfl

theorem ReportsNoJoin.kind_eq
    {context : Context}
    {cause : ResolveError}
    (reports : ReportsNoJoin context cause) :
    cause.kind = .precondition := by
  cases reports <;> rfl

/-- The name of the column that refers to an entity is made of its class and its key. -/
theorem keyColumn?_name_eq_some_iff
    {entity : Entity}
    {name : String} :
    entity.keyColumn?.map Prod.fst = some name ↔
      ∃ primary,
        entity.primary = some primary ∧
          entity.singular ++ "_" ++ Naming.snake primary.column = name := by
  cases primary : entity.primary <;> simp [Entity.keyColumn?, primary]

theorem canMeet_iff
    {entity target : Entity}
    (relation : Relation) :
    entity.CanMeet target ↔
      target.key ≠ entity.key ∧ ∃ pivot, joinTable entity target relation = .ok pivot := by
  rw [exists_joinTable_iff]
  simp only [keyColumn?_name_eq_some_iff]
  constructor
  · rintro ⟨different, primary, other, hasPrimary, hasOther, apart⟩
    exact ⟨different, _, _, ⟨primary, hasPrimary, rfl⟩, ⟨other, hasOther, rfl⟩, apart⟩
  · rintro ⟨different, _, _, ⟨primary, hasPrimary, rfl⟩, ⟨other, hasOther, rfl⟩, apart⟩
    exact ⟨different, primary, other, hasPrimary, hasOther, apart⟩

/-- Entities stand under their own keys, and every relation that needs a join table has a target
among them. -/
structure HasTargets
    (context : Context) :
    Prop where
  keyed : context.entities.Keyed Entity.key
  exists_target :
    ∀ entity ∈ context.entities.values,
      ∀ relation ∈ entity.relations.values,
        relation.needsGuessedPivot = true →
        ∃ target, context.NeedsJoin entity relation target

theorem Reached.hasTargets
    {document : Document}
    {context : Context}
    (reached : Reached document context) :
    HasTargets context where
  keyed := reached.coherent.entities_keyed
  exists_target entity isEntity relation isRelation needed := by
    cases named : relation.target with
    | none =>
        have isMorph :=
          (reached.coherent.fitsKind entity isEntity relation isRelation).target_named named
        simp [Relation.needsGuessedPivot, isMorph, RelationKind.usesPivot] at needed
    | some key =>
        obtain ⟨target, found⟩ := Table.mem_keys_iff.mp
          (reached.target_mem entity isEntity relation isRelation key named)
        have isKey := reached.coherent.entities_keyed key target found
        exact ⟨target, isEntity, isRelation, needed, isKey.symm ▸ named,
          Table.mem_values_iff.mpr ⟨key, found⟩⟩

theorem explicit_written_iff
    {document : Document} :
    (∀ entry ∈ document.database.migrations.entries,
        ∃ columns, scalarColumns ("migrations." ++ entry.1) entry.2 = .ok columns) ↔
      ∀ table declared column text,
        document.database.migrations.get? table = some declared →
        declared.get? column = some (.line text) →
        isBlankText text = false := by
  simp only [exists_scalarColumns_iff, Prod.forall, mem_columnLines_iff,
    ← Table.get?_eq_some_iff]
  constructor
  · intro written table declared column text isExplicit isLine
    exact written table declared isExplicit column text isLine
  · intro written table declared isExplicit column text isLine
    exact written table declared column text isExplicit isLine

theorem HasTargets.of_entities_eq
    {context other : Context}
    (hasTargets : HasTargets other)
    (same : context.entities = other.entities) :
    HasTargets context where
  keyed := same ▸ hasTargets.keyed
  exists_target := by
    rw [same]
    intro entity isEntity relation isRelation needed
    obtain ⟨target, needs⟩ := hasTargets.exists_target entity isEntity relation isRelation needed
    exact ⟨target, same ▸ needs.isEntity, needs.isRelation, needs.needed, needs.isTarget,
      same ▸ needs.targetIsEntity⟩

section Conditions

variable {document : Document} {context : Context}
variable (hasTargets : HasTargets context)
include hasTargets

theorem HasTargets.pivotMigration_eq
    {entity target : Entity}
    {relation : Relation}
    (needs : context.NeedsJoin entity relation target) :
    pivotMigration context entity relation =
      if target.key = entity.key then
        .error (.selfReferencingPivot entity.key relation.name)
      else
        joinTable entity target relation :=
  pivotMigration_of_target needs.isTarget
    (hasTargets.keyed.get?_of_mem_values needs.targetIsEntity)

/-- The join table of two entities can be made exactly when they can meet in one. -/
theorem HasTargets.pivotMigration_eq_ok_iff
    {entity target : Entity}
    {relation : Relation}
    (needs : context.NeedsJoin entity relation target) :
    (∃ pivot, pivotMigration context entity relation = .ok pivot) ↔ entity.CanMeet target := by
  rw [hasTargets.pivotMigration_eq needs, canMeet_iff relation]
  by_cases isSelf : target.key = entity.key
  · simp [isSelf]
  · simp [isSelf]

theorem HasTargets.table_of_pivotMigration
    {entity target : Entity}
    {relation : Relation}
    {pivot : Migration}
    (needs : context.NeedsJoin entity relation target)
    (made : pivotMigration context entity relation = .ok pivot) :
    pivot.table = pivotTableName entity.className target.className ∧
      pivot.owner = entity.key ++ "." ++ relation.name := by
  rw [hasTargets.pivotMigration_eq needs] at made
  by_cases isSelf : target.key = entity.key
  · simp [isSelf] at made
  · rw [if_neg isSelf] at made
    have joins := joins_of_joinTable made
    exact ⟨joins.table_eq, by rw [Migration.owner, joins.source_eq]⟩

theorem HasTargets.pivots_iff :
    (∀ pair ∈ guessedPivots context,
        ∃ pivot,
          pivotMigration context pair.1 pair.2 = .ok pivot ∧
            pivot.table ∉ declaredTables document context) ↔
      (∀ entity ∈ context.entities.values,
          ∀ relation ∈ entity.relations.values,
            relation.needsGuessedPivot = true →
            ∃ target, context.NeedsJoin entity relation target ∧ entity.CanMeet target) ∧
        ∀ entity relation target,
          context.NeedsJoin entity relation target →
          pivotTableName entity.className target.className ∉
              context.entities.values.map Entity.table ∧
            pivotTableName entity.className target.className ∉
              document.database.migrations.keys := by
  constructor
  · intro made
    refine ⟨?_, ?_⟩
    · intro entity isEntity relation isRelation needed
      obtain ⟨target, needs⟩ :=
        hasTargets.exists_target entity isEntity relation isRelation needed
      obtain ⟨pivot, isMade, _⟩ :=
        made (entity, relation) (mem_guessedPivots_iff.mpr ⟨isEntity, isRelation, needed⟩)
      exact ⟨target, needs, (hasTargets.pivotMigration_eq_ok_iff needs).mp ⟨pivot, isMade⟩⟩
    · intro entity relation target needs
      obtain ⟨pivot, isMade, free⟩ :=
        made (entity, relation)
          (mem_guessedPivots_iff.mpr ⟨needs.isEntity, needs.isRelation, needs.needed⟩)
      rw [(hasTargets.table_of_pivotMigration needs isMade).1, declaredTables, List.mem_append,
        not_or] at free
      exact free
  · rintro ⟨meet, apart⟩ ⟨entity, relation⟩ isGuessed
    obtain ⟨isEntity, isRelation, needed⟩ := mem_guessedPivots_iff.mp isGuessed
    obtain ⟨target, needs, canMeet⟩ := meet entity isEntity relation isRelation needed
    obtain ⟨pivot, isMade⟩ := (hasTargets.pivotMigration_eq_ok_iff needs).mpr canMeet
    refine ⟨pivot, isMade, ?_⟩
    rw [(hasTargets.table_of_pivotMigration needs isMade).1, declaredTables, List.mem_append,
      not_or]
    exact apart entity relation target needs

/-- Tables of entities under different keys are different exactly when no table occurs twice. -/
theorem HasTargets.nodup_tables_iff :
    (context.entities.values.map Entity.table).Nodup ↔
      ∀ entity ∈ context.entities.values,
        ∀ other ∈ context.entities.values, entity.key ≠ other.key → entity.table ≠ other.table := by
  have distinct : context.entities.values.Nodup := by
    apply List.Nodup.of_map Entity.key
    rw [hasTargets.keyed.map_values]
    exact context.entities.nodup_keys
  rw [List.nodup_map_iff_inj_on distinct]
  constructor
  · intro injective entity isEntity other isOther different sameTable
    exact different (congrArg Entity.key (injective entity isEntity other isOther sameTable))
  · intro apart entity isEntity other isOther sameTable
    by_contra different
    refine apart entity isEntity other isOther (fun sameKey => different ?_) sameTable
    exact hasTargets.keyed.eq_of_mem_values isEntity isOther sameKey

/-- Migrations can be put together exactly when nothing stands against them. -/
theorem HasTargets.tabulable_iff :
    Tabulable document context ↔ TablesFit document context := by
  have apart :
      (declaredTables document context).Nodup ↔
        (context.entities.values.map Entity.table).Nodup ∧
          ∀ entity ∈ context.entities.values,
            entity.table ∉ document.database.migrations.keys := by
    rw [declaredTables, List.nodup_append]
    constructor
    · rintro ⟨entities, _, different⟩
      refine ⟨entities, fun entity isEntity isExplicit => ?_⟩
      exact different _ (List.mem_map_of_mem isEntity) _ isExplicit rfl
    · rintro ⟨entities, different⟩
      refine ⟨entities, document.database.migrations.nodup_keys, ?_⟩
      rintro _ isTable table isExplicit rfl
      obtain ⟨entity, isEntity, rfl⟩ := List.mem_map.mp isTable
      exact different entity isEntity isExplicit
  constructor
  · rintro ⟨distinct, read, made⟩
    obtain ⟨entities, explicit⟩ := apart.mp distinct
    obtain ⟨meet, free⟩ := hasTargets.pivots_iff.mp made
    exact ⟨hasTargets.nodup_tables_iff.mp entities, explicit, explicit_written_iff.mp read, meet,
      free⟩
  · rintro ⟨entities, explicit, written, meet, free⟩
    exact ⟨apart.mpr ⟨hasTargets.nodup_tables_iff.mpr entities, explicit⟩,
      explicit_written_iff.mpr written, hasTargets.pivots_iff.mpr ⟨meet, free⟩⟩

/-! What each failure reports. -/

/-- A table of an entity that is taken is taken by that of an earlier entity. -/
theorem HasTargets.reportsClash_of_addEntityTable
    {cause : ResolveError}
    (failed : accumulate addEntityTable ∅ context.entities.values = .error cause) :
    ReportsClash document context cause := by
  obtain ⟨earlier, entity, later, middle, split, reached, fails⟩ :=
    exists_failing_of_accumulate failed
  cases found : middle.get? entity.table with
  | none =>
      simp [addEntityTable, found] at fails
  | some existing =>
      simp only [addEntityTable, found, Except.error.injEq] at fails
      subst fails
      have noExplicit : accumulate addExplicitTable middle [] = .ok middle := rfl
      rcases cases_of_declared reached noExplicit found with
        ⟨other, isEarlier, sameTable, rfl⟩ | ⟨isExplicit, _⟩
      · have distinct := hasTargets.keyed.map_values ▸ context.entities.nodup_keys
        rw [split, List.map_append, List.map_cons, List.nodup_append] at distinct
        have apart := distinct.2.2 other.key (List.mem_map_of_mem isEarlier) entity.key (by simp)
        exact .entities (by simp [split]) (by simp [split, isEarlier]) apart.symm sameTable
      · simp [Entries.names] at isExplicit

end Conditions

theorem reportsBlankLine_of_scalarColumns
    {document : Document}
    {table : String}
    {declared : Document.Columns}
    (isExplicit : document.database.migrations.get? table = some declared)
    {cause : ResolveError}
    (failed : scalarColumns ("migrations." ++ table) declared = .error cause) :
    ReportsBlankLine document cause := by
  unfold scalarColumns at failed
  cases collected : collect (columnOfLine ("migrations." ++ table)) (columnLines declared) with
  | ok columns =>
      simp [collected, Except.map] at failed
  | error reason =>
      simp only [collected, Except.map, Except.error.injEq] at failed
      subst failed
      obtain ⟨⟨column, text⟩, isLine, fails⟩ := exists_failing_of_collect collected
      obtain ⟨isBlank, rfl⟩ := columnOfLine_eq_error_iff.mp fails
      exact .line isExplicit (mem_columnLines_iff.mp isLine) isBlank

/-- An explicit table has a blank line, or its name is taken by the table of an entity. -/
theorem reports_of_addExplicitTable
    {document : Document}
    {context : Context}
    {entityTables : Table Migration}
    (entitiesDone : accumulate addEntityTable ∅ context.entities.values = .ok entityTables)
    {cause : ResolveError}
    (failed :
      accumulate addExplicitTable entityTables document.database.migrations.entries =
        .error cause) :
    ReportsClash document context cause ∨ ReportsBlankLine document cause := by
  obtain ⟨earlier, ⟨table, declared⟩, later, middle, split, reached, fails⟩ :=
    exists_failing_of_accumulate failed
  have isExplicit : document.database.migrations.get? table = some declared := by
    rw [Table.get?_eq_some_iff, split]
    simp
  cases read : scalarColumns ("migrations." ++ table) declared with
  | error reason =>
      simp only [addExplicitTable, read, Except.error.injEq] at fails
      subst fails
      exact .inr (reportsBlankLine_of_scalarColumns isExplicit read)
  | ok columns =>
      cases found : middle.get? table with
      | none =>
          simp [addExplicitTable, read, found] at fails
      | some existing =>
          simp only [addExplicitTable, read, found, Except.error.injEq] at fails
          subst fails
          rcases cases_of_declared entitiesDone reached found with
            ⟨entity, isEntity, rfl, rfl⟩ | ⟨isEarlier, _⟩
          · exact .inl (.explicit isEntity (Table.mem_keys_iff.mpr ⟨declared, isExplicit⟩))
          · -- The names of explicit tables are distinct, so no earlier one has this name.
            have distinct := document.database.migrations.distinct
            rw [split, Entries.names, List.map_append, List.map_cons, List.nodup_append] at distinct
            exact absurd rfl (distinct.2.2 table isEarlier table (by simp))

/-- A join table that cannot be made is for entities that cannot meet. -/
theorem HasTargets.reportsNoJoin_of_pivotMigration
    {context : Context}
    (hasTargets : HasTargets context)
    {entity : Entity}
    {relation : Relation}
    (isGuessed : (entity, relation) ∈ guessedPivots context)
    {cause : ResolveError}
    (failed : pivotMigration context entity relation = .error cause) :
    ReportsNoJoin context cause := by
  obtain ⟨isEntity, isRelation, needed⟩ := mem_guessedPivots_iff.mp isGuessed
  obtain ⟨target, needs⟩ := hasTargets.exists_target entity isEntity relation isRelation needed
  rw [hasTargets.pivotMigration_eq needs] at failed
  by_cases isSelf : target.key = entity.key
  · rw [if_pos isSelf, Except.error.injEq] at failed
    exact failed ▸ .self needs isSelf
  · rw [if_neg isSelf] at failed
    rcases cases_of_joinTable failed with
      ⟨side, isSide, keyless, rfl⟩ | ⟨name, named, alsoNamed, rfl⟩
    · exact .keyless needs isSide keyless
    · obtain ⟨primary, hasPrimary, rfl⟩ := keyColumn?_name_eq_some_iff.mp named
      obtain ⟨other, hasOther, same⟩ := keyColumn?_name_eq_some_iff.mp alsoNamed
      exact .sameColumn needs hasPrimary hasOther same.symm

/-- A join table whose name is taken has that of an entity's table or of an explicit one, since
join tables may share their names. -/
theorem HasTargets.reportsClash_of_addPivotTable
    {document : Document}
    {context : Context}
    (hasTargets : HasTargets context)
    {entityTables declared : Table Migration}
    {pivots : List Migration}
    (entitiesDone : accumulate addEntityTable ∅ context.entities.values = .ok entityTables)
    (explicitDone :
      accumulate addExplicitTable entityTables document.database.migrations.entries =
        .ok declared)
    (made :
      collect (fun pair => pivotMigration context pair.1 pair.2) (guessedPivots context) =
        .ok pivots)
    {cause : ResolveError}
    (failed : accumulate addPivotTable declared pivots = .error cause) :
    ReportsClash document context cause := by
  obtain ⟨earlier, pivot, later, middle, rfl, reached, fails⟩ :=
    exists_failing_of_accumulate failed
  have areGuessed : ∀ other ∈ earlier ++ pivot :: later, other.isGuessedPivot = true := by
    intro other member
    obtain ⟨_, _, isMade⟩ := exists_of_mem_collect made member
    exact isGuessedPivot_of_pivotMigration isMade
  cases found : middle.get? pivot.table with
  | none =>
      simp [addPivotTable, found] at fails
  | some existing =>
      by_cases isGuessed : existing.isGuessedPivot = true
      · simp [addPivotTable, found, isGuessed] at fails
      · simp only [addPivotTable, found, isGuessed, Bool.false_eq_true, ↓reduceIte,
          Except.error.injEq] at fails
        subst fails
        obtain ⟨⟨entity, relation⟩, isNeeded, isMade⟩ := exists_of_mem_collect made
          (show pivot ∈ earlier ++ pivot :: later by simp)
        obtain ⟨isEntity, isRelation, needed⟩ := mem_guessedPivots_iff.mp isNeeded
        obtain ⟨target, needs⟩ :=
          hasTargets.exists_target entity isEntity relation isRelation needed
        obtain ⟨isTable, isOwner⟩ := hasTargets.table_of_pivotMigration needs isMade
        have lookup := (of_addPivotTable
          (not_isGuessedPivot_of_declared entitiesDone explicitDone) reached).2 pivot.table
        rw [found, eq_comm, Option.or_eq_some_iff] at lookup
        rcases lookup with isDeclared | ⟨_, isEarlier⟩
        · rw [isOwner]
          rcases cases_of_declared entitiesDone explicitDone isDeclared with
            ⟨other, isOther, sameTable, rfl⟩ | ⟨isExplicit, _, rfl⟩
          · rw [← sameTable]
            exact .joinOfEntity needs isOther (sameTable.trans isTable)
          · exact .joinOfExplicit needs isExplicit isTable
        · have member := List.mem_of_find?_eq_some isEarlier
          exact absurd (areGuessed existing (by simp [member])) isGuessed

/-- What the error of migrations that cannot be put together reports. -/
theorem HasTargets.reports_of_migrations
    {document : Document}
    {context : Context}
    (hasTargets : HasTargets context)
    {cause : ResolveError}
    (failed : (migrations document context).error = some cause) :
    ReportsClash document context cause ∨
      ReportsBlankLine document cause ∨ ReportsNoJoin context cause := by
  have tableFailed := migrationTable_eq_error_iff.mpr failed
  simp only [migrationTable, bind_eq_error_iff] at tableFailed
  rcases tableFailed with
    entitiesFailed | ⟨entityTables, entitiesDone, explicitFailed | ⟨declared, explicitDone,
      pivotsFailed | ⟨pivots, made, pivotsFailed⟩⟩⟩
  · exact .inl (hasTargets.reportsClash_of_addEntityTable entitiesFailed)
  · rcases reports_of_addExplicitTable entitiesDone explicitFailed with clash | blank
    · exact .inl clash
    · exact .inr (.inl blank)
  · obtain ⟨pair, isGuessed, fails⟩ := exists_failing_of_collect pivotsFailed
    exact .inr (.inr (hasTargets.reportsNoJoin_of_pivotMigration isGuessed fails))
  · exact .inl
      (hasTargets.reportsClash_of_addPivotTable entitiesDone explicitDone made pivotsFailed)

theorem context_of_migrations_error
    {document : Document}
    {context : Context}
    {cause : ResolveError}
    (failed : (migrations document context).error = some cause) :
    (migrations document context).context = context := by
  have tableFailed := migrationTable_eq_error_iff.mpr failed
  simp [migrations, tableFailed]

end Resolution

open Resolution

/-- In a context with entities that runs of stages lead to, the stage of migrations succeeds exactly
when nothing stands against it; where it fails, the error reports what does, and nothing in the
context has changed. -/
theorem migrations_succeed_iff
    {document : Document}
    {context : Context}
    {stages : List Stage}
    (reached : context.entities = (Context.afterRuns document stages).entities) :
    ((migrations document context).error = none ↔ TablesFit document context) ∧
      ∀ cause,
        (migrations document context).error = some cause →
        (migrations document context).context = context ∧
          (cause.kind = .collision ∧ ReportsClash document context cause ∨
            cause.kind = .structural ∧ ReportsBlankLine document cause ∨
            cause.kind = .precondition ∧ ReportsNoJoin context cause) := by
  have hasTargets : HasTargets context :=
    (reached_afterRuns document stages).hasTargets.of_entities_eq reached
  refine ⟨migrations_error_eq_none_iff.trans hasTargets.tabulable_iff, ?_⟩
  intro cause failed
  refine ⟨context_of_migrations_error failed, ?_⟩
  rcases hasTargets.reports_of_migrations failed with clash | ⟨isExplicit, isLine, isBlank⟩ | noJoin
  · exact .inl ⟨clash.kind_eq, clash⟩
  · exact .inr (.inl ⟨rfl, .line isExplicit isLine isBlank⟩)
  · exact .inr (.inr ⟨noJoin.kind_eq, noJoin⟩)

/-- Posts and tags, with a table of the name that the table of posts has. -/
def repostedDocument : Document :=
  { taggedDocument with
    database :=
      { taggedDocument.database with
        migrations := Table.ofList [("posts", Table.ofList [("id", .line "id")])] } }

/-- Linked posts and tags, with the migration of another table from an earlier run. -/
def repostedContext : Context :=
  { Context.afterRuns repostedDocument [.entities, .relations] with
    migrations := Table.ofList [("drafts", Migration.ofColumns "drafts" [])] }

/-- What has been published can be put together again, what is posted twice cannot. -/
theorem migrations_repostedDocument :
    TablesFit publishingDocument
        (Context.afterRuns publishingDocument [.entities, .relations, .migrations]) ∧
      ¬TablesFit repostedDocument repostedContext ∧
      (migrations repostedDocument repostedContext).context = repostedContext ∧
      ReportsClash repostedDocument repostedContext
        (.tableCollision "posts" "Post" "migrations.posts") := by
  have succeeds :
      (migrations publishingDocument
        (Context.afterRuns publishingDocument [.entities, .relations, .migrations])).error =
        none := by
    decide +kernel
  have fails :
      (migrations repostedDocument repostedContext).error =
        some (.tableCollision "posts" "Post" "migrations.posts") := by
    decide +kernel
  have published :
      TablesFit publishingDocument
        (Context.afterRuns publishingDocument [.entities, .relations, .migrations]) :=
    (migrations_succeed_iff rfl).1.mp succeeds
  have reposted :
      repostedContext.entities =
        (Context.afterRuns repostedDocument [.entities, .relations]).entities := rfl
  obtain ⟨iff, reports⟩ := migrations_succeed_iff reposted
  obtain ⟨unchanged, ⟨_, clash⟩ | ⟨other, _⟩ | ⟨other, _⟩⟩ := reports _ fails
  · exact ⟨published, fun fit => by simp [iff.mpr fit] at fails, unchanged, clash⟩
  · cases other
  · cases other

end Blueprint
