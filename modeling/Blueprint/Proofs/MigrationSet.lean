import Blueprint.Proofs.MigrationTable

namespace Blueprint

/-!
# The migrations of a plan

A plan has one migration for every entity, one for every explicit table and one for every name of
a join table, in that order. Each says where it comes from and carries what is declared there.
-/

open Schema

namespace DatabasePlan

/-- The relations that need a join table made up, each with its entity, in order. -/
def joinedRelations
    (database : DatabasePlan) :
    List (Entity × Relation) :=
  database.entities.values.flatMap fun entity =>
    (entity.relations.values.filter Relation.needsGuessedPivot).map fun relation =>
      (entity, relation)

/-- The entity that a relation leads to. -/
def target?
    (database : DatabasePlan)
    (relation : Relation) :
    Option Entity :=
  relation.target.bind database.entities.get?

/-- The name of the join table of a relation. -/
def joinName?
    (database : DatabasePlan)
    (pair : Entity × Relation) :
    Option String :=
  (database.target? pair.2).map fun target => pivotTableName pair.1.className target.className

/-- The names of the join tables, one for each relation that needs one. -/
def joinNames
    (database : DatabasePlan) :
    List String :=
  database.joinedRelations.filterMap database.joinName?

end DatabasePlan

/-- What the table of an entity carries: its columns with those that relations keep there, its
key, its timestamps, and the column of soft deletes if it uses them. -/
structure Schema.Migration.TabulatesEntity
    (entity : Entity)
    (migration : Migration) :
    Prop where
  source_eq : migration.source = .entity entity.key
  columns_eq : migration.columns = entity.columns.values
  foreignKey_mem :
    ∀ relation ∈ entity.relations.values,
      relation.kind.needsColumn →
      ∃ column ∈ migration.columns,
        relation.belongingColumn = some column.name ∧ column.relation = some relation.name
  primary_eq : migration.primary = entity.primary.map (·.column)
  timestamps_eq : migration.timestamps = entity.timestamps.enabled
  softDelete_iff :
    ∀ column,
      migration.softDelete = some column ↔
        entity.softDelete.enabled = true ∧ entity.softDelete.column = column

/-- What an explicit table carries: the columns of its lines, in order, and the first of them that
numbers its rows as its key. -/
structure Schema.Migration.TabulatesDeclaration
    (declared : Document.Columns)
    (migration : Migration) :
    Prop where
  source_eq : migration.source = .explicit
  columns_read :
    List.Forall₂
      (fun entry column =>
        ∃ line,
          entry.2 = .line line ∧
            Column.ofMethods? entry.1 (Method.ofLine line) = some column)
      declared.entries migration.columns
  primary_eq : migration.primary = (migration.columns.find? Column.isIdentity).map (·.name)

/-- The migrations of a document are complete, distinct, in order, and say where they come from. -/
structure DatabasePlan.MigratesAll
    (document : Document)
    (database : DatabasePlan) :
    Prop where
  entities_eq : database.entities.keys = document.database.models.keys
  joins_named : ∀ pair ∈ database.joinedRelations, (database.joinName? pair).isSome
  keys_eq :
    database.migrations.keys =
      database.entities.values.map Entity.table ++
        document.database.migrations.keys ++
        database.joinNames.eraseDups
  keys_nodup : database.migrations.keys.Nodup
  keyed : database.migrations.Keyed Migration.table
  of_entity :
    ∀ entity ∈ database.entities.values,
      ∃ migration,
        database.migrations.get? entity.table = some migration ∧
          migration.TabulatesEntity entity
  of_declaration :
    ∀ name declared,
      (name, declared) ∈ document.database.migrations.entries →
      ∃ migration,
        database.migrations.get? name = some migration ∧
          migration.TabulatesDeclaration declared
  of_join :
    ∀ name ∈ database.joinNames,
      ∃ migration pair,
        database.migrations.get? name = some migration ∧
          database.joinedRelations.find? (fun pair => database.joinName? pair == some name) =
            some pair ∧
          migration.source = .pivot pair.1.key pair.2.name

namespace Schema

/-- The migration of an entity has its columns, indexes and key. -/
theorem Entity.SelfContained.tabulates
    {entity : Entity}
    (selfContained : entity.SelfContained) :
    (Migration.ofEntity entity).TabulatesEntity entity where
  source_eq := rfl
  columns_eq := rfl
  foreignKey_mem := selfContained.needed_mem
  primary_eq := rfl
  timestamps_eq := rfl
  softDelete_iff column := by
    by_cases enabled : entity.softDelete.enabled
    · simp [Migration.ofEntity, enabled]
    · simp [Migration.ofEntity, enabled]

end Schema

namespace Resolution

/-- Among columns that may not be relations all are lines. -/
theorem entries_eq_columnLines
    {owner : String}
    {declared : Document.Columns}
    (checked : Document.checkColumns owner false declared = .ok ()) :
    declared.entries = (columnLines declared).map fun line => (line.1, .line line.2) := by
  have each := checkAll_eq_ok_iff.mp checked
  simp only [columnLines]
  generalize declared.entries = entries at each ⊢
  induction entries with
  | nil =>
      rfl
  | cons entry rest inductionHypothesis =>
      have later := inductionHypothesis fun other inRest => each other (by simp [inRest])
      have first := each entry (by simp)
      obtain ⟨name, column⟩ := entry
      cases column with
      | line text =>
          simpa using later
      | relation line =>
          simp [Document.checkColumn, Document.refuse] at first

theorem tabulates_of_explicitEntry
    {declared : String × Document.Columns}
    {entry : String × Migration}
    (checked : Document.checkMigration declared = .ok ())
    (isEntry : ExplicitEntry declared entry) :
    entry.2.TabulatesDeclaration declared.2 := by
  obtain ⟨columns, read, rfl⟩ := isEntry
  refine ⟨rfl, ?_, rfl⟩
  rw [entries_eq_columnLines checked, List.forall₂_map_left_iff]
  refine (scalarColumns_eq_ok_iff.mp read).1.imp ?_
  intro line column isRead
  exact ⟨line.2, rfl, columnOfLine_eq_ok_iff.mp isRead⟩

/-- Explicit migrations stand under the names that they are declared by. -/
theorem names_of_explicitEntries
    {declarations : List (String × Document.Columns)}
    {explicit : List (String × Migration)}
    (matched : List.Forall₂ ExplicitEntry declarations explicit) :
    Entries.names explicit = Entries.names declarations := by
  induction matched with
  | nil =>
      rfl
  | cons isEntry _ inductionHypothesis =>
      obtain ⟨columns, _, rfl⟩ := isEntry
      simp only [Entries.names, List.map_cons] at inductionHypothesis ⊢
      rw [inductionHypothesis]

/-- The relations that a plan joins are those with a guessed join table. -/
theorem joinedRelations_plan
    (document : Document) :
    (plannedDatabase document).joinedRelations = guessedPivots (linked document) :=
  rfl

/-- The join table made up for a relation joins its entity and its target in the plan. -/
theorem joins_in_plan
    {document : Document}
    {pair : Entity × Relation}
    {pivot : Migration}
    (isGuessed : pair ∈ guessedPivots (linked document))
    (made : pivotMigration (linked document) pair.1 pair.2 = .ok pivot) :
    ∃ target,
      (plannedDatabase document).target? pair.2 = some target ∧
        pivot.Joins pair.1 target pair.2 := by
  obtain ⟨entity, relation⟩ := pair
  obtain ⟨isEntity, isRelation, _⟩ := mem_guessedPivots_iff.mp isGuessed
  have leads := (wellLinked_linked document).leads entity isEntity relation isRelation
  obtain ⟨key, target, isTarget, found, _, joins⟩ :=
    joins_of_pivotMigration leads.target_mem made
  refine ⟨target, ?_, joins⟩
  simp [DatabasePlan.target?, plannedDatabase, isTarget, found]

/-- A guessed join table has the name that the plan gives it. -/
theorem joinName?_of_pivotMigration
    {document : Document}
    {pair : Entity × Relation}
    {pivot : Migration}
    (isGuessed : pair ∈ guessedPivots (linked document))
    (made : pivotMigration (linked document) pair.1 pair.2 = .ok pivot) :
    (plannedDatabase document).joinName? pair = some pivot.table := by
  obtain ⟨target, isTarget, joins⟩ := joins_in_plan isGuessed made
  rw [DatabasePlan.joinName?, isTarget, joins.table_eq]
  rfl

/-- The names of join tables are those of the migrations made for them. -/
theorem joinNames_eq_map_table
    {document : Document}
    {pivots : List Migration}
    (made :
      List.Forall₂
        (fun pair pivot => pivotMigration (linked document) pair.1 pair.2 = .ok pivot)
        (guessedPivots (linked document)) pivots) :
    (plannedDatabase document).joinNames = pivots.map Migration.table := by
  have named : ∀ pair ∈ guessedPivots (linked document), ∀ pivot,
      pivotMigration (linked document) pair.1 pair.2 = .ok pivot →
      (plannedDatabase document).joinName? pair = some pivot.table :=
    fun _ isGuessed _ isMade => joinName?_of_pivotMigration isGuessed isMade
  rw [DatabasePlan.joinNames, joinedRelations_plan]
  generalize guessedPivots (linked document) = pairs at made named ⊢
  induction made with
  | nil =>
      rfl
  | @cons pair pivot pairs pivots isMade _ inductionHypothesis =>
      have later := inductionHypothesis fun other inRest => named other (by simp [inRest])
      rw [List.filterMap_cons, named pair (by simp) pivot isMade, List.map_cons, later]

theorem Tabulated.keyed
    {document : Document}
    {context : Context}
    {explicit : List (String × Migration)}
    {pivots : List Migration}
    {table : Table Migration}
    (tabulated : Tabulated document context explicit pivots table) :
    table.Keyed Migration.table := by
  intro name migration found
  rcases (tabulated.get?_eq name migration).mp found with declared | ⟨_, first⟩
  · rcases List.mem_append.mp declared with ofEntity | ofDeclaration
    · obtain ⟨entity, _, isEntry⟩ := List.mem_map.mp ofEntity
      cases isEntry
      rfl
    · obtain ⟨_, _, columns, _, isEntry⟩ :=
        exists_of_mem_matched tabulated.explicit_read ofDeclaration
      cases isEntry
      rfl
  · simpa using List.find?_some first

/-- The declared tables are those of the entities and then the explicit ones. -/
theorem Tabulated.names_eq
    {document : Document}
    {context : Context}
    {explicit : List (String × Migration)}
    {pivots : List Migration}
    {table : Table Migration}
    (tabulated : Tabulated document context explicit pivots table) :
    Entries.names (context.entities.values.map entityTableEntry ++ explicit) =
      context.entities.values.map Entity.table ++ document.database.migrations.keys := by
  have explicitNames := names_of_explicitEntries tabulated.explicit_read
  simp only [Entries.names] at explicitNames ⊢
  simp only [List.map_append, List.map_map, explicitNames]
  rfl

/-- Every relation that needs a join table leads to an entity. -/
theorem Resolves.exists_target
    {document : Document}
    (resolves : Resolves document)
    {pair : Entity × Relation}
    (isJoined : pair ∈ (plannedDatabase document).joinedRelations) :
    ∃ target, (plannedDatabase document).target? pair.2 = some target := by
  obtain ⟨explicit, pivots, tabulated⟩ := resolves.tabulated
  rw [joinedRelations_plan] at isJoined
  obtain ⟨pivot, _, isMade⟩ := exists_of_mem_matched tabulated.pivots_made.flip isJoined
  obtain ⟨target, isTarget, _⟩ := joins_in_plan isJoined isMade
  exact ⟨target, isTarget⟩

/-- Under the name of a join table stands the one made up for the first relation of that name. -/
theorem Resolves.exists_join
    {document : Document}
    (resolves : Resolves document)
    {name : String}
    (isJoinName : name ∈ (plannedDatabase document).joinNames) :
    ∃ migration pair target,
      (plannedDatabase document).migrations.get? name = some migration ∧
        (plannedDatabase document).joinedRelations.find?
            (fun pair => (plannedDatabase document).joinName? pair == some name) =
          some pair ∧
        (plannedDatabase document).target? pair.2 = some target ∧
        migration.Joins pair.1 target pair.2 := by
  obtain ⟨explicit, pivots, tabulated⟩ := resolves.tabulated
  have joinNames := joinNames_eq_map_table tabulated.pivots_made
  have isPivotName := isJoinName
  rw [joinNames] at isPivotName
  obtain ⟨pivot, isPivot, hasName⟩ := List.mem_map.mp isPivotName
  obtain ⟨first, found⟩ :
      ∃ first, pivots.find? (fun pivot => pivot.table == name) = some first := by
    rw [← Option.isSome_iff_exists, List.find?_isSome]
    exact ⟨pivot, isPivot, by simp [hasName]⟩
  obtain ⟨pair, foundPair, isMade⟩ :=
    find?_eq_some_of_matched
      (fun pair => (plannedDatabase document).joinName? pair == some name)
      tabulated.pivots_made
      (fun pair isGuessed pivot isMade => by
        rw [joinName?_of_pivotMigration isGuessed isMade]
        simp)
      found
  obtain ⟨target, isTarget, joins⟩ :=
    joins_in_plan (List.mem_of_find?_eq_some foundPair) isMade
  refine ⟨first, pair, target, ?_, ?_, isTarget, joins⟩
  · -- No other table has the name, since no name occurs twice among the keys.
    have keys := tabulated.keys_eq
    rw [← joinNames] at keys
    have parts := List.nodup_append.mp (keys ▸ Table.nodup_keys (tabled document).migrations)
    rw [plannedDatabase, tabulated.get?_eq]
    refine .inr ⟨?_, found⟩
    intro isDeclared
    exact parts.2.2 name isDeclared name (List.mem_eraseDups.mpr isJoinName) rfl
  · rw [joinedRelations_plan]
    exact foundPair

end Resolution

open Resolution

/-- A document that resolves has all its migrations. -/
theorem migratesAll_of_resolve
    {document : Document}
    {plan : Plan}
    (resolved : resolve document = .ok plan) :
    plan.database.MigratesAll document := by
  obtain ⟨resolves, rfl⟩ := resolve_eq_ok_iff.mp resolved
  obtain ⟨explicit, pivots, tabulated⟩ := resolves.tabulated
  have keys := tabulated.keys_eq
  rw [← joinNames_eq_map_table tabulated.pivots_made, tabulated.names_eq] at keys
  rw [plan_database]
  exact {
    entities_eq := (keys_linked document).trans (keys_built resolves.entities_done)
    joins_named := by
      intro pair isJoined
      obtain ⟨target, isTarget⟩ := resolves.exists_target isJoined
      simp [DatabasePlan.joinName?, isTarget]
    keys_eq := keys
    keys_nodup := Table.nodup_keys _
    keyed := tabulated.keyed
    of_entity := by
      intro entity isEntity
      refine ⟨Migration.ofEntity entity, ?_, ?_⟩
      · rw [plannedDatabase, tabulated.get?_eq]
        exact .inl (List.mem_append_left _ (List.mem_map_of_mem isEntity))
      · exact ((wellLinked_linked document).selfContained entity isEntity).tabulates
    of_declaration := by
      intro name declared isDeclared
      obtain ⟨⟨_, migration⟩, isExplicit, isEntry⟩ :=
        exists_of_mem_matched tabulated.explicit_read.flip isDeclared
      have carries :=
        tabulates_of_explicitEntry (resolves.checked_migrations _ isDeclared) isEntry
      obtain ⟨columns, _, same⟩ := isEntry
      cases same
      refine ⟨_, ?_, carries⟩
      rw [plannedDatabase, tabulated.get?_eq]
      exact .inl (List.mem_append_right _ isExplicit)
    of_join := by
      intro name isJoinName
      obtain ⟨migration, pair, _, stored, first, _, joins⟩ := resolves.exists_join isJoinName
      exact ⟨migration, pair, stored, first, joins.source_eq⟩ }

/-- The plan of the publishing document migrates all that it has. -/
theorem migratesAll_publishingDocument :
    ∃ plan,
      resolve publishingDocument = .ok plan ∧ plan.database.MigratesAll publishingDocument := by
  obtain ⟨plan, resolved⟩ := exists_eq_ok_of_isOk isOk_publishingDocument
  exact ⟨plan, resolved, migratesAll_of_resolve resolved⟩

end Blueprint
