import Blueprint.Proofs.MigrationSet
import Blueprint.Proofs.References

namespace Blueprint

/-!
# Referential integrity

Every name that a plan stores leads to something in the plan: relations, controllers and policies
to entities, keys and indexes to columns, and migrations back to what they were made of.
-/

open Schema

/-- The key and the indexes of a table are on its own columns. -/
structure Schema.Migration.SelfContained
    (migration : Migration) :
    Prop where
  primary_mem : ∀ column ∈ migration.primary, column ∈ migration.columns.map Column.name
  indexes_mem :
    ∀ index ∈ migration.indexes,
      ∀ column ∈ index.columns, column ∈ migration.columns.map Column.name

/-- Every name that a plan stores leads to something in the plan. -/
structure Plan.Closed
    (plan : Plan) :
    Prop where
  relations :
    ∀ entity ∈ plan.database.entities.values,
      ∀ relation ∈ entity.relations.values, relation.LeadsInto plan.database.entities.keys
  primaries :
    ∀ entity ∈ plan.database.entities.values,
      ∀ primary ∈ entity.primary, primary.column ∈ entity.columns.keys
  routeBindings :
    ∀ entity ∈ plan.database.entities.values,
      ∀ column ∈ entity.routeBinding, column ∈ entity.columns.keys
  entitySources :
    ∀ migration ∈ plan.database.migrations.values,
      ∀ key,
        migration.source = .entity key →
        ∃ entity,
          plan.database.entities.get? key = some entity ∧ entity.table = migration.table
  pivotSources :
    ∀ migration ∈ plan.database.migrations.values,
      ∀ key name,
        migration.source = .pivot key name →
        ∃ entity relation,
          plan.database.entities.get? key = some entity ∧
            entity.relations.get? name = some relation ∧
            relation.needsGuessedPivot = true
  migrations : ∀ migration ∈ plan.database.migrations.values, migration.SelfContained
  controllers :
    ∀ controller ∈ plan.http.controllers.values, controller.LeadsInto plan.database.entities
  policies :
    ∀ key policy,
      plan.auth.policies.get? key = some policy →
      policy.entity = key ∧ key ∈ plan.database.entities.keys

namespace Schema

/-- An index that a modifier declares is on the column of the modifier. -/
theorem Index.mem_of_ofColumns
    {columns : List Column}
    {index : Index}
    (member : index ∈ Index.ofColumns columns) :
    ∀ column ∈ index.columns, column ∈ columns.map Column.name := by
  simp only [Index.ofColumns, List.mem_flatMap, List.mem_filterMap] at member
  obtain ⟨column, isColumn, method, _, declares⟩ := member
  simp only [Index.ofMethod?, Option.map_eq_some_iff] at declares
  obtain ⟨kind, _, rfl⟩ := declares
  intro name isName
  rw [List.mem_singleton] at isName
  exact isName ▸ List.mem_map_of_mem isColumn

/-- The migration of an entity refers to its own columns only. -/
theorem Entity.SelfContained.ofEntity
    {entity : Entity}
    (selfContained : entity.SelfContained) :
    (Migration.ofEntity entity).SelfContained where
  primary_mem column isPrimary := by
    obtain ⟨primary, hasPrimary, rfl⟩ := Option.map_eq_some_iff.mp isPrimary
    rw [Migration.ofEntity, selfContained.columns_keyed.map_values]
    exact selfContained.primary_mem primary hasPrimary
  indexes_mem _ member := Index.mem_of_ofColumns member

theorem Migration.selfContained_ofColumns
    (table : String)
    (columns : List Column) :
    (Migration.ofColumns table columns).SelfContained where
  primary_mem name isPrimary := by
    obtain ⟨column, found, rfl⟩ := Option.map_eq_some_iff.mp isPrimary
    exact List.mem_map_of_mem (List.mem_of_find?_eq_some found)
  indexes_mem _ member := Index.mem_of_ofColumns member

theorem Migration.Joins.selfContained
    {entity target : Entity}
    {relation : Relation}
    {pivot : Migration}
    (joins : pivot.Joins entity target relation) :
    pivot.SelfContained where
  primary_mem := by simp [joins.primary_eq]
  indexes_mem := by simp [joins.indexes_eq]

end Schema

namespace Resolution

/-- A migration is that of an entity, one with the columns of an explicit declaration, or made up
for a relation to join its entity and its target. -/
theorem Resolves.origin_migration
    {document : Document}
    (resolves : Resolves document)
    {migration : Migration}
    (member : migration ∈ (tabled document).migrations.values) :
    (∃ entity ∈ (linked document).entities.values, migration = Migration.ofEntity entity) ∨
      (∃ declared ∈ document.database.migrations.entries, ∃ columns,
        scalarColumns ("migrations." ++ declared.1) declared.2 = .ok columns ∧
          migration = Migration.ofColumns declared.1 columns.values) ∨
      ∃ entity relation target,
        (entity, relation) ∈ guessedPivots (linked document) ∧
          (plannedDatabase document).target? relation = some target ∧
          migration.Joins entity target relation := by
  obtain ⟨explicit, pivots, tabulated⟩ := resolves.tabulated
  obtain ⟨name, found⟩ := Table.mem_values_iff.mp member
  rcases (tabulated.get?_eq name migration).mp found with declared | ⟨_, first⟩
  · rcases List.mem_append.mp declared with ofEntity | ofDeclaration
    · obtain ⟨entity, isEntity, isEntry⟩ := List.mem_map.mp ofEntity
      cases isEntry
      exact .inl ⟨entity, isEntity, rfl⟩
    · obtain ⟨declaration, isDeclared, columns, read, isEntry⟩ :=
        exists_of_mem_matched tabulated.explicit_read ofDeclaration
      cases isEntry
      exact .inr (.inl ⟨declaration, isDeclared, columns, read, rfl⟩)
  · obtain ⟨⟨entity, relation⟩, isGuessed, isMade⟩ :=
      exists_of_mem_matched tabulated.pivots_made (List.mem_of_find?_eq_some first)
    obtain ⟨target, isTarget, joins⟩ := joins_in_plan isGuessed isMade
    exact .inr (.inr ⟨entity, relation, target, isGuessed, isTarget, joins⟩)

/-- A migration is that of an entity, an explicit one, or made up for a relation. -/
theorem Resolves.cases_migration
    {document : Document}
    (resolves : Resolves document)
    {migration : Migration}
    (member : migration ∈ (tabled document).migrations.values) :
    (∃ entity ∈ (linked document).entities.values, migration = Migration.ofEntity entity) ∨
      (∃ name columns, migration = Migration.ofColumns name columns) ∨
      ∃ entity relation target,
        (entity, relation) ∈ guessedPivots (linked document) ∧
          migration.Joins entity target relation := by
  rcases resolves.origin_migration member with
    ofEntity | ⟨_, _, _, _, rfl⟩ | ⟨entity, relation, target, isGuessed, _, joins⟩
  · exact .inl ofEntity
  · exact .inr (.inl ⟨_, _, rfl⟩)
  · exact .inr (.inr ⟨entity, relation, target, isGuessed, joins⟩)

/-- What the last two stages put into a context leads to its entities. -/
structure Referring
    (context : Context) :
    Prop where
  wellLinked : context.WellLinked
  controllers :
    ∀ controller ∈ context.controllers.values, controller.LeadsInto context.entities
  policies :
    ∀ key policy,
      context.policies.get? key = some policy →
      policy.entity = key ∧ key ∈ context.entities.keys

/-- A controller is added with references that lead somewhere. -/
theorem referring_of_addController
    {context next : Context}
    {entry : String × Document.Controller}
    (referring : Referring context)
    (added : addController context entry = .ok next) :
    Referring next := by
  cases made : controllerOf context entry.1 entry.2 with
  | error cause =>
      simp [addController, made] at added
  | ok controller =>
      simp only [addController, made, Except.ok.injEq] at added
      subst added
      refine ⟨referring.wellLinked.of_entities_eq rfl, ?_, referring.policies⟩
      intro other member
      rcases Table.mem_values_of_insert member with rfl | former
      · exact controllerOf_leadsInto referring.wellLinked made
      · exact referring.controllers other former

/-- A policy is built of the entity that its declaration names. -/
theorem exists_entity_of_policyEntry
    {context : Context}
    {entry : String × Option Document.Policy}
    {key : String}
    {policy : Auth.Policy}
    (built : policyEntry context entry = .ok (some (key, policy))) :
    ∃ entity,
      context.entity entry.1 ("policies." ++ entry.1) = .ok entity ∧
        key = entity.key ∧ policy.entity = entity.key := by
  simp only [policyEntry] at built
  cases granted : policyGrants ("policies." ++ entry.1) entry.2 with
  | error cause =>
      simp [granted] at built
  | ok grants =>
      cases grants with
      | none =>
          simp [granted] at built
      | some actions =>
          simp only [granted, map_eq_ok_iff, Option.some.injEq, Prod.mk.injEq] at built
          obtain ⟨entity, found, isKey, isPolicy⟩ := built
          exact ⟨entity, found, isKey.symm, isPolicy ▸ rfl⟩

/-- A policy is added for an entity that is there. -/
theorem referring_of_addPolicy
    {context next : Context}
    {entry : String × Option Document.Policy}
    (referring : Referring context)
    (added : addPolicy context entry = .ok next) :
    Referring next := by
  rw [fills_addPolicy.step_eq, map_eq_ok_iff] at added
  obtain ⟨built, isBuilt, rfl⟩ := added
  cases built with
  | none =>
      exact referring
  | some named =>
      refine ⟨referring.wellLinked.of_entities_eq rfl, referring.controllers, ?_⟩
      intro key policy found
      obtain ⟨entity, isEntity, isKey, ofEntity⟩ := exists_entity_of_policyEntry isBuilt
      have inserted :
          (context.policies.insert named.1 named.2).get? key = some policy := found
      rw [Table.get?_insert] at inserted
      by_cases isNew : named.1 = key
      · rw [if_pos isNew, Option.some.injEq] at inserted
        have present := mem_keys_of_entity referring.wellLinked isEntity
        rw [← isNew, ← inserted, isKey]
        exact ⟨ofEntity, present⟩
      · rw [if_neg isNew] at inserted
        exact referring.policies key policy inserted

theorem referring_http
    {document : Document}
    {context : Context}
    (referring : Referring context) :
    Referring (http document context).context := by
  apply Outcome.andThen_invariant Referring
  · obtain ⟨_, filled⟩ :=
      fills_addMiddleware.context_ofSteps context document.http.middleware.entries
    rw [filled]
    exact ⟨referring.wellLinked.of_entities_eq rfl, referring.controllers, referring.policies⟩
  · intro reached reachedReferring
    exact Outcome.ofSteps_invariant Referring reachedReferring
      fun _ _ _ _ former added => referring_of_addController former added

theorem referring_auth
    {document : Document}
    {context : Context}
    (referring : Referring context) :
    Referring (auth document context).context := by
  apply Outcome.andThen_invariant Referring
  · apply Outcome.andThen_invariant Referring
    · obtain ⟨_, filled⟩ :=
        fills_addGate.context_ofSteps context document.auth.gates.entries
      rw [filled]
      exact ⟨referring.wellLinked.of_entities_eq rfl, referring.controllers,
        referring.policies⟩
    · intro reached reachedReferring
      exact Outcome.ofSteps_invariant Referring reachedReferring
        fun _ _ _ _ former added => referring_of_addPolicy former added
  · intro reached reachedReferring
    obtain ⟨_, filled⟩ :=
      fills_addForm.context_ofSteps reached document.auth.forms.entries
    rw [filled]
    exact ⟨reachedReferring.wellLinked.of_entities_eq rfl, reachedReferring.controllers,
      reachedReferring.policies⟩

/-- What a whole resolution leaves leads to its entities. -/
theorem referring_settled
    (document : Document) :
    Referring (settled document) := by
  have start : Referring (tabled document) := by
    rw [tabled_eq]
    refine ⟨(wellLinked_linked document).of_entities_eq rfl, ?_, ?_⟩
    · intro controller member
      simp [Context.start] at member
    · intro key policy found
      have present := Table.mem_keys_iff.mpr ⟨policy, found⟩
      simp [Context.start] at present
  exact referring_auth (referring_http start)

end Resolution

open Resolution

/-- Every name that is stored by a plan leads to something in the plan. -/
theorem closed_of_resolve
    {document : Document}
    {plan : Plan}
    (resolved : resolve document = .ok plan) :
    plan.Closed := by
  obtain ⟨resolves, rfl⟩ := resolve_eq_ok_iff.mp resolved
  have referring := referring_settled document
  have wellLinked := referring.wellLinked
  have cases_migration {migration : Migration}
      (member : migration ∈ (settled document).plan.database.migrations.values) :=
    resolves.cases_migration (by rwa [plan_database] at member)
  exact {
    relations := wellLinked.leads
    primaries := fun entity isEntity => (wellLinked.selfContained entity isEntity).primary_mem
    routeBindings := fun entity isEntity =>
      (wellLinked.selfContained entity isEntity).routeBinding_mem
    entitySources := by
      intro migration member key source
      rw [plan_database]
      rcases cases_migration member with
        ⟨entity, isEntity, rfl⟩ | ⟨_, _, rfl⟩ | ⟨_, _, _, _, joins⟩
      · cases source
        exact ⟨entity, (wellLinked_linked document).keyed.get?_of_mem_values isEntity, rfl⟩
      · simp [Migration.ofColumns] at source
      · simp [joins.source_eq] at source
    pivotSources := by
      intro migration member key name source
      rw [plan_database]
      rcases cases_migration member with
        ⟨entity, _, rfl⟩ | ⟨_, _, rfl⟩ | ⟨entity, relation, _, isGuessed, joins⟩
      · simp [Migration.ofEntity] at source
      · simp [Migration.ofColumns] at source
      · rw [joins.source_eq, MigrationSource.pivot.injEq] at source
        obtain ⟨rfl, rfl⟩ := source
        obtain ⟨isEntity, isRelation, needed⟩ := mem_guessedPivots_iff.mp isGuessed
        have selfContained := (wellLinked_linked document).selfContained entity isEntity
        exact ⟨entity, relation,
          (wellLinked_linked document).keyed.get?_of_mem_values isEntity,
          selfContained.relations_keyed.get?_of_mem_values isRelation, needed⟩
    migrations := by
      intro migration member
      rcases cases_migration member with
        ⟨entity, isEntity, rfl⟩ | ⟨name, columns, rfl⟩ | ⟨_, _, _, _, joins⟩
      · exact ((wellLinked_linked document).selfContained entity isEntity).ofEntity
      · exact Migration.selfContained_ofColumns name columns
      · exact joins.selfContained
    controllers := referring.controllers
    policies := referring.policies }

/-- Every reference of the publishing document leads somewhere. -/
theorem closed_publishingDocument :
    ∃ plan, resolve publishingDocument = .ok plan ∧ plan.Closed := by
  obtain ⟨plan, resolved⟩ := exists_eq_ok_of_isOk isOk_publishingDocument
  exact ⟨plan, resolved, closed_of_resolve resolved⟩

end Blueprint
