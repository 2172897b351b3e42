import Blueprint.Proofs.Growth

namespace Blueprint

/-!
# The order of models

In which order the models of a document are declared decides nothing about a resolution but the
order of the entities and of their tables, and which relation a join table comes from. Names refer
by the keys and classes of the models, and what a placeholder declares is told by the entities as
they were made, however far linking has gone.
-/

open Resolution Schema

/-- Plans that are the same but for the order of entities and migrations and the origin of join
tables. -/
structure Plan.SameUpToOrder
    (plan other : Plan) :
    Prop where
  space_eq : other.database.space = plan.database.space
  entity_eq : ∀ key, other.database.entities.get? key = plan.database.entities.get? key
  table_iff :
    ∀ table, table ∈ other.database.migrations.keys ↔ table ∈ plan.database.migrations.keys
  migration_iff :
    ∀ table migration,
      migration.isGuessedPivot = false →
      (other.database.migrations.get? table = some migration ↔
        plan.database.migrations.get? table = some migration)
  http_eq : other.http = plan.http
  auth_eq : other.auth = plan.auth

namespace Document

variable {document : Document} {models : Table Document.Model}

theorem growsTo_of_perm
    (reordered : models.entries.Perm document.database.models.entries) :
    document.GrowsTo models ∅ where
  get?_iff key model := by
    rw [Table.get?_eq_some_iff, Table.get?_eq_some_iff, Table.get?_eq_some_iff,
      reordered.mem_iff, Table.entries_empty]
    simp
  apart key isAdded := by
    simp at isAdded
  plain key model isAdded := by
    simp [Table.get?_eq_some_iff] at isAdded
  checked entry isAdded := by
    simp at isAdded
  made key model isAdded := by
    simp [Table.get?_eq_some_iff] at isAdded

theorem tablesFree_empty
    (document : Document) :
    document.TablesFree ∅ where
  free key model entity isAdded := by
    simp [Table.get?_eq_some_iff] at isAdded
  distinct key model entity _ _ _ isAdded := by
    simp [Table.get?_eq_some_iff] at isAdded

end Document

namespace Resolution

variable {document : Document} {models : Table Document.Model}

theorem get?_linked_of_perm
    (reordered : models.entries.Perm document.database.models.entries)
    (resolves : Resolves document)
    (key : String) :
    (linked (document.withModels models)).entities.get? key =
      (linked document).entities.get? key := by
  apply Option.ext
  intro entity
  rw [(Document.growsTo_of_perm reordered).get?_linked_iff resolves.entities_done
    resolves.relations_done]
  simp [Table.get?_eq_some_iff]

theorem mem_values_linked_of_perm
    (reordered : models.entries.Perm document.database.models.entries)
    (resolves : Resolves document)
    {entity : Entity} :
    entity ∈ (linked (document.withModels models)).entities.values ↔
      entity ∈ (linked document).entities.values := by
  simp only [Table.mem_values_iff, get?_linked_of_perm reordered resolves]

/-- Reordering the models loses no table. -/
theorem mem_migrations_of_perm
    (reordered : models.entries.Perm document.database.models.entries)
    (resolves : Resolves document)
    (reorderedResolves : Resolves (document.withModels models))
    {name : String}
    (isTable : name ∈ (tabled document).migrations.keys) :
    name ∈ (tabled (document.withModels models)).migrations.keys := by
  obtain ⟨explicit, pivots, tabulated⟩ := resolves.tabulated
  obtain ⟨otherExplicit, otherPivots, otherTabulated⟩ := reorderedResolves.tabulated
  rw [otherTabulated.mem_keys_iff]
  rcases tabulated.mem_keys_iff.mp isTable with isDeclared | ⟨pair, isGuessed, pivot, made, named⟩
  · rcases List.mem_append.mp isDeclared with ofEntity | isExplicit
    · obtain ⟨entity, member, named⟩ := List.mem_map.mp ofEntity
      refine .inl (List.mem_append_left _ (List.mem_map.mpr ⟨entity, ?_, named⟩))
      exact (mem_values_linked_of_perm reordered resolves).mpr member
    · exact .inl (List.mem_append_right _ isExplicit)
  · have alike := (Document.growsTo_of_perm reordered).alike_linked resolves.entities_done
      resolves.relations_done
    obtain ⟨isEntity, ofEntity⟩ := mem_guessedPivots_iff.mp isGuessed
    refine .inr ⟨pair, ?_, pivot, pivotMigration_of_alike alike made, named⟩
    exact mem_guessedPivots_iff.mpr
      ⟨(mem_values_linked_of_perm reordered resolves).mpr isEntity, ofEntity⟩

/-- Taking the order of the models back takes the document back. -/
theorem resolves_of_perm
    (reordered : models.entries.Perm document.database.models.entries) :
    Resolves (document.withModels models) ↔ Resolves document := by
  constructor
  · intro resolves
    have back : (document.withModels models).GrowsTo document.database.models ∅ :=
      Document.growsTo_of_perm reordered.symm
    exact (back.resolves_and_agree resolves (Document.tablesFree_empty _)).1
  · intro resolves
    have grows := Document.growsTo_of_perm reordered
    exact (grows.resolves_and_agree resolves (Document.tablesFree_empty _)).1

theorem sameUpToOrder_of_perm
    (reordered : models.entries.Perm document.database.models.entries)
    (resolves : Resolves document) :
    (settled document).plan.SameUpToOrder (settled (document.withModels models)).plan := by
  have grows := Document.growsTo_of_perm reordered
  obtain ⟨reorderedResolves, agree⟩ :=
    grows.resolves_and_agree resolves (Document.tablesFree_empty _)
  obtain ⟨explicit, pivots, tabulated⟩ := resolves.tabulated
  obtain ⟨otherExplicit, otherPivots, otherTabulated⟩ := reorderedResolves.tabulated
  exact {
    space_eq := by
      rw [plan_database, plan_database]
      rfl
    entity_eq := by
      intro key
      rw [plan_database, plan_database]
      exact get?_linked_of_perm reordered resolves key
    table_iff := by
      intro table
      rw [plan_database, plan_database]
      exact ⟨mem_migrations_of_perm reordered.symm reorderedResolves resolves,
        mem_migrations_of_perm reordered resolves reorderedResolves⟩
    migration_iff := by
      intro table migration notGuessed
      rw [plan_database, plan_database, plannedDatabase, plannedDatabase,
        tabulated.get?_eq_some_iff_of_not_isGuessedPivot notGuessed,
        otherTabulated.get?_eq_some_iff_of_not_isGuessedPivot notGuessed]
      simp only [mem_values_linked_of_perm reordered resolves]
      rfl
    http_eq := agree.plan_eq.1
    auth_eq := agree.plan_eq.2 }

end Resolution

open Resolution

/-- A document resolves in whatever order its models are declared, and but for the order of entities
and migrations to the same. -/
theorem resolve_withModels_of_perm
    {document : Document}
    {models : Table Document.Model}
    (reordered : models.entries.Perm document.database.models.entries) :
    ((resolve (document.withModels models)).isOk = true ↔ (resolve document).isOk = true) ∧
      ∀ plan other,
        resolve document = .ok plan →
        resolve (document.withModels models) = .ok other →
        plan.SameUpToOrder other := by
  refine ⟨?_, ?_⟩
  · rw [isOk_resolve_iff, isOk_resolve_iff]
    exact resolves_of_perm reordered
  · intro plan other resolved otherResolved
    obtain ⟨resolves, rfl⟩ := resolve_eq_ok_iff.mp resolved
    obtain ⟨_, rfl⟩ := resolve_eq_ok_iff.mp otherResolved
    exact sameUpToOrder_of_perm reordered resolves

/-- Tags before posts give the same plan as posts before tags, though both lead to each other. -/
theorem sameUpToOrder_publishingDocument :
    ∃ models plan other,
      models.entries.Perm publishingDocument.database.models.entries ∧
        models.keys = ["Tag", "Post"] ∧
        resolve publishingDocument = .ok plan ∧
        resolve (publishingDocument.withModels models) = .ok other ∧
        plan.SameUpToOrder other := by
  let models := Table.ofList publishingDocument.database.models.entries.reverse
  have entries : models.entries = publishingDocument.database.models.entries.reverse := by
    decide +kernel
  have reordered : models.entries.Perm publishingDocument.database.models.entries :=
    entries ▸ List.reverse_perm _
  obtain ⟨resolvesToo, same⟩ := resolve_withModels_of_perm reordered
  obtain ⟨plan, resolved⟩ := exists_eq_ok_of_isOk isOk_publishingDocument
  obtain ⟨other, otherResolved⟩ := exists_eq_ok_of_isOk (resolvesToo.mpr isOk_publishingDocument)
  exact ⟨models, plan, other, reordered, by decide +kernel, resolved, otherResolved,
    same plan other resolved otherResolved⟩

end Blueprint
