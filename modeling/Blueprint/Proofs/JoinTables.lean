import Mathlib.Data.Sym.Sym2
import Blueprint.Proofs.MigrationSet

namespace Blueprint

/-!
# Whose join table it is

A join table is named after two classes only, and of the join tables of one name the first is
made. A relation finds its own entities in the table under its name exactly when the first
relation of that name joins the same two entities. So every relation has a join table of its own
exactly when relations between different pairs of entities never share a name.
-/

open Resolution Schema

namespace DatabasePlan

/-- The keys of the two entities that a relation joins. -/
def ends?
    (database : DatabasePlan)
    (pair : Entity × Relation) :
    Option (Sym2 String) :=
  (database.target? pair.2).map fun target => s(pair.1.key, target.key)

/-- The join table of a relation to a target is its own: it was made up for a relation between the
same two entities, and its columns are the key columns of those two, in the order of their names. -/
structure OwnJoinTable
    (database : DatabasePlan)
    (pair : Entity × Relation)
    (target : Entity)
    (migration : Migration) :
    Prop where
  target_eq : database.target? pair.2 = some target
  stored :
    database.migrations.get? (pivotTableName pair.1.className target.className) = some migration
  madeFor :
    ∃ other ∈ database.joinedRelations,
      migration.source = .pivot other.1.key other.2.name ∧
        database.ends? other = database.ends? pair
  columns_sorted : migration.columns.Pairwise fun first second => first.name < second.name
  columns_perm :
    ∃ first ∈ pair.1.keyColumn?, ∃ second ∈ target.keyColumn?,
      (migration.columns.map Column.heading).Perm [first, second]

/-- The migration under the name of the join table of a relation is the relation's own. -/
def HasOwnJoinTable
    (database : DatabasePlan)
    (pair : Entity × Relation) :
    Prop :=
  ∃ target migration, database.OwnJoinTable pair target migration

end DatabasePlan

namespace Resolution

/-- The key of an entity and the name of a relation on it single out one relation of a plan. -/
theorem joinedRelation_unique
    {document : Document}
    {pair other : Entity × Relation}
    (isJoined : pair ∈ (plannedDatabase document).joinedRelations)
    (otherJoined : other ∈ (plannedDatabase document).joinedRelations)
    (sameKey : pair.1.key = other.1.key)
    (sameName : pair.2.name = other.2.name) :
    pair = other := by
  obtain ⟨entity, relation⟩ := pair
  obtain ⟨otherEntity, otherRelation⟩ := other
  rw [joinedRelations_plan] at isJoined otherJoined
  have wellLinked := wellLinked_linked document
  obtain ⟨isEntity, isRelation, _⟩ := mem_guessedPivots_iff.mp isJoined
  obtain ⟨isOther, isOtherRelation, _⟩ := mem_guessedPivots_iff.mp otherJoined
  cases wellLinked.keyed.eq_of_mem_values isEntity isOther sameKey
  have relationsKeyed := (wellLinked.selfContained entity isEntity).relations_keyed
  cases relationsKeyed.eq_of_mem_values isRelation isOtherRelation sameName
  rfl

/-- Relations with the same ends join the same entities, in one order or the other. -/
theorem sides_eq_of_ends_eq
    {document : Document}
    {pair other : Entity × Relation}
    {target otherTarget : Entity}
    (isJoined : pair ∈ (plannedDatabase document).joinedRelations)
    (otherJoined : other ∈ (plannedDatabase document).joinedRelations)
    (isTarget : (plannedDatabase document).target? pair.2 = some target)
    (otherIsTarget : (plannedDatabase document).target? other.2 = some otherTarget)
    (sameEnds :
      (plannedDatabase document).ends? other = (plannedDatabase document).ends? pair) :
    (other.1 = pair.1 ∧ otherTarget = target) ∨ (other.1 = target ∧ otherTarget = pair.1) := by
  have keyed := (wellLinked_linked document).keyed
  have targetMember {relation : Relation} {entity : Entity}
      (found : (plannedDatabase document).target? relation = some entity) :
      entity ∈ (linked document).entities.values := by
    rw [DatabasePlan.target?, Option.bind_eq_some_iff] at found
    obtain ⟨key, _, stored⟩ := found
    exact Table.mem_values_iff.mpr ⟨key, stored⟩
  have entityMember {pair : Entity × Relation}
      (isJoined : pair ∈ (plannedDatabase document).joinedRelations) :
      pair.1 ∈ (linked document).entities.values := by
    rw [joinedRelations_plan] at isJoined
    exact (mem_guessedPivots_iff.mp isJoined).1
  simp only [DatabasePlan.ends?, isTarget, otherIsTarget, Option.map_some, Option.some.injEq,
    Sym2.eq_iff] at sameEnds
  rcases sameEnds with ⟨sameKey, sameTarget⟩ | ⟨sameKey, sameTarget⟩
  · exact .inl
      ⟨keyed.eq_of_mem_values (entityMember otherJoined) (entityMember isJoined) sameKey,
        keyed.eq_of_mem_values (targetMember otherIsTarget) (targetMember isTarget) sameTarget⟩
  · exact .inr
      ⟨keyed.eq_of_mem_values (entityMember otherJoined) (targetMember isTarget) sameKey,
        keyed.eq_of_mem_values (targetMember otherIsTarget) (entityMember isJoined) sameTarget⟩

/--
A relation has a join table of its own exactly when the first relation with the same join table
name joins the same two entities.
-/
theorem Resolves.hasOwnJoinTable_iff
    {document : Document}
    (resolves : Resolves document)
    {pair : Entity × Relation}
    (isJoined : pair ∈ (plannedDatabase document).joinedRelations) :
    (plannedDatabase document).HasOwnJoinTable pair ↔
      ∃ first,
        (plannedDatabase document).joinedRelations.find?
            (fun other =>
              (plannedDatabase document).joinName? other ==
                (plannedDatabase document).joinName? pair) =
          some first ∧
        (plannedDatabase document).ends? first =
          (plannedDatabase document).ends? pair := by
  obtain ⟨target, isTarget⟩ := resolves.exists_target isJoined
  have hasName : (plannedDatabase document).joinName? pair =
      some (pivotTableName pair.1.className target.className) := by
    simp [DatabasePlan.joinName?, isTarget]
  have isJoinName : pivotTableName pair.1.className target.className ∈
      (plannedDatabase document).joinNames :=
    List.mem_filterMap.mpr ⟨pair, isJoined, hasName⟩
  obtain ⟨migration, first, firstTarget, stored, found, isFirstTarget, joins⟩ :=
    resolves.exists_join isJoinName
  rw [hasName, found]
  constructor
  · rintro ⟨otherTarget, otherMigration, own⟩
    cases own.target_eq.symm.trans isTarget
    cases own.stored.symm.trans stored
    obtain ⟨other, otherJoined, source, sameEnds⟩ := own.madeFor
    -- One name holds one migration, whose source singles out one relation.
    have sameSource := source.symm.trans joins.source_eq
    simp only [MigrationSource.pivot.injEq] at sameSource
    have isFirst := joinedRelation_unique otherJoined (List.mem_of_find?_eq_some found)
      sameSource.1 sameSource.2
    exact ⟨first, rfl, isFirst ▸ sameEnds⟩
  · rintro ⟨_, isFirst, sameEnds⟩
    cases isFirst
    have firstJoined := List.mem_of_find?_eq_some found
    refine ⟨target, migration, isTarget, stored, ⟨first, firstJoined, joins.source_eq, sameEnds⟩,
      joins.columns_sorted, ?_⟩
    obtain ⟨left, isLeft, right, isRight, perm⟩ := joins.columns_perm
    rcases sides_eq_of_ends_eq isJoined firstJoined isTarget isFirstTarget sameEnds with
      ⟨sameEntity, sameTarget⟩ | ⟨sameEntity, sameTarget⟩
    · exact ⟨left, sameEntity ▸ isLeft, right, sameTarget ▸ isRight, perm⟩
    · exact ⟨right, sameTarget ▸ isRight, left, sameEntity ▸ isLeft,
        perm.trans (List.Perm.swap right left [])⟩

/-- Relations with the same join table name that both have a join table of their own join the same
two entities. -/
theorem Resolves.ends_eq_of_hasOwnJoinTable
    {document : Document}
    (resolves : Resolves document)
    {pair other : Entity × Relation}
    (isJoined : pair ∈ (plannedDatabase document).joinedRelations)
    (otherJoined : other ∈ (plannedDatabase document).joinedRelations)
    (own : (plannedDatabase document).HasOwnJoinTable pair)
    (otherOwn : (plannedDatabase document).HasOwnJoinTable other)
    (sameName :
      (plannedDatabase document).joinName? pair =
        (plannedDatabase document).joinName? other) :
    (plannedDatabase document).ends? pair =
      (plannedDatabase document).ends? other := by
  obtain ⟨first, found, sameEnds⟩ := (resolves.hasOwnJoinTable_iff isJoined).mp own
  obtain ⟨otherFirst, otherFound, otherEnds⟩ :=
    (resolves.hasOwnJoinTable_iff otherJoined).mp otherOwn
  rw [sameName, otherFound, Option.some.injEq] at found
  rw [← sameEnds, ← otherEnds, found]

end Resolution

/--
Every relation of a plan has a join table of its own exactly when relations that join different
entities never share the name of their join table.
-/
theorem hasOwnJoinTable_iff_ends_eq
    {document : Document}
    {plan : Plan}
    (resolved : resolve document = .ok plan) :
    (∀ pair ∈ plan.database.joinedRelations, plan.database.HasOwnJoinTable pair) ↔
      ∀ pair ∈ plan.database.joinedRelations,
        ∀ other ∈ plan.database.joinedRelations,
          plan.database.joinName? pair = plan.database.joinName? other →
          plan.database.ends? pair = plan.database.ends? other := by
  obtain ⟨resolves, rfl⟩ := resolve_eq_ok_iff.mp resolved
  rw [plan_database]
  constructor
  · intro own pair isJoined other otherJoined sameName
    exact resolves.ends_eq_of_hasOwnJoinTable isJoined otherJoined (own pair isJoined)
      (own other otherJoined) sameName
  · intro apart pair isJoined
    rw [resolves.hasOwnJoinTable_iff isJoined]
    have present :
        ((plannedDatabase document).joinedRelations.find? fun other =>
          (plannedDatabase document).joinName? other ==
            (plannedDatabase document).joinName? pair).isSome := by
      rw [List.find?_isSome]
      exact ⟨pair, isJoined, by simp⟩
    obtain ⟨first, found⟩ := Option.isSome_iff_exists.mp present
    have sameName := List.find?_some found
    rw [beq_iff_eq] at sameName
    exact ⟨first, found, apart first (List.mem_of_find?_eq_some found) pair isJoined sameName⟩

/-- Whether two relations of a plan share the name of their join table, but not their entities. -/
def DatabasePlan.sharesJoinTable
    (database : DatabasePlan) :
    Bool :=
  database.joinedRelations.any fun pair =>
    database.joinedRelations.any fun other =>
      database.joinName? pair == database.joinName? other &&
        decide (database.ends? pair ≠ database.ends? other)

theorem DatabasePlan.exists_of_sharesJoinTable
    {database : DatabasePlan}
    (shares : database.sharesJoinTable = true) :
    ∃ pair ∈ database.joinedRelations,
      ∃ other ∈ database.joinedRelations,
        database.joinName? pair = database.joinName? other ∧
          database.ends? pair ≠ database.ends? other := by
  simpa [sharesJoinTable] using shares

/-- Each relation of posts and tags has a join table of its own: the two share one and both join
the same two entities. -/
theorem hasOwnJoinTable_publishingDocument :
    ∃ plan,
      resolve publishingDocument = .ok plan ∧
        plan.database.joinedRelations ≠ [] ∧
        ∀ pair ∈ plan.database.joinedRelations, plan.database.HasOwnJoinTable pair := by
  have evaluated :
      (resolve publishingDocument).toOption.any (fun plan =>
        !plan.database.joinedRelations.isEmpty && !plan.database.sharesJoinTable) = true := by
    decide +kernel
  cases resolved : resolve publishingDocument with
  | error cause =>
      simp [resolved, Except.toOption] at evaluated
  | ok plan =>
      simp only [resolved, Except.toOption, Option.any_some, Bool.and_eq_true,
        Bool.not_eq_true', List.isEmpty_eq_false_iff] at evaluated
      refine ⟨plan, rfl, evaluated.1, (hasOwnJoinTable_iff_ends_eq resolved).mpr ?_⟩
      simpa [DatabasePlan.sharesJoinTable] using evaluated.2

/-- Blog posts with tags, and blogs with post tags: the words of the classes are joined alike. -/
def blogDocument : Document :=
  Document.ofModels
    [("BlogPost", [("id", .line "id"), ("tags", .relation (some "belongsToMany:Tag"))]),
     ("Tag", [("id", .line "id")]),
     ("Blog", [("id", .line "id"), ("postTags", .relation (some "belongsToMany:PostTag"))]),
     ("PostTag", [("id", .line "id")])]

/-- A document may resolve and still leave a relation with the join table of other entities. -/
theorem exists_not_hasOwnJoinTable :
    ∃ plan,
      resolve blogDocument = .ok plan ∧
        ∃ pair ∈ plan.database.joinedRelations, ¬plan.database.HasOwnJoinTable pair := by
  have evaluated :
      (resolve blogDocument).toOption.any (fun plan => plan.database.sharesJoinTable) = true := by
    decide +kernel
  cases resolved : resolve blogDocument with
  | error cause =>
      simp [resolved, Except.toOption] at evaluated
  | ok plan =>
      simp only [resolved, Except.toOption, Option.any_some] at evaluated
      obtain ⟨pair, isJoined, other, otherJoined, sameName, different⟩ :=
        DatabasePlan.exists_of_sharesJoinTable evaluated
      obtain ⟨resolves, rfl⟩ := resolve_eq_ok_iff.mp resolved
      rw [plan_database] at isJoined otherJoined sameName different
      by_cases own : (plannedDatabase blogDocument).HasOwnJoinTable pair
      · refine ⟨_, rfl, other, by rwa [plan_database], ?_⟩
        rw [plan_database]
        intro otherOwn
        exact different
          (resolves.ends_eq_of_hasOwnJoinTable isJoined otherJoined own otherOwn sameName)
      · exact ⟨_, rfl, pair, by rwa [plan_database], by rwa [plan_database]⟩

end Blueprint
