import Blueprint.Proofs.Declarations
import Blueprint.Proofs.NeededTables

namespace Blueprint

/-!
# Errors that are true

An error of a resolution reports something that is so in the document, whatever the state in which
it was raised. A missing model is not there under any key or class, two sources that collide do
need the same table, a column that collides is taken, and a key that is wanted is wanting. Errors
of declarations by themselves are left aside.
-/

open Resolution Schema

namespace Document

/-- The columns by which a join table would refer to two models have the same name. -/
def ShareKeyColumn
    (document : Document)
    (first second : String) :
    Prop :=
  ∃ entity other name,
    document.Makes first entity ∧
      document.Makes second other ∧
      entity.keyColumn?.map Prod.fst = some name ∧ other.keyColumn?.map Prod.fst = some name

/-- A relation needs a column that is a scalar column of its model, or that an earlier relation of
the model needs. -/
def ColumnsCollide
    (document : Document)
    (key name column : String) :
    Prop :=
  ∃ earlier placeholder later,
    placeholders document = earlier ++ placeholder :: later ∧
      placeholder.model = key ∧
      placeholder.name = name ∧
      document.NeedsColumn placeholder column ∧
      (document.HasScalarColumn key column ∨
        ∃ other ∈ earlier, other.model = key ∧ document.NeedsColumn other column)

end Document

/-- What an error reports is so in a document. -/
def ResolveError.TrueOf
    (document : Document) :
    ResolveError →
    Prop
  | .missing kind name _ => kind = .entity → document.LacksModel name
  | .malformed _ _ => True
  | .invalidPrimaryKey key column =>
      document.NamesPrimary key column ∧ ¬document.HasScalarColumn key column
  | .tableCollision table first second => document.TablesCollide table first second
  | .columnCollision key name column => document.ColumnsCollide key name column
  | .missingPrimaryKey key owner =>
      (∃ entity, document.Makes key entity ∧ entity.primary = none) ∧
        ∃ placeholder target,
          document.NeedsJoinTable placeholder target ∧
            placeholder.owner = owner ∧ (placeholder.model = key ∨ target = key)
  | .selfReferencingPivot key name =>
      ∃ placeholder target,
        document.NeedsJoinTable placeholder target ∧
          placeholder.model = key ∧
          placeholder.name = name ∧ (target = key ∨ document.ShareKeyColumn key target)

theorem ResolveError.IsOwn.trueOf
    {document : Document}
    {cause : ResolveError}
    (isOwn : cause.IsOwn) :
    cause.TrueOf document := by
  cases cause with
  | missing kind name owner =>
      exact fun isEntity => absurd isEntity isOwn
  | malformed owner flaw =>
      trivial
  | _ =>
      exact isOwn.elim

namespace Resolution

variable {document : Document}

/-- Where a name leads to no entity though there is one for every model, there is no such model. -/
theorem HasModels.trueErrors
    {context : Context}
    (hasModels : HasModels document context) :
    AnswersAlike ResolveError.IsOwn (ResolveError.TrueOf document) context context := by
  have lookUp (name owner : String) (cause : ResolveError)
      (failed : context.entityKey name owner = .error cause) :
      cause.TrueOf document := by
    rcases hasModels.of_entityKey_error failed with ⟨rfl, lacks⟩ | ⟨first, second, rfl⟩
    · exact fun _ => lacks
    · trivial
  exact {
    knownErrors := fun _ isOwn => isOwn.trueOf
    entityKey := fun name owner => .self (lookUp name owner)
    entity := fun name owner => .self fun cause failed =>
      lookUp name owner cause (hasModels.entityKey_error_of_entity_error failed) }

/-- A model that makes no entity has an error of its own, or names a primary key column that it does
not have. -/
theorem entityOf_trueErrors
    {space key : String}
    {model : Document.Model}
    (isModel : document.database.models.get? key = some model) :
    Follows (ResolveError.TrueOf document) (entityOf space key model)
      (entityOf space key model) := by
  have own : ∀ cause : ResolveError, cause.IsOwn → cause.TrueOf document :=
    fun _ isOwn => isOwn.trueOf
  refine (modelColumns_follows own key model).bind_of_ok fun declared hasColumns => ?_
  refine (scalarColumns_follows own key declared).bind_of_ok fun columns read => ?_
  refine (modelType_follows own key model).bind fun modelType => ?_
  have parts (block : Document.PrimaryBlock) (_ : model.primary = some (.block block)) :=
    primaryParts_follows own key block
  refine Follows.bind (primaryOf_follows parts ?_) fun primary => ?_
  · intro block column isBlock isColumn absent
    exact ⟨⟨model, block, isModel, isBlock, isColumn⟩,
      fun present => absent ((hasScalarColumn_iff isModel hasColumns read).mp present)⟩
  · have plain (cause : ResolveError) (isPlain : cause.IsPlain) := own cause isPlain.1
    refine (routeBindingOf_follows plain key columns model.route).bind fun binding => ?_
    exact (eventsOf_follows plain key _ model.events).bind fun events => .ok _

theorem trueOf_of_entities
    {cause : ResolveError}
    (failed : (entities document (Context.start document)).error = some cause) :
    cause.TrueOf document := by
  obtain ⟨earlier, ⟨key, model⟩, later, split, _, fails⟩ :=
    Outcome.exists_failing_of_ofSteps failed
  have isModel : document.database.models.get? key = some model := by
    rw [Table.get?_eq_some_iff, split]
    simp
  rw [fills_addEntity.step_eq] at fails
  refine (((entityOf_trueErrors isModel).map _).map _).of_error cause fails

/-! Linking. -/

/-- A column of an entity that is being linked is a scalar column, or one that a placeholder needs
which was put onto the entity before. -/
theorem hasColumn_of_linkEntity
    (done : (entities document (Context.start document)).error = none)
    {key : String}
    {entity linked : Entity}
    {placeholders : List Placeholder}
    (made : document.Makes key entity)
    (isLinked : linkEntity (built document) entity placeholders = .ok linked)
    {column : String}
    (present : column ∈ linked.columns.keys) :
    document.HasScalarColumn key column ∨
      ∃ other ∈ placeholders, document.NeedsColumn other column := by
  refine accumulate_invariant
    (fun former : Entity =>
      ∀ column ∈ former.columns.keys,
        document.HasScalarColumn key column ∨
          ∃ other ∈ placeholders, document.NeedsColumn other column)
    (fun column isScalar => .inl (hasScalarColumn_of_makes made isScalar)) ?_ isLinked column
    present
  intro former placeholder next member known put column present
  obtain ⟨⟨relation, kept⟩, read, attached⟩ := exists_attached_of_putOn put
  obtain ⟨held, found⟩ := Table.mem_keys_iff.mp present
  rcases attached.column_cases column held found with old | ⟨isAdded, isNamed⟩
  · exact known column (Table.mem_keys_iff.mpr ⟨held, old⟩)
  · have isAdded : kept = some held := isAdded
    subst isAdded isNamed
    exact .inr ⟨placeholder, member, needsColumn_of_read done read⟩

theorem columnCollision_of_attach
    {entity : Entity}
    {key name : String}
    {relation : Relation}
    {column : Option Column}
    {cause : ResolveError}
    (failed : attach entity key name relation column = .error cause) :
    ∃ kept,
      column = some kept ∧
        kept.name ∈ entity.columns.keys ∧ cause = .columnCollision key name kept.name := by
  cases column with
  | none =>
      simp [attach] at failed
  | some kept =>
      by_cases taken : kept.name ∈ entity.columns.keys
      · simp only [attach, Table.contains_iff, taken, ↓reduceIte, Except.error.injEq] at failed
        exact ⟨kept, rfl, taken, failed.symm⟩
      · simp [attach, Table.contains_iff, taken] at failed

theorem trueOf_of_relations
    (done : (entities document (Context.start document)).error = none)
    {cause : ResolveError}
    (failed : (relations document (built document)).error = some cause) :
    cause.TrueOf document := by
  have hasModels := hasModels_built done
  obtain ⟨earlier, placeholder, later, entity, linked, split, found, isLinked, fails⟩ :=
    exists_failing_of_relations (fun _ => model_mem_keys_built done) failed
  unfold putOn at fails
  cases read : placeholder.read (built document) with
  | error reason =>
      rw [read] at fails
      cases fails
      exact (placeholder.read_follows hasModels.trueErrors).of_error _ read
  | ok declared =>
      rw [read] at fails
      obtain ⟨kept, isKept, taken, rfl⟩ := columnCollision_of_attach fails
      obtain ⟨relation, column⟩ := declared
      have isKept : column = some kept := isKept
      subst isKept
      refine ⟨earlier, placeholder, later, split, rfl, rfl, needsColumn_of_read done read, ?_⟩
      rcases hasColumn_of_linkEntity done (entityOf_of_built found) isLinked taken with
        isScalar | ⟨other, isEarlier, needs⟩
      · exact .inl isScalar
      · obtain ⟨inEarlier, isOwner⟩ := List.mem_filter.mp isEarlier
        exact .inr ⟨other, inEarlier, by simpa using isOwner, needs⟩

/-! Migrations. -/

/-- The tables of two entities collide only if the entities are two. -/
theorem trueOf_of_addEntityTable
    {cause : ResolveError}
    (failed : accumulate addEntityTable ∅ (linked document).entities.values = .error cause) :
    cause.TrueOf document := by
  obtain ⟨earlier, entity, later, middle, split, reached, fails⟩ :=
    exists_failing_of_accumulate failed
  have among (other : Entity) (isEarlier : other ∈ earlier) :
      other ∈ (linked document).entities.values := by
    simp [split, isEarlier]
  have member : entity ∈ (linked document).entities.values := by simp [split]
  have allNeeded := allNeeded_of_addEntityTable among AllNeeded.empty reached
  cases found : middle.get? entity.table with
  | none =>
      simp [addEntityTable, found] at fails
  | some existing =>
      simp only [addEntityTable, found, Except.error.injEq] at fails
      subst fails
      have different : (Migration.ofEntity entity).source ≠ existing.source := by
        have inMiddle := Table.get?_eq_some_iff.mp found
        rw [entries_of_addEntityTable reached, Table.entries_empty, List.nil_append] at inMiddle
        obtain ⟨other, isEarlier, same⟩ := List.mem_map.mp inMiddle
        have isOther : Migration.ofEntity other = existing := congrArg Prod.snd same
        have distinct := (wellLinked_linked document).keyed.map_values ▸
          (linked document).entities.nodup_keys
        rw [split, List.map_append, List.map_cons, List.nodup_append] at distinct
        have apart := distinct.2.2 other.key (List.mem_map_of_mem isEarlier) entity.key (by simp)
        simpa [← isOther, Migration.ofEntity] using apart.symm
      exact (allNeeded.collide (needed_ofEntity member) found different).2

/-- An explicit table stands under the name by which it was declared. -/
theorem mem_names_of_addExplicitTable
    {entities : List Entity}
    {entityTables final : Table Migration}
    {declarations : List (String × Document.Columns)}
    (entitiesDone : accumulate addEntityTable ∅ entities = .ok entityTables)
    (reached : accumulate addExplicitTable entityTables declarations = .ok final)
    {name : String}
    {migration : Migration}
    (found : final.get? name = some migration)
    (isExplicit : migration.source = .explicit) :
    name ∈ Entries.names declarations := by
  rcases cases_of_declared entitiesDone reached found with ⟨entity, _, _, rfl⟩ | ⟨isName, _⟩
  · simp [Migration.ofEntity] at isExplicit
  · exact isName

/-- An explicit table is the only one of its name, so it collides with that of an entity. -/
theorem trueOf_of_addExplicitTable
    {entityTables : Table Migration}
    (entitiesDone :
      accumulate addEntityTable ∅ (linked document).entities.values = .ok entityTables)
    {cause : ResolveError}
    (failed :
      accumulate addExplicitTable entityTables document.database.migrations.entries =
        .error cause) :
    cause.TrueOf document := by
  obtain ⟨earlier, entry, later, middle, split, reached, fails⟩ :=
    exists_failing_of_accumulate failed
  have among (other : String × Document.Columns) (isEarlier : other ∈ earlier) :
      other ∈ document.database.migrations.entries := by
    simp [split, isEarlier]
  have member : entry ∈ document.database.migrations.entries := by simp [split]
  have allNeeded := allNeeded_of_addExplicitTable among
    (allNeeded_of_addEntityTable (fun _ member => member) AllNeeded.empty entitiesDone) reached
  cases read : scalarColumns ("migrations." ++ entry.1) entry.2 with
  | error reason =>
      simp only [addExplicitTable, read, Except.error.injEq] at fails
      subst fails
      exact (scalarColumns_follows (fun _ isOwn => isOwn.trueOf) _ _).of_error _ read
  | ok columns =>
      cases found : middle.get? entry.1 with
      | none =>
          simp [addExplicitTable, read, found] at fails
      | some existing =>
          simp only [addExplicitTable, read, found, Except.error.injEq] at fails
          subst fails
          have needed := needed_ofColumns (List.mem_map_of_mem member) columns.values
          have different : (Migration.ofColumns entry.1 columns.values).source ≠
              existing.source := by
            intro same
            have isEarlier := mem_names_of_addExplicitTable entitiesDone reached found same.symm
            have distinct := document.database.migrations.distinct
            rw [split, Entries.names, List.map_append, List.map_cons, List.nodup_append] at distinct
            exact distinct.2.2 entry.1 isEarlier entry.1 (by simp) rfl
          obtain ⟨sameTable, source, other, apart, needs, otherNeeds, isFirst, isSecond⟩ :=
            allNeeded.collide needed found different
          exact ⟨other, source, apart.symm, otherNeeds, needs, isSecond, isFirst⟩

/-- A join table of two linked entities that cannot be made lacks a key, or has one key column for
both. -/
theorem trueOf_of_joinTable
    {entity target : Entity}
    {relation : Relation}
    {placeholder : Placeholder}
    (isEntity : entity ∈ (linked document).entities.values)
    (targetIsEntity : target ∈ (linked document).entities.values)
    (needs : document.NeedsJoinTable placeholder target.key)
    (isOwner : placeholder.model = entity.key)
    (isNamed : placeholder.name = relation.name)
    {cause : ResolveError}
    (failed : joinTable entity target relation = .error cause) :
    cause.TrueOf document := by
  obtain ⟨made, isMade, sameBare⟩ := exists_makes_of_linked isEntity
  obtain ⟨targetMade, targetIsMade, targetSameBare⟩ := exists_makes_of_linked targetIsEntity
  rcases cases_of_joinTable failed with
    ⟨side, isSide, keyless, rfl⟩ | ⟨name, hasName, targetHasName, rfl⟩
  · have sameOwner : placeholder.owner = entity.key ++ "." ++ relation.name := by
      rw [Placeholder.owner, isOwner, isNamed]
    rcases isSide with rfl | rfl
    · have sameKey := congrArg Entity.primary sameBare
      exact ⟨⟨made, isMade, sameKey.trans keyless⟩, placeholder, target.key, needs, sameOwner,
        .inl isOwner⟩
    · have sameKey := congrArg Entity.primary targetSameBare
      exact ⟨⟨targetMade, targetIsMade, sameKey.trans keyless⟩, placeholder, side.key, needs,
        sameOwner, .inr rfl⟩
  · have sameColumn := congrArg (fun side => side.keyColumn?.map Prod.fst) sameBare
    have targetSameColumn := congrArg (fun side => side.keyColumn?.map Prod.fst) targetSameBare
    refine ⟨placeholder, target.key, needs, isOwner, isNamed, .inr ?_⟩
    exact ⟨made, targetMade, name, isMade, targetIsMade, sameColumn.trans hasName,
      targetSameColumn.trans targetHasName⟩

/-- A join table that cannot be made lacks what its relation would need. -/
theorem trueOf_of_pivotMigration
    (done : (entities document (Context.start document)).error = none)
    {entity : Entity}
    {relation : Relation}
    (isGuessed : (entity, relation) ∈ guessedPivots (linked document))
    {cause : ResolveError}
    (failed : pivotMigration (linked document) entity relation = .error cause) :
    cause.TrueOf document := by
  obtain ⟨isEntity, _, _⟩ := mem_guessedPivots_iff.mp isGuessed
  have hasModels := hasModels_linked done
  unfold pivotMigration at failed
  cases isTarget : relation.target with
  | none =>
      simp only [isTarget, Document.refuse, Except.error.injEq] at failed
      exact failed ▸ trivial
  | some key =>
      simp only [isTarget] at failed
      obtain ⟨placeholder, needs, isOwner, isNamed⟩ :=
        needsJoinTable_of_guessedPivots done isGuessed isTarget
      by_cases isSelf : key = entity.key
      · rw [if_pos isSelf, Except.error.injEq] at failed
        subst failed
        exact ⟨placeholder, key, needs, isOwner, isNamed, .inl isSelf⟩
      · rw [if_neg isSelf] at failed
        cases found : (linked document).entity key (entity.key ++ "." ++ relation.name) with
        | error reason =>
            simp only [found, Except.error.injEq] at failed
            exact failed ▸ (hasModels.trueErrors.entity key _).of_error reason found
        | ok target =>
            simp only [found] at failed
            obtain ⟨_, _, _, _, _, _, _, _, _, refers⟩ := id needs
            have stored := hasModels.get?_of_entity_key refers.key_mem found
            have isTargetKey := hasModels.keyed key target stored
            exact trueOf_of_joinTable isEntity (Table.mem_values_iff.mpr ⟨key, stored⟩)
              (isTargetKey.symm ▸ needs) isOwner isNamed failed

theorem trueOf_of_addPivotTable
    {declared : Table Migration}
    {pivots : List Migration}
    (allNeeded : AllNeeded document declared)
    (areNeeded : ∀ pivot ∈ pivots, Needed document pivot ∧ pivot.isGuessedPivot = true)
    {cause : ResolveError}
    (failed : accumulate addPivotTable declared pivots = .error cause) :
    cause.TrueOf document := by
  obtain ⟨earlier, pivot, later, middle, rfl, reached, fails⟩ :=
    exists_failing_of_accumulate failed
  have middleNeeded := allNeeded_of_addPivotTable
    (fun other isEarlier => (areNeeded other (by simp [isEarlier])).1) allNeeded reached
  obtain ⟨needed, isGuessed⟩ := areNeeded pivot (by simp)
  cases found : middle.get? pivot.table with
  | none =>
      simp [addPivotTable, found] at fails
  | some existing =>
      by_cases isPivot : existing.isGuessedPivot = true
      · simp [addPivotTable, found, isPivot] at fails
      · simp only [addPivotTable, found, isPivot, Bool.false_eq_true, ↓reduceIte,
          Except.error.injEq] at fails
        subst fails
        have different : pivot.source ≠ existing.source := by
          intro same
          simp only [Migration.isGuessedPivot, ← same] at isPivot
          exact isPivot isGuessed
        exact (middleNeeded.collide needed found different).2

theorem trueOf_of_migrations
    (done : (entities document (Context.start document)).error = none)
    {cause : ResolveError}
    (failed : (migrations document (linked document)).error = some cause) :
    cause.TrueOf document := by
  have tableFailed := migrationTable_eq_error_iff.mpr failed
  simp only [migrationTable, bind_eq_error_iff] at tableFailed
  rcases tableFailed with
    entitiesFailed | ⟨entityTables, entitiesDone, explicitFailed | ⟨declared, explicitDone,
      pivotsFailed | ⟨pivots, made, pivotsFailed⟩⟩⟩
  · exact trueOf_of_addEntityTable entitiesFailed
  · exact trueOf_of_addExplicitTable entitiesDone explicitFailed
  · obtain ⟨pair, isGuessed, fails⟩ := exists_failing_of_collect pivotsFailed
    exact trueOf_of_pivotMigration done isGuessed fails
  · have entitiesNeeded :=
      allNeeded_of_addEntityTable (fun _ member => member) AllNeeded.empty entitiesDone
    have declaredNeeded :=
      allNeeded_of_addExplicitTable (fun _ member => member) entitiesNeeded explicitDone
    refine trueOf_of_addPivotTable declaredNeeded ?_ pivotsFailed
    intro pivot member
    obtain ⟨pair, isGuessed, isMade⟩ := exists_of_mem_collect made member
    exact ⟨needed_of_pivotMigration done isGuessed isMade,
      isGuessedPivot_of_pivotMigration isMade⟩

/-- The last two stages look up nothing but names of models. -/
theorem agree_trueErrors
    (done : (entities document (Context.start document)).error = none) :
    Agree (ResolveError.TrueOf document) (tabled document) (tabled document) where
  alike := by
    have sameEntities : (tabled document).entities = (linked document).entities := by
      rw [tabled_eq]
    exact (hasModels_linked done).trueErrors.of_entities_eq sameEntities sameEntities
  httpSpace_eq := rfl
  middleware_eq := rfl
  controllers_eq := rfl
  gates_eq := rfl
  policies_eq := rfl
  forms_eq := rfl

end Resolution

/-- The error of a document that does not resolve is true of it. -/
theorem trueOf_of_resolve_error
    {document : Document}
    {cause : ResolveError}
    (failed : resolve document = .error cause) :
    cause.TrueOf document := by
  unfold resolve at failed
  cases checked : document.check with
  | error reason =>
      rw [checked] at failed
      cases failed
      exact (check_follows (fun _ isOwn => isOwn.trueOf) document).of_error _ checked
  | ok =>
      have stageFailed : (resolveUnchecked document).error = some cause := by
        cases stopped : (resolveUnchecked document).error with
        | none =>
            simp [checked, stopped, bind, Except.bind, pure, Except.pure] at failed
        | some reason =>
            simpa [checked, stopped, bind, Except.bind] using failed
      simp only [resolveUnchecked, Stage.all, runStages, Stage.run,
        Outcome.andThen_error_eq_some_iff, reduceCtorEq, and_false, or_false] at stageFailed
      rcases stageFailed with
        entitiesFailed | ⟨entitiesDone, relationsFailed | ⟨relationsDone, migrationsFailed |
          ⟨migrationsDone, httpFailed | ⟨httpDone, authFailed⟩⟩⟩⟩
      · exact trueOf_of_entities entitiesFailed
      · exact trueOf_of_relations entitiesDone relationsFailed
      · exact trueOf_of_migrations entitiesDone migrationsFailed
      · exact (http_follows rfl (agree_trueErrors entitiesDone)).of_error cause httpFailed
      · obtain ⟨_, agree⟩ :=
          (http_follows rfl (agree_trueErrors entitiesDone)).of_done httpDone
        exact (auth_follows rfl agree).of_error cause authFailed

/-- Posts that lead to a user twice, by columns of the same name. -/
def editedDocument : Document :=
  Document.ofModels
    [("User", [("id", .line "id")]),
     ("Post",
       [("id", .line "id"),
        ("author", .relation (some "belongsTo:User")),
        ("editor", .relation (some "belongsTo:User"))])]

/-- The column of the second relation is the one that the first relation needs. -/
theorem trueOf_editedDocument :
    resolve editedDocument = .error (.columnCollision "Post" "editor" "user_id") ∧
      editedDocument.ColumnsCollide "Post" "editor" "user_id" := by
  have failed :
      resolve editedDocument = .error (.columnCollision "Post" "editor" "user_id") := by
    decide +kernel
  exact ⟨failed, trueOf_of_resolve_error failed⟩

end Blueprint
