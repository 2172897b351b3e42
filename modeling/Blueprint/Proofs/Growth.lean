import Blueprint.Proofs.ModelNames
import Blueprint.Proofs.Placeholders
import Blueprint.Proofs.Tabulation

namespace Blueprint

/-!
# Documents that grow

The models of a document may be put in another order, and models without relations of classes of
their own may be added. Every name then still refers to the same model, so that every placeholder
declares the same, every entity is linked the same, and the last two stages build the same. This
holds as long as the tables of the added models are free.
-/

open Resolution Schema

namespace Document

/-- The document with other models in the place of its own. -/
def withModels
    (document : Document)
    (models : Table Model) :
    Document :=
  { document with database := { document.database with models := models } }

/-- The models are those of the document, in any order, and more. Each of those makes an entity by
itself, has no relations, and is of a class that no model of the document is of. -/
structure GrowsTo
    (document : Document)
    (models more : Table Model) :
    Prop where
  get?_iff :
    ∀ key model,
      models.get? key = some model ↔
        document.database.models.get? key = some model ∨ more.get? key = some model
  apart :
    ∀ key ∈ more.keys,
      ∀ former ∈ document.database.models.keys,
        Context.classOf former ≠ Context.classOf key
  plain : ∀ key model, more.get? key = some model → placeholdersOf (key, model) = []
  checked : ∀ entry ∈ more.entries, checkModel entry = .ok ()
  made :
    ∀ key model,
      more.get? key = some model →
      ∃ entity, entityOf (Context.start document).databaseSpace key model = .ok entity

/-- The tables of what the added models make are free, and those of different models differ. -/
structure TablesFree
    (document : Document)
    (more : Table Model) :
    Prop where
  free :
    ∀ key model entity,
      more.get? key = some model →
      entityOf (Context.start document).databaseSpace key model = .ok entity →
      entity.table ∉ (tabled document).migrations.keys
  distinct :
    ∀ key model entity other otherModel otherEntity,
      more.get? key = some model →
      entityOf (Context.start document).databaseSpace key model = .ok entity →
      more.get? other = some otherModel →
      entityOf (Context.start document).databaseSpace other otherModel = .ok otherEntity →
      entity.table = otherEntity.table →
      key = other

end Document

namespace Resolution

/-- Contexts answer alike if every name that refers to a model in the first document does so in the
second one, and every entity of the first context is in the second one. -/
theorem answersAlike_of_refers
    {document next : Document}
    {context other : Context}
    (hasModels : HasModels document context)
    (otherHasModels : HasModels next other)
    (refers : ∀ name key, document.Refers name key → next.Refers name key)
    (kept :
      ∀ key entity,
        context.entities.get? key = some entity → other.entities.get? key = some entity) :
    AnswersAlike ResolveError.IsOwn (fun _ => True) context other where
  knownErrors _ _ := trivial
  entityKey name owner :=
    ⟨fun key found => otherHasModels.entityKey_eq_ok_iff.mpr
        (refers name key (hasModels.entityKey_eq_ok_iff.mp found)),
      fun _ _ => trivial⟩
  entity name owner := by
    refine ⟨fun entity found => ?_, fun _ _ => trivial⟩
    obtain ⟨key, isReferred, stored⟩ := hasModels.entity_eq_ok_iff.mp found
    exact otherHasModels.entity_eq_ok_iff.mpr
      ⟨key, refers name key isReferred, kept key entity stored⟩

/-- An entity that is linked in one context is linked so in one that answers alike. -/
theorem linkEntity_of_alike
    {context other : Context}
    (alike : AnswersAlike ResolveError.IsOwn (fun _ => True) context other)
    {entity linked : Entity}
    {placeholders : List Placeholder}
    (isLinked : linkEntity context entity placeholders = .ok linked) :
    linkEntity other entity placeholders = .ok linked := by
  have follows : Follows (fun _ => True) (linkEntity context entity placeholders)
      (linkEntity other entity placeholders) :=
    .accumulate fun _ placeholder _ =>
      (placeholder.read_follows alike).bind fun _ => .self fun _ _ => trivial
  exact follows.of_ok linked isLinked

theorem pivotMigration_of_alike
    {errors known : ResolveError → Prop}
    {context other : Context}
    (alike : AnswersAlike errors known context other)
    {entity : Entity}
    {relation : Relation}
    {pivot : Migration}
    (made : pivotMigration context entity relation = .ok pivot) :
    pivotMigration other entity relation = .ok pivot := by
  unfold pivotMigration at made ⊢
  cases named : relation.target with
  | none =>
      simp [named, Document.refuse] at made
  | some key =>
      simp only [named] at made
      by_cases isSelf : key = entity.key
      · simp [isSelf] at made
      · cases found : context.entity key (entity.key ++ "." ++ relation.name) with
        | error cause =>
            simp [isSelf, found] at made
        | ok target =>
            have also := (alike.entity key _).of_ok target found
            simpa [isSelf, found, also] using made

/-! The tables that a plan has. -/

/-- Every declared table has a migration. -/
theorem Resolves.declared_mem_migrations
    {document : Document}
    (resolves : Resolves document)
    {name : String}
    (isDeclared : name ∈ declaredTables document (linked document)) :
    name ∈ (tabled document).migrations.keys := by
  obtain ⟨explicit, pivots, tabulated⟩ := resolves.tabulated
  exact tabulated.mem_keys_iff.mpr (.inl isDeclared)

theorem Resolves.table_mem_migrations
    {document : Document}
    (resolves : Resolves document)
    {entity : Entity}
    (member : entity ∈ (linked document).entities.values) :
    entity.table ∈ (tabled document).migrations.keys :=
  resolves.declared_mem_migrations (List.mem_append_left _ (List.mem_map_of_mem member))

theorem Resolves.pivot_mem_migrations
    {document : Document}
    (resolves : Resolves document)
    {pair : Entity × Relation}
    {pivot : Migration}
    (isGuessed : pair ∈ guessedPivots (linked document))
    (made : pivotMigration (linked document) pair.1 pair.2 = .ok pivot) :
    pivot.table ∈ (tabled document).migrations.keys := by
  obtain ⟨explicit, pivots, tabulated⟩ := resolves.tabulated
  exact tabulated.mem_keys_iff.mpr (.inr ⟨pair, isGuessed, pivot, made, rfl⟩)

end Resolution

namespace Document.GrowsTo

variable {document : Document} {models more : Table Document.Model}

/-- The models of the larger document are the old ones and the added ones. -/
theorem mem_keys_iff
    (grows : document.GrowsTo models more)
    {key : String} :
    key ∈ models.keys ↔ key ∈ document.database.models.keys ∨ key ∈ more.keys := by
  simp only [Table.mem_keys_iff, grows.get?_iff, exists_or]

/-- A name refers to what it referred to: an added model is not of the class that it asks for. -/
theorem refers
    (grows : document.GrowsTo models more)
    {name key : String}
    (isReferred : document.Refers name key) :
    (document.withModels models).Refers name key := by
  obtain ⟨isModel, which⟩ := isReferred
  refine ⟨grows.mem_keys_iff.mpr (.inl isModel), which.imp_right ?_⟩
  rintro ⟨notKey, ofClass, only⟩
  have noneAdded (added : String) (isAdded : added ∈ more.keys) :
      Context.classOf added ≠ Context.classOf name := fun same =>
    grows.apart added isAdded key isModel (ofClass.trans same.symm)
  refine ⟨?_, ofClass, ?_⟩
  · intro isKey
    rcases grows.mem_keys_iff.mp isKey with former | isAdded
    · exact notKey former
    · exact noneAdded name isAdded rfl
  · intro other isOther otherOfClass
    rcases grows.mem_keys_iff.mp isOther with former | isAdded
    · exact only other former otherOfClass
    · exact absurd otherOfClass (noneAdded other isAdded)

/-- The larger document passes the check if the smaller one does. -/
theorem check_eq_ok
    (grows : document.GrowsTo models more)
    (checked : document.check = .ok ()) :
    (document.withModels models).check = .ok () := by
  obtain ⟨modelsChecked, others⟩ := check_eq_ok_iff.mp checked
  refine check_eq_ok_iff.mpr ⟨?_, others⟩
  rintro ⟨key, model⟩ isModel
  rcases (grows.get?_iff key model).mp (Table.get?_eq_some_iff.mpr isModel) with former | isAdded
  · exact modelsChecked _ (Table.get?_eq_some_iff.mp former)
  · exact grows.checked _ (Table.get?_eq_some_iff.mp isAdded)

/-- The larger document makes all of its entities if the smaller one does. -/
theorem entities_done
    (grows : document.GrowsTo models more)
    (done : (entities document (Context.start document)).error = none) :
    (entities (document.withModels models)
      (Context.start (document.withModels models))).error = none := by
  rw [entities_error_eq_none_iff] at done ⊢
  intro key model isModel
  rcases (grows.get?_iff key model).mp isModel with former | isAdded
  · exact done key model former
  · exact grows.made key model isAdded

/-- Before linking, the same names lead to the same entities. -/
theorem alike_built
    (grows : document.GrowsTo models more)
    (done : (entities document (Context.start document)).error = none) :
    AnswersAlike ResolveError.IsOwn (fun _ => True) (built document)
      (built (document.withModels models)) := by
  refine answersAlike_of_refers (hasModels_built done) (hasModels_built (grows.entities_done done))
    (fun _ _ => grows.refers) ?_
  intro key entity found
  obtain ⟨model, isModel, isMade⟩ := (get?_built done).mp found
  exact (get?_built (grows.entities_done done)).mpr
    ⟨model, (grows.get?_iff key model).mpr (.inl isModel), isMade⟩

/-- The placeholders of a model declare the same, and an added model has none. -/
theorem relations_done
    (grows : document.GrowsTo models more)
    (entitiesDone : (entities document (Context.start document)).error = none)
    (done : (relations document (built document)).error = none) :
    (relations (document.withModels models) (built (document.withModels models))).error =
      none := by
  rw [relations_error_eq_none_iff entitiesDone] at done
  rw [relations_error_eq_none_iff (grows.entities_done entitiesDone)]
  intro key model entity isModel isMade
  rcases (grows.get?_iff key model).mp isModel with former | isAdded
  · obtain ⟨linked, isLinked⟩ := done key model entity former isMade
    exact ⟨linked, linkEntity_of_alike (grows.alike_built entitiesDone) isLinked⟩
  · rw [grows.plain key model isAdded]
    exact ⟨entity, rfl⟩

/-- The linked entities are those of the document and what the added models make. -/
theorem get?_linked_iff
    (grows : document.GrowsTo models more)
    (entitiesDone : (entities document (Context.start document)).error = none)
    (done : (relations document (built document)).error = none)
    {key : String}
    {linked : Entity} :
    (Resolution.linked (document.withModels models)).entities.get? key = some linked ↔
      (Resolution.linked document).entities.get? key = some linked ∨
        ∃ model,
          more.get? key = some model ∧
            entityOf (Context.start document).databaseSpace key model = .ok linked := by
  have follows (model : Model) (entity linked : Entity)
      (isLinked :
        linkEntity (built document) entity (placeholdersOf (key, model)) = .ok linked) :=
    linkEntity_of_alike (grows.alike_built entitiesDone) isLinked
  rw [get?_linked (grows.entities_done entitiesDone) (grows.relations_done entitiesDone done),
    get?_linked entitiesDone done]
  constructor
  · rintro ⟨model, entity, isModel, isMade, isLinked⟩
    rcases (grows.get?_iff key model).mp isModel with former | isAdded
    · obtain ⟨other, otherIsLinked⟩ :=
        (relations_error_eq_none_iff entitiesDone).mp done key model entity former isMade
      cases isLinked.symm.trans (follows model entity other otherIsLinked)
      exact .inl ⟨model, entity, former, isMade, otherIsLinked⟩
    · rw [grows.plain key model isAdded] at isLinked
      cases isLinked
      exact .inr ⟨model, isAdded, isMade⟩
  · rintro (⟨model, entity, isModel, isMade, isLinked⟩ | ⟨model, isAdded, isMade⟩)
    · exact ⟨model, entity, (grows.get?_iff key model).mpr (.inl isModel), isMade,
        follows model entity linked isLinked⟩
    · refine ⟨model, linked, (grows.get?_iff key model).mpr (.inr isAdded), isMade, ?_⟩
      rw [grows.plain key model isAdded]
      rfl

/-- After linking, the same names lead to the same entities. -/
theorem alike_linked
    (grows : document.GrowsTo models more)
    (entitiesDone : (entities document (Context.start document)).error = none)
    (done : (relations document (built document)).error = none) :
    AnswersAlike ResolveError.IsOwn (fun _ => True) (linked document)
      (linked (document.withModels models)) :=
  answersAlike_of_refers (hasModels_linked entitiesDone)
    (hasModels_linked (grows.entities_done entitiesDone)) (fun _ _ => grows.refers)
    fun _ _ found => (grows.get?_linked_iff entitiesDone done).mpr (.inl found)

/-- A linked entity is one of the document, or one that an added model makes. -/
theorem cases_linked
    (grows : document.GrowsTo models more)
    (entitiesDone : (entities document (Context.start document)).error = none)
    (done : (relations document (built document)).error = none)
    {entity : Entity}
    (member : entity ∈ (linked (document.withModels models)).entities.values) :
    entity ∈ (linked document).entities.values ∨
      ∃ model,
        more.get? entity.key = some model ∧
          entityOf (Context.start document).databaseSpace entity.key model = .ok entity := by
  have found := (wellLinked_linked (document.withModels models)).keyed.get?_of_mem_values member
  rcases (grows.get?_linked_iff entitiesDone done).mp found with former | isAdded
  · exact .inl (Table.mem_values_iff.mpr ⟨_, former⟩)
  · exact .inr isAdded

/-- Only relations of the document need join tables, and they need the same ones. -/
theorem pivot_of_guessedPivots
    (grows : document.GrowsTo models more)
    (resolves : Resolves document)
    {pair : Entity × Relation}
    (isGuessed : pair ∈ guessedPivots (linked (document.withModels models))) :
    pair ∈ guessedPivots (linked document) := by
  obtain ⟨entity, relation⟩ := pair
  obtain ⟨isEntity, isRelation, needed⟩ := mem_guessedPivots_iff.mp isGuessed
  rcases grows.cases_linked resolves.entities_done resolves.relations_done isEntity with
    former | ⟨model, _, isMade⟩
  · exact mem_guessedPivots_iff.mpr ⟨former, isRelation, needed⟩
  · simp [(madeFrom_of_entityOf isMade).no_relations] at isRelation

/-- The table of a linked entity is one of a former entity, or one that was free. -/
theorem cases_table
    (grows : document.GrowsTo models more)
    (resolves : Resolves document)
    (tablesFree : document.TablesFree more)
    {entity : Entity}
    (member : entity ∈ (linked (document.withModels models)).entities.values) :
    entity ∈ (linked document).entities.values ∨
      entity.table ∉ (tabled document).migrations.keys := by
  refine (grows.cases_linked resolves.entities_done resolves.relations_done member).imp_right ?_
  rintro ⟨model, isAdded, isMade⟩
  exact tablesFree.free _ _ _ isAdded isMade

/-- Entities of the larger document have tables of their own. -/
theorem tables_injective
    (grows : document.GrowsTo models more)
    (resolves : Resolves document)
    (tablesFree : document.TablesFree more)
    {entity other : Entity}
    (member : entity ∈ (linked (document.withModels models)).entities.values)
    (otherMember : other ∈ (linked (document.withModels models)).entities.values)
    (sameTable : entity.table = other.table) :
    entity = other := by
  have formerly : Tabulable document (linked document) :=
    migrations_error_eq_none_iff.mp resolves.migrations_done
  rcases grows.cases_linked resolves.entities_done resolves.relations_done member with
    former | ⟨model, isAdded, isMade⟩
  · rcases grows.cases_table resolves tablesFree otherMember with otherFormer | free
    · exact List.inj_on_of_nodup_map (List.nodup_append.mp formerly.tables_distinct).1 former
        otherFormer sameTable
    · exact absurd (sameTable ▸ resolves.table_mem_migrations former) free
  · rcases grows.cases_linked resolves.entities_done resolves.relations_done otherMember with
      otherFormer | ⟨otherModel, otherIsAdded, otherIsMade⟩
    · exact absurd (sameTable ▸ resolves.table_mem_migrations otherFormer)
        (tablesFree.free _ _ _ isAdded isMade)
    · exact (wellLinked_linked (document.withModels models)).keyed.eq_of_mem_values member
        otherMember
        (tablesFree.distinct _ _ _ _ _ _ isAdded isMade otherIsAdded otherIsMade sameTable)

/-- A table that the former plan has is declared by the grown document only if it was before. -/
theorem mem_declaredTables
    (grows : document.GrowsTo models more)
    (resolves : Resolves document)
    (tablesFree : document.TablesFree more)
    {name : String}
    (isPlanned : name ∈ (tabled document).migrations.keys)
    (isDeclared :
      name ∈
        declaredTables (document.withModels models) (linked (document.withModels models))) :
    name ∈ declaredTables document (linked document) := by
  rcases List.mem_append.mp isDeclared with ofEntity | isExplicit
  · obtain ⟨entity, member, rfl⟩ := List.mem_map.mp ofEntity
    rcases grows.cases_table resolves tablesFree member with former | free
    · exact List.mem_append_left _ (List.mem_map_of_mem former)
    · exact absurd isPlanned free
  · exact List.mem_append_right _ isExplicit

/-- The migrations can still be put together: every table has a name of its own. -/
theorem tabulable
    (grows : document.GrowsTo models more)
    (resolves : Resolves document)
    (tablesFree : document.TablesFree more) :
    Tabulable (document.withModels models) (linked (document.withModels models)) := by
  have formerly : Tabulable document (linked document) :=
    migrations_error_eq_none_iff.mp resolves.migrations_done
  have formerParts := List.nodup_append.mp formerly.tables_distinct
  have alike := grows.alike_linked resolves.entities_done resolves.relations_done
  exact {
    tables_distinct := by
      rw [declaredTables, List.nodup_append]
      refine ⟨?_, formerParts.2.1, ?_⟩
      · apply List.Nodup.map_on
        · intro entity member other otherMember sameTable
          exact grows.tables_injective resolves tablesFree member otherMember sameTable
        · apply List.Nodup.of_map Entity.key
          rw [(wellLinked_linked (document.withModels models)).keyed.map_values]
          exact Table.nodup_keys _
      · rintro _ isTable name isExplicit rfl
        obtain ⟨entity, member, rfl⟩ := List.mem_map.mp isTable
        rcases grows.cases_table resolves tablesFree member with former | free
        · exact formerParts.2.2 _ (List.mem_map_of_mem former) _ isExplicit rfl
        · exact free (resolves.declared_mem_migrations (List.mem_append_right _ isExplicit))
    explicit_read := formerly.explicit_read
    pivots_made := by
      intro pair isGuessed
      have formerGuessed := grows.pivot_of_guessedPivots resolves isGuessed
      obtain ⟨pivot, isMade, free⟩ := formerly.pivots_made pair formerGuessed
      refine ⟨pivot, pivotMigration_of_alike alike isMade, fun isDeclared => free ?_⟩
      exact grows.mem_declaredTables resolves tablesFree
        (resolves.pivot_mem_migrations formerGuessed isMade) isDeclared }

theorem agree_tabled
    (grows : document.GrowsTo models more)
    (resolves : Resolves document) :
    Agree (fun _ => True) (tabled document) (tabled (document.withModels models)) := by
  have alike := grows.alike_linked resolves.entities_done resolves.relations_done
  rw [tabled_eq document, tabled_eq (document.withModels models)]
  exact {
    alike := alike.of_entities_eq rfl rfl
    httpSpace_eq := rfl
    middleware_eq := rfl
    controllers_eq := rfl
    gates_eq := rfl
    policies_eq := rfl
    forms_eq := rfl }

/-- A document that grows still resolves, and to the same in its last two sections. -/
theorem resolves_and_agree
    (grows : document.GrowsTo models more)
    (resolves : Resolves document)
    (tablesFree : document.TablesFree more) :
    Resolves (document.withModels models) ∧
      Agree (fun _ => True) (settled document) (settled (document.withModels models)) := by
  have servedFollows :
      Outcome.Follows (fun _ => True) (Agree fun _ => True) _
        (Resolution.http (document.withModels models) _) :=
    http_follows rfl (grows.agree_tabled resolves)
  obtain ⟨httpDone, agreeServed⟩ := servedFollows.of_done resolves.http_done
  have settledFollows :
      Outcome.Follows (fun _ => True) (Agree fun _ => True) _
        (Resolution.auth (document.withModels models) _) :=
    auth_follows rfl agreeServed
  obtain ⟨authDone, agreeSettled⟩ := settledFollows.of_done resolves.auth_done
  refine ⟨?_, agreeSettled⟩
  exact {
    checked := grows.check_eq_ok resolves.checked
    entities_done := grows.entities_done resolves.entities_done
    relations_done := grows.relations_done resolves.entities_done resolves.relations_done
    migrations_done := migrations_error_eq_none_iff.mpr (grows.tabulable resolves tablesFree)
    http_done := httpDone
    auth_done := authDone }

end Document.GrowsTo

/-- Contexts that agree in the tables of the last two stages hold the same in these sections. -/
theorem Resolution.Agree.plan_eq
    {known : ResolveError → Prop}
    {context other : Context}
    (agree : Agree known context other) :
    other.plan.http = context.plan.http ∧ other.plan.auth = context.plan.auth := by
  simp only [Context.plan, agree.httpSpace_eq, agree.middleware_eq, agree.controllers_eq,
    agree.gates_eq, agree.policies_eq, agree.forms_eq, and_self]

end Blueprint
