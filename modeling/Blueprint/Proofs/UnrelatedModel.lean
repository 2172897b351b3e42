import Blueprint.Proofs.Growth

namespace Blueprint

/-!
# Adding an unrelated model

A model without relations, of a class and with a table of its own, may be added to a document that
resolves. The document still resolves, and its plan is the former one with the entity of the model
after the other entities and its table after theirs.
-/

open Resolution Schema

/-- A document of one model and nothing else but the namespace of models. -/
def Document.holding
    (space : Option String)
    (key : String)
    (model : Document.Model) :
    Document :=
  { Document.blank with
    database := { Document.Database.blank with
      space := space
      models := Table.ofList [(key, model)] } }

/-- A plan with one more entity after its own, and the table of it after those of its own entities. -/
structure Plan.Extends
    (plan : Plan)
    (key : String)
    (entity : Entity)
    (next : Plan) :
    Prop where
  space_eq : next.database.space = plan.database.space
  entities_eq : next.database.entities.entries = plan.database.entities.entries ++ [(key, entity)]
  migrations_eq :
    ∃ others,
      plan.database.migrations.entries =
          plan.database.entities.values.map entityTableEntry ++ others ∧
        next.database.migrations.entries =
          plan.database.entities.values.map entityTableEntry ++
            entityTableEntry entity :: others
  http_eq : next.http = plan.http
  auth_eq : next.auth = plan.auth

namespace Resolution

/-- What a model makes of itself that resolves alone. -/
theorem entityOf_of_holding
    {space : Option String}
    {key : String}
    {model : Document.Model}
    {entity : Entity}
    (plain : placeholdersOf (key, model) = [])
    (resolves : Resolves (Document.holding space key model))
    (found : (linked (Document.holding space key model)).entities.get? key = some entity) :
    Document.checkModel (key, model) = .ok () ∧
      entityOf (space.getD Context.usualDatabaseSpace) key model = .ok entity := by
  obtain ⟨other, made, isModel, isMade, isLinked⟩ :=
    (get?_linked resolves.entities_done resolves.relations_done).mp found
  obtain ⟨_, rfl⟩ := Table.get?_ofList_singleton.mp isModel
  rw [plain] at isLinked
  cases isLinked
  exact ⟨(Document.check_eq_ok_iff.mp resolves.checked).1 _ (Table.get?_eq_some_iff.mp isModel),
    isMade⟩

variable {document : Document} {key : String} {model : Document.Model} {entity : Entity}

theorem growsTo_insert
    (fresh : key ∉ document.database.models.keys)
    (apart :
      ∀ former ∈ document.database.models.keys, Context.classOf former ≠ Context.classOf key)
    (plain : placeholdersOf (key, model) = [])
    (checked : Document.checkModel (key, model) = .ok ())
    (made : entityOf (Context.start document).databaseSpace key model = .ok entity) :
    document.GrowsTo (document.database.models.insert key model)
      (Table.ofList [(key, model)]) where
  get?_iff other otherModel := by
    rw [Table.get?_eq_some_iff, Table.entries_insert_of_notMem fresh, List.mem_append,
      Table.get?_eq_some_iff, Table.get?_ofList_singleton, List.mem_singleton, Prod.mk.injEq]
  apart added isAdded former isModel := by
    obtain ⟨_, isOnly⟩ := Table.mem_keys_iff.mp isAdded
    obtain ⟨rfl, _⟩ := Table.get?_ofList_singleton.mp isOnly
    exact apart former isModel
  plain added addedModel isAdded := by
    obtain ⟨rfl, rfl⟩ := Table.get?_ofList_singleton.mp isAdded
    exact plain
  checked entry isAdded := by
    cases List.mem_singleton.mp isAdded
    exact checked
  made added addedModel isAdded := by
    obtain ⟨rfl, rfl⟩ := Table.get?_ofList_singleton.mp isAdded
    exact ⟨entity, made⟩

theorem tablesFree_singleton
    (made : entityOf (Context.start document).databaseSpace key model = .ok entity)
    (free : entity.table ∉ (tabled document).migrations.keys) :
    document.TablesFree (Table.ofList [(key, model)]) where
  free added addedModel other isAdded otherMade := by
    obtain ⟨rfl, rfl⟩ := Table.get?_ofList_singleton.mp isAdded
    cases made.symm.trans otherMade
    exact free
  distinct added _ _ other _ _ isAdded _ otherIsAdded _ _ := by
    obtain ⟨rfl, _⟩ := Table.get?_ofList_singleton.mp isAdded
    obtain ⟨rfl, _⟩ := Table.get?_ofList_singleton.mp otherIsAdded
    rfl

/-- The entity of the added model comes after all others. -/
theorem entries_linked_insert
    (fresh : key ∉ document.database.models.keys)
    (made : entityOf (Context.start document).databaseSpace key model = .ok entity)
    (resolves : Resolves document)
    (grows :
      document.GrowsTo (document.database.models.insert key model)
        (Table.ofList [(key, model)])) :
    (linked (document.withModels (document.database.models.insert key model))).entities.entries =
      (linked document).entities.entries ++ [(key, entity)] := by
  apply Table.entries_eq_of_keys_get?
  · have keys : (linked document).entities.keys = document.database.models.keys :=
      (keys_linked document).trans (keys_built resolves.entities_done)
    calc
      _ = (document.database.models.insert key model).keys :=
        (keys_linked _).trans (keys_built (grows.entities_done resolves.entities_done))
      _ = (linked document).entities.keys ++ [key] := by
        rw [Table.keys_insert, if_neg fresh, keys]
      _ = _ := by
        simp [Table.keys, Entries.names]
  · rintro ⟨other, linked⟩ member
    rw [grows.get?_linked_iff resolves.entities_done resolves.relations_done]
    rcases List.mem_append.mp member with former | isAdded
    · exact .inl (Table.get?_eq_some_iff.mpr former)
    · cases List.mem_singleton.mp isAdded
      exact .inr ⟨model, Table.get?_ofList_singleton.mpr ⟨rfl, rfl⟩, made⟩

/-- The added model brings no relation that needs a join table. -/
theorem guessedPivots_of_entries
    {context other : Context}
    (appended : other.entities.entries = context.entities.entries ++ [(key, entity)])
    (noRelations : entity.relations = ∅) :
    guessedPivots other = guessedPivots context := by
  simp [guessedPivots, Table.values, appended, noRelations]

/-- The table of the added model comes after those of the other entities. -/
theorem exists_entries_tabled_insert
    (made : entityOf (Context.start document).databaseSpace key model = .ok entity)
    (resolves : Resolves document)
    (grows :
      document.GrowsTo (document.database.models.insert key model)
        (Table.ofList [(key, model)]))
    (nextResolves : Resolves (document.withModels (document.database.models.insert key model)))
    (appended :
      (linked
          (document.withModels (document.database.models.insert key model))).entities.entries =
        (linked document).entities.entries ++ [(key, entity)]) :
    ∃ others,
      (tabled document).migrations.entries =
          (linked document).entities.values.map entityTableEntry ++ others ∧
        (tabled
            (document.withModels (document.database.models.insert key model))).migrations.entries =
          (linked document).entities.values.map entityTableEntry ++
            entityTableEntry entity :: others := by
  obtain ⟨explicit, pivots, tabulated⟩ := resolves.tabulated
  obtain ⟨nextExplicit, nextPivots, nextTabulated⟩ := nextResolves.tabulated
  have sameExplicit : nextExplicit = explicit :=
    List.right_unique_forall₂' (fun _ _ _ isEntry other => isEntry.unique other)
      nextTabulated.explicit_read tabulated.explicit_read
  have samePivots : nextPivots = pivots := by
    have alike := grows.alike_linked resolves.entities_done resolves.relations_done
    have nextMade := nextTabulated.pivots_made
    rw [guessedPivots_of_entries appended (madeFrom_of_entityOf made).no_relations] at nextMade
    refine List.right_unique_forall₂' (fun _ _ _ isMade otherIsMade =>
      Except.ok.inj (isMade.symm.trans otherIsMade)) nextMade ?_
    exact tabulated.pivots_made.imp fun _ _ isMade => pivotMigration_of_alike alike isMade
  refine ⟨explicit ++ firstPivots pivots, tabulated.entries_eq, ?_⟩
  rw [nextTabulated.entries_eq, sameExplicit, samePivots, Table.values, appended]
  simp [Table.values]

theorem extends_insert
    (fresh : key ∉ document.database.models.keys)
    (made : entityOf (Context.start document).databaseSpace key model = .ok entity)
    (free : entity.table ∉ (tabled document).migrations.keys)
    (resolves : Resolves document)
    (grows :
      document.GrowsTo (document.database.models.insert key model)
        (Table.ofList [(key, model)])) :
    Resolves (document.withModels (document.database.models.insert key model)) ∧
      (settled document).plan.Extends key entity
        (settled (document.withModels (document.database.models.insert key model))).plan := by
  obtain ⟨nextResolves, agree⟩ :=
    grows.resolves_and_agree resolves (tablesFree_singleton made free)
  have appended := entries_linked_insert fresh made resolves grows
  refine ⟨nextResolves, ?_⟩
  exact {
    space_eq := by
      rw [plan_database, plan_database]
      rfl
    entities_eq := by
      rw [plan_database, plan_database]
      exact appended
    migrations_eq := by
      rw [plan_database, plan_database]
      exact exists_entries_tabled_insert made resolves grows nextResolves appended
    http_eq := agree.plan_eq.1
    auth_eq := agree.plan_eq.2 }

end Resolution

open Resolution

/-- A model without relations, of a class and with a table of its own, may be added to a document
that resolves, and only adds its entity and its table. -/
theorem exists_extends_of_unrelated
    {document : Document}
    {plan alone : Plan}
    {key : String}
    {model : Document.Model}
    {entity : Entity}
    (resolved : resolve document = .ok plan)
    (fresh : key ∉ document.database.models.keys)
    (plain : placeholdersOf (key, model) = [])
    (apart :
      ∀ former ∈ plan.database.entities.values, former.className ≠ Context.classOf key)
    (resolvedAlone :
      resolve (Document.holding document.database.space key model) = .ok alone)
    (made : alone.database.entities.get? key = some entity)
    (free : entity.table ∉ plan.database.migrations.keys) :
    ∃ next,
      resolve (document.withModels (document.database.models.insert key model)) = .ok next ∧
        plan.Extends key entity next := by
  obtain ⟨resolves, rfl⟩ := resolve_eq_ok_iff.mp resolved
  obtain ⟨aloneResolves, rfl⟩ := resolve_eq_ok_iff.mp resolvedAlone
  rw [plan_database] at apart made free
  obtain ⟨checked, isMade⟩ := entityOf_of_holding plain aloneResolves made
  have hasModels := hasModels_linked resolves.entities_done
  have classesApart (former : String) (isModel : former ∈ document.database.models.keys) :
      Context.classOf former ≠ Context.classOf key := by
    obtain ⟨other, found, _⟩ := hasModels.exists_entity isModel
    rw [← hasModels.className_eq former other found]
    exact apart other (Table.mem_values_iff.mpr ⟨former, found⟩)
  have grows := growsTo_insert fresh classesApart plain checked isMade
  obtain ⟨nextResolves, isExtended⟩ := extends_insert fresh isMade free resolves grows
  exact ⟨_, resolve_eq_ok_iff.mpr ⟨nextResolves, rfl⟩, isExtended⟩

/-- A model of comments, without relations. -/
def commentModel : Document.Model :=
  { Document.Model.blank with
    columns := some (Table.ofList [("id", .line "id"), ("body", .line "text")]) }

/-- Comments may be added to posts and tags. -/
theorem exists_extends_publishingDocument :
    ∃ plan entity next,
      resolve publishingDocument = .ok plan ∧
        resolve
            (publishingDocument.withModels
              (publishingDocument.database.models.insert "Comment" commentModel)) =
          .ok next ∧
        plan.Extends "Comment" entity next := by
  obtain ⟨plan, resolved⟩ := exists_eq_ok_of_isOk isOk_publishingDocument
  have computed :
      ((resolve publishingDocument).toOption.bind fun plan =>
        (resolve (Document.holding none "Comment" commentModel)).toOption.bind fun alone =>
          (alone.database.entities.get? "Comment").map fun entity =>
            decide
              ((∀ former ∈ plan.database.entities.values,
                  former.className ≠ Context.classOf "Comment") ∧
                entity.table ∉ plan.database.migrations.keys)) = some true := by
    decide +kernel
  cases resolvedAlone : resolve (Document.holding none "Comment" commentModel) with
  | error cause =>
      simp [resolved, resolvedAlone, Except.toOption] at computed
  | ok alone =>
      simp only [resolved, resolvedAlone, Except.toOption, Option.bind_some,
        Option.map_eq_some_iff, decide_eq_true_eq] at computed
      obtain ⟨entity, made, apart, free⟩ := computed
      obtain ⟨next, nextResolved, isExtended⟩ :=
        exists_extends_of_unrelated resolved (by decide) (by decide) apart resolvedAlone made free
      exact ⟨plan, entity, next, resolved, nextResolved, isExtended⟩

end Blueprint
