import Blueprint.Proofs.Linking

namespace Blueprint

/-!
# Stages and their runs

Each stage writes its own tables and leaves the others: entities and relations the entities,
migrations the migrations, HTTP the middleware and controllers, authorization the gates, policies
and forms. A document that resolves leads through five contexts, one after each stage, and what
its plan holds is what the stage in question has put there. A context is reached when any stages,
failing ones included, have been run on the start of a document.
-/

open Schema

namespace Fills

variable {α β : Type} {slot : Slot α}
variable {build : Context → β → Except ResolveError (Option (String × α))}
variable {step : Context → β → Except ResolveError Context}

/-- A stage part that fills a slot writes some table there. -/
theorem context_ofSteps
    (fills : Fills slot build step)
    (context : Context)
    (items : List β) :
    ∃ table, (Outcome.ofSteps step context items).context = slot.write context table :=
  ⟨_, by rw [fills.ofSteps_eq]⟩

/-- What a run without a failure finds in a slot that was empty, it has built from some element. -/
theorem exists_item_of_get?
    (fills : Fills slot build step)
    {context : Context}
    (empty : slot.read context = ∅)
    {items : List β}
    {name : String}
    {value : α}
    (found : (slot.read (Outcome.ofSteps step context items).context).get? name = some value) :
    ∃ item ∈ items, build context item = .ok (some (name, value)) := by
  rw [fills.read_ofSteps_of_empty empty] at found
  exact exists_item_of_mem_gathered (Table.mem_of_get?_ofList found)

end Fills

namespace Resolution

/-! What a stage leaves as it was. -/

/-- The second stage changes the entities only. -/
theorem context_relations
    (document : Document)
    (context : Context) :
    ∃ entities,
      (relations document context).context = { context with entities := entities } := by
  apply Outcome.ofSteps_invariant
    fun reached => ∃ entities, reached = { context with entities := entities }
  · exact ⟨context.entities, rfl⟩
  · rintro former placeholder next _ ⟨entities, rfl⟩ added
    obtain ⟨_, _, _, _, changed, _, _, _, _, _, rfl⟩ := addRelation_eq_ok_iff.mp added
    exact ⟨entities.insert placeholder.model changed, rfl⟩

/-- Linking adds to the entities and leaves their outline alone. -/
theorem outline_relations
    (document : Document)
    (context : Context) :
    (relations document context).context.outline = context.outline := by
  apply Outcome.ofSteps_invariant fun reached => reached.outline = context.outline
  · rfl
  · intro former placeholder next _ same added
    exact (outline_of_addRelation added).trans same

/-- Resolving a relation reads and writes the entities only. -/
theorem addRelation_of_entities_eq
    {context other : Context}
    (same : context.entities = other.entities)
    (placeholder : Placeholder) :
    addRelation context placeholder =
      (addRelation other placeholder).map fun next =>
        { context with entities := next.entities } := by
  obtain ⟨model, name, line⟩ := placeholder
  cases line with
  | none =>
      rfl
  | some line =>
      -- Both contexts look names up among the same entities.
      have sameRelation :
          relationOf context name line = relationOf other name line := by
        obtain ⟨⟩ := context
        obtain ⟨⟩ := other
        cases same
        rfl
      have sameColumn :
          belongingColumnOf context = belongingColumnOf other := by
        obtain ⟨⟩ := context
        obtain ⟨⟩ := other
        cases same
        rfl
      simp only [addRelation, sameRelation, sameColumn, same]
      cases relationOf other name line (Placeholder.owner ⟨model, name, some line⟩) with
      | error cause =>
          rfl
      | ok relation =>
          simp only [bind, Except.bind]
          cases belongingColumnOf other name (Placeholder.owner ⟨model, name, some line⟩)
            relation with
          | error cause =>
              rfl
          | ok column =>
              cases other.entities.get? model with
              | none =>
                  rfl
              | some entity =>
                  dsimp only
                  cases attach entity model name relation column with
                  | error cause =>
                      rfl
                  | ok changed =>
                      rfl

/-- Linking reads and writes the entities only. -/
theorem relations_of_entities_eq
    {context other : Context}
    (same : context.entities = other.entities)
    (document : Document) :
    relations document context =
      ⟨{ context with entities := (relations document other).context.entities },
        (relations document other).error⟩ := by
  unfold relations
  induction placeholders document generalizing context other with
  | nil =>
      simp [Outcome.ofSteps, ← same]
  | cons placeholder rest inductionHypothesis =>
      cases added : addRelation other placeholder with
      | error cause =>
          simp [Outcome.ofSteps, addRelation_of_entities_eq same, added, Except.map, ← same]
      | ok next =>
          simp only [Outcome.ofSteps, addRelation_of_entities_eq same, added, Except.map]
          have later : ({ context with entities := next.entities } : Context).entities =
              next.entities := rfl
          exact inductionHypothesis later

/-- The third stage changes the migrations only. -/
theorem context_migrations
    (document : Document)
    (context : Context) :
    ∃ table,
      (migrations document context).context = { context with migrations := table } := by
  unfold migrations
  cases migrationTable document context with
  | error cause =>
      exact ⟨context.migrations, rfl⟩
  | ok table =>
      exact ⟨table, rfl⟩

/-- The HTTP stage changes the middleware and the controllers only. -/
theorem context_http
    (document : Document)
    (context : Context) :
    ∃ middleware controllers,
      (http document context).context =
        { context with
          middleware := middleware
          controllers := controllers } := by
  apply Outcome.andThen_invariant fun reached =>
    ∃ middleware controllers,
      reached =
        { context with
          middleware := middleware
          controllers := controllers }
  · obtain ⟨table, filled⟩ :=
      fills_addMiddleware.context_ofSteps context document.http.middleware.entries
    exact ⟨table, context.controllers, filled⟩
  · rintro _ ⟨middleware, controllers, rfl⟩
    obtain ⟨table, filled⟩ :=
      fills_addController.context_ofSteps _ document.http.controllers.entries
    exact ⟨middleware, table, filled⟩

/-- The last stage changes the gates, the policies and the forms only. -/
theorem context_auth
    (document : Document)
    (context : Context) :
    ∃ gates policies forms,
      (auth document context).context =
        { context with
          gates := gates
          policies := policies
          forms := forms } := by
  let holds := fun reached : Context =>
    ∃ gates policies forms,
      reached =
        { context with
          gates := gates
          policies := policies
          forms := forms }
  apply Outcome.andThen_invariant holds
  · apply Outcome.andThen_invariant holds
    · obtain ⟨table, filled⟩ :=
        fills_addGate.context_ofSteps context document.auth.gates.entries
      exact ⟨table, context.policies, context.forms, filled⟩
    · rintro _ ⟨gates, policies, forms, rfl⟩
      obtain ⟨table, filled⟩ :=
        fills_addPolicy.context_ofSteps _ document.auth.policies.entries
      exact ⟨gates, table, forms, filled⟩
  · rintro _ ⟨gates, policies, forms, rfl⟩
    obtain ⟨table, filled⟩ :=
      fills_addForm.context_ofSteps _ document.auth.forms.entries
    exact ⟨gates, policies, table, filled⟩

/-! The contexts of a resolution from the start, one after each stage. -/

/-- The context once every model is an entity. -/
def built
    (document : Document) :
    Context :=
  (entities document (Context.start document)).context

/-- The context once the entities are linked. -/
def linked
    (document : Document) :
    Context :=
  (relations document (built document)).context

/-- The context once the migrations are there. -/
def tabled
    (document : Document) :
    Context :=
  (migrations document (linked document)).context

/-- The context once the middleware and controllers are there. -/
def served
    (document : Document) :
    Context :=
  (http document (tabled document)).context

/-- The context after all stages. -/
def settled
    (document : Document) :
    Context :=
  (auth document (served document)).context

/-! What each of these contexts has beyond the start of the document. -/

theorem built_eq
    (document : Document) :
    built document =
      { Context.start document with entities := (built document).entities } := by
  obtain ⟨_, only⟩ := fills_addEntity.context_ofSteps (Context.start document)
    document.database.models.entries
  have shape : built document = _ := only
  rw [shape]
  rfl

theorem linked_eq
    (document : Document) :
    linked document =
      { Context.start document with entities := (linked document).entities } := by
  obtain ⟨_, only⟩ := context_relations document (built document)
  have shape : linked document = _ := only
  rw [shape, built_eq]

theorem tabled_eq
    (document : Document) :
    tabled document =
      { Context.start document with
        entities := (linked document).entities
        migrations := (tabled document).migrations } := by
  obtain ⟨_, only⟩ := context_migrations document (linked document)
  have shape : tabled document = _ := only
  rw [shape, linked_eq]

theorem served_eq
    (document : Document) :
    served document =
      { Context.start document with
        entities := (linked document).entities
        migrations := (tabled document).migrations
        middleware := (served document).middleware
        controllers := (served document).controllers } := by
  obtain ⟨_, _, only⟩ := context_http document (tabled document)
  have shape : served document = _ := only
  rw [shape, tabled_eq]

/-- The settled context has every table from the stage that fills it. -/
theorem settled_eq
    (document : Document) :
    settled document =
      { Context.start document with
        entities := (linked document).entities
        migrations := (tabled document).migrations
        middleware := (served document).middleware
        controllers := (served document).controllers
        gates := (settled document).gates
        policies := (settled document).policies
        forms := (settled document).forms } := by
  obtain ⟨_, _, _, only⟩ := context_auth document (served document)
  have shape : settled document = _ := only
  rw [shape, served_eq]

/-- A document has the required shape and no stage fails on it. -/
structure Resolves
    (document : Document) :
    Prop where
  checked : document.check = .ok ()
  entities_done : (entities document (Context.start document)).error = none
  relations_done : (relations document (built document)).error = none
  migrations_done : (migrations document (linked document)).error = none
  http_done : (http document (tabled document)).error = none
  auth_done : (auth document (served document)).error = none

end Resolution

open Resolution

/-- An outcome without an error is its context. -/
theorem Outcome.eq_of_error_eq_none
    {outcome : Outcome}
    (succeeded : outcome.error = none) :
    outcome = ⟨outcome.context, none⟩ := by
  rw [← succeeded]

/-- After a stage that succeeds the others go on from where it leads. -/
theorem runStages_cons_of_run
    {document : Document}
    {context reached : Context}
    {stage : Stage}
    {rest : List Stage}
    (run : stage.run document context = ⟨reached, none⟩) :
    runStages document context (stage :: rest) = runStages document reached rest := by
  rw [runStages, run]
  rfl

/-- Where no stage fails, all stages lead from the start to the settled context. -/
theorem Resolution.Resolves.resolveUnchecked_eq
    {document : Document}
    (resolves : Resolves document) :
    resolveUnchecked document = ⟨settled document, none⟩ := by
  calc
    resolveUnchecked document =
        runStages document (built document) [.relations, .migrations, .http, .auth] :=
      runStages_cons_of_run (Outcome.eq_of_error_eq_none resolves.entities_done)
    _ = runStages document (linked document) [.migrations, .http, .auth] :=
      runStages_cons_of_run (Outcome.eq_of_error_eq_none resolves.relations_done)
    _ = runStages document (tabled document) [.http, .auth] :=
      runStages_cons_of_run (Outcome.eq_of_error_eq_none resolves.migrations_done)
    _ = runStages document (served document) [.auth] :=
      runStages_cons_of_run (Outcome.eq_of_error_eq_none resolves.http_done)
    _ = runStages document (settled document) [] :=
      runStages_cons_of_run (Outcome.eq_of_error_eq_none resolves.auth_done)
    _ = ⟨settled document, none⟩ := rfl

/-- A resolution succeeds exactly when no stage fails, and its plan is that of the last context. -/
theorem resolve_eq_ok_iff
    {document : Document}
    {plan : Plan} :
    resolve document = .ok plan ↔ Resolves document ∧ (settled document).plan = plan := by
  simp only [resolve, bind_eq_ok_iff]
  constructor
  · rintro ⟨_, checked, planned⟩
    cases failed : (resolveUnchecked document).error with
    | some cause =>
        simp [failed] at planned
    | none =>
        have succeeded := failed
        simp only [resolveUnchecked, Stage.all, runStages, Stage.run,
          Outcome.andThen_error_eq_none_iff, and_true] at succeeded
        obtain ⟨entitiesDone, relationsDone, migrationsDone, httpDone, authDone⟩ := succeeded
        have resolves : Resolves document :=
          ⟨checked, entitiesDone, relationsDone, migrationsDone, httpDone, authDone⟩
        simp only [pure_eq_ok_iff, resolves.resolveUnchecked_eq] at planned
        exact ⟨resolves, planned⟩
  · rintro ⟨resolves, planned⟩
    refine ⟨(), resolves.checked, ?_⟩
    simp only [resolves.resolveUnchecked_eq, pure_eq_ok_iff]
    exact planned

/-- A document resolves exactly when the check and all stages succeed. -/
theorem isOk_resolve_iff
    {document : Document} :
    (resolve document).isOk = true ↔ Resolves document := by
  constructor
  · intro isOk
    obtain ⟨plan, resolved⟩ := exists_eq_ok_of_isOk isOk
    exact (resolve_eq_ok_iff.mp resolved).1
  · intro resolves
    rw [resolve_eq_ok_iff.mpr ⟨resolves, rfl⟩]
    rfl

/-- What is evaluated to be true of the plan of a document is true of it. -/
theorem exists_plan_of_any
    {document : Document}
    {holds : Plan → Bool}
    (evaluated : (resolve document).toOption.any holds = true) :
    ∃ plan, resolve document = .ok plan ∧ holds plan = true := by
  cases resolved : resolve document with
  | error cause =>
      simp [resolved, Except.toOption] at evaluated
  | ok plan =>
      simp only [resolved, Except.toOption, Option.any_some] at evaluated
      exact ⟨plan, rfl, evaluated⟩

/-- A document has the required shape exactly when each of its parts has. -/
theorem Document.check_eq_ok_iff
    {document : Document} :
    document.check = .ok () ↔
      (∀ entry ∈ document.database.models.entries, Document.checkModel entry = .ok ()) ∧
        (∀ entry ∈ document.database.migrations.entries,
          Document.checkMigration entry = .ok ()) ∧
        ∀ entry ∈ document.http.controllers.entries,
          Document.checkController entry = .ok () := by
  simp only [Document.check, bind_eq_ok_iff, ← checkAll_eq_ok_iff]
  constructor
  · rintro ⟨_, models, _, migrations, controllers⟩
    exact ⟨models, migrations, controllers⟩
  · rintro ⟨models, migrations, controllers⟩
    exact ⟨(), models, (), migrations, controllers⟩

namespace Resolution

/-- The database section of the plan: the linked entities and the migrations made of them. -/
def plannedDatabase
    (document : Document) :
    DatabasePlan where
  space := (Context.start document).databaseSpace
  entities := (linked document).entities
  migrations := (tabled document).migrations

/-- The database part of a plan is what the first three stages leave. -/
theorem plan_database
    (document : Document) :
    (settled document).plan.database = plannedDatabase document := by
  rw [settled_eq]
  rfl

/-- The explicit tables of a document that resolves have been checked. -/
theorem Resolves.checked_migrations
    {document : Document}
    (resolves : Resolves document) :
    ∀ entry ∈ document.database.migrations.entries,
      Document.checkMigration entry = .ok () :=
  (Document.check_eq_ok_iff.mp resolves.checked).2.1

/-- The migrations of a document that resolves are made without an error. -/
theorem Resolves.migrationTable_eq
    {document : Document}
    (resolves : Resolves document) :
    migrationTable document (linked document) = .ok (tabled document).migrations := by
  have done := resolves.migrations_done
  cases made : migrationTable document (linked document) with
  | error cause =>
      simp [migrations, made] at done
  | ok table =>
      simp [tabled, migrations, made]

end Resolution

/-! A document with declarations of every kind that resolves. -/

/-- A document of nothing but models, each with its columns. -/
def Document.ofModels
    (models : List (String × List (String × Document.Column))) :
    Document :=
  { Document.blank with
    database := { Document.Database.blank with
      models := Table.ofList <| models.map fun model =>
        (model.1, { Document.Model.blank with columns := some (Table.ofList model.2) }) } }

/-- Posts and tags that lead to each other. -/
def taggedDocument : Document :=
  Document.ofModels
    [("Post", [("id", .line "id"), ("tags", .relation (some "belongsToMany:Tag"))]),
     ("Tag", [("id", .line "id"), ("posts", .relation (some "belongsToMany:Post"))])]

/-- Posts and tags with a table of visits, a controller that shows and publishes posts, and who may
publish them. -/
def publishingDocument : Document where
  database :=
    { taggedDocument.database with
      migrations := Table.ofList [("visits", Table.ofList [("id", .line "id")])] }
  http :=
    { Document.Http.blank with
      middleware := Table.ofList [("visits", none)]
      controllers := Table.ofList
        [("PostController",
          { Document.Controller.blank with
            resource := some (.block
              { Document.ResourceOptions.blank with only := some (.line "show") })
            actions := Table.ofList
              [("publish", some
                { Document.Action.blank with
                  authorize := some (.line "publish Post")
                  models := some (.line "Tag:id")
                  queries := Table.ofList [("posts", "Post latest")]
                  save := some (.target "Post") })] })] }
  auth :=
    { Document.Auth.blank with
      gates := Table.ofList [("publish", none)]
      policies := Table.ofList [("Post", none)]
      forms := Table.ofList
        [("publish", some { Document.Form.blank with authorize := some (.line "publish") })] }

/-- The publishing document resolves. -/
theorem isOk_publishingDocument : (resolve publishingDocument).isOk = true := by
  decide +kernel

end Blueprint
