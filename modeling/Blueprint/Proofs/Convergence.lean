import Blueprint.Proofs.LinkedEntities

namespace Blueprint

/-!
# Convergence of repeated runs

The stages of a document that resolves may be run on one context in any order, again and again and
also where they fail. A run either repeats what the resolution puts into a table or stops short of
it, so that a table only ever holds names of the settled one, from the first on and in their order.
From such a context the stages in their own order overwrite every entry and lead to the settled
context.
-/

open Schema

/-- The context that stages lead to from the start of a document, one run after the other and
whether or not a run fails. -/
def Context.afterRuns
    (document : Document)
    (stages : List Stage) :
    Context :=
  stages.foldl (fun context stage => (stage.run document context).context)
    (Context.start document)

/-- What every run of a stage keeps holds of every context that runs of stages lead to. -/
theorem Context.afterRuns_invariant
    {document : Document}
    (holds : Context → Prop)
    (start : holds (Context.start document))
    (kept :
      ∀ context (stage : Stage), holds context → holds (stage.run document context).context)
    (stages : List Stage) :
    holds (Context.afterRuns document stages) := by
  induction stages using List.reverseRecOn with
  | nil =>
      exact start
  | append_singleton earlier last inductionHypothesis =>
      rw [Context.afterRuns, List.foldl_append]
      exact kept _ last inductionHypothesis

namespace Resolution

/-- What every context that runs of stages lead to has in common with the settled one: the
spaces, the outline of the entities once there are any, and initial parts of the names. -/
structure OnCourse
    (document : Document)
    (context : Context) :
    Prop where
  databaseSpace_eq : context.databaseSpace = (Context.start document).databaseSpace
  httpSpace_eq : context.httpSpace = (Context.start document).httpSpace
  outline_eq : context.outline = ∅ ∨ context.outline = (linked document).outline
  middleware_initial : context.middleware.keys <+: (served document).middleware.keys
  controllers_initial : context.controllers.keys <+: (served document).controllers.keys
  gates_initial : context.gates.keys <+: (settled document).gates.keys
  policies_initial : context.policies.keys <+: (settled document).policies.keys
  forms_initial : context.forms.keys <+: (settled document).forms.keys

/-! What the parts of a stage read of a context. -/

/-- What is built of a model depends on the namespace alone. -/
theorem entityEntry_congr
    {context other : Context}
    (sameSpace : context.databaseSpace = other.databaseSpace) :
    entityEntry context = entityEntry other := by
  funext entry
  rw [entityEntry, entityEntry, sameSpace]

/-- The migrations of a document depend on the entities alone. -/
theorem migrationTable_congr
    {context other : Context}
    (same : context.entities = other.entities)
    (document : Document) :
    migrationTable document context = migrationTable document other := by
  obtain ⟨_, _, entities⟩ := context
  obtain ⟨_, _, others⟩ := other
  cases same
  rfl

/-- What is built of a controller depends on the entities and the namespace. -/
theorem controllerEntry_congr
    {context other : Context}
    (same : context.entities = other.entities)
    (sameSpace : context.httpSpace = other.httpSpace) :
    controllerEntry context = controllerEntry other := by
  obtain ⟨_, space, entities⟩ := context
  obtain ⟨_, otherSpace, others⟩ := other
  cases same
  cases sameSpace
  rfl

/-- What is built of a policy depends on the entities alone. -/
theorem policyEntry_congr
    {context other : Context}
    (same : context.entities = other.entities) :
    policyEntry context = policyEntry other := by
  obtain ⟨_, _, entities⟩ := context
  obtain ⟨_, _, others⟩ := other
  cases same
  rfl

/-- What is built of a form depends on the gates and the policies. -/
theorem formEntry_congr
    {context other : Context}
    (sameGates : context.gates = other.gates)
    (samePolicies : context.policies = other.policies) :
    formEntry context = formEntry other := by
  obtain ⟨_, _, _, _, _, _, gates, policies⟩ := context
  obtain ⟨_, _, _, _, _, _, otherGates, otherPolicies⟩ := other
  cases sameGates
  cases samePolicies
  rfl

/-! The contexts in the middle of the last two stages. -/

/-- The context once the middleware is there, before the controllers. -/
def shown
    (document : Document) :
    Context :=
  (Outcome.ofSteps addMiddleware (tabled document) document.http.middleware.entries).context

/-- The context once the gates are there, before the policies. -/
def gated
    (document : Document) :
    Context :=
  (Outcome.ofSteps addGate (served document) document.auth.gates.entries).context

/-- The context once the policies are there, before the forms. -/
def licensed
    (document : Document) :
    Context :=
  (Outcome.ofSteps addPolicy (gated document) document.auth.policies.entries).context

namespace Resolves

variable {document : Document}

theorem middleware_run
    (resolves : Resolves document) :
    Outcome.ofSteps addMiddleware (tabled document) document.http.middleware.entries =
      ⟨shown document, none⟩ := by
  have parts := Outcome.andThen_error_eq_none_iff.mp resolves.http_done
  exact Outcome.eq_of_error_eq_none parts.1

theorem controllers_run
    (resolves : Resolves document) :
    Outcome.ofSteps addController (shown document) document.http.controllers.entries =
      ⟨served document, none⟩ := by
  have parts := Outcome.andThen_error_eq_none_iff.mp resolves.http_done
  have whole : http document (tabled document) = _ :=
    Outcome.andThen_of_error_eq_none parts.1
  rw [served, ← resolves.http_done, whole]
  rfl

theorem gates_run
    (resolves : Resolves document) :
    Outcome.ofSteps addGate (served document) document.auth.gates.entries =
      ⟨gated document, none⟩ := by
  have parts := Outcome.andThen_error_eq_none_iff.mp resolves.auth_done
  exact Outcome.eq_of_error_eq_none (Outcome.andThen_error_eq_none_iff.mp parts.1).1

theorem policies_run
    (resolves : Resolves document) :
    Outcome.ofSteps addPolicy (gated document) document.auth.policies.entries =
      ⟨licensed document, none⟩ := by
  have parts := Outcome.andThen_error_eq_none_iff.mp resolves.auth_done
  exact Outcome.eq_of_error_eq_none (Outcome.andThen_error_eq_none_iff.mp parts.1).2

theorem forms_run
    (resolves : Resolves document) :
    Outcome.ofSteps addForm (licensed document) document.auth.forms.entries =
      ⟨settled document, none⟩ := by
  have parts := Outcome.andThen_error_eq_none_iff.mp resolves.auth_done
  have whole : auth document (served document) =
      Outcome.ofSteps addForm (licensed document) document.auth.forms.entries := by
    unfold auth
    rw [Outcome.andThen_of_error_eq_none parts.1, resolves.gates_run]
    rfl
  rw [settled, ← resolves.auth_done, whole]

/-! What these runs put where. -/

/-- The first part of the HTTP stage changes the middleware only, and for good. -/
theorem shown_eq
    (resolves : Resolves document) :
    shown document = { tabled document with middleware := (served document).middleware } := by
  have onlyMiddleware : shown document = _ :=
    fills_addMiddleware.reached_eq resolves.middleware_run
  have onlyControllers : served document = _ :=
    fills_addController.reached_eq resolves.controllers_run
  rw [onlyControllers, onlyMiddleware]
  rfl

/-- The first part of the last stage changes the gates only, and for good. -/
theorem gated_eq
    (resolves : Resolves document) :
    gated document = { served document with gates := (settled document).gates } := by
  have onlyGates : gated document = _ := fills_addGate.reached_eq resolves.gates_run
  have onlyPolicies : licensed document = _ := fills_addPolicy.reached_eq resolves.policies_run
  have onlyForms : settled document = _ := fills_addForm.reached_eq resolves.forms_run
  rw [onlyForms, onlyPolicies, onlyGates]
  rfl

/-- The second part of the last stage changes the policies only, and for good. -/
theorem licensed_eq
    (resolves : Resolves document) :
    licensed document = { gated document with policies := (settled document).policies } := by
  have onlyPolicies : licensed document = _ := fills_addPolicy.reached_eq resolves.policies_run
  have onlyForms : settled document = _ := fills_addForm.reached_eq resolves.forms_run
  rw [onlyForms, onlyPolicies]
  rfl

/-! Each of these runs finds its table empty and leaves the settled one. -/

theorem middleware_first
    (resolves : Resolves document) :
    FirstRun .middleware addMiddleware (tabled document) document.http.middleware.entries
      (served document).middleware none where
  empty := by
    rw [tabled_eq]
    rfl
  run := by
    rw [resolves.middleware_run, resolves.shown_eq]
    rfl

theorem controllers_first
    (resolves : Resolves document) :
    FirstRun .controllers addController (shown document) document.http.controllers.entries
      (served document).controllers none :=
  fills_addController.firstRun resolves.controllers_run (by
    rw [resolves.shown_eq, tabled_eq]
    rfl)

theorem gates_first
    (resolves : Resolves document) :
    FirstRun .gates addGate (served document) document.auth.gates.entries
      (settled document).gates none where
  empty := by
    rw [served_eq]
    rfl
  run := by
    rw [resolves.gates_run, resolves.gated_eq]
    rfl

theorem policies_first
    (resolves : Resolves document) :
    FirstRun .policies addPolicy (gated document) document.auth.policies.entries
      (settled document).policies none where
  empty := by
    rw [resolves.gated_eq, served_eq]
    rfl
  run := by
    rw [resolves.policies_run, resolves.licensed_eq]
    rfl

theorem forms_first
    (resolves : Resolves document) :
    FirstRun .forms addForm (licensed document) document.auth.forms.entries
      (settled document).forms none :=
  fills_addForm.firstRun resolves.forms_run (by
    rw [resolves.licensed_eq, resolves.gated_eq, served_eq]
    rfl)

end Resolves

/-! A stage run again on a context on course, with what it reads already settled. -/

/-- The first stage leads to the same entities from any context whose entities have the outline that
they had after it, or from none. -/
theorem entities_of_outline
    {document : Document}
    {context : Context}
    (sameSpace : context.databaseSpace = (Context.start document).databaseSpace)
    (sameOutline : context.outline = ∅ ∨ context.outline = (built document).outline) :
    entities document context =
      ⟨{ context with entities := (built document).entities },
        (entities document (Context.start document)).error⟩ := by
  have initial : context.entities.keys <+: (built document).entities.keys := by
    rcases sameOutline with isEmpty | isBuilt
    · have noKeys := congrArg Table.keys isEmpty
      rw [Context.outline, Table.keys_map, Table.keys_empty] at noKeys
      exact noKeys ▸ List.nil_prefix
    · have sameKeys := congrArg Table.keys isBuilt
      rw [Context.outline, Context.outline, Table.keys_map, Table.keys_map] at sameKeys
      exact sameKeys ▸ List.prefix_rfl
  exact fills_addEntity.ofSteps_again (fills_addEntity.firstRun rfl rfl)
    (entityEntry_congr sameSpace) initial

/-- On course the first stage makes the entities anew, without their relations. -/
theorem entities_again
    {document : Document}
    (resolves : Resolves document)
    {context : Context}
    (onCourse : OnCourse document context) :
    entities document context =
      ⟨{ context with entities := (built document).entities }, none⟩ := by
  have sameOutline : (linked document).outline = (built document).outline :=
    outline_relations document (built document)
  rw [entities_of_outline onCourse.databaseSpace_eq (sameOutline ▸ onCourse.outline_eq),
    resolves.entities_done]

/-- From the entities of the first stage the second one leads to the linked ones. -/
theorem relations_again
    {document : Document}
    (resolves : Resolves document)
    {context : Context}
    (same : context.entities = (built document).entities) :
    relations document context =
      ⟨{ context with entities := (linked document).entities }, none⟩ := by
  rw [relations_of_entities_eq same, resolves.relations_done]
  rfl

/-- Over linked entities the third stage makes the same migrations. -/
theorem migrations_again
    {document : Document}
    (resolves : Resolves document)
    {context : Context}
    (same : context.entities = (linked document).entities) :
    migrations document context =
      ⟨{ context with migrations := (tabled document).migrations }, none⟩ := by
  rw [migrations, migrationTable_congr same, resolves.migrationTable_eq]

/-- On course, over linked entities, the HTTP stage leads to the settled tables. -/
theorem http_again
    {document : Document}
    (resolves : Resolves document)
    {context : Context}
    (onCourse : OnCourse document context)
    (same : context.entities = (linked document).entities) :
    http document context =
      ⟨{ context with
          middleware := (served document).middleware
          controllers := (served document).controllers }, none⟩ := by
  have shownEntities : (shown document).entities = (linked document).entities := by
    rw [resolves.shown_eq, tabled_eq]
  have shownSpace : (shown document).httpSpace = (Context.start document).httpSpace := by
    rw [resolves.shown_eq, tabled_eq]
  rw [http, fills_addMiddleware.ofSteps_again resolves.middleware_first rfl
    onCourse.middleware_initial]
  exact fills_addController.ofSteps_again resolves.controllers_first
    (controllerEntry_congr (same.trans shownEntities.symm)
      (onCourse.httpSpace_eq.trans shownSpace.symm))
    onCourse.controllers_initial

/-- On course, over linked entities, the last stage leads to the settled tables. -/
theorem auth_again
    {document : Document}
    (resolves : Resolves document)
    {context : Context}
    (onCourse : OnCourse document context)
    (same : context.entities = (linked document).entities) :
    auth document context =
      ⟨{ context with
          gates := (settled document).gates
          policies := (settled document).policies
          forms := (settled document).forms }, none⟩ := by
  have gatedEntities : (gated document).entities = (linked document).entities := by
    rw [resolves.gated_eq, served_eq]
  have licensedGates : (licensed document).gates = (settled document).gates := by
    rw [resolves.licensed_eq, resolves.gated_eq]
  have licensedPolicies : (licensed document).policies = (settled document).policies := by
    rw [resolves.licensed_eq]
  have granted :
      (Outcome.ofSteps addGate context document.auth.gates.entries).andThen
          (fun context => Outcome.ofSteps addPolicy context document.auth.policies.entries) =
        ⟨{ context with
            gates := (settled document).gates
            policies := (settled document).policies }, none⟩ := by
    rw [fills_addGate.ofSteps_again resolves.gates_first rfl onCourse.gates_initial]
    exact fills_addPolicy.ofSteps_again resolves.policies_first
      (policyEntry_congr (same.trans gatedEntities.symm)) onCourse.policies_initial
  rw [auth, granted]
  exact fills_addForm.ofSteps_again resolves.forms_first
    (formEntry_congr licensedGates.symm licensedPolicies.symm) onCourse.forms_initial

/-! What a run keeps of the course, also where it fails. -/

theorem onCourse_start
    (document : Document) :
    OnCourse document (Context.start document) where
  databaseSpace_eq := rfl
  httpSpace_eq := rfl
  outline_eq := .inl rfl
  middleware_initial := List.nil_prefix
  controllers_initial := List.nil_prefix
  gates_initial := List.nil_prefix
  policies_initial := List.nil_prefix
  forms_initial := List.nil_prefix

theorem onCourse_entities
    {document : Document}
    (resolves : Resolves document)
    {context : Context}
    (onCourse : OnCourse document context) :
    OnCourse document (entities document context).context := by
  have sameOutline : (built document).outline = (linked document).outline :=
    (outline_relations document (built document)).symm
  rw [entities_again resolves onCourse]
  exact { onCourse with outline_eq := .inr sameOutline }

/-- The second stage changes nothing of the outline, wherever it stops. -/
theorem onCourse_relations
    {document : Document}
    {context : Context}
    (onCourse : OnCourse document context) :
    OnCourse document (relations document context).context := by
  have sameOutline := outline_relations document context
  obtain ⟨_, only⟩ := context_relations document context
  rw [only] at sameOutline ⊢
  exact { onCourse with outline_eq := by rw [sameOutline]; exact onCourse.outline_eq }

theorem onCourse_migrations
    {document : Document}
    {context : Context}
    (onCourse : OnCourse document context) :
    OnCourse document (migrations document context).context := by
  obtain ⟨_, only⟩ := context_migrations document context
  rw [only]
  exact { onCourse with }

/-- A stage part that fills a table keeps the course if the names that it builds are the settled
ones. -/
theorem onCourse_ofSteps
    {α β : Type}
    {document : Document}
    {slot : Slot α}
    {build : Context → β → Except ResolveError (Option (String × α))}
    {step : Context → β → Except ResolveError Context}
    (fills : Fills slot build step)
    {context first : Context}
    {items : List β}
    {final : Table α}
    (isFirst : FirstRun slot step first items final none)
    (initial : (slot.read context).keys <+: final.keys)
    (sameName :
      ∀ item built last,
        build context item = .ok built →
        build first item = .ok last →
        last.map Prod.fst = built.map Prod.fst)
    (written :
      ∀ table, table.keys <+: final.keys → OnCourse document (slot.write context table)) :
    OnCourse document (Outcome.ofSteps step context items).context :=
  fills.holds_ofSteps (OnCourse document) (fills.keys_ofSteps_initial isFirst initial sameName)
    written

/-- The HTTP stage keeps the course also where a controller fails in the middle. -/
theorem onCourse_http
    {document : Document}
    (resolves : Resolves document)
    {context : Context}
    (onCourse : OnCourse document context) :
    OnCourse document (http document context).context := by
  apply Outcome.andThen_invariant (OnCourse document)
  · exact onCourse_ofSteps fills_addMiddleware resolves.middleware_first
      onCourse.middleware_initial
      (fun _ _ _ => buildsNamed_middlewareEntry.names_eq buildsNamed_middlewareEntry)
      fun _ initial => { onCourse with middleware_initial := initial }
  · intro context onCourse
    exact onCourse_ofSteps fills_addController resolves.controllers_first
      onCourse.controllers_initial
      (fun _ _ _ => (buildsNamed_controllerEntry _).names_eq (buildsNamed_controllerEntry _))
      fun _ initial => { onCourse with controllers_initial := initial }

/-- The key of a policy is told by the outline, and without entities there are no policies. -/
theorem name_of_policyEntry
    {context other : Context}
    (sameOutline : context.outline = ∅ ∨ context.outline = other.outline)
    {entry : String × Option Document.Policy}
    {built final : Option (String × Auth.Policy)}
    (isBuilt : policyEntry context entry = .ok built)
    (isFinal : policyEntry other entry = .ok final) :
    final.map Prod.fst = built.map Prod.fst := by
  simp only [policyEntry] at isBuilt isFinal
  cases granted : policyGrants ("policies." ++ entry.1) entry.2 with
  | error cause =>
      simp [granted] at isBuilt
  | ok grants =>
      cases grants with
      | none =>
          simp only [granted, Except.ok.injEq] at isBuilt isFinal
          rw [← isBuilt, ← isFinal]
      | some actions =>
          simp only [granted, map_eq_ok_iff] at isBuilt isFinal
          obtain ⟨entity, found, rfl⟩ := isBuilt
          obtain ⟨finalEntity, finalFound, rfl⟩ := isFinal
          -- Without entities the model of a policy is not found, so none is built.
          obtain ⟨_, _, stored⟩ := Context.entity_eq_ok_iff.mp found
          have same := sameOutline.resolve_left (Context.outline_ne_empty stored)
          have sameEntity :=
            Context.map_entity_eq_of_outline same entry.1 ("policies." ++ entry.1)
          rw [found, finalFound] at sameEntity
          have sameKey := congrArg Entity.key (Except.ok.inj sameEntity)
          exact congrArg some sameKey.symm

/-- The last stage keeps the course also where a policy or a form fails. -/
theorem onCourse_auth
    {document : Document}
    (resolves : Resolves document)
    {context : Context}
    (onCourse : OnCourse document context) :
    OnCourse document (auth document context).context := by
  have gatedOutline : (gated document).outline = (linked document).outline := by
    rw [resolves.gated_eq, served_eq]
    rfl
  apply Outcome.andThen_invariant (OnCourse document)
  · apply Outcome.andThen_invariant (OnCourse document)
    · exact onCourse_ofSteps fills_addGate resolves.gates_first onCourse.gates_initial
        (fun _ _ _ => buildsNamed_gateEntry.names_eq buildsNamed_gateEntry)
        fun _ initial => { onCourse with gates_initial := initial }
    · intro context onCourse
      exact onCourse_ofSteps fills_addPolicy resolves.policies_first onCourse.policies_initial
        (fun _ _ _ => name_of_policyEntry (gatedOutline ▸ onCourse.outline_eq))
        fun _ initial => { onCourse with policies_initial := initial }
  · intro context onCourse
    exact onCourse_ofSteps fills_addForm resolves.forms_first onCourse.forms_initial
      (fun _ _ _ => (buildsNamed_formEntry _).names_eq (buildsNamed_formEntry _))
      fun _ initial => { onCourse with forms_initial := initial }

/-- Running a stage keeps a context on course, whether or not the stage fails. -/
theorem onCourse_run
    {document : Document}
    (resolves : Resolves document)
    {context : Context}
    (onCourse : OnCourse document context)
    (stage : Stage) :
    OnCourse document (stage.run document context).context := by
  cases stage with
  | entities =>
      exact onCourse_entities resolves onCourse
  | relations =>
      exact onCourse_relations onCourse
  | migrations =>
      exact onCourse_migrations onCourse
  | http =>
      exact onCourse_http resolves onCourse
  | auth =>
      exact onCourse_auth resolves onCourse

/-- Whatever stages have been run, the context is on course. -/
theorem onCourse_afterRuns
    {document : Document}
    (resolves : Resolves document)
    (stages : List Stage) :
    OnCourse document (Context.afterRuns document stages) :=
  Context.afterRuns_invariant (OnCourse document) (onCourse_start document)
    (fun _ stage onCourse => onCourse_run resolves onCourse stage) stages

/-- From a context on course all stages lead to the settled context. -/
theorem runStages_of_onCourse
    {document : Document}
    (resolves : Resolves document)
    {context : Context}
    (onCourse : OnCourse document context) :
    runStages document context Stage.all = ⟨settled document, none⟩ := by
  let made : Context := { context with entities := (built document).entities }
  let joined : Context := { context with entities := (linked document).entities }
  let planned : Context := { joined with migrations := (tabled document).migrations }
  let answered : Context :=
    { planned with
      middleware := (served document).middleware
      controllers := (served document).controllers }
  -- The course is only asked for where a stage puts entries into a table that holds some.
  have plannedCourse : OnCourse document planned :=
    { onCourse with outline_eq := .inr rfl }
  have answeredCourse : OnCourse document answered :=
    { plannedCourse with
      middleware_initial := List.prefix_rfl
      controllers_initial := List.prefix_rfl }
  have last : auth document answered = ⟨settled document, none⟩ := by
    rw [auth_again resolves answeredCourse rfl, settled_eq]
    dsimp only [answered, planned, joined]
    rw [onCourse.databaseSpace_eq, onCourse.httpSpace_eq]
  calc
    runStages document context Stage.all =
        runStages document made [.relations, .migrations, .http, .auth] :=
      runStages_cons_of_run (entities_again resolves onCourse)
    _ = runStages document joined [.migrations, .http, .auth] :=
      runStages_cons_of_run (relations_again resolves rfl)
    _ = runStages document planned [.http, .auth] :=
      runStages_cons_of_run (migrations_again resolves rfl)
    _ = runStages document answered [.auth] :=
      runStages_cons_of_run (http_again resolves plannedCourse rfl)
    _ = runStages document (settled document) [] :=
      runStages_cons_of_run last
    _ = ⟨settled document, none⟩ := rfl

end Resolution

open Resolution

/--
Whatever stages have been run on a context, in any order and failing or not, all stages in their
own order then succeed and leave the plan of the document.
-/
theorem runStages_afterRuns
    {document : Document}
    {plan : Plan}
    (resolved : resolve document = .ok plan)
    (stages : List Stage) :
    (runStages document (Context.afterRuns document stages) Stage.all).error = none ∧
      (runStages document (Context.afterRuns document stages) Stage.all).context.plan = plan := by
  obtain ⟨resolves, rfl⟩ := resolve_eq_ok_iff.mp resolved
  rw [runStages_of_onCourse resolves (onCourse_afterRuns resolves stages)]
  exact ⟨rfl, rfl⟩

/-- Relations before entities, and again after a resolution, only fail and do no harm. -/
theorem runStages_afterRuns_publishingDocument :
    ∃ plan,
      resolve publishingDocument = .ok plan ∧
        (runStages publishingDocument
          (Context.afterRuns publishingDocument
            [.http, .relations, .entities, .auth, .relations, .relations])
          Stage.all).context.plan = plan := by
  obtain ⟨plan, resolved⟩ := exists_eq_ok_of_isOk isOk_publishingDocument
  exact ⟨plan, resolved, (runStages_afterRuns resolved _).2⟩

end Blueprint
