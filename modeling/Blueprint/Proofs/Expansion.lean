import Blueprint.Proofs.ActionSources
import Blueprint.Proofs.RouteLines

namespace Blueprint

/-!
# Expansion of controllers

A controller that is not invokable has the actions that its resource expands to, in their usual
order, and then those that it declares besides. None is dropped and none is there twice, so that no
two of their guessed routes have one name. An action binds the models that it declares; else it
binds the first model of the resource, if it is an action of the resource that concerns one model,
and nothing otherwise. An invokable controller has one action, made of the only declared one.
-/

open Http Resolution Schema

namespace Document

/-- The declared models that are not blank. -/
def Models.tokens
    (models : Models) :
    List ModelEntry :=
  models.entries.filter fun entry => !entry.token.isEmpty

/-- A declared model binds the entity that it refers to: under the variable that is named or else
after its class, by the column that is given or else by the usual one. -/
def Binds
    (document : Document)
    (entities : Table Entity)
    (entry : ModelEntry)
    (binding : Http.Binding) :
    Prop :=
  ∃ entity,
    document.Refers (splitToken entry.token).1 entity.key ∧
      entities.get? entity.key = some entity ∧
      binding.entity = entity.key ∧
      binding.variableName = entry.variableName.getD (Naming.camel entity.className) ∧
      binding.column = (splitToken entry.token).2.or entity.routeBinding

/-- What an invokable controller says of its action: what stands under its only declared action, or
nothing. -/
def Controller.SaysOnly
    (declared : Controller)
    (description : Action) :
    Prop :=
  (declared.actions.entries = [] ∧ description = .blank) ∨
    ∃ name said, declared.actions.entries = [(name, said)] ∧ description = said.getD .blank

end Document

/-- An action binds what its declaration says, or else the first model of its resource if it is an
action of the resource that concerns one model. -/
structure Http.Action.BindsAs
    (action : Action)
    (document : Document)
    (entities : Table Entity)
    (key : String)
    (declared : Document.Controller)
    (resource : Option Resource) :
    Prop where
  declared_models :
    ∀ models,
      (declared.description action.name).models = some models →
      List.Forall₂ (document.Binds entities) models.tokens action.models
  resource_model :
    (declared.description action.name).models = none →
    declared.BindsResource action.name →
    ∃ entity,
      FirstModel document entities key declared resource entity ∧
        action.models = [usualBinding entity]
  no_model :
    (declared.description action.name).models = none →
    ¬declared.BindsResource action.name →
    action.models = []

/-- An action is what a source makes among the entities of a plan. -/
def Plan.Makes
    (plan : Plan)
    (key : String)
    (source : ActionSource)
    (action : Action) :
    Prop :=
  ∃ context : Context,
    context.entities = plan.database.entities ∧ source.make context key = .ok action

/-- The actions of a controller are those of its expansion. -/
structure Plan.Expands
    (plan : Plan)
    (document : Document)
    (key : String)
    (declared : Document.Controller)
    (controller : Controller) :
    Prop where
  names_eq : controller.actions.map (·.name) = declared.actionNames
  names_nodup : (controller.actions.map (·.name)).Nodup
  declared_once :
    ∀ name ∈ declared.actions.keys, (controller.actions.map (·.name)).count name = 1
  guessedRoutes_nodup :
    ((controller.actions.filter (·.route.guessed)).map (·.route.name)).Nodup
  fromResource_iff :
    ∀ action ∈ controller.actions,
      action.fromResource = true ↔
        action.name ∈ Document.expandedNames declared.resource ∧
          action.name ∉ declared.actions.keys
  described :
    ∀ action ∈ controller.actions,
      ∃ source,
        source.name = action.name ∧
          source.declared = declared.description action.name ∧
          plan.Makes key source action
  models :
    ∀ action ∈ controller.actions,
      action.BindsAs document plan.database.entities key declared controller.resource

/-- The only action of a controller is made of its only declared one. -/
def Plan.Invokes
    (plan : Plan)
    (key : String)
    (declared : Document.Controller)
    (controller : Controller) :
    Prop :=
  ∃ action description,
    controller.actions = [action] ∧
      action.name = "invoke" ∧
      declared.SaysOnly description ∧
      plan.Makes key ⟨"invoke", description, [], false⟩ action

namespace Resolution

/-! Names of guessed routes. -/

/-- Routes of one controller have the same usual name only if their actions do. -/
theorem usualRouteName_injective
    (controller : String) :
    Function.Injective (usualRouteName controller) := by
  intro first second same
  have letters := congrArg String.toList same
  by_cases firstInvokes : first = invokeAction
  · by_cases secondInvokes : second = invokeAction
    · rw [firstInvokes, secondInvokes]
    · simp [usualRouteName, firstInvokes, secondInvokes] at letters
  · by_cases secondInvokes : second = invokeAction
    · simp [usualRouteName, firstInvokes, secondInvokes] at letters
    · simp only [usualRouteName, firstInvokes, secondInvokes, ↓reduceIte, String.toList_append,
        List.append_cancel_left_eq] at letters
      exact String.toList_injective letters

theorem name_of_routeOf
    {controller action owner : String}
    {models : List Binding}
    {declared : Option String}
    {route : Route}
    (read : routeOf controller action owner models declared = .ok route)
    (isGuessed : route.guessed = true) :
    route.name = usualRouteName controller action := by
  cases declared with
  | none =>
      cases read
      rfl
  | some line =>
      obtain ⟨_, _, declares⟩ := declaredRoute_eq_ok_iff.mp read
      rw [declares.guessed_eq] at isGuessed
      cases isGuessed

/-- Actions of different names have guessed routes of different names. -/
theorem nodup_names_of_guessedRoutes
    {controller : String}
    {actions : List Action}
    (distinct : (actions.map (·.name)).Nodup)
    (usual :
      ∀ action ∈ actions,
        action.route.guessed = true →
        action.route.name = usualRouteName controller action.name) :
    ((actions.filter (·.route.guessed)).map (·.route.name)).Nodup := by
  have sameNames :
      (actions.filter (·.route.guessed)).map (·.route.name) =
        ((actions.filter (·.route.guessed)).map (·.name)).map (usualRouteName controller) := by
    rw [List.map_map]
    apply List.map_congr_left
    intro action member
    obtain ⟨isAction, isGuessed⟩ := List.mem_filter.mp member
    exact usual action isAction isGuessed
  have guessedDistinct : ((actions.filter (·.route.guessed)).map (·.name)).Nodup :=
    distinct.sublist (List.filter_sublist.map _)
  rw [sameNames]
  exact guessedDistinct.map (usualRouteName_injective controller)

/-! Bound models. -/

variable {document : Document} {context : Context}

theorem binds_of_bindModel
    (hasModels : HasModels document context)
    {owner : String}
    {entry : Document.ModelEntry}
    {binding : Binding}
    (bound : bindModel context owner entry = .ok binding) :
    document.Binds context.entities entry binding := by
  obtain ⟨entity, found, rfl, _⟩ := bindModel_eq_ok_iff.mp bound
  obtain ⟨key, refers, stored⟩ := hasModels.entity_eq_ok_iff.mp found
  obtain rfl : entity.key = key := hasModels.keyed key entity stored
  exact ⟨entity, refers, stored, rfl, rfl, rfl⟩

/-- What an action of a controller that is not invokable binds. -/
theorem bindsAs_of_makes
    (hasModels : HasModels document context)
    {key name : String}
    {declared : Document.Controller}
    {resource : Option Resource}
    {bound : List Binding}
    {action : Action}
    (settled : resourceHead context key declared = .ok (resource, bound))
    (notInvoked : declared.invoke = false)
    (makes : (sourceOf declared bound name).Makes context key action) :
    action.BindsAs document context.entities key declared resource := by
  have isNamed : action.name = name := makes.name_eq
  have read := makes.models_read
  subst isNamed
  constructor
  · intro models declaresModels
    simp only [sourceOf, declaresModels, actionModels, bindModels] at read
    exact (collect_eq_ok_iff.mp read).imp fun _ _ isBound => binds_of_bindModel hasModels isBound
  · intro noModels inherits
    simp only [sourceOf, noModels, actionModels, inherits, ↓reduceIte, Except.ok.injEq] at read
    obtain ⟨entity, isFirst, onlyFirst⟩ :=
      exists_firstModel_of_resourceHead hasModels settled notInvoked inherits.1
    exact ⟨entity, isFirst, read.symm.trans onlyFirst⟩
  · intro noModels inheritsNone
    simpa only [sourceOf, noModels, actionModels, inheritsNone, ↓reduceIte, Except.ok.injEq,
      eq_comm] using read

/-! Whole controllers. -/

variable {plan : Plan} {key : String} {declared : Document.Controller} {controller : Controller}

/-- The actions of a controller that is not invokable match their names, each made of its source. -/
theorem matched_of_controllerOf
    (notInvoked : declared.invoke = false)
    (resolved : controllerOf context key declared = .ok controller) :
    ∃ bound,
      resourceHead context key declared = .ok (controller.resource, bound) ∧
        List.Forall₂
          (fun name action => (sourceOf declared bound name).make context key = .ok action)
          declared.actionNames controller.actions := by
  obtain ⟨bound, settled, areMade⟩ := sources_of_controllerOf resolved
  simp only [actionSources, notInvoked, Bool.false_eq_true, ↓reduceIte, collect_map,
    collect_eq_ok_iff] at areMade
  exact ⟨bound, settled, areMade⟩

theorem map_name_of_matched
    {bound : List Binding}
    {names : List String}
    {actions : List Action}
    (matched :
      List.Forall₂
        (fun name action => (sourceOf declared bound name).make context key = .ok action)
        names actions) :
    actions.map (·.name) = names := by
  induction matched with
  | nil =>
      rfl
  | cons made _ inductionHypothesis =>
      rw [List.map_cons, inductionHypothesis, (ActionSource.makes_of_make made).name_eq]
      rfl

theorem expands_of_controllerOf
    (hasModels : HasModels document context)
    (sameEntities : context.entities = plan.database.entities)
    (notInvoked : declared.invoke = false)
    (resolved : controllerOf context key declared = .ok controller) :
    plan.Expands document key declared controller := by
  obtain ⟨bound, settled, matched⟩ := matched_of_controllerOf notInvoked resolved
  have names := map_name_of_matched matched
  have distinct : (controller.actions.map (·.name)).Nodup := names ▸ declared.nodup_actionNames
  have made (action : Action) (member : action ∈ controller.actions) :
      (sourceOf declared bound action.name).make context key = .ok action := by
    obtain ⟨name, _, isMade⟩ := exists_of_mem_matched matched member
    have isNamed : action.name = name := (ActionSource.makes_of_make isMade).name_eq
    exact isNamed ▸ isMade
  exact {
    names_eq := names
    names_nodup := distinct
    declared_once := by
      intro name isDeclared
      apply List.count_eq_one_of_mem distinct
      rw [names, Document.Controller.mem_actionNames]
      exact .inr isDeclared
    guessedRoutes_nodup := by
      have usual :
          ∀ action ∈ controller.actions,
            action.route.guessed = true →
            action.route.name = usualRouteName key action.name :=
        fun action member isGuessed =>
          name_of_routeOf (ActionSource.makes_of_make (made action member)).route_read isGuessed
      exact nodup_names_of_guessedRoutes distinct usual
    fromResource_iff := by
      intro action member
      rw [(ActionSource.makes_of_make (made action member)).fromResource_eq]
      exact decide_eq_true_iff
    described := by
      intro action member
      exact ⟨sourceOf declared bound action.name, rfl, rfl, context, sameEntities,
        made action member⟩
    models := by
      intro action member
      rw [← sameEntities]
      exact bindsAs_of_makes hasModels settled notInvoked
        (ActionSource.makes_of_make (made action member)) }

/-- An invokable controller with more than one declared action does not resolve. -/
theorem saysOnly_of_invokableShape
    (isShaped : Document.invokableShape key declared = .ok ()) :
    declared.SaysOnly (declared.actions.values.head?.join.getD .blank) := by
  have few : ¬1 < declared.actions.entries.length := by
    intro many
    simp [Document.invokableShape, Table.size, many, Document.refuse] at isShaped
  cases entries : declared.actions.entries with
  | nil =>
      exact .inl ⟨entries, by simp [Table.values, entries]⟩
  | cons entry others =>
      have noOthers : others = [] := by
        rw [entries, List.length_cons] at few
        exact List.length_eq_zero_iff.mp (by omega)
      exact .inr ⟨entry.1, entry.2, by rw [entries, noOthers], by simp [Table.values, entries]⟩

theorem invokes_of_controllerOf
    (sameEntities : context.entities = plan.database.entities)
    (invokes : declared.invoke = true)
    (resolved : controllerOf context key declared = .ok controller) :
    plan.Invokes key declared controller := by
  obtain ⟨bound, settled, areMade⟩ := sources_of_controllerOf resolved
  simp only [resourceHead, invokes, ↓reduceIte, bind_eq_ok_iff] at settled
  obtain ⟨_, isShaped, _⟩ := settled
  simp only [actionSources, invokes, ↓reduceIte, collect_eq_ok_iff] at areMade
  obtain ⟨action, others, isMade, noOthers, areActions⟩ := List.forall₂_cons_left_iff.mp areMade
  obtain rfl := List.forall₂_nil_left_iff.mp noOthers
  exact ⟨action, _, areActions, (ActionSource.makes_of_make isMade).name_eq,
    saysOnly_of_invokableShape isShaped, context, sameEntities, isMade⟩

end Resolution

/-- In the plan of a document every declared controller has the actions of its expansion, or its only
one if it is invokable. -/
theorem expanded_of_resolve
    {document : Document}
    {plan : Plan}
    (resolved : resolve document = .ok plan)
    {key : String}
    {declared : Document.Controller}
    (isDeclared : document.http.controllers.get? key = some declared) :
    ∃ controller,
      plan.http.controllers.get? key = some controller ∧
        (declared.invoke = false → plan.Expands document key declared controller) ∧
        (declared.invoke = true → plan.Invokes key declared controller) := by
  obtain ⟨resolves, rfl⟩ := resolve_eq_ok_iff.mp resolved
  obtain ⟨controller, found, made⟩ := resolves.exists_controller isDeclared
  refine ⟨controller, found, ?_, ?_⟩
  · intro notInvoked
    exact expands_of_controllerOf resolves.hasModels_shown resolves.entities_shown notInvoked made
  · intro invokes
    exact invokes_of_controllerOf resolves.entities_shown invokes made

/-- A resource that leaves out two actions, one of which is declared all the same, with one action
that is only named and one that has models of its own. -/
def archivingController : Document.Controller :=
  { Document.Controller.blank with
    resource := some (.block
      { Document.ResourceOptions.blank with except := some (.line "create delete") })
    actions := Table.ofList
      [("show", none),
       ("delete", none),
       ("update", some { Document.Action.blank with models := some (.line "Tag:id Post") }),
       ("archive", none)] }

/-- A controller with one action that shows a page. -/
def reportingController : Document.Controller :=
  { Document.Controller.blank with
    invoke := true
    actions := Table.ofList
      [("run", some { Document.Action.blank with view := some "reports.show" })] }

/-- Tagged posts with a controller that archives them and one that reports on them. -/
def archivingDocument : Document where
  database := taggedDocument.database
  http :=
    { Document.Http.blank with
      controllers := Table.ofList
        [("PostController", archivingController), ("ReportController", reportingController)] }
  auth := Document.Auth.blank

theorem expanded_archivingDocument :
    ∃ plan,
      resolve archivingDocument = .ok plan ∧
        (∃ controller,
          plan.http.controllers.get? "PostController" = some controller ∧
            controller.actions.map (·.name) = ["index", "show", "update", "delete", "archive"] ∧
            plan.Expands archivingDocument "PostController" archivingController controller) ∧
        ∃ controller,
          plan.http.controllers.get? "ReportController" = some controller ∧
            plan.Invokes "ReportController" reportingController controller := by
  have isOk : (resolve archivingDocument).isOk = true := by
    decide +kernel
  obtain ⟨plan, resolved⟩ := exists_eq_ok_of_isOk isOk
  have declaresPosts :
      archivingDocument.http.controllers.get? "PostController" = some archivingController := by
    decide +kernel
  have declaresReports :
      archivingDocument.http.controllers.get? "ReportController" = some reportingController := by
    decide +kernel
  obtain ⟨posts, foundPosts, expands, _⟩ := expanded_of_resolve resolved declaresPosts
  obtain ⟨reports, foundReports, _, invokes⟩ := expanded_of_resolve resolved declaresReports
  have names : archivingController.actionNames =
      ["index", "show", "update", "delete", "archive"] := by
    decide +kernel
  exact ⟨plan, resolved, ⟨posts, foundPosts, (expands rfl).names_eq.trans names, expands rfl⟩,
    reports, foundReports, invokes rfl⟩

end Blueprint
