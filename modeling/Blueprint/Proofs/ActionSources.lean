import Blueprint.Proofs.Convergence
import Blueprint.Proofs.ModelNames

namespace Blueprint

/-!
# Sources of actions

Every action of a controller is made of a source: its name, what the document says of it, and the
models that it is given. An invokable controller has one source; any other has one for each name
that its resource expands to and one for each further action that it declares. To resolve a
controller is to settle its resource and then to make the actions of its sources in order, so that
both its success and its failure are told source by source.
-/

open Http Schema

namespace Document

/-- The actions that a resource expands to, in the usual order: those that are not excepted if any
are, else those that are wanted if any are, else all. -/
def expandedNames :
    Option Resource →
    List String
  | none | some (.toggle false) => []
  | some (.toggle true) => resourceActions
  | some (.block options) =>
      if Resolution.wordsOf options.except ≠ [] then
        resourceActions.filter fun action => action ∉ Resolution.wordsOf options.except
      else if Resolution.wordsOf options.only ≠ [] then
        resourceActions.filter fun action => action ∈ Resolution.wordsOf options.only
      else
        resourceActions

/-- The names of the models that a resource is built around: the declared ones, else the one that
its controller is named after. -/
def resourceNames
    (key : String) :
    Option Resource →
    List String
  | some (.block options) =>
      (options.models.map Words.toList).getD [Naming.basename (Resolution.routeBase key)]
  | _ => [Naming.basename (Resolution.routeBase key)]

namespace Controller

/-- What is said of an action: nothing where it is only named, or is not declared. -/
def description
    (declared : Controller)
    (name : String) :
    Action :=
  (declared.actions.get? name).join.getD .blank

/-- The actions of a controller that is not invokable: those of its resource, then those that are
declared besides. -/
def actionNames
    (declared : Controller) :
    List String :=
  expandedNames declared.resource ++
    declared.actions.keys.filter fun name => name ∉ expandedNames declared.resource

/-- Whether an action binds the model of the resource unless it declares models itself. -/
def BindsResource
    (declared : Controller)
    (name : String) :
    Prop :=
  name ∈ expandedNames declared.resource ∧ name ∈ resourceModelActions

instance
    (declared : Controller)
    (name : String) :
    Decidable (declared.BindsResource name) :=
  inferInstanceAs (Decidable (_ ∧ _))

end Controller

theorem nodup_expandedNames
    (resource : Option Resource) :
    (expandedNames resource).Nodup := by
  have allDistinct : resourceActions.Nodup := by decide
  unfold expandedNames
  split
  · exact List.nodup_nil
  · exact List.nodup_nil
  · exact allDistinct
  · split
    · exact allDistinct.filter _
    · split
      · exact allDistinct.filter _
      · exact allDistinct

theorem Controller.nodup_actionNames
    (declared : Controller) :
    declared.actionNames.Nodup := by
  apply List.Nodup.append (nodup_expandedNames _) (declared.actions.nodup_keys.filter _)
  intro name isExpanded isFurther
  simpa [isExpanded] using (List.mem_filter.mp isFurther).2

/-- The actions of a controller are those of its resource and the declared ones. -/
theorem Controller.mem_actionNames
    {declared : Controller}
    {name : String} :
    name ∈ declared.actionNames ↔
      name ∈ expandedNames declared.resource ∨ name ∈ declared.actions.keys := by
  by_cases isExpanded : name ∈ expandedNames declared.resource <;>
    simp [actionNames, isExpanded]

end Document

namespace Resolution

/-! The options of a resource. -/

/-- A resource expands to the actions that its options keep. -/
theorem expandedNames_of_resourceOptions
    {resource : Option Document.Resource}
    {options : Document.ResourceOptions}
    (present : resourceOptions resource = some options) :
    Document.expandedNames resource =
      keptActions (wordsOf options.only) (wordsOf options.except) := by
  match resource with
  | none | some (.toggle false) =>
      cases present
  | some (.toggle true) =>
      cases present
      rfl
  | some (.block _) =>
      cases present
      by_cases excepts : wordsOf options.except = []
      · by_cases wants : wordsOf options.only = []
        · simp [Document.expandedNames, keptActions, excepts, wants]
        · simp [Document.expandedNames, keptActions, excepts, wants]
      · simp [Document.expandedNames, keptActions, excepts]

theorem expandedNames_of_not_resource
    {resource : Option Document.Resource}
    (absent : resourceOptions resource = none) :
    Document.expandedNames resource = [] := by
  match resource with
  | none | some (.toggle false) =>
      rfl
  | some (.toggle true) | some (.block _) =>
      cases absent

/-- A resource without models is one of the class that its controller is named after. -/
theorem resourceNames_of_resourceOptions
    {key : String}
    {resource : Option Document.Resource}
    {options : Document.ResourceOptions}
    (present : resourceOptions resource = some options) :
    Document.resourceNames key resource =
      (options.models.map Document.Words.toList).getD [Naming.basename (routeBase key)] := by
  match resource with
  | none | some (.toggle false) =>
      cases present
  | some (.toggle true) | some (.block _) =>
      cases present
      rfl

/-! What actions are made of. -/

/-- What an action is made of. -/
structure ActionSource where
  name : String
  declared : Document.Action
  given : List Binding
  fromResource : Bool

/-- Make the action of a source. -/
def ActionSource.make
    (context : Context)
    (controller : String)
    (source : ActionSource) :
    Except ResolveError Action :=
  actionOf context controller source.name source.declared source.given source.fromResource

/-- The source of an action of a controller that is not invokable. -/
def sourceOf
    (declared : Document.Controller)
    (bound : List Binding)
    (name : String) :
    ActionSource where
  name := name
  declared := declared.description name
  given := if declared.BindsResource name then bound else []
  fromResource :=
    decide (name ∈ Document.expandedNames declared.resource ∧ name ∉ declared.actions.keys)

/-- The source of the only action of an invokable controller. -/
def invokedSource
    (declared : Document.Controller) :
    ActionSource where
  name := invokeAction
  declared := declared.actions.values.head?.join.getD .blank
  given := []
  fromResource := false

/-- The sources of the actions of a controller, given what the first model of its resource is bound
to. -/
def actionSources
    (declared : Document.Controller)
    (bound : List Binding) :
    List ActionSource :=
  if declared.invoke then
    [invokedSource declared]
  else
    declared.actionNames.map (sourceOf declared bound)

/-- The resource of a controller and what its first model is bound to, if it is a resource. An
invokable controller must have the form of one. -/
def resourceHead
    (context : Context)
    (key : String)
    (declared : Document.Controller) :
    Except ResolveError (Option Resource × List Binding) :=
  if declared.invoke then do
    Document.invokableShape key declared
    pure (none, [])
  else
    match resourceOptions declared.resource with
    | none => pure (none, [])
    | some options => do
        let owner := key ++ ".resource"
        let resource ← resourceOf context owner (Naming.basename (routeBase key)) options
        let binding ← resourceBinding context owner resource
        pure (some resource, [binding])

variable {context : Context}

/-- The actions of a resource are those that its options keep. -/
theorem actions_of_resourceOf
    {owner baseName : String}
    {options : Document.ResourceOptions}
    {resource : Resource}
    (resolved : resourceOf context owner baseName options = .ok resource) :
    resource.actions = keptActions (wordsOf options.only) (wordsOf options.except) := by
  simp only [resourceOf, bind_eq_ok_iff] at resolved
  obtain ⟨entities, _, resolved⟩ := resolved
  split at resolved
  · cases resolved
  · simp only [bind_eq_ok_iff, pure_eq_ok_iff] at resolved
    obtain ⟨_, _, rfl⟩ := resolved
    rfl

theorem isNone_get?_eq_decide
    {α : Type}
    (table : Table α)
    (name : String) :
    (table.get? name).isNone = decide (name ∉ table.keys) := by
  rw [Bool.eq_iff_iff, Option.isNone_iff_eq_none, Table.get?_eq_none_iff, decide_eq_true_iff]

/-- The actions of a resource are those of their sources. -/
theorem resourceAction_eq_make
    {key name : String}
    {declared : Document.Controller}
    (binding : Binding)
    (isExpanded : name ∈ Document.expandedNames declared.resource) :
    resourceAction context key declared binding name =
      (sourceOf declared [binding] name).make context key := by
  simp only [resourceAction, ActionSource.make, sourceOf, Document.Controller.description,
    Document.Controller.BindsResource, isExpanded, true_and, isNone_get?_eq_decide]

/-- The further actions of a controller are those of their sources. -/
theorem otherActions_eq_collect
    (context : Context)
    (key : String)
    (declared : Document.Controller)
    (bound : List Binding) :
    otherActions context key declared (Document.expandedNames declared.resource) =
      collect (fun name => (sourceOf declared bound name).make context key)
        (declared.actions.keys.filter fun name =>
          name ∉ Document.expandedNames declared.resource) := by
  rw [Table.keys, Entries.names, List.filter_map, collect_map, otherActions]
  have sameEntries :
      (declared.actions.entries.filter fun entry =>
          !(Document.expandedNames declared.resource).contains entry.1) =
        declared.actions.entries.filter ((fun name =>
          decide (name ∉ Document.expandedNames declared.resource)) ∘ Prod.fst) :=
    List.filter_congr fun entry _ => by simp
  rw [sameEntries]
  refine collect_congr fun entry member => ?_
  obtain ⟨isEntry, isFurther⟩ := List.mem_filter.mp member
  have notExpanded : entry.1 ∉ Document.expandedNames declared.resource := by
    simpa using isFurther
  have found : declared.actions.get? entry.1 = some entry.2 :=
    Table.get?_eq_some_iff.mpr isEntry
  simp [ActionSource.make, sourceOf, Document.Controller.description,
    Document.Controller.BindsResource, notExpanded, found]

/-- The resource of a controller is settled first, and then the actions are made of their sources in
order. -/
theorem controllerParts_eq
    (context : Context)
    (key : String)
    (declared : Document.Controller) :
    controllerParts context key (Naming.basename (routeBase key)) declared = (do
      let (resource, bound) ← resourceHead context key declared
      let actions ←
        collect (fun source => source.make context key) (actionSources declared bound)
      pure (resource, actions)) := by
  by_cases invokes : declared.invoke = true
  · simp only [controllerParts, resourceHead, actionSources, invokes, ↓reduceIte, bind_assoc,
      pure_bind, collect_cons]
    rfl
  · simp only [controllerParts, resourceHead, actionSources, invokes, Bool.false_eq_true,
      ↓reduceIte, Document.Controller.actionNames, collect_map, collect_append]
    cases isResource : resourceOptions declared.resource with
    | none =>
        have noNames := expandedNames_of_not_resource isResource
        have others := otherActions_eq_collect context key declared []
        rw [noNames] at others ⊢
        simp only [resourcePart, isResource, pure_bind, collect, bind_assoc]
        exact congrArg (· >>= fun actions => pure (none, actions)) others
    | some options =>
        have names := expandedNames_of_resourceOptions isResource
        simp only [resourcePart, isResource, bind_assoc, pure_bind]
        refine bind_congr_of_ok fun resource settled => ?_
        refine bind_congr_of_ok fun binding _ => ?_
        have sameNames := (actions_of_resourceOf settled).trans names.symm
        have expanded :
            collect (resourceAction context key declared binding)
                (Document.expandedNames declared.resource) = _ :=
          collect_congr fun _ isExpanded => resourceAction_eq_make binding isExpanded
        simp only [Option.map_some, Option.getD_some, sameNames, expanded,
          otherActions_eq_collect context key declared [binding]]

/-- A controller resolves to the actions of its sources. -/
theorem sources_of_controllerOf
    {key : String}
    {declared : Document.Controller}
    {controller : Controller}
    (resolved : controllerOf context key declared = .ok controller) :
    ∃ bound,
      resourceHead context key declared = .ok (controller.resource, bound) ∧
        collect (fun source => source.make context key) (actionSources declared bound) =
          .ok controller.actions := by
  simp only [controllerOf, map_eq_ok_iff] at resolved
  obtain ⟨parts, hasParts, rfl⟩ := resolved
  simp only [controllerParts_eq, bind_eq_ok_iff, pure_eq_ok_iff] at hasParts
  obtain ⟨⟨resource, bound⟩, isSettled, actions, areMade, rfl⟩ := hasParts
  exact ⟨bound, isSettled, areMade⟩

/-- A controller fails on its resource, or else on an action. -/
theorem of_controllerOf_error
    {key : String}
    {declared : Document.Controller}
    {cause : ResolveError}
    (failed : controllerOf context key declared = .error cause) :
    resourceHead context key declared = .error cause ∨
      ∃ resource bound,
        resourceHead context key declared = .ok (resource, bound) ∧
          ∃ source ∈ actionSources declared bound, source.make context key = .error cause := by
  simp only [controllerOf, map_eq_error_iff, controllerParts_eq, bind_eq_error_iff] at failed
  rcases failed with atHead | ⟨⟨resource, bound⟩, isSettled, atAction⟩
  · exact .inl atHead
  · rcases atAction with notMade | ⟨_, _, impossible⟩
    · exact .inr ⟨resource, bound, isSettled, exists_failing_of_collect notMade⟩
    · cases impossible

/-! The model of a resource. -/

/-- What an entity is bound to where nothing is said about it. -/
def usualBinding
    (entity : Entity) :
    Binding :=
  ⟨entity.key, Naming.camel entity.className, entity.routeBinding⟩

/-- A resource is built around the entities that its names refer to, or the first of them only. -/
theorem entities_of_resourceOf
    {owner baseName : String}
    {options : Document.ResourceOptions}
    {resource : Resource}
    (resolved : resourceOf context owner baseName options = .ok resource) :
    ∃ entities,
      collect (fun name => context.entityKey name owner)
          ((options.models.map Document.Words.toList).getD [baseName]) = .ok entities ∧
        resource.entities = if options.json then entities.take 1 else entities := by
  simp only [resourceOf, bind_eq_ok_iff] at resolved
  obtain ⟨entities, found, resolved⟩ := resolved
  split at resolved
  · cases resolved
  · simp only [bind_eq_ok_iff, pure_eq_ok_iff] at resolved
    obtain ⟨_, _, rfl⟩ := resolved
    exact ⟨entities, found, rfl⟩

/-- The binding of a resource is that of the entity that its first name refers to. -/
theorem first_of_resourceBinding
    {document : Document}
    (hasModels : HasModels document context)
    {owner baseName : String}
    {options : Document.ResourceOptions}
    {resource : Resource}
    {binding : Binding}
    (resolved : resourceOf context owner baseName options = .ok resource)
    (found : resourceBinding context owner resource = .ok binding) :
    ∃ first entity,
      ((options.models.map Document.Words.toList).getD [baseName]).head? = some first ∧
        document.Refers first entity.key ∧
        context.entities.get? entity.key = some entity ∧
        resource.entities.head? = some entity.key ∧
        binding = usualBinding entity := by
  obtain ⟨entities, lookedUp, isFirst⟩ := entities_of_resourceOf resolved
  generalize (options.models.map Document.Words.toList).getD [baseName] = names at lookedUp ⊢
  obtain ⟨key, others, entity, bound, isEntity, rfl⟩ := resourceBinding_eq_ok_iff.mp found
  have sameFirst : entities.head? = some key := by
    rw [bound] at isFirst
    cases entities with
    | nil =>
        simp at isFirst
    | cons head tail =>
        split at isFirst <;> simp_all
  rw [collect_eq_ok_iff] at lookedUp
  cases lookedUp with
  | nil =>
      cases sameFirst
  | @cons first head rest tail isHead _ =>
      cases sameFirst
      have refers := hasModels.entityKey_eq_ok_iff.mp isHead
      -- The key that the name refers to leads to itself.
      obtain ⟨stored, isStored, ownKey⟩ := hasModels.exists_entity refers.key_mem
      have same : entity = stored := by
        have again : context.entity key owner = .ok stored := Context.entity_of_get? isStored
        rw [isEntity] at again
        exact Except.ok.inj again
      subst same ownKey
      exact ⟨first, entity, rfl, refers, isStored, by simp [bound], rfl⟩

/-- The first model of a resource, and what it is bound to. -/
structure FirstModel
    (document : Document)
    (entities : Table Entity)
    (key : String)
    (declared : Document.Controller)
    (resource : Option Resource)
    (entity : Entity) :
    Prop where
  named :
    ∃ first,
      (Document.resourceNames key declared.resource).head? = some first ∧
        document.Refers first entity.key
  stored : entities.get? entity.key = some entity
  first_eq : ∃ present, resource = some present ∧ present.entities.head? = some entity.key

/-- Where a resource expands to an action, it has a first model. -/
theorem exists_firstModel_of_resourceHead
    {document : Document}
    (hasModels : HasModels document context)
    {key name : String}
    {declared : Document.Controller}
    {resource : Option Resource}
    {bound : List Binding}
    (settled : resourceHead context key declared = .ok (resource, bound))
    (notInvoked : declared.invoke = false)
    (isExpanded : name ∈ Document.expandedNames declared.resource) :
    ∃ entity,
      FirstModel document context.entities key declared resource entity ∧
        bound = [usualBinding entity] := by
  cases isResource : resourceOptions declared.resource with
  | none =>
      rw [expandedNames_of_not_resource isResource] at isExpanded
      cases isExpanded
  | some options =>
      simp only [resourceHead, notInvoked, Bool.false_eq_true, ↓reduceIte, isResource,
        bind_eq_ok_iff, pure_eq_ok_iff, Prod.mk.injEq] at settled
      obtain ⟨present, resolved, binding, found, rfl, rfl⟩ := settled
      obtain ⟨first, entity, isFirst, refers, stored, sameFirst, rfl⟩ :=
        first_of_resourceBinding hasModels resolved found
      rw [← resourceNames_of_resourceOptions isResource] at isFirst
      exact ⟨entity, ⟨⟨first, isFirst, refers⟩, stored, present, rfl, sameFirst⟩, rfl⟩

/-! Actions that are made. -/

/-- What is known of an action by its source. -/
structure ActionSource.Makes
    (source : ActionSource)
    (context : Context)
    (controller : String)
    (action : Action) :
    Prop where
  name_eq : action.name = source.name
  fromResource_eq : action.fromResource = source.fromResource
  models_read :
    actionModels context (controller ++ "." ++ source.name) source.given
      source.declared.models = .ok action.models
  route_read :
    routeOf controller source.name (controller ++ "." ++ source.name) action.models
      source.declared.route = .ok action.route
  queries_read :
    queriesOf context action.models (controller ++ "." ++ source.name)
      source.declared.queries = .ok action.queries
  delete_eq : action.delete = source.declared.delete
  delete_checked :
    checkDelete action.scope (controller ++ "." ++ source.name) source.declared.delete = .ok ()

theorem ActionSource.makes_of_make
    {source : ActionSource}
    {controller : String}
    {action : Action}
    (made : source.make context controller = .ok action) :
    source.Makes context controller action := by
  simp only [ActionSource.make, actionOf, bind_eq_ok_iff, pure_eq_ok_iff] at made
  obtain ⟨models, hasModels, route, hasRoute, _, _, _, _, queries, hasQueries, _, _, _,
    isChecked, _, _, _, _, rfl⟩ := made
  exact {
    name_eq := rfl
    fromResource_eq := rfl
    models_read := hasModels
    route_read := hasRoute
    queries_read := hasQueries
    delete_eq := rfl
    delete_checked := isChecked }

/-! The controllers of a plan. -/

variable {document : Document}

/-- Controllers are resolved over the entities of the plan. -/
theorem Resolves.entities_shown
    (resolves : Resolves document) :
    (shown document).entities = (settled document).plan.database.entities := by
  rw [plan_database, resolves.shown_eq, tabled_eq]
  rfl

theorem Resolves.hasModels_shown
    (resolves : Resolves document) :
    HasModels document (shown document) := by
  have sameEntities : (shown document).entities = (linked document).entities := by
    rw [resolves.entities_shown, plan_database]
    rfl
  refine (hasModels_linked resolves.entities_done).of_outline_eq ?_ ?_
  · rw [Context.outline, Context.outline, sameEntities]
  · rw [sameEntities]
    exact (wellLinked_linked document).keyed

/-- The controllers that are served are those that the document declares, each under its key. -/
theorem Resolves.get?_controllers_eq_some_iff
    (resolves : Resolves document)
    {key : String}
    {controller : Controller} :
    (served document).controllers.get? key = some controller ↔
      ∃ declared,
        document.http.controllers.get? key = some declared ∧
          controllerOf (shown document) key declared = .ok controller := by
  have noneHeld :
      (shown document).controllers.keys ⊆ document.http.controllers.entries.map Prod.fst := by
    have empty : (shown document).controllers = ∅ := resolves.controllers_first.empty
    simp [empty]
  refine (fills_addController.get?_ofSteps_eq_some_iff resolves.controllers_run
    (buildsNamed_controllerEntry _) document.http.controllers.nodup_keys noneHeld).trans ?_
  simp only [controllerEntry, map_eq_ok_iff, Option.some.injEq, Prod.mk.injEq]
  constructor
  · rintro ⟨⟨_, declared⟩, member, _, made, rfl, rfl⟩
    exact ⟨declared, Table.get?_eq_some_iff.mpr member, made⟩
  · rintro ⟨declared, found, made⟩
    exact ⟨(key, declared), Table.get?_eq_some_iff.mp found, controller, made, rfl, rfl⟩

/-- The controllers of a plan are what the declared ones resolve to. -/
theorem Resolves.get?_plan_controllers_eq_some_iff
    (resolves : Resolves document)
    {key : String}
    {controller : Controller} :
    (settled document).plan.http.controllers.get? key = some controller ↔
      ∃ declared,
        document.http.controllers.get? key = some declared ∧
          controllerOf (shown document) key declared = .ok controller := by
  rw [← resolves.get?_controllers_eq_some_iff, settled_eq]
  rfl

/-- Every declared controller resolves to one of the plan. -/
theorem Resolves.exists_controller
    (resolves : Resolves document)
    {key : String}
    {declared : Document.Controller}
    (isDeclared : document.http.controllers.get? key = some declared) :
    ∃ controller,
      (settled document).plan.http.controllers.get? key = some controller ∧
        controllerOf (shown document) key declared = .ok controller := by
  obtain ⟨_, isBuilt⟩ := fills_addController.exists_built_of_run resolves.controllers_run
    (Table.get?_eq_some_iff.mp isDeclared)
  obtain ⟨controller, made, rfl⟩ := map_eq_ok_iff.mp isBuilt
  exact ⟨controller, resolves.get?_plan_controllers_eq_some_iff.mpr ⟨declared, isDeclared, made⟩,
    made⟩

end Resolution

end Blueprint
