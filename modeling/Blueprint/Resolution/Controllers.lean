import Blueprint.Resolution.Directives

namespace Blueprint.Resolution

/-!
# Controllers

A resource controller has the actions of its resource first, each described further where the
document declares it, and then its other actions. An invokable controller has one action.
-/

open Http

/-- The route of an action, declared or guessed. -/
def routeOf
    (controller action owner : String)
    (models : List Binding) :
    Option String →
    Except ResolveError Route
  | some line => declaredRoute controller action owner line
  | none => .ok (guessedRoute controller action models)

/-- The models of an action: those it declares, else those it is given. -/
def actionModels
    (context : Context)
    (owner : String)
    (given : List Binding) :
    Option Document.Models →
    Except ResolveError (List Binding)
  | some models => bindModels context owner models
  | none => .ok given

/-- Resolve an action. -/
def actionOf
    (context : Context)
    (controller name : String)
    (declared : Document.Action)
    (given : List Binding)
    (fromResource : Bool) :
    Except ResolveError Action := do
  let owner := controller ++ "." ++ name
  let models ← actionModels context owner given declared.models
  let route ← routeOf controller name owner models declared.route
  let authorize ← authorizeOf context name owner models declared.authorize
  let validate ← whenPresent (validationOf owner) declared.validate
  let queries ← queriesOf context models owner declared.queries
  let fromFormRequest := (validate.map Validation.isDelegated).getD false
  let save ← whenPresent (saveOf context owner fromFormRequest) declared.save
  let scope := models.map (·.variableName) ++ queries.map (·.variableName)
  checkDelete scope owner declared.delete
  let redirect ← whenPresent (redirectOf owner) declared.redirect
  let view ← whenPresent (viewOf owner) declared.view
  pure {
    name := name
    route := route
    models := models
    authorize := authorize
    validate := validate
    queries := queries
    save := save
    delete := declared.delete
    fire := callsOf declared.fire
    notify := callsOf declared.notify
    flash := callsOf declared.flash
    redirect := redirect
    view := view
    fromResource := fromResource }

/-- The options of a controller that is a resource. -/
def resourceOptions :
    Option Document.Resource →
    Option Document.ResourceOptions
  | none => none
  | some (.toggle false) => none
  | some (.toggle true) => some .blank
  | some (.block options) => some options

/-- Check that a word names an action of resources. -/
def checkResourceAction
    (owner action : String) :
    Except ResolveError Unit :=
  if action ∈ resourceActions then
    .ok ()
  else
    .error (.missing .resourceAction action owner)

/-- The actions that are left: without the excepted ones if there are any, else the only ones. -/
def keptActions
    (only except : List String) :
    List String :=
  resourceActions.filter fun action =>
    if !except.isEmpty then !except.contains action
    else if !only.isEmpty then only.contains action
    else true

/-- The words of a phrase that may be absent. -/
def wordsOf
    (words : Option Document.Words) :
    List String :=
  (words.map Document.Words.toList).getD []

/-- The resource of a controller. -/
def resourceOf
    (context : Context)
    (owner baseName : String)
    (options : Document.ResourceOptions) :
    Except ResolveError Resource := do
  let names := (options.models.map Document.Words.toList).getD [baseName]
  let entities ← collect (fun name => context.entityKey name owner) names
  if entities.isEmpty then
    Document.refuse owner .resourceModelRequired
  else
    let only := wordsOf options.only
    let except := wordsOf options.except
    checkAll (checkResourceAction owner) (only ++ except)
    pure {
      entities := if options.json then entities.take 1 else entities
      json := options.json
      api := options.api || options.json
      only := only
      except := except
      actions := keptActions only except }

/-- The binding of the first entity of a resource. -/
def resourceBinding
    (context : Context)
    (owner : String)
    (resource : Resource) :
    Except ResolveError Binding :=
  match resource.entities with
  | [] => Document.refuse owner .resourceModelRequired
  | key :: _ =>
      (context.entity key owner).map fun entity =>
        ⟨entity.key, Naming.camel entity.className, entity.routeBinding⟩

/-- An action of a resource, with what the document declares of it. -/
def resourceAction
    (context : Context)
    (key : String)
    (controller : Document.Controller)
    (bound : Binding)
    (name : String) :
    Except ResolveError Action :=
  let declared := controller.actions.get? name
  let given := if name ∈ resourceModelActions then [bound] else []
  actionOf context key name (declared.join.getD .blank) given declared.isNone

/-- The declared actions that do not belong to the resource. -/
def otherActions
    (context : Context)
    (key : String)
    (controller : Document.Controller)
    (expanded : List String) :
    Except ResolveError (List Action) :=
  collect
    (fun entry => actionOf context key entry.1 (entry.2.getD .blank) [] false)
    (controller.actions.entries.filter fun entry => !expanded.contains entry.1)

/-- The only action of an invokable controller. -/
def invokedAction
    (context : Context)
    (key : String)
    (controller : Document.Controller) :
    Except ResolveError Action :=
  let declared := controller.actions.values.head?.join.getD .blank
  actionOf context key invokeAction declared [] false

/-- The resource of a controller, if it is one, and the actions that come of it. -/
def resourcePart
    (context : Context)
    (key baseName : String)
    (controller : Document.Controller) :
    Except ResolveError (Option Resource × List Action) :=
  match resourceOptions controller.resource with
  | none => .ok (none, [])
  | some options => do
      let owner := key ++ ".resource"
      let resource ← resourceOf context owner baseName options
      let bound ← resourceBinding context owner resource
      let actions ← collect (resourceAction context key controller bound) resource.actions
      pure (some resource, actions)

/-- The resource and the actions of a controller. -/
def controllerParts
    (context : Context)
    (key baseName : String)
    (controller : Document.Controller) :
    Except ResolveError (Option Resource × List Action) :=
  if controller.invoke then do
    Document.invokableShape key controller
    let action ← invokedAction context key controller
    pure (none, [action])
  else do
    let (resource, expanded) ← resourcePart context key baseName controller
    let others ←
      otherActions context key controller ((resource.map (·.actions)).getD [])
    pure (resource, expanded ++ others)

/-- Resolve a controller. -/
def controllerOf
    (context : Context)
    (key : String)
    (controller : Document.Controller) :
    Except ResolveError Controller :=
  let baseName := Naming.basename (routeBase key)
  (controllerParts context key baseName controller).map fun (resource, actions) =>
    { key := key
      className := Naming.studly baseName ++ controllerSuffix
      space := Naming.namespaceOf context.httpSpace key
      invokable := controller.invoke
      resource := resource
      middleware := controller.middleware.flatMap Method.ofLine
      actions := actions }

/-- Resolve a middleware. -/
def middlewareOf
    (shortName : String)
    (declared : Option Document.Middleware) :
    Middleware :=
  let middleware := declared.getD .blank
  ⟨shortName, middleware.className.getD (Naming.studly shortName ++ "Middleware"), middleware.terminable⟩

/-- Put a middleware into the context. -/
def addMiddleware
    (context : Context)
    (entry : String × Option Document.Middleware) :
    Except ResolveError Context :=
  .ok { context with
    middleware := context.middleware.insert entry.1 (middlewareOf entry.1 entry.2) }

/-- Put a controller into the context. -/
def addController
    (context : Context)
    (entry : String × Document.Controller) :
    Except ResolveError Context :=
  match controllerOf context entry.1 entry.2 with
  | .error cause => .error cause
  | .ok controller =>
      .ok { context with controllers := context.controllers.insert entry.1 controller }

/-- Resolve all middleware and then all controllers. -/
def http
    (document : Document)
    (context : Context) :
    Outcome :=
  (Outcome.ofSteps addMiddleware context document.http.middleware.entries).andThen
    fun context => Outcome.ofSteps addController context document.http.controllers.entries

end Blueprint.Resolution
