import Blueprint.Proofs.Pieces
import Blueprint.Proofs.Stages

namespace Blueprint

/-!
# Documents in longhand

Much of a document may be written in a short way or be left out where the usual is meant. Written
out in longhand, every line of words is a list, every switch is the block or the absence that it
stands for, and what is named only is described. A document resolves as it does in longhand, with
the same plan or the same error: no stage and no check sees the difference.
-/

open Resolution Schema

/-! Elements that are changed in a way that the steps do not see. -/

section Changed

variable {ε α β : Type} {change : α → α}

/-- A check that does not see the change of an element does not see it in any of them. -/
theorem checkAll_map
    {check : α → Except ε Unit}
    (same : ∀ item, check (change item) = check item)
    (items : List α) :
    checkAll check (items.map change) = checkAll check items := by
  induction items with
  | nil =>
      rfl
  | cons item rest inductionHypothesis =>
      simp only [List.map_cons, checkAll, same, inductionHypothesis]

/-- Steps that do not see the change of an element lead to the same outcome. -/
theorem Outcome.ofSteps_map_items
    {step : Context → α → Except ResolveError Context}
    (same : ∀ context item, step context (change item) = step context item)
    (context : Context)
    (items : List α) :
    ofSteps step context (items.map change) = ofSteps step context items := by
  induction items generalizing context with
  | nil =>
      rfl
  | cons item rest inductionHypothesis =>
      simp only [List.map_cons, ofSteps, same, inductionHypothesis]

end Changed

/-! Words on a line. -/

/-- A text without anything to remove is trimmed already. -/
theorem Text.trimBoth_eq_self
    {isRemoved : Char → Bool}
    {text : List Char}
    (kept : ∀ letter ∈ text, isRemoved letter = false) :
    Text.trimBoth isRemoved text = text := by
  have dropNone {letters : List Char} (kept : ∀ letter ∈ letters, isRemoved letter = false) :
      letters.dropWhile isRemoved = letters := by
    cases letters with
    | nil =>
        rfl
    | cons letter rest =>
        simp [kept letter (by simp)]
  have reversed : ∀ letter ∈ text.reverse, isRemoved letter = false := by
    intro letter member
    exact kept letter (List.mem_reverse.mp member)
  rw [Text.trimBoth, Text.trimEnd, dropNone kept, dropNone reversed, List.reverse_reverse]

/-- A word has no blanks around it and is not empty. -/
theorem word_of_mem_piecesOf
    {text word : String}
    (member : word ∈ piecesOf text) :
    trimmed word = word ∧ word.isEmpty = false := by
  obtain ⟨ne_nil, unbroken⟩ := Text.isWord_of_mem_piecesOf member
  constructor
  · rw [trimmed, Text.trimBoth_eq_self unbroken, String.ofList_toList]
  · simpa using ne_nil

/-! The longhand of values. -/

namespace Document

/-- Words in a list. -/
def Words.longhand :
    Words →
    Words
  | .line text => .list (piecesOf text)
  | .list words => .list words

/-- Directive lines in a list. -/
def Lines.longhand :
    Lines →
    Lines
  | .one directive => .many [directive]
  | .many directives => .many directives

/-- Rules in a list. -/
def Rules.longhand :
    Rules →
    Rules
  | .line text => .list (cutAt '|' text)
  | .list rules => .list rules

/-- Bound models in a list, or under the names of their variables. -/
def Models.longhand :
    Models →
    Models
  | .line text => .list (piecesOf text)
  | .list tokens => .list tokens
  | .named tokens => .named tokens

/-- Events with their handlers. -/
def Events.longhand
    (className : String)
    (events : Events) :
    Events :=
  .map (Table.ofList (eventHandlers className (some events)))

/-- The columns of timestamps, unless there are none. -/
def Timestamps.longhand :
    Option Timestamps →
    Timestamps
  | none => .columns ⟨none, none⟩
  | some (.toggle true) => .columns ⟨none, none⟩
  | some (.toggle false) => .toggle false
  | some (.columns given) => .columns given

/-- The column of soft deletes, if there are any. -/
def SoftDeletes.longhand :
    Option SoftDeletes →
    Option SoftDeletes
  | none => none
  | some (.toggle false) => none
  | some (.toggle true) => some (.column usualSoftDeleteColumn)
  | some (.column name) => some (.column name)

/-- A primary key that is switched on is the usual one. -/
def Primary.longhand :
    Option Primary →
    Option Primary
  | some (.toggle true) => none
  | other => other

/-- Authorization that is switched on is the usual one. -/
def Authorize.longhand :
    Option Authorize →
    Option Authorize
  | some (.toggle true) => none
  | other => other

/-- The actions that a policy grants, unless it is switched off. -/
def Policy.longhand :
    Option Policy →
    Policy
  | none => .actions (.list Auth.policyActions)
  | some (.toggle true) => .actions (.list Auth.policyActions)
  | some (.toggle false) => .toggle false
  | some (.actions words) => .actions words.longhand

/-- Resource options with words in lists. -/
def ResourceOptions.longhand
    (options : ResourceOptions) :
    ResourceOptions :=
  { options with
    models := options.models.map Words.longhand
    only := options.only.map Words.longhand
    except := options.except.map Words.longhand }

/-- The options of a resource, if there is one. -/
def Resource.longhand
    (resource : Option Resource) :
    Option Resource :=
  (resourceOptions resource).map fun options => .block options.longhand

/-- A model with what it leaves to switches spelled out. -/
def Model.longhand
    (key : String)
    (model : Model) :
    Model :=
  { model with
    primary := Primary.longhand model.primary
    events := model.events.map (Events.longhand (Context.classOf key))
    timestamps := some (Timestamps.longhand model.timestamps)
    softDeletes := SoftDeletes.longhand model.softDeletes }

/-- Validation with rules in lists. -/
def Validate.longhand :
    Validate →
    Validate
  | .delegated className => .delegated className
  | .fields rules => .fields (rules.map fun _ => Rules.longhand)

/-- An action with all of its lines in lists. -/
def Action.longhand
    (action : Action) :
    Action :=
  { action with
    authorize := Authorize.longhand action.authorize
    validate := action.validate.map Validate.longhand
    models := action.models.map Models.longhand
    fire := action.fire.map Lines.longhand
    notify := action.notify.map Lines.longhand
    flash := action.flash.map Lines.longhand }

/-- A controller with its resource spelled out and all of its actions described. -/
def Controller.longhand
    (controller : Controller) :
    Controller :=
  { controller with
    resource := Resource.longhand controller.resource
    actions := controller.actions.map fun _ action => some (action.getD .blank).longhand }

/-- A form with rules in lists. -/
def Form.longhand
    (form : Form) :
    Form where
  authorize := Authorize.longhand form.authorize
  rules := form.rules.map fun _ => Rules.longhand

/-- A document in which nothing is written in a short way. -/
def longhand
    (document : Document) :
    Document where
  database := { document.database with models := document.database.models.map Model.longhand }
  http :=
    { document.http with
      middleware := document.http.middleware.map fun _ middleware => some (middleware.getD .blank)
      controllers := document.http.controllers.map fun _ => Controller.longhand }
  auth :=
    { document.auth with
      policies := document.auth.policies.map fun _ policy => some (Policy.longhand policy)
      forms := document.auth.forms.map fun _ form => some (form.getD .blank).longhand }

/-- The longhand of words is a list of the same words. -/
@[simp] theorem Words.toList_longhand
    (words : Words) :
    words.longhand.toList = words.toList := by
  cases words with
  | line text =>
      have trimmedAlready : (piecesOf text).map trimmed = (piecesOf text).map id :=
        List.map_congr_left fun word member => (word_of_mem_piecesOf member).1
      simp only [longhand, toList, trimmedAlready, List.map_id, List.filter_eq_self]
      intro word member
      simp [(word_of_mem_piecesOf member).2]
  | list words =>
      rfl

/-- The longhand of one line is a list of that line. -/
@[simp] theorem Lines.toList_longhand
    (lines : Lines) :
    lines.longhand.toList = lines.toList := by
  cases lines <;> rfl

/-- The longhand of rules is a list of the same rules. -/
@[simp] theorem Rules.toList_longhand
    (rules : Rules) :
    rules.longhand.toList = rules.toList := by
  cases rules <;> rfl

/-- The longhand of bound models binds the same ones under the same names. -/
@[simp] theorem Models.entries_longhand
    (models : Models) :
    models.longhand.entries = models.entries := by
  cases models with
  | line text =>
      refine List.map_congr_left fun word member => ?_
      rw [(word_of_mem_piecesOf member).1]
  | list tokens =>
      rfl
  | named tokens =>
      rfl

end Document

/-! What the stages make of longhand. -/

namespace Resolution

/-! Entities. -/

/-- Binding events fails at the first that is not observable, and else inserts them all. -/
theorem accumulate_bindEvent
    (key : String)
    (bound : Table String)
    (entries : List (String × String)) :
    accumulate (bindEvent key) bound entries =
      match (Entries.names entries).find? fun event => event ∉ observableEvents with
      | some event => .error (.missing .event event (key ++ ".events"))
      | none => .ok (bound.insertAll entries) := by
  induction entries generalizing bound with
  | nil =>
      rfl
  | cons entry rest inductionHypothesis =>
      by_cases observable : entry.1 ∈ observableEvents
      · simp only [accumulate, bindEvent, observable, ↓reduceIte, inductionHypothesis,
          Table.insertAll_cons]
        simp [Entries.names, observable]
      · simp [accumulate, bindEvent, Entries.names, observable]

/-- Listed events are handled as those that name the handlers they would get. -/
theorem eventsOf_longhand
    (key : String)
    (events : Option Document.Events) :
    eventsOf key (Context.classOf key)
        (events.map (Document.Events.longhand (Context.classOf key))) =
      eventsOf key (Context.classOf key) events := by
  cases events with
  | none =>
      rfl
  | some events =>
      generalize isHandlers :
        eventHandlers (Context.classOf key) (some events) = handlers
      have namedOnce :
          Entries.names (Table.ofList handlers).entries = (Entries.names handlers).eraseDups :=
        Table.keys_ofList handlers
      simp only [eventsOf, Option.map_some, Document.Events.longhand, isHandlers]
      rw [eventHandlers, accumulate_bindEvent, accumulate_bindEvent, namedOnce,
        FirstOccurrences.find?_eraseDups,
        ← Table.ofList_eq_insertAll, ← Table.ofList_eq_insertAll, Table.ofList_entries]

/-- Timestamps that are switched on or left out have the columns named by default. -/
theorem timestampsOf_longhand
    (timestamps : Option Document.Timestamps) :
    timestampsOf (some (Document.Timestamps.longhand timestamps)) = timestampsOf timestamps := by
  match timestamps with
  | none | some (.toggle true) | some (.toggle false) | some (.columns _) =>
      rfl

/-- A switched soft delete is one by the column named by default, or none. -/
theorem softDeleteOf_longhand
    (softDeletes : Option Document.SoftDeletes) :
    softDeleteOf (Document.SoftDeletes.longhand softDeletes) = softDeleteOf softDeletes := by
  match softDeletes with
  | none | some (.toggle true) | some (.toggle false) | some (.column _) =>
      rfl

/-- A primary key that is switched on is the one of a model without any. -/
theorem primaryOf_longhand
    (key : String)
    (columns : Table Column)
    (primary : Option Document.Primary) :
    primaryOf key columns (Document.Primary.longhand primary) = primaryOf key columns primary := by
  match primary with
  | none | some (.toggle true) | some (.toggle false) | some (.block _) =>
      rfl

/-- A model and its longhand make the same entity, or fail alike. -/
theorem entityOf_longhand
    (space key : String)
    (model : Document.Model) :
    entityOf space key (model.longhand key) = entityOf space key model := by
  simp only [entityOf, Document.Model.longhand, primaryOf_longhand, eventsOf_longhand,
    timestampsOf_longhand, softDeleteOf_longhand]
  rfl

/-! Actions. -/

/-- A directive of one line makes the calls of a list of that line. -/
theorem callsOf_longhand
    (lines : Option Document.Lines) :
    callsOf (lines.map Document.Lines.longhand) = callsOf lines := by
  cases lines with
  | none =>
      rfl
  | some lines =>
      simp [callsOf]

theorem wordsOf_longhand
    (words : Option Document.Words) :
    wordsOf (words.map Document.Words.longhand) = wordsOf words := by
  cases words with
  | none =>
      rfl
  | some words =>
      simp [wordsOf]

theorem fieldMethods_longhand
    (rules : Table Document.Rules) :
    fieldMethods (rules.map fun _ => Document.Rules.longhand) = fieldMethods rules := by
  apply Table.ext
  simp [fieldMethods]

/-- An action binds the same models in longhand. -/
theorem actionModels_longhand
    (context : Context)
    (owner : String)
    (given : List Http.Binding)
    (models : Option Document.Models) :
    actionModels context owner given (models.map Document.Models.longhand) =
      actionModels context owner given models := by
  cases models with
  | none =>
      rfl
  | some models =>
      simp [actionModels, bindModels]

/-- An authorization that is switched on is the one of an action without any. -/
theorem authorizeOf_longhand
    (context : Context)
    (action owner : String)
    (models : List Http.Binding)
    (authorize : Option Document.Authorize) :
    authorizeOf context action owner models (Document.Authorize.longhand authorize) =
      authorizeOf context action owner models authorize := by
  match authorize with
  | none | some (.toggle true) | some (.toggle false) | some (.line _) =>
      rfl

/-- A validation by rules has the same rules in longhand. -/
theorem validationOf_longhand
    (owner : String)
    (validate : Option Document.Validate) :
    whenPresent (validationOf owner) (validate.map Document.Validate.longhand) =
      whenPresent (validationOf owner) validate := by
  match validate with
  | none | some (.delegated _) =>
      rfl
  | some (.fields rules) =>
      simp [whenPresent, Document.Validate.longhand, validationOf, fieldMethods_longhand]

/-- An action and its longhand resolve to the same action, or fail alike. -/
theorem actionOf_longhand
    (context : Context)
    (controller name : String)
    (action : Document.Action)
    (given : List Http.Binding)
    (fromResource : Bool) :
    actionOf context controller name action.longhand given fromResource =
      actionOf context controller name action given fromResource := by
  simp only [actionOf, Document.Action.longhand, actionModels_longhand, authorizeOf_longhand,
    validationOf_longhand, callsOf_longhand]

/-! Controllers. -/

/-- The options of a resource in longhand are the longhand of its options. -/
theorem resourceOptions_longhand
    (resource : Option Document.Resource) :
    resourceOptions (Document.Resource.longhand resource) =
      (resourceOptions resource).map Document.ResourceOptions.longhand := by
  match resource with
  | none | some (.toggle true) | some (.toggle false) | some (.block _) =>
      rfl

/-- A controller is a resource in longhand exactly when it is one. -/
theorem isResource_longhand
    (controller : Document.Controller) :
    controller.longhand.isResource = controller.isResource := by
  obtain ⟨invoke, resource, middleware, actions⟩ := controller
  match resource with
  | none | some (.toggle true) | some (.toggle false) | some (.block _) =>
      rfl

/-- The longhand of an invokable controller has as many actions. -/
theorem invokableShape_longhand
    (key : String)
    (controller : Document.Controller) :
    Document.invokableShape key controller.longhand = Document.invokableShape key controller := by
  have sameSize : controller.longhand.actions.size = controller.actions.size := by
    simp [Document.Controller.longhand, Table.size]
  rw [Document.invokableShape, Document.invokableShape, sameSize, isResource_longhand]

/-- A resource and its longhand have the same entities and actions. -/
theorem resourceOf_longhand
    (context : Context)
    (owner baseName : String)
    (options : Document.ResourceOptions) :
    resourceOf context owner baseName options.longhand =
      resourceOf context owner baseName options := by
  have sameModels :
      (options.longhand.models.map Document.Words.toList) =
        options.models.map Document.Words.toList := by
    simp [Document.ResourceOptions.longhand, Function.comp_def]
  simp only [resourceOf, sameModels]
  simp only [Document.ResourceOptions.longhand, wordsOf_longhand]
  rfl

/-- An action that is named without being described is a blank one in longhand. -/
theorem declared_longhand
    (action : Option (Option Document.Action)) :
    (action.map fun action => some (action.getD .blank).longhand).join.getD .blank =
      (action.join.getD .blank).longhand := by
  match action with
  | none | some none | some (some _) =>
      rfl

/-- An action of a resource resolves alike in longhand, declared or not. -/
theorem resourceAction_longhand
    (context : Context)
    (key : String)
    (controller : Document.Controller)
    (bound : Http.Binding)
    (name : String) :
    resourceAction context key controller.longhand bound name =
      resourceAction context key controller bound name := by
  simp only [resourceAction, Document.Controller.longhand, Table.get?_map, declared_longhand,
    Option.isNone_map, actionOf_longhand]

/-- The action of an invokable controller resolves alike in longhand. -/
theorem invokedAction_longhand
    (context : Context)
    (key : String)
    (controller : Document.Controller) :
    invokedAction context key controller.longhand = invokedAction context key controller := by
  simp only [invokedAction, Document.Controller.longhand, Table.values_map, List.head?_map,
    declared_longhand, actionOf_longhand]

/-- The actions beside those of a resource resolve alike in longhand. -/
theorem otherActions_longhand
    (context : Context)
    (key : String)
    (controller : Document.Controller)
    (expanded : List String) :
    otherActions context key controller.longhand expanded =
      otherActions context key controller expanded := by
  simp only [otherActions, Document.Controller.longhand, Table.entries_map, List.filter_map,
    Function.comp_def, collect_map]
  exact collect_congr fun entry _ => actionOf_longhand context key entry.1 _ [] false

/-- The resource of a controller expands alike in longhand. -/
theorem resourcePart_longhand
    (context : Context)
    (key baseName : String)
    (controller : Document.Controller) :
    resourcePart context key baseName controller.longhand =
      resourcePart context key baseName controller := by
  have sameOptions :
      resourceOptions controller.longhand.resource =
        (resourceOptions controller.resource).map Document.ResourceOptions.longhand :=
    resourceOptions_longhand controller.resource
  have sameActions (bound : Http.Binding) :
      resourceAction context key controller.longhand bound =
        resourceAction context key controller bound := by
    funext name
    exact resourceAction_longhand context key controller bound name
  rw [resourcePart, resourcePart, sameOptions]
  cases resourceOptions controller.resource with
  | none =>
      rfl
  | some options =>
      simp only [Option.map_some, resourceOf_longhand, sameActions]

/-- A controller and its longhand resolve alike, or fail alike. -/
theorem controllerOf_longhand
    (context : Context)
    (key : String)
    (controller : Document.Controller) :
    controllerOf context key controller.longhand = controllerOf context key controller := by
  have sameInvoke : controller.longhand.invoke = controller.invoke := rfl
  have sameParts (baseName : String) :
      controllerParts context key baseName controller.longhand =
        controllerParts context key baseName controller := by
    simp only [controllerParts, sameInvoke, invokableShape_longhand, invokedAction_longhand,
      resourcePart_longhand, otherActions_longhand]
  simp only [controllerOf, sameParts]
  rfl

/-! Policies and forms. -/

/-- A policy grants in longhand what it grants, also where it is left out. -/
theorem policyGrants_longhand
    (owner : String)
    (policy : Option Document.Policy) :
    policyGrants owner (some (Document.Policy.longhand policy)) = policyGrants owner policy := by
  match policy with
  | some (.toggle false) =>
      rfl
  | none | some (.toggle true) =>
      rfl
  | some (.actions words) =>
      simp [policyGrants, Document.Policy.longhand]

/-- A form is authorized alike in longhand. -/
theorem formAuthorization_longhand
    (context : Context)
    (owner : String)
    (authorize : Option Document.Authorize) :
    formAuthorization context owner (Document.Authorize.longhand authorize) =
      formAuthorization context owner authorize := by
  match authorize with
  | none | some (.toggle true) | some (.toggle false) | some (.line _) =>
      rfl

/-! The check and the stages. -/

theorem addEntity_longhand
    (context : Context)
    (entry : String × Document.Model) :
    addEntity context (entry.1, entry.2.longhand entry.1) = addEntity context entry := by
  simp only [addEntity, entityOf_longhand]

/-- A document declares the same relations in longhand. -/
theorem placeholders_longhand
    (document : Document) :
    placeholders document.longhand = placeholders document := by
  have same (entry : String × Document.Model) :
      placeholdersOf (entry.1, entry.2.longhand entry.1) = placeholdersOf entry := rfl
  simp only [placeholders, Document.longhand, Table.entries_map, List.flatMap_map, same]

/-- Middleware without a description is blank middleware. -/
theorem addMiddleware_longhand
    (context : Context)
    (entry : String × Option Document.Middleware) :
    addMiddleware context (entry.1, some (entry.2.getD .blank)) = addMiddleware context entry := rfl

theorem addController_longhand
    (context : Context)
    (entry : String × Document.Controller) :
    addController context (entry.1, entry.2.longhand) = addController context entry := by
  simp only [addController, controllerOf_longhand]

theorem addPolicy_longhand
    (context : Context)
    (entry : String × Option Document.Policy) :
    addPolicy context (entry.1, some (Document.Policy.longhand entry.2)) =
      addPolicy context entry := by
  simp only [addPolicy, policyGrants_longhand]

theorem addForm_longhand
    (context : Context)
    (entry : String × Option Document.Form) :
    addForm context (entry.1, some (entry.2.getD .blank).longhand) = addForm context entry := by
  simp only [addForm, Option.getD_some, Document.Form.longhand, formAuthorization_longhand,
    fieldMethods_longhand]

/-- Every stage runs as it does in longhand. -/
theorem run_longhand
    (document : Document)
    (stage : Stage)
    (context : Context) :
    stage.run document.longhand context = stage.run document context := by
  cases stage with
  | entities =>
      exact Outcome.ofSteps_map_items addEntity_longhand context _
  | relations =>
      simp only [Stage.run, relations, placeholders_longhand]
  | migrations =>
      rfl
  | http =>
      have sameControllers (context : Context) :
          Outcome.ofSteps addController context document.longhand.http.controllers.entries =
            Outcome.ofSteps addController context document.http.controllers.entries :=
        Outcome.ofSteps_map_items addController_longhand context _
      simp only [Stage.run, http, sameControllers]
      congr 1
      exact Outcome.ofSteps_map_items addMiddleware_longhand context _
  | auth =>
      have sameForms (context : Context) :
          Outcome.ofSteps addForm context document.longhand.auth.forms.entries =
            Outcome.ofSteps addForm context document.auth.forms.entries :=
        Outcome.ofSteps_map_items addForm_longhand context _
      have samePolicies (context : Context) :
          Outcome.ofSteps addPolicy context document.longhand.auth.policies.entries =
            Outcome.ofSteps addPolicy context document.auth.policies.entries :=
        Outcome.ofSteps_map_items addPolicy_longhand context _
      simp only [Stage.run, auth, sameForms, samePolicies]
      rfl

/-- Whatever stages are run, they make the same of a document and of its longhand. -/
theorem runStages_longhand
    (document : Document)
    (context : Context)
    (stages : List Stage) :
    runStages document.longhand context stages = runStages document context stages := by
  induction stages generalizing context with
  | nil =>
      rfl
  | cons stage rest inductionHypothesis =>
      simp only [runStages, run_longhand, inductionHypothesis]

/-- The check of a model does not see its longhand. -/
theorem checkModel_longhand
    (entry : String × Document.Model) :
    Document.checkModel (entry.1, entry.2.longhand entry.1) = Document.checkModel entry := by
  obtain ⟨key, model⟩ := entry
  have samePrimary :
      (model.longhand key).primary = Document.Primary.longhand model.primary := rfl
  have sameColumns :
      Document.modelColumns key (model.longhand key) = Document.modelColumns key model := rfl
  have sameType :
      Document.modelType key (model.longhand key) = Document.modelType key model := rfl
  simp only [Document.checkModel, sameColumns, sameType, samePrimary]
  match model.primary with
  | none | some (.toggle true) | some (.toggle false) | some (.block _) =>
      rfl

/-- The check of a controller does not see its longhand. -/
theorem checkController_longhand
    (entry : String × Document.Controller) :
    Document.checkController (entry.1, entry.2.longhand) = Document.checkController entry := by
  simp only [Document.checkController, invokableShape_longhand]
  rfl

/-- A document and its longhand pass the check alike. -/
theorem check_longhand
    (document : Document) :
    document.longhand.check = document.check := by
  have sameModels :
      checkAll Document.checkModel document.longhand.database.models.entries =
        checkAll Document.checkModel document.database.models.entries :=
    checkAll_map checkModel_longhand _
  have sameControllers :
      checkAll Document.checkController document.longhand.http.controllers.entries =
        checkAll Document.checkController document.http.controllers.entries :=
    checkAll_map checkController_longhand _
  simp only [Document.check, sameModels, sameControllers]
  rfl

end Resolution

/-- A document resolves as it does in longhand. -/
theorem resolve_longhand
    (document : Document) :
    resolve document.longhand = resolve document := by
  have sameRun : resolveUnchecked document.longhand = resolveUnchecked document :=
    runStages_longhand document (Context.start document) Stage.all
  simp only [resolve, check_longhand, sameRun]

end Blueprint
