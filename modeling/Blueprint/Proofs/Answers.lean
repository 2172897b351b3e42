import Blueprint.Proofs.Following
import Blueprint.Proofs.Lookup
import Blueprint.Proofs.Stages

namespace Blueprint

/-!
# What is built of the answers of a context

Relations, controllers and policies read nothing of the entities but the answers to look-ups by
name. So what is built in one context follows what is built in another as soon as the answers do,
part by part up to the last two stages. All errors of these parts are either those of a look-up or
errors of the declaration itself.
-/

open Resolution Schema

/-- An error of a declaration by itself, in which no entity has a part. -/
def ResolveError.IsOwn :
    ResolveError →
    Prop
  | .missing kind _ _ => kind ≠ .entity
  | .malformed _ _ => True
  | _ => False

/-- A flaw of the form that a document is checked for before it is resolved. -/
def Flaw.IsShape :
    Flaw →
    Prop
  | .missingColumns | .noColumns | .emptyColumnLine | .linesOnly => True
  | .relationLineRequired | .emptyRelationLine => True
  | .unknownModelType _ | .incompletePrimary => True
  | .invokableActions _ | .invokableResource => True
  | _ => False

/-- An error of the form that a document is checked for before it is resolved. -/
def ResolveError.IsShape :
    ResolveError →
    Prop
  | .malformed _ flaw => flaw.IsShape
  | _ => False

/-- An error that asks for a variable. -/
def ResolveError.AsksVariable :
    ResolveError →
    Prop
  | .missing kind _ _ => kind = .variableName
  | _ => False

/-- An error of a declaration by itself that no check has looked for. -/
def ResolveError.IsUnchecked
    (cause : ResolveError) :
    Prop :=
  cause.IsOwn ∧ ¬cause.IsShape

/-- An error of a declaration by itself that no check has looked for and that asks for no
variable. -/
def ResolveError.IsPlain
    (cause : ResolveError) :
    Prop :=
  cause.IsOwn ∧ ¬cause.IsShape ∧ ¬cause.AsksVariable

/-- The second context answers what the first one answers; where the first has no answer the error
is known, as are these errors of declarations. What reads the contexts follows with fewer or with
more of the errors known, according to what else it checks. -/
structure AnswersAlike
    (errors known : ResolveError → Prop)
    (context other : Context) :
    Prop where
  knownErrors : ∀ cause : ResolveError, errors cause → known cause
  entityKey :
    ∀ name owner,
      Follows known (context.entityKey name owner) (other.entityKey name owner)
  entity :
    ∀ name owner,
      Follows known (context.entity name owner) (other.entity name owner)

namespace AnswersAlike

variable {errors known : ResolveError → Prop} {context other : Context}

/-- Of the errors that are known, some may be forgotten. -/
theorem mono
    {fewer : ResolveError → Prop}
    (alike : AnswersAlike errors known context other)
    (covered : ∀ cause : ResolveError, fewer cause → errors cause) :
    AnswersAlike fewer known context other :=
  { alike with knownErrors := fun cause isFewer => alike.knownErrors cause (covered cause isFewer) }

/-- Errors that no check has looked for are among the own ones of declarations. -/
theorem unchecked
    (alike : AnswersAlike ResolveError.IsOwn known context other) :
    AnswersAlike ResolveError.IsUnchecked known context other :=
  alike.mono fun _ isUnchecked => isUnchecked.1

/-- Errors that ask for no variable are among those that no check has looked for. -/
theorem plain
    (alike : AnswersAlike ResolveError.IsUnchecked known context other) :
    AnswersAlike ResolveError.IsPlain known context other :=
  alike.mono fun _ isPlain => ⟨isPlain.1, isPlain.2.1⟩

/-- That a variable is missing is an error that no check has looked for. -/
theorem variableErrors
    (alike : AnswersAlike ResolveError.IsUnchecked known context other)
    (name owner : String) :
    known (.missing .variableName name owner) :=
  alike.knownErrors _ ⟨ReferenceKind.noConfusion, not_false⟩

/-- Only the entities of a context have a part in its answers. -/
theorem of_entities_eq
    {next later : Context}
    (alike : AnswersAlike errors known context other)
    (same : next.entities = context.entities)
    (otherSame : later.entities = other.entities) :
    AnswersAlike errors known next later where
  knownErrors := alike.knownErrors
  entityKey name owner := by
    rw [Context.entityKey_congr same, Context.entityKey_congr otherSame]
    exact alike.entityKey name owner
  entity name owner := by
    rw [Context.entity_congr same, Context.entity_congr otherSame]
    exact alike.entity name owner

end AnswersAlike

namespace Resolution

/-! Parts that read nothing of a context. -/

section PlainErrors

variable {known : ResolveError → Prop}
variable (plainErrors : ∀ cause : ResolveError, cause.IsPlain → known cause)

include plainErrors

/-- A refusal for another flaw than one of form is known. -/
theorem refuse_follows
    {α : Type}
    {flaw : Flaw}
    (owner : String)
    (second : Except ResolveError α)
    (notShape : ¬flaw.IsShape) :
    Follows known (Document.refuse owner flaw) second :=
  .error (plainErrors (.malformed owner flaw) ⟨trivial, notShape, not_false⟩) second

/-- A missing name of anything but an entity or a variable is known to be missing. -/
theorem missing_follows
    {α : Type}
    {kind : ReferenceKind}
    (notEntity : kind ≠ .entity)
    (notVariable : kind ≠ .variableName)
    (name owner : String)
    (second : Except ResolveError α) :
    Follows known (.error (.missing kind name owner)) second :=
  .error (plainErrors (.missing kind name owner) ⟨notEntity, not_false, notVariable⟩) second

/-- A route reads the models that it is given and its line, and nothing of a context. -/
theorem routeOf_follows
    (controller action owner : String)
    (models : List Http.Binding)
    (declared : Option String) :
    Follows known (routeOf controller action owner models declared)
      (routeOf controller action owner models declared) := by
  cases declared with
  | none =>
      exact .ok _
  | some line =>
      simp only [routeOf, declaredRoute]
      cases RouteLine.ofText? (Text.trimBoth Text.isBlank line.toList) with
      | none =>
          exact refuse_follows plainErrors _ _ not_false
      | some parts =>
          have verb (word : List Char) :
              Follows known (verbOf owner word) (verbOf owner word) := by
            unfold verbOf
            cases Http.Verb.ofWord? (String.ofList word) with
            | none =>
                exact missing_follows plainErrors (by simp) (by simp) _ _ _
            | some verb =>
                exact .ok verb
          have verbs :
              Follows known
                (collect (verbOf owner)
                  ((Text.cut (· == '|') parts.verbs).filter fun word => !word.isEmpty)) _ :=
            .collect fun word _ => verb word
          rcases verbs.cases with ⟨cause, failed, isKnown⟩ | ⟨read, succeeded, _⟩
          · simp only [failed]
            exact .error isKnown _
          · simp only [succeeded]
            exact .ok _

/-- A validation is read off its declaration alone. -/
theorem validationOf_follows
    (owner : String)
    (declared : Document.Validate) :
    Follows known (validationOf owner declared) (validationOf owner declared) := by
  cases declared with
  | delegated text =>
      by_cases isClass : Naming.startsUpper text = true
      · simp only [validationOf, isClass, ↓reduceIte]
        exact .ok _
      · simp only [validationOf, isClass, Bool.false_eq_true, ↓reduceIte]
        exact refuse_follows plainErrors _ _ not_false
  | fields rules =>
      exact .ok _

/-- A redirect is read off its line, which fails only if it is empty. -/
theorem redirectOf_follows
    (owner line : String) :
    Follows known (redirectOf owner line) (redirectOf owner line) := by
  unfold redirectOf
  cases piecesOf line with
  | nil =>
      exact refuse_follows plainErrors _ _ not_false
  | cons target arguments =>
      dsimp only
      split
      · exact .ok _
      · split <;> exact .ok _

/-- A view is read off its line, which fails only if it is empty. -/
theorem viewOf_follows
    (owner line : String) :
    Follows known (viewOf owner line) (viewOf owner line) := by
  unfold viewOf
  cases piecesOf line with
  | nil =>
      exact refuse_follows plainErrors _ _ not_false
  | cons name variableNames =>
      exact .ok _

/-- Whether a word is a resource action is known without a context. -/
theorem checkResourceAction_follows
    (owner action : String) :
    Follows known (checkResourceAction owner action) (checkResourceAction owner action) := by
  by_cases isAction : action ∈ Http.resourceActions
  · simp only [checkResourceAction, isAction, ↓reduceIte]
    exact .ok ()
  · simp only [checkResourceAction, isAction, ↓reduceIte]
    exact missing_follows plainErrors (by simp) (by simp) _ _ _

/-- What a policy grants is read off its declaration alone. -/
theorem policyGrants_follows
    (owner : String)
    (declared : Option Document.Policy) :
    Follows known (policyGrants owner declared) (policyGrants owner declared) := by
  match declared with
  | none | some (.toggle true) | some (.toggle false) =>
      exact .ok _
  | some (.actions words) =>
      refine Follows.map ?_ some
      unfold grantedActions
      split
      · exact missing_follows plainErrors (by simp) (by simp) _ _ _
      · exact .ok _

/-- Forms read the gates and the policies only. -/
theorem formEntry_follows
    {context other : Context}
    (sameGates : other.gates = context.gates)
    (samePolicies : other.policies = context.policies)
    (entry : String × Option Document.Form) :
    Follows known (formEntry context entry) (formEntry other entry) := by
  have sameKnowledge : knowsAbility other = knowsAbility context := by
    funext ability
    rw [knowsAbility, knowsAbility, sameGates, samePolicies]
  refine Follows.map ?_ _
  match (entry.2.getD .blank).authorize with
  | none | some (.toggle true) | some (.toggle false) =>
      exact .ok _
  | some (.line line) =>
      simp only [formAuthorization, sameKnowledge]
      split
      · exact .ok _
      · exact missing_follows plainErrors (by simp) (by simp) _ _ _

end PlainErrors

variable {known : ResolveError → Prop} {context other : Context}

/-! Relation lines. -/

/-- The target of a relation is looked up by the first argument of its line. -/
theorem targetOf_follows
    (alike : AnswersAlike ResolveError.IsPlain known context other)
    (owner : String)
    (kind : RelationKind)
    (arguments : List Argument) :
    Follows known (targetOf context owner kind arguments)
      (targetOf other owner kind arguments) := by
  cases arguments with
  | nil =>
      simp only [targetOf]
      split
      · exact .ok none
      · exact refuse_follows alike.knownErrors _ _ not_false
  | cons argument rest =>
      exact (alike.entityKey argument.text owner).map some

/-- The entity that a relation goes through is looked up by its second argument. -/
theorem throughOf_follows
    (alike : AnswersAlike ResolveError.IsPlain known context other)
    (owner : String)
    (kind : RelationKind)
    (arguments : List Argument) :
    Follows known (throughOf context owner kind arguments)
      (throughOf other owner kind arguments) := by
  unfold throughOf
  split
  · cases arguments[1]? with
    | none =>
        exact refuse_follows alike.knownErrors _ _ not_false
    | some argument =>
        exact (alike.entityKey argument.text owner).map some
  · exact .ok none

/-- A pivot entity is looked up, and its type is an answer that is kept. -/
theorem pivotOf_follows
    (alike : AnswersAlike ResolveError.IsPlain known context other)
    (owner : String)
    (kind : RelationKind)
    (method : Method) :
    Follows known (pivotOf context owner kind method) (pivotOf other owner kind method) := by
  unfold pivotOf
  cases method.firstLiteral? with
  | none =>
      exact refuse_follows alike.knownErrors _ _ not_false
  | some name =>
      rcases (alike.entity name owner).cases with
        ⟨cause, failed, isKnown⟩ | ⟨entity, found, also⟩
      · simp only [failed]
        exact .error isKnown _
      · simp only [found, also]
        split
        · exact .ok _
        · exact refuse_follows alike.knownErrors _ _ not_false

/-- Of the modifiers of a relation only the one for a pivot reads a context. -/
theorem modify_follows
    (alike : AnswersAlike ResolveError.IsPlain known context other)
    (owner : String)
    (relation : Relation)
    (method : Method) :
    Follows known (modify context owner relation method)
      (modify other owner relation method) := by
  unfold modify
  split
  · exact .ok _
  · split
    · exact .ok _
    · split
      · exact (pivotOf_follows alike owner relation.kind method).map _
      · exact .ok _

/-- A relation follows its line, as long as an empty line is known to be an error. -/
theorem relationOf_follows
    (alike : AnswersAlike ResolveError.IsPlain known context other)
    (name : String)
    {line owner : String}
    (noHead : Method.ofLine line = [] → known (.malformed owner .emptyRelationLine)) :
    Follows known (relationOf context name line owner) (relationOf other name line owner) := by
  unfold relationOf
  cases methods : Method.ofLine line with
  | nil =>
      exact .error (noHead methods) _
  | cons head modifiers =>
      dsimp only
      cases RelationKind.ofWord? head.name with
      | none =>
          exact missing_follows alike.knownErrors (by simp) (by simp) _ _ _
      | some kind =>
          refine (targetOf_follows alike owner kind head.arguments).bind fun target => ?_
          refine (throughOf_follows alike owner kind head.arguments).bind fun through => ?_
          exact .accumulate fun relation method _ => modify_follows alike owner relation method

/-- The column of a relation reads its target, which is looked up once more. -/
theorem belongingColumnOf_follows
    (alike : AnswersAlike ResolveError.IsPlain known context other)
    (name owner : String)
    (relation : Relation) :
    Follows known (belongingColumnOf context name owner relation)
      (belongingColumnOf other name owner relation) := by
  unfold belongingColumnOf
  cases relation.kind with
  | belongsTo =>
      cases relation.target with
      | none =>
          exact refuse_follows alike.knownErrors _ _ not_false
      | some key =>
          rcases (alike.entity key owner).cases with
            ⟨cause, failed, isKnown⟩ | ⟨entity, found, also⟩
          · simp only [failed]
            exact .error isKnown _
          · simp only [found, also]
            exact .ok _
  | _ =>
      exact .ok _

/-! Directives of actions. -/

/-- A bound model is looked up, and its columns decide whether it may be bound by one. -/
theorem bindModel_follows
    (alike : AnswersAlike ResolveError.IsPlain known context other)
    (owner : String)
    (entry : Document.ModelEntry) :
    Follows known (bindModel context owner entry) (bindModel other owner entry) := by
  unfold bindModel
  rcases (alike.entity (splitToken entry.token).1 owner).cases with
    ⟨cause, failed, isKnown⟩ | ⟨entity, found, also⟩
  · simp only [failed]
    exact .error isKnown _
  · simp only [found, also]
    cases (splitToken entry.token).2.or entity.routeBinding with
    | none =>
        exact .ok _
    | some column =>
        dsimp only
        split
        · exact .ok _
        · exact missing_follows alike.knownErrors (by simp) (by simp) _ _ _

/-- The models of an action are those that are given or those that it binds. -/
theorem actionModels_follows
    (alike : AnswersAlike ResolveError.IsPlain known context other)
    (owner : String)
    (given : List Http.Binding)
    (declared : Option Document.Models) :
    Follows known (actionModels context owner given declared)
      (actionModels other owner given declared) := by
  cases declared with
  | none =>
      exact .ok given
  | some models =>
      exact .collect fun entry _ => bindModel_follows alike owner entry

/-- The first word after an ability is looked up if it starts with a capital letter. -/
theorem abilityWord_follows
    (alike : AnswersAlike ResolveError.IsPlain known context other)
    (owner : String)
    (found : Option String × List String)
    (word : String) :
    Follows known (abilityWord context owner found word)
      (abilityWord other owner found word) := by
  unfold abilityWord
  split
  · exact (alike.entityKey word _).map _
  · exact .ok _

/-- The authorization of an action looks up at most the first word after its ability. -/
theorem authorizeOf_follows
    (alike : AnswersAlike ResolveError.IsPlain known context other)
    (action owner : String)
    (models : List Http.Binding)
    (declared : Option Document.Authorize) :
    Follows known (authorizeOf context action owner models declared)
      (authorizeOf other action owner models declared) := by
  match declared with
  | none | some (.toggle true) | some (.toggle false) =>
      exact .ok _
  | some (.line line) =>
      simp only [authorizeOf]
      cases piecesOf line with
      | nil =>
          exact refuse_follows alike.knownErrors _ _ not_false
      | cons ability words =>
          refine Follows.map ?_ _
          exact .accumulate fun found word _ => abilityWord_follows alike owner found word

/-- What a query starts from is looked up as an entity or is in scope. -/
theorem querySource_follows
    (alike : AnswersAlike ResolveError.IsUnchecked known context other)
    (scope : List String)
    (owner head : String) :
    Follows known (querySource context scope owner head)
      (querySource other scope owner head) := by
  unfold querySource
  split
  · exact (alike.entityKey head owner).map _
  · split
    · exact .ok _
    · exact .error (alike.variableErrors head owner) _

/-- A query follows what it starts from; its calls read nothing. -/
theorem queryOf_follows
    (alike : AnswersAlike ResolveError.IsUnchecked known context other)
    (scope : List String)
    (owner : String)
    (entry : String × String) :
    Follows known (queryOf context scope owner entry) (queryOf other scope owner entry) := by
  unfold queryOf
  cases piecesOf entry.2 with
  | nil =>
      exact refuse_follows alike.plain.knownErrors _ _ not_false
  | cons head calls =>
      exact (querySource_follows alike scope _ head).map _

/-- Queries follow one by one, each in the scope of those before it. -/
theorem queriesOf_follows
    (alike : AnswersAlike ResolveError.IsUnchecked known context other)
    (models : List Http.Binding)
    (owner : String)
    (queries : Table String) :
    Follows known (queriesOf context models owner queries)
      (queriesOf other models owner queries) :=
  .accumulate fun _ entry _ => (queryOf_follows alike _ owner entry).map _

/-- What is saved is looked up only if it is named like an entity. -/
theorem saveOf_follows
    (alike : AnswersAlike ResolveError.IsPlain known context other)
    (owner : String)
    (fromFormRequest : Bool)
    (declared : Document.Save) :
    Follows known (saveOf context owner fromFormRequest declared)
      (saveOf other owner fromFormRequest declared) := by
  cases declared with
  | target text =>
      simp only [saveOf]
      split
      · exact (alike.entity (trimmed text) _).map _
      · exact .ok _
  | merge attributes =>
      simp only [saveOf]
      split
      · exact .ok _
      · exact refuse_follows alike.knownErrors _ _ not_false

/-- What is deleted is in scope or known to be missing. -/
theorem checkDelete_follows
    (alike : AnswersAlike ResolveError.IsUnchecked known context other)
    (scope : List String)
    (owner : String)
    (declared : Option String) :
    Follows known (checkDelete scope owner declared) (checkDelete scope owner declared) := by
  cases declared with
  | none =>
      exact .ok ()
  | some variableName =>
      by_cases inScope : variableName ∈ scope
      · simp only [checkDelete, inScope, ↓reduceIte]
        exact .ok ()
      · simp only [checkDelete, inScope, ↓reduceIte]
        exact .error (alike.variableErrors variableName _) _

/-- Actions follow as soon as their queries do and what they delete is checked alike. -/
theorem actionOf_follows_of_directives
    (alike : AnswersAlike ResolveError.IsPlain known context other)
    {controller name : String}
    {declared : Document.Action}
    {given : List Http.Binding}
    (fromResource : Bool)
    (queriesFollow :
      ∀ models,
        actionModels context (controller ++ "." ++ name) given declared.models = .ok models →
        Follows known (queriesOf context models (controller ++ "." ++ name) declared.queries)
          (queriesOf other models (controller ++ "." ++ name) declared.queries))
    (deleteFollows :
      ∀ models queries,
        actionModels context (controller ++ "." ++ name) given declared.models = .ok models →
        queriesOf context models (controller ++ "." ++ name) declared.queries = .ok queries →
        Follows known
          (checkDelete (models.map (·.variableName) ++ queries.map (·.variableName))
            (controller ++ "." ++ name) declared.delete)
          (checkDelete (models.map (·.variableName) ++ queries.map (·.variableName))
            (controller ++ "." ++ name) declared.delete)) :
    Follows known (actionOf context controller name declared given fromResource)
      (actionOf other controller name declared given fromResource) := by
  have plain := alike.knownErrors
  refine (actionModels_follows alike _ given declared.models).bind_of_ok fun models bound => ?_
  refine (routeOf_follows plain controller name _ models declared.route).bind fun route => ?_
  refine (authorizeOf_follows alike name _ models declared.authorize).bind fun authorize => ?_
  refine (Follows.whenPresent (validationOf_follows plain _) declared.validate).bind
    fun validate => ?_
  refine (queriesFollow models bound).bind_of_ok fun queries read => ?_
  refine (Follows.whenPresent (saveOf_follows alike _ _) declared.save).bind fun save => ?_
  refine (deleteFollows models queries bound read).bind fun _ => ?_
  refine (Follows.whenPresent (redirectOf_follows plain _) declared.redirect).bind
    fun redirect => ?_
  refine (Follows.whenPresent (viewOf_follows plain _) declared.view).bind fun view => ?_
  exact .ok _

/-- Actions follow in full where missing variables are known. -/
theorem actionOf_follows
    (alike : AnswersAlike ResolveError.IsUnchecked known context other)
    (controller name : String)
    (declared : Document.Action)
    (given : List Http.Binding)
    (fromResource : Bool) :
    Follows known (actionOf context controller name declared given fromResource)
      (actionOf other controller name declared given fromResource) :=
  actionOf_follows_of_directives alike.plain fromResource
    (fun models _ => queriesOf_follows alike models _ declared.queries)
    (fun _ _ _ _ => checkDelete_follows alike _ _ declared.delete)

/-! Controllers. -/

/-- The check of a controller fails with errors of its own. -/
theorem checkController_follows
    (ownErrors : ∀ cause : ResolveError, cause.IsOwn → known cause)
    (entry : String × Document.Controller) :
    Follows known (Document.checkController entry) (Document.checkController entry) := by
  unfold Document.checkController Document.invokableShape
  split
  · split
    · exact .error (ownErrors (.malformed _ _) trivial) _
    · split
      · exact .error (ownErrors (.malformed _ _) trivial) _
      · exact .ok ()
  · exact .ok ()

/-- The entities of a resource are looked up; its actions are only checked. -/
theorem resourceOf_follows
    (alike : AnswersAlike ResolveError.IsPlain known context other)
    (owner baseName : String)
    (options : Document.ResourceOptions) :
    Follows known (resourceOf context owner baseName options)
      (resourceOf other owner baseName options) := by
  refine Follows.bind (.collect fun name _ => alike.entityKey name owner) fun entities => ?_
  split
  · exact refuse_follows alike.knownErrors _ _ not_false
  · refine Follows.bind (.checkAll fun action _ => ?_) fun _ => .ok _
    exact checkResourceAction_follows alike.knownErrors owner action

/-- A resource binds the first of its entities. -/
theorem resourceBinding_follows
    (alike : AnswersAlike ResolveError.IsPlain known context other)
    (owner : String)
    (resource : Http.Resource) :
    Follows known (resourceBinding context owner resource)
      (resourceBinding other owner resource) := by
  unfold resourceBinding
  cases resource.entities with
  | nil =>
      exact refuse_follows alike.knownErrors _ _ not_false
  | cons key rest =>
      exact (alike.entity key owner).map _

/-- A resource follows with the actions that it expands to. -/
theorem resourcePart_follows
    (alike : AnswersAlike ResolveError.IsUnchecked known context other)
    (key baseName : String)
    (controller : Document.Controller) :
    Follows known (resourcePart context key baseName controller)
      (resourcePart other key baseName controller) := by
  unfold resourcePart
  cases resourceOptions controller.resource with
  | none =>
      exact .ok _
  | some options =>
      refine (resourceOf_follows alike.plain _ baseName options).bind fun resource => ?_
      refine (resourceBinding_follows alike.plain _ resource).bind fun bound => ?_
      refine Follows.bind (.collect fun name _ => ?_) fun actions => .ok _
      exact actionOf_follows alike key name _ _ _

/-- A controller follows as soon as its own shape is known to be right or wrong. -/
theorem controllerParts_follows
    (alike : AnswersAlike ResolveError.IsUnchecked known context other)
    {key : String}
    (baseName : String)
    {controller : Document.Controller}
    (shape :
      ∀ cause,
        Document.checkController (key, controller) = .error cause →
        known cause) :
    Follows known (controllerParts context key baseName controller)
      (controllerParts other key baseName controller) := by
  unfold controllerParts
  split
  · next isInvokable =>
    have invokable :
        Follows known (Document.invokableShape key controller)
          (Document.invokableShape key controller) := by
      apply Follows.self
      simpa only [Document.checkController, isInvokable, ↓reduceIte] using shape
    refine invokable.bind fun _ => ?_
    exact (actionOf_follows alike key _ _ _ _).bind fun action => .ok _
  · refine (resourcePart_follows alike key baseName controller).bind fun part => ?_
    refine Follows.bind (.collect fun entry _ => ?_) fun others => .ok _
    exact actionOf_follows alike key entry.1 _ _ _

/-- The controller of a declaration follows in contexts of one namespace. -/
theorem controllerEntry_follows
    (alike : AnswersAlike ResolveError.IsUnchecked known context other)
    (sameSpace : other.httpSpace = context.httpSpace)
    {entry : String × Document.Controller}
    (shape : ∀ cause, Document.checkController entry = .error cause → known cause) :
    Follows known (controllerEntry context entry) (controllerEntry other entry) := by
  unfold controllerEntry controllerOf
  rw [sameSpace]
  exact ((controllerParts_follows alike _ shape).map _).map _

/-! Policies. -/

/-- The policy of a declaration looks up its entity unless it is switched off. -/
theorem policyEntry_follows
    (alike : AnswersAlike ResolveError.IsPlain known context other)
    (entry : String × Option Document.Policy) :
    Follows known (policyEntry context entry) (policyEntry other entry) := by
  unfold policyEntry
  rcases (policyGrants_follows alike.knownErrors ("policies." ++ entry.1) entry.2).cases with
    ⟨cause, failed, isKnown⟩ | ⟨grants, granted, _⟩
  · simp only [failed]
    exact .error isKnown _
  · simp only [granted]
    cases grants with
    | none =>
        exact .ok none
    | some actions =>
        exact (alike.entity entry.1 _).map _

/-! The last two stages. -/

/-- The contexts answer alike and hold the same in the tables of the last two stages. -/
structure Agree
    (known : ResolveError → Prop)
    (context other : Context) :
    Prop where
  alike : AnswersAlike ResolveError.IsOwn known context other
  httpSpace_eq : other.httpSpace = context.httpSpace
  middleware_eq : other.middleware = context.middleware
  controllers_eq : other.controllers = context.controllers
  gates_eq : other.gates = context.gates
  policies_eq : other.policies = context.policies
  forms_eq : other.forms = context.forms

/-- The middleware and the controllers of contexts that agree agree again. -/
theorem http_follows
    {document next : Document}
    (sameSection : next.http = document.http)
    (agree : Agree known context other) :
    Outcome.Follows known (Agree known) (http document context) (http next other) := by
  unfold http
  rw [sameSection]
  have shown :
      Outcome.Follows known (Agree known)
        (Outcome.ofSteps addMiddleware context document.http.middleware.entries) _ :=
    fills_addMiddleware.ofSteps_follows agree.middleware_eq
      (fun table =>
        { agree with
          alike := agree.alike.of_entities_eq rfl rfl
          middleware_eq := rfl })
      fun entry _ => .ok _
  refine shown.andThen fun context other agree => ?_
  exact fills_addController.ofSteps_follows agree.controllers_eq
    (fun table =>
      { agree with
        alike := agree.alike.of_entities_eq rfl rfl
        controllers_eq := rfl })
    fun entry _ =>
      controllerEntry_follows agree.alike.unchecked agree.httpSpace_eq
        (checkController_follows agree.alike.knownErrors entry).of_error

/-- The gates, policies and forms of contexts that agree agree again. -/
theorem auth_follows
    {document next : Document}
    (sameSection : next.auth = document.auth)
    (agree : Agree known context other) :
    Outcome.Follows known (Agree known) (auth document context) (auth next other) := by
  unfold auth
  rw [sameSection]
  have gated :
      Outcome.Follows known (Agree known)
        (Outcome.ofSteps addGate context document.auth.gates.entries) _ :=
    fills_addGate.ofSteps_follows agree.gates_eq
      (fun table =>
        { agree with
          alike := agree.alike.of_entities_eq rfl rfl
          gates_eq := rfl })
      fun entry _ => .ok _
  refine (gated.andThen fun context other agree => ?_).andThen fun context other agree => ?_
  · exact fills_addPolicy.ofSteps_follows agree.policies_eq
      (fun table =>
        { agree with
          alike := agree.alike.of_entities_eq rfl rfl
          policies_eq := rfl })
      fun entry _ => policyEntry_follows agree.alike.unchecked.plain entry
  · exact fills_addForm.ofSteps_follows agree.forms_eq
      (fun table =>
        { agree with
          alike := agree.alike.of_entities_eq rfl rfl
          forms_eq := rfl })
      fun entry _ =>
        formEntry_follows agree.alike.unchecked.plain.knownErrors agree.gates_eq
          agree.policies_eq entry

end Resolution

end Blueprint
