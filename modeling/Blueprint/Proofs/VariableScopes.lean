import Blueprint.Proofs.ActionSources
import Blueprint.Proofs.Answers

namespace Blueprint

/-!
# Scopes of variables

The directives of an action read the variables of its bound models and of its queries: a query reads
those of the queries before it, and a deletion those of all. An action that is made keeps to this
scope, and it is only a name outside of the scope for which a controller fails with a missing
variable.
-/

open Http Resolution Schema

/-- A query that reads a variable reads that of a bound model or of a query before it. -/
def Http.ReadInOrder
    (models : List Binding)
    (queries : List Query) :
    Prop :=
  ∀ position query variableName,
    queries[position]? = some query →
    query.source = .result variableName →
    (∃ binding ∈ models, binding.variableName = variableName) ∨
      ∃ earlier ∈ queries.take position, earlier.variableName = variableName

/-- The directives of an action name only variables in scope. -/
structure Http.Action.Scoped
    (action : Action) :
    Prop where
  queries : ReadInOrder action.models action.queries
  delete : ∀ variableName, action.delete = some variableName → variableName ∈ action.scope

/-- All actions of a plan keep to their scopes. -/
def Plan.Scoped
    (plan : Plan) :
    Prop :=
  ∀ controller ∈ plan.http.controllers.values,
    ∀ action ∈ controller.actions,
      action.Scoped

namespace Document

/-- A directive of an action names a variable that is not in its scope, and an error says so. -/
inductive Action.LacksVariable
    (declared : Action)
    (owner : String)
    (bound : List String) :
    ResolveError →
    Prop
  | query
      (earlier later : List (String × String))
      (name line head : String)
      (calls : List String)
      (entries_eq : declared.queries.entries = earlier ++ (name, line) :: later)
      (reads : piecesOf line = head :: calls)
      (isVariable : Naming.startsUpper head = false)
      (notBound : head ∉ bound)
      (notRead : head ∉ Entries.names earlier) :
      LacksVariable declared owner bound
        (.missing .variableName head (owner ++ ".queries." ++ name))
  | delete
      (variableName : String)
      (deletes : declared.delete = some variableName)
      (notBound : variableName ∉ bound)
      (notRead : variableName ∉ declared.queries.keys) :
      LacksVariable declared owner bound
        (.missing .variableName variableName (owner ++ ".delete"))

/-- An action of a controller fails in a context for a variable that is not in its scope. -/
def LacksVariable
    (document : Document)
    (context : Context)
    (cause : ResolveError) :
    Prop :=
  ∃ key declared,
    document.http.controllers.get? key = some declared ∧
      ∃ resource bound,
        resourceHead context key declared = .ok (resource, bound) ∧
          ∃ source ∈ actionSources declared bound,
            source.make context key = .error cause ∧
              ∃ models,
                actionModels context (key ++ "." ++ source.name) source.given
                    source.declared.models = .ok models ∧
                  source.declared.LacksVariable (key ++ "." ++ source.name)
                    (models.map (·.variableName)) cause

end Document

namespace Resolution

variable {context : Context}

/-! Queries that are read. -/

/-- Read one more query after those that are done. -/
def readQuery
    (context : Context)
    (models : List Binding)
    (owner : String)
    (done : List Query)
    (entry : String × String) :
    Except ResolveError (List Query) :=
  let scope := models.map (·.variableName) ++ done.map (·.variableName)
  (queryOf context scope owner entry).map fun query => done ++ [query]

theorem queriesOf_eq
    (context : Context)
    (models : List Binding)
    (owner : String)
    (queries : Table String) :
    queriesOf context models owner queries =
      accumulate (readQuery context models owner) [] queries.entries :=
  rfl

/-- A query is read of a line with a first word, and starts from what that word names. -/
theorem queryOf_eq_ok_iff
    {scope : List String}
    {owner : String}
    {entry : String × String}
    {query : Query} :
    queryOf context scope owner entry = .ok query ↔
      ∃ head calls source,
        piecesOf entry.2 = head :: calls ∧
          querySource context scope (owner ++ ".queries." ++ entry.1) head = .ok source ∧
          query = ⟨entry.1, source, calls.map Method.ofDirective⟩ := by
  unfold queryOf
  cases words : piecesOf entry.2 with
  | nil =>
      simp [Document.refuse]
  | cons head calls =>
      dsimp only
      rw [map_eq_ok_iff]
      constructor
      · rintro ⟨source, isSource, rfl⟩
        exact ⟨head, calls, source, rfl, isSource, rfl⟩
      · rintro ⟨_, _, source, same, isSource, rfl⟩
        cases same
        exact ⟨source, isSource, rfl⟩

theorem variableName_of_queryOf
    {scope : List String}
    {owner : String}
    {entry : String × String}
    {query : Query}
    (read : queryOf context scope owner entry = .ok query) :
    query.variableName = entry.1 := by
  obtain ⟨_, _, _, _, _, rfl⟩ := queryOf_eq_ok_iff.mp read
  rfl

/-- A query reads nothing but what is in scope. -/
theorem mem_scope_of_queryOf
    {scope : List String}
    {owner : String}
    {entry : String × String}
    {query : Query}
    (read : queryOf context scope owner entry = .ok query)
    {variableName : String}
    (reads : query.source = .result variableName) :
    variableName ∈ scope := by
  obtain ⟨head, _, source, _, isSource, rfl⟩ := queryOf_eq_ok_iff.mp read
  have isVariable : source = .result variableName := reads
  subst isVariable
  unfold querySource at isSource
  split at isSource
  · obtain ⟨_, _, impossible⟩ := map_eq_ok_iff.mp isSource
    cases impossible
  · split at isSource
    · cases isSource
      assumption
    · cases isSource

/-- The queries that are done bear the names of their entries. -/
theorem map_variableName_of_readQuery
    {models : List Binding}
    {owner : String}
    {entries : List (String × String)}
    {queries : List Query}
    (read : accumulate (readQuery context models owner) [] entries = .ok queries) :
    queries.map (·.variableName) = Entries.names entries := by
  refine accumulate_traced
    (fun earlier done : List _ => done.map Query.variableName = Entries.names earlier) rfl ?_ read
  intro earlier former entry next named step
  obtain ⟨query, isRead, rfl⟩ := map_eq_ok_iff.mp step
  simp [Entries.names, named, variableName_of_queryOf isRead]

/-- Queries have the names that they are declared under, in order. -/
theorem map_variableName_of_queriesOf
    {models : List Binding}
    {owner : String}
    {declared : Table String}
    {queries : List Query}
    (read : queriesOf context models owner declared = .ok queries) :
    queries.map (·.variableName) = declared.keys :=
  map_variableName_of_readQuery read

/-- One more query keeps the order of reading if it reads what is in scope. -/
theorem readInOrder_concat
    {models : List Binding}
    {done : List Query}
    {query : Query}
    (inOrder : ReadInOrder models done)
    (inScope :
      ∀ variableName,
        query.source = .result variableName →
        variableName ∈ models.map (·.variableName) ++ done.map (·.variableName)) :
    ReadInOrder models (done ++ [query]) := by
  intro position reader variableName found reads
  rcases Nat.lt_or_ge position done.length with before | notBefore
  · rw [List.getElem?_append_left before] at found
    rw [List.take_append_of_le_length (Nat.le_of_lt before)]
    exact inOrder position reader variableName found reads
  · obtain ⟨inBounds, _⟩ := List.getElem?_eq_some_iff.mp found
    have isLast : position = done.length := by
      rw [List.length_append, List.length_singleton] at inBounds
      omega
    subst isLast
    rw [List.getElem?_concat_length, Option.some.injEq] at found
    subst found
    rw [List.take_left']
    · simpa only [List.mem_append, List.mem_map] using inScope variableName reads
    · rfl

/-- Every query has been read in the scope of those before it. -/
theorem readInOrder_of_queriesOf
    {models : List Binding}
    {owner : String}
    {declared : Table String}
    {queries : List Query}
    (read : queriesOf context models owner declared = .ok queries) :
    ReadInOrder models queries := by
  rw [queriesOf_eq] at read
  refine accumulate_invariant (ReadInOrder models) ?_ ?_ read
  · intro position query variableName found
    simp at found
  · intro former entry next _ inOrder step
    obtain ⟨query, isRead, rfl⟩ := map_eq_ok_iff.mp step
    exact readInOrder_concat inOrder fun variableName reads => mem_scope_of_queryOf isRead reads

/-- What may be deleted is in scope. -/
theorem mem_scope_of_checkDelete
    {scope : List String}
    {owner variableName : String}
    (checked : checkDelete scope owner (some variableName) = .ok ()) :
    variableName ∈ scope := by
  by_contra missed
  simp [checkDelete, missed] at checked

/-- An action that is made uses no variable out of scope. -/
theorem ActionSource.Makes.scoped
    {source : ActionSource}
    {controller : String}
    {action : Action}
    (makes : source.Makes context controller action) :
    action.Scoped where
  queries := readInOrder_of_queriesOf makes.queries_read
  delete variableName deletes := by
    have checked := makes.delete_checked
    rw [← makes.delete_eq, deletes] at checked
    exact mem_scope_of_checkDelete checked

/-! Variables that are missing. -/

/-- The error of a look-up asks for no variable. -/
theorem not_asksVariable_of_isLookup
    {cause : ResolveError}
    (isLookup : cause.IsLookup) :
    ¬cause.AsksVariable := by
  unfold ResolveError.IsLookup at isLookup
  split at isLookup
  · subst isLookup
    exact ReferenceKind.noConfusion
  · exact not_false
  · exact isLookup.elim

/-- The answers of a context to names never ask for a variable. -/
theorem answersAlike_of_asksVariable
    {known : ResolveError → Prop}
    (others : ∀ cause : ResolveError, ¬cause.AsksVariable → known cause)
    (context : Context) :
    AnswersAlike ResolveError.IsPlain known context context where
  knownErrors cause isPlain := others cause isPlain.2.2
  entityKey _ _ := .self fun cause failed =>
    others cause (not_asksVariable_of_isLookup (Context.isLookup_of_entityKey_error failed))
  entity _ _ := .self fun cause failed =>
    others cause (not_asksVariable_of_isLookup (Context.isLookup_of_entity_error failed))

/-- The resource of a controller is settled without a variable. -/
theorem not_asksVariable_of_resourceHead
    {key : String}
    {declared : Document.Controller}
    {cause : ResolveError}
    (failed : resourceHead context key declared = .error cause) :
    ¬cause.AsksVariable := by
  have alike :
      AnswersAlike ResolveError.IsPlain (fun cause => ¬cause.AsksVariable) context context :=
    answersAlike_of_asksVariable (fun _ notAsked => notAsked) context
  unfold resourceHead at failed
  split at failed
  · rcases bind_eq_error_iff.mp failed with misshapen | ⟨_, _, impossible⟩
    · unfold Document.invokableShape at misshapen
      split at misshapen
      · cases misshapen
        exact not_false
      · split at misshapen <;> cases misshapen
        exact not_false
    · cases impossible
  · split at failed
    · cases failed
    · simp only [bind_eq_error_iff] at failed
      rcases failed with notResolved | ⟨resource, _, notBound | ⟨_, _, impossible⟩⟩
      · exact (resourceOf_follows alike _ _ _).of_error cause notResolved
      · exact (resourceBinding_follows alike _ resource).of_error cause notBound
      · cases impossible

/-- A query that asks for a variable starts with one that is not in scope. -/
theorem asked_of_queryOf_error
    {scope : List String}
    {owner : String}
    {entry : String × String}
    {cause : ResolveError}
    (failed : queryOf context scope owner entry = .error cause)
    (asks : cause.AsksVariable) :
    ∃ head calls,
      piecesOf entry.2 = head :: calls ∧
        Naming.startsUpper head = false ∧
        head ∉ scope ∧
        cause = .missing .variableName head (owner ++ ".queries." ++ entry.1) := by
  unfold queryOf at failed
  cases words : piecesOf entry.2 with
  | nil =>
      simp only [words, Document.refuse, Except.error.injEq] at failed
      subst failed
      exact asks.elim
  | cons head calls =>
      simp only [words, map_eq_error_iff, querySource] at failed
      refine ⟨head, calls, rfl, ?_⟩
      split at failed
      · rw [map_eq_error_iff] at failed
        exact absurd asks
          (not_asksVariable_of_isLookup (Context.isLookup_of_entityKey_error failed))
      · next isVariable =>
        split at failed
        · cases failed
        · next missed =>
          cases failed
          exact ⟨by simpa using isVariable, missed, rfl⟩

/-- A query that asks for a variable asks for one that is out of its scope. -/
theorem lacksVariable_of_queriesOf_error
    {declared : Document.Action}
    {models : List Binding}
    {owner : String}
    {cause : ResolveError}
    (failed : queriesOf context models owner declared.queries = .error cause)
    (asks : cause.AsksVariable) :
    declared.LacksVariable owner (models.map (·.variableName)) cause := by
  rw [queriesOf_eq] at failed
  obtain ⟨earlier, ⟨name, line⟩, later, done, split, read, fails⟩ :=
    exists_failing_of_accumulate failed
  obtain ⟨head, calls, reads, isVariable, missed, rfl⟩ :=
    asked_of_queryOf_error (map_eq_error_iff.mp fails) asks
  rw [map_variableName_of_readQuery read, List.mem_append, not_or] at missed
  exact .query earlier later name line head calls split reads isVariable missed.1 missed.2

/-- A deletion that asks for a variable asks for one that is out of scope. -/
theorem lacksVariable_of_checkDelete_error
    {declared : Document.Action}
    {models : List Binding}
    {queries : List Query}
    {owner : String}
    {cause : ResolveError}
    (read : queriesOf context models owner declared.queries = .ok queries)
    (failed :
      checkDelete (models.map (·.variableName) ++ queries.map (·.variableName)) owner
        declared.delete = .error cause) :
    declared.LacksVariable owner (models.map (·.variableName)) cause := by
  rw [map_variableName_of_queriesOf read] at failed
  cases deletes : declared.delete with
  | none =>
      simp [deletes, checkDelete] at failed
  | some variableName =>
      simp only [deletes, checkDelete] at failed
      split at failed
      · cases failed
      · next missed =>
        cases failed
        rw [List.mem_append, not_or] at missed
        exact .delete variableName deletes missed.1 missed.2

/-- An action that fails for a variable lacks it. -/
theorem lacksVariable_of_make_error
    {source : ActionSource}
    {controller : String}
    {cause : ResolveError}
    (failed : source.make context controller = .error cause)
    (asks : cause.AsksVariable) :
    ∃ models,
      actionModels context (controller ++ "." ++ source.name) source.given
          source.declared.models = .ok models ∧
        source.declared.LacksVariable (controller ++ "." ++ source.name)
          (models.map (·.variableName)) cause := by
  have follows :
      Follows
        (fun cause =>
          cause.AsksVariable →
          ∃ models,
            actionModels context (controller ++ "." ++ source.name) source.given
                source.declared.models = .ok models ∧
              source.declared.LacksVariable (controller ++ "." ++ source.name)
                (models.map (·.variableName)) cause)
        (source.make context controller) (source.make context controller) := by
    apply actionOf_follows_of_directives
      (answersAlike_of_asksVariable (fun _ notAsked asks => absurd asks notAsked) context)
    · intro models bound
      exact .self fun cause failed asks =>
        ⟨models, bound, lacksVariable_of_queriesOf_error failed asks⟩
    · intro models queries bound read
      exact .self fun cause failed _ =>
        ⟨models, bound, lacksVariable_of_checkDelete_error read failed⟩
  exact follows.of_error cause failed asks

/-- The last but one stage fails where one of its controllers does. -/
theorem exists_controllerOf_error_of_http
    {document : Document}
    {cause : ResolveError}
    (failed : (http document context).error = some cause) :
    ∃ key declared,
      document.http.controllers.get? key = some declared ∧
        controllerOf context key declared = .error cause := by
  rw [http, Outcome.andThen_error_eq_some_iff] at failed
  rcases failed with notShown | ⟨_, notControlled⟩
  · rw [fills_addMiddleware.ofSteps_eq] at notShown
    obtain ⟨_, _, impossible⟩ := exists_item_of_failure? notShown
    cases impossible
  · rw [fills_addMiddleware.ofSteps_eq, fills_addController.ofSteps_eq] at notControlled
    obtain ⟨⟨key, declared⟩, member, fails⟩ := exists_item_of_failure? notControlled
    exact ⟨key, declared, Table.get?_eq_some_iff.mpr member, map_eq_error_iff.mp fails⟩

/-- A variable that the HTTP stage asks for is out of scope where it is used. -/
theorem lacksVariable_of_http_error
    {document : Document}
    {cause : ResolveError}
    (failed : (http document context).error = some cause)
    (asks : cause.AsksVariable) :
    document.LacksVariable context cause := by
  obtain ⟨key, declared, isDeclared, fails⟩ := exists_controllerOf_error_of_http failed
  rcases of_controllerOf_error fails with
    atHead | ⟨resource, bound, isSettled, source, member, notMade⟩
  · exact absurd asks (not_asksVariable_of_resourceHead atHead)
  · exact ⟨key, declared, isDeclared, resource, bound, isSettled, source, member, notMade,
      lacksVariable_of_make_error notMade asks⟩

/-- The actions of a plan use no variables out of scope. -/
theorem Resolves.scoped
    {document : Document}
    (resolves : Resolves document) :
    (settled document).plan.Scoped := by
  intro controller isController action member
  obtain ⟨key, found⟩ := Table.mem_values_iff.mp isController
  obtain ⟨declared, _, made⟩ := resolves.get?_plan_controllers_eq_some_iff.mp found
  obtain ⟨bound, _, areMade⟩ := sources_of_controllerOf made
  obtain ⟨source, _, isMade⟩ := exists_of_mem_collect areMade member
  exact (ActionSource.makes_of_make isMade).scoped

end Resolution

/-- In a plan directives name only variables in scope, and in no context do controllers fail for a
variable but where a directive names one that is not in scope. -/
theorem scoped_and_lacksVariable
    (document : Document) :
    (∀ plan, resolve document = .ok plan → plan.Scoped) ∧
      ∀ context variableName owner,
        (Resolution.http document context).error =
          some (.missing .variableName variableName owner) →
        document.LacksVariable context (.missing .variableName variableName owner) := by
  constructor
  · intro plan resolved
    obtain ⟨resolves, rfl⟩ := resolve_eq_ok_iff.mp resolved
    exact resolves.scoped
  · intro context variableName owner failed
    exact lacksVariable_of_http_error failed rfl

/-- Tagged posts with one controller. -/
def Document.ofController
    (controller : Document.Controller) :
    Document where
  database := taggedDocument.database
  http :=
    { Document.Http.blank with
      controllers := Table.ofList [("PostController", controller)] }
  auth := Document.Auth.blank

/-- Tagged posts that are shown after some queries, of which the first is deleted. -/
def Document.ofQueries
    (queries : List (String × String)) :
    Document :=
  Document.ofController
    { Document.Controller.blank with
      resource := some (.block
        { Document.ResourceOptions.blank with only := some (.line "show") })
      actions := Table.ofList
        [("show", some
          { Document.Action.blank with
            queries := Table.ofList queries
            delete := some "first" })] }

/-- A query may read the post that is shown and the query before it, but not the one after it. -/
theorem scoped_and_lacksVariable_ofQueries :
    (∃ plan,
      resolve (Document.ofQueries [("tags", "post tags"), ("first", "tags first")]) = .ok plan ∧
        plan.Scoped) ∧
      ∃ context,
        (Document.ofQueries [("first", "tags first"), ("tags", "post tags")]).LacksVariable context
          (.missing .variableName "tags" "PostController.show.queries.first") := by
  have isOk :
      (resolve (Document.ofQueries [("tags", "post tags"), ("first", "tags first")])).isOk =
        true := by
    decide +kernel
  obtain ⟨plan, resolved⟩ := exists_eq_ok_of_isOk isOk
  let reversed := Document.ofQueries [("first", "tags first"), ("tags", "post tags")]
  have failed :
      (Resolution.http reversed (tabled reversed)).error =
        some (.missing .variableName "tags" "PostController.show.queries.first") := by
    decide +kernel
  exact ⟨⟨plan, resolved, (scoped_and_lacksVariable _).1 plan resolved⟩, tabled reversed,
    (scoped_and_lacksVariable reversed).2 _ _ _ failed⟩

end Blueprint
