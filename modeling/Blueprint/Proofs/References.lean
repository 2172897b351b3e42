import Blueprint.Proofs.LinkedEntities

namespace Blueprint

/-!
# References from controllers

Whatever a directive of an action names is looked up among the entities, so that the resolved
action stores their keys only. A bound column is one of its entity, whether it was declared at the
binding or comes from the entity itself.
-/

open Schema

namespace Http

/-- A bound model is an entity, and the column that binds it is one of its columns. -/
def Binding.LeadsInto
    (entities : Table Entity)
    (binding : Binding) :
    Prop :=
  ∃ entity,
    entities.get? binding.entity = some entity ∧
      ∀ column ∈ binding.column, column ∈ entity.columns.keys

/-- The entity that an authorization names. -/
def Authorize.entity? :
    Authorize →
    Option String
  | disabled => none
  | ability _ entity _ => entity

/-- The entity that a query starts from. -/
def QuerySource.entity? :
    QuerySource →
    Option String
  | entity key => some key
  | result _ => none

/-- All entities that an action names are there. -/
structure Action.LeadsInto
    (entities : Table Entity)
    (action : Action) :
    Prop where
  models : ∀ binding ∈ action.models, binding.LeadsInto entities
  authorize : ∀ key ∈ action.authorize.entity?, key ∈ entities.keys
  queries : ∀ query ∈ action.queries, ∀ key ∈ query.source.entity?, key ∈ entities.keys
  save : ∀ save ∈ action.save, ∀ key ∈ save.entity, key ∈ entities.keys

/-- All entities that a controller names are there. -/
structure Controller.LeadsInto
    (entities : Table Entity)
    (controller : Controller) :
    Prop where
  resource : ∀ resource ∈ controller.resource, ∀ key ∈ resource.entities, key ∈ entities.keys
  actions : ∀ action ∈ controller.actions, action.LeadsInto entities

end Http

namespace Resolution

open Http

variable {context : Context}

/-- An entity that is found stands under its own key. -/
theorem mem_keys_of_entity
    (wellLinked : context.WellLinked)
    {name owner : String}
    {entity : Entity}
    (found : context.entity name owner = .ok entity) :
    entity.key ∈ context.entities.keys :=
  Table.mem_keys_iff.mpr ⟨entity, Context.get?_of_entity wellLinked.keyed found⟩

/-- A token binds an entity by a column that was checked to be there. -/
theorem bindModel_leadsInto
    (wellLinked : context.WellLinked)
    {owner : String}
    {entry : Document.ModelEntry}
    {binding : Binding}
    (bound : bindModel context owner entry = .ok binding) :
    binding.LeadsInto context.entities := by
  obtain ⟨entity, found, rfl, isColumn⟩ := bindModel_eq_ok_iff.mp bound
  exact ⟨entity, Context.get?_of_entity wellLinked.keyed found, isColumn⟩

/-- Bound models are entities of the context. -/
theorem bindModels_leadsInto
    (wellLinked : context.WellLinked)
    {owner : String}
    {models : Document.Models}
    {bindings : List Binding}
    (bound : bindModels context owner models = .ok bindings) :
    ∀ binding ∈ bindings, binding.LeadsInto context.entities := by
  intro binding member
  obtain ⟨entry, _, isBound⟩ := exists_of_mem_collect bound member
  exact bindModel_leadsInto wellLinked isBound

/-- Of the words of an authorization only a class is stored as an entity. -/
theorem abilityWord_leadsInto
    (wellLinked : context.WellLinked)
    {owner word : String}
    {found next : Option String × List String}
    (leads : ∀ key ∈ found.1, key ∈ context.entities.keys)
    (read : abilityWord context owner found word = .ok next) :
    ∀ key ∈ next.1, key ∈ context.entities.keys := by
  by_cases isClass : (found.1.isNone && found.2.isEmpty && Naming.startsUpper word) = true
  · simp only [abilityWord, isClass, ↓reduceIte, map_eq_ok_iff] at read
    obtain ⟨known, lookedUp, rfl⟩ := read
    intro key isKnown
    rw [Option.mem_some_iff] at isKnown
    exact isKnown ▸ Context.mem_keys_of_entityKey wellLinked.keyed lookedUp
  · simp only [abilityWord, isClass, Bool.false_eq_true, ↓reduceIte, Except.ok.injEq] at read
    subst read
    exact leads

theorem authorizeOf_leadsInto
    (wellLinked : context.WellLinked)
    {action owner : String}
    {models : List Binding}
    {declared : Option Document.Authorize}
    {authorize : Authorize}
    (resolved : authorizeOf context action owner models declared = .ok authorize) :
    ∀ key ∈ authorize.entity?, key ∈ context.entities.keys := by
  match declared with
  | none | some (.toggle true) | some (.toggle false) =>
      simp only [authorizeOf, Except.ok.injEq] at resolved
      subst resolved
      simp [Authorize.entity?]
  | some (.line line) =>
      cases pieces : piecesOf line with
      | nil =>
          simp [authorizeOf, pieces, Document.refuse] at resolved
      | cons ability words =>
          simp only [authorizeOf, pieces, map_eq_ok_iff] at resolved
          obtain ⟨found, read, rfl⟩ := resolved
          exact accumulate_invariant
            (fun found : Option String × List String =>
              ∀ key ∈ found.1, key ∈ context.entities.keys)
            (by simp)
            (fun _ _ _ _ leads step => abilityWord_leadsInto wellLinked leads step)
            read

theorem queryOf_leadsInto
    (wellLinked : context.WellLinked)
    {scope : List String}
    {owner : String}
    {entry : String × String}
    {query : Query}
    (resolved : queryOf context scope owner entry = .ok query) :
    ∀ key ∈ query.source.entity?, key ∈ context.entities.keys := by
  cases pieces : piecesOf entry.2 with
  | nil =>
      simp [queryOf, pieces, Document.refuse] at resolved
  | cons head calls =>
      simp only [queryOf, pieces, map_eq_ok_iff] at resolved
      obtain ⟨source, isSource, rfl⟩ := resolved
      by_cases isClass : Naming.startsUpper head = true
      · simp only [querySource, isClass, ↓reduceIte, map_eq_ok_iff] at isSource
        obtain ⟨known, lookedUp, rfl⟩ := isSource
        intro key isKnown
        simp only [QuerySource.entity?, Option.mem_some_iff] at isKnown
        exact isKnown ▸ Context.mem_keys_of_entityKey wellLinked.keyed lookedUp
      · by_cases inScope : head ∈ scope
        · simp only [querySource, isClass, inScope, Bool.false_eq_true, ↓reduceIte,
            Except.ok.injEq] at isSource
          subst isSource
          simp [QuerySource.entity?]
        · simp [querySource, isClass, inScope] at isSource

/-- Queries start from entities of the context or from variables. -/
theorem queriesOf_leadsInto
    (wellLinked : context.WellLinked)
    {models : List Binding}
    {owner : String}
    {declared : Table String}
    {queries : List Query}
    (resolved : queriesOf context models owner declared = .ok queries) :
    ∀ query ∈ queries, ∀ key ∈ query.source.entity?, key ∈ context.entities.keys := by
  apply accumulate_invariant
    (fun queries : List Query =>
      ∀ query ∈ queries, ∀ key ∈ query.source.entity?, key ∈ context.entities.keys)
    _ _ resolved
  · simp
  · intro done entry next _ leads added
    obtain ⟨query, isQuery, rfl⟩ := map_eq_ok_iff.mp added
    intro other member
    rcases List.mem_append.mp member with former | isNew
    · exact leads other former
    · rw [List.mem_singleton] at isNew
      exact isNew ▸ queryOf_leadsInto wellLinked isQuery

theorem saveOf_leadsInto
    (wellLinked : context.WellLinked)
    {owner : String}
    {fromFormRequest : Bool}
    {declared : Document.Save}
    {save : Save}
    (resolved : saveOf context owner fromFormRequest declared = .ok save) :
    ∀ key ∈ save.entity, key ∈ context.entities.keys := by
  cases declared with
  | target text =>
      by_cases isClass : Naming.startsUpper text = true
      · simp only [saveOf, isClass, ↓reduceIte, map_eq_ok_iff] at resolved
        obtain ⟨entity, found, rfl⟩ := resolved
        intro key isKey
        rw [Option.mem_some_iff] at isKey
        exact isKey ▸ mem_keys_of_entity wellLinked found
      · simp only [saveOf, isClass, Bool.false_eq_true, ↓reduceIte, Except.ok.injEq] at resolved
        subst resolved
        simp
  | merge attributes =>
      match entries : attributes.entries with
      | [(variableName, values)] =>
          simp only [saveOf, entries, Except.ok.injEq] at resolved
          subst resolved
          simp
      | [] | _ :: _ :: _ =>
          simp [saveOf, entries, Document.refuse] at resolved

theorem whenPresent_eq_ok_iff
    {α β : Type}
    {step : α → Except ResolveError β}
    {part : Option α}
    {resolved : Option β} :
    whenPresent step part = .ok resolved ↔
      (part = none ∧ resolved = none) ∨
        ∃ value result, part = some value ∧ step value = .ok result ∧ resolved = some result := by
  cases part with
  | none =>
      simp [whenPresent, eq_comm]
  | some value =>
      simp [whenPresent, map_eq_ok_iff, eq_comm (b := resolved)]

/-- An action names only entities that are there if the bindings that it is given do. -/
theorem actionOf_leadsInto
    (wellLinked : context.WellLinked)
    {controller name : String}
    {declared : Document.Action}
    {given : List Binding}
    {fromResource : Bool}
    {action : Action}
    (givenLead : ∀ binding ∈ given, binding.LeadsInto context.entities)
    (resolved : actionOf context controller name declared given fromResource = .ok action) :
    action.LeadsInto context.entities := by
  simp only [actionOf, bind_eq_ok_iff, pure_eq_ok_iff] at resolved
  obtain ⟨models, hasModels, _, _, authorize, hasAuthorize, _, _, queries, hasQueries, save,
    hasSave, _, _, _, _, _, _, rfl⟩ := resolved
  exact {
    models := by
      cases declaredModels : declared.models with
      | none =>
          simp only [declaredModels, actionModels, Except.ok.injEq] at hasModels
          exact hasModels ▸ givenLead
      | some entries =>
          rw [declaredModels] at hasModels
          exact bindModels_leadsInto wellLinked hasModels
    authorize := authorizeOf_leadsInto wellLinked hasAuthorize
    queries := queriesOf_leadsInto wellLinked hasQueries
    save := by
      rcases whenPresent_eq_ok_iff.mp hasSave with ⟨_, rfl⟩ | ⟨_, result, _, isSave, rfl⟩
      · simp
      · intro other isResult
        cases isResult
        exact saveOf_leadsInto wellLinked isSave }

theorem resourceOf_leadsInto
    (wellLinked : context.WellLinked)
    {owner baseName : String}
    {options : Document.ResourceOptions}
    {resource : Resource}
    (resolved : resourceOf context owner baseName options = .ok resource) :
    ∀ key ∈ resource.entities, key ∈ context.entities.keys := by
  simp only [resourceOf, bind_eq_ok_iff] at resolved
  obtain ⟨entities, found, checked⟩ := resolved
  have known : ∀ key ∈ entities, key ∈ context.entities.keys := by
    intro key isEntity
    obtain ⟨name, _, lookedUp⟩ := exists_of_mem_collect found isEntity
    exact Context.mem_keys_of_entityKey wellLinked.keyed lookedUp
  by_cases isEmpty : entities.isEmpty = true
  · simp [isEmpty, Document.refuse] at checked
  · simp only [isEmpty, Bool.false_eq_true, ↓reduceIte, bind_eq_ok_iff, pure_eq_ok_iff] at checked
    obtain ⟨_, _, rfl⟩ := checked
    intro key isEntity
    by_cases isJson : options.json = true
    · simp only [isJson, ↓reduceIte] at isEntity
      exact known key (List.mem_of_mem_take isEntity)
    · simp only [isJson, Bool.false_eq_true, ↓reduceIte] at isEntity
      exact known key isEntity

/-- A resource binds its entity by the column that the entity itself is bound by. -/
theorem resourceBinding_leadsInto
    (wellLinked : context.WellLinked)
    {owner : String}
    {resource : Resource}
    {binding : Binding}
    (resolved : resourceBinding context owner resource = .ok binding) :
    binding.LeadsInto context.entities := by
  obtain ⟨key, others, entity, _, found, rfl⟩ := resourceBinding_eq_ok_iff.mp resolved
  have stored := Context.get?_of_entity wellLinked.keyed found
  have isEntity := Table.mem_values_iff.mpr ⟨entity.key, stored⟩
  exact ⟨entity, stored, (wellLinked.selfContained entity isEntity).routeBinding_mem⟩

/-- A resource and the actions that come of it name only entities that are there. -/
theorem resourcePart_leadsInto
    (wellLinked : context.WellLinked)
    {key baseName : String}
    {controller : Document.Controller}
    {resource : Option Resource}
    {actions : List Action}
    (resolved : resourcePart context key baseName controller = .ok (resource, actions)) :
    (∀ present ∈ resource, ∀ key ∈ present.entities, key ∈ context.entities.keys) ∧
      ∀ action ∈ actions, action.LeadsInto context.entities := by
  cases options : resourceOptions controller.resource with
  | none =>
      simp only [resourcePart, options, Except.ok.injEq, Prod.mk.injEq] at resolved
      obtain ⟨rfl, rfl⟩ := resolved
      simp
  | some options' =>
      simp only [resourcePart, options, bind_eq_ok_iff, pure_eq_ok_iff, Prod.mk.injEq] at resolved
      obtain ⟨present, isResource, bound, isBound, built, isBuilt, rfl, rfl⟩ := resolved
      have boundLeads := resourceBinding_leadsInto wellLinked isBound
      constructor
      · intro other isPresent
        cases isPresent
        exact resourceOf_leadsInto wellLinked isResource
      · intro action member
        obtain ⟨name, _, isAction⟩ := exists_of_mem_collect isBuilt member
        refine actionOf_leadsInto wellLinked ?_ isAction
        intro binding isGiven
        by_cases bindsModel : name ∈ resourceModelActions
        · simp only [bindsModel, ↓reduceIte, List.mem_singleton] at isGiven
          exact isGiven ▸ boundLeads
        · simp [bindsModel] at isGiven

/-- A controller refers to no entities but those of the context. -/
theorem controllerOf_leadsInto
    (wellLinked : context.WellLinked)
    {key : String}
    {declared : Document.Controller}
    {controller : Controller}
    (resolved : controllerOf context key declared = .ok controller) :
    controller.LeadsInto context.entities := by
  simp only [controllerOf, map_eq_ok_iff] at resolved
  obtain ⟨⟨resource, actions⟩, hasParts, rfl⟩ := resolved
  by_cases invokes : declared.invoke = true
  · simp only [controllerParts, invokes, ↓reduceIte, bind_eq_ok_iff, pure_eq_ok_iff,
      Prod.mk.injEq] at hasParts
    obtain ⟨_, _, action, isAction, rfl, rfl⟩ := hasParts
    refine ⟨by simp, ?_⟩
    intro other isOther
    rw [List.mem_singleton] at isOther
    exact isOther ▸ actionOf_leadsInto wellLinked (by simp) isAction
  · simp only [controllerParts, invokes, Bool.false_eq_true, ↓reduceIte, bind_eq_ok_iff,
      pure_eq_ok_iff, Prod.exists, Prod.mk.injEq] at hasParts
    obtain ⟨present, expanded, isResource, others, areOthers, rfl, rfl⟩ := hasParts
    obtain ⟨resourceLeads, expandedLead⟩ := resourcePart_leadsInto wellLinked isResource
    refine ⟨resourceLeads, ?_⟩
    intro action member
    rcases List.mem_append.mp member with isExpanded | isOther
    · exact expandedLead action isExpanded
    · obtain ⟨entry, _, isAction⟩ := exists_of_mem_collect areOthers isOther
      exact actionOf_leadsInto wellLinked (by simp) isAction

end Resolution

end Blueprint
