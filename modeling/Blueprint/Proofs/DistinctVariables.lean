import Blueprint.Proofs.Expansion
import Blueprint.Proofs.VariableScopes

namespace Blueprint

/-!
# Distinct variables

The queries of an action are kept under their variables, which are therefore distinct. The variables
of its bound models need not be: a model that is given without one is bound after its class, so that
two models of one class, or one model twice, come to the same variable, and a query may have the
variable of a model. What a document says is enough to tell whether the variables of all actions are
distinct.
-/

open Http Resolution Schema

/-- The variables of every action of a plan are distinct. -/
def Plan.VariablesDistinct
    (plan : Plan) :
    Prop :=
  ∀ controller ∈ plan.http.controllers.values,
    ∀ action ∈ controller.actions,
      action.scope.Nodup

instance
    (plan : Plan) :
    Decidable plan.VariablesDistinct :=
  inferInstanceAs (Decidable (∀ controller ∈ plan.http.controllers.values, ∀ _, _))

namespace Document

/-- A declared model is bound to the variable that it names, or else to one after its class. -/
def NamesVariable
    (document : Document)
    (entry : ModelEntry)
    (variableName : String) :
    Prop :=
  entry.variableName = some variableName ∨
    (entry.variableName = none ∧
      ∃ key,
        document.Refers (splitToken entry.token).1 key ∧
          variableName = Naming.camel (Context.classOf key))

/-- What each action of a controller says, and whether it binds the model of the resource unless it
declares models itself. -/
def Controller.descriptions
    (declared : Controller) :
    List (Action × Bool) :=
  if declared.invoke then
    [(declared.actions.values.head?.join.getD .blank, false)]
  else
    declared.actionNames.map fun name =>
      (declared.description name, declared.BindsResource name)

/-- The variables of the models that an action binds: those of the models that it declares, or else
that of the first model of the resource if it binds that one. -/
inductive BindsVariables
    (document : Document)
    (key : String)
    (declared : Controller) :
    Action × Bool →
    List String →
    Prop
  | models
      (description : Action)
      (inherits : Bool)
      (models : Models)
      (variableNames : List String)
      (declares : description.models = some models)
      (named : List.Forall₂ document.NamesVariable models.tokens variableNames) :
      BindsVariables document key declared (description, inherits) variableNames
  | resource
      (description : Action)
      (first model : String)
      (declaresNone : description.models = none)
      (isFirst : (resourceNames key declared.resource).head? = some first)
      (refers : document.Refers first model) :
      BindsVariables document key declared (description, true)
        [Naming.camel (Context.classOf model)]
  | nothing
      (description : Action)
      (declaresNone : description.models = none) :
      BindsVariables document key declared (description, false) []

/-- No action of a document binds two models to one variable or has a query of that variable. -/
def VariablesApart
    (document : Document) :
    Prop :=
  ∀ key declared,
    document.http.controllers.get? key = some declared →
    ∀ described ∈ declared.descriptions,
      ∀ variableNames,
        document.BindsVariables key declared described variableNames →
        variableNames.Nodup ∧ variableNames.Disjoint described.1.queries.keys

variable {document : Document}

theorem rightUnique_namesVariable :
    Relator.RightUnique document.NamesVariable := by
  intro entry variableName other names otherNames
  rcases names with isNamed | ⟨unnamed, key, refers, rfl⟩
  · rcases otherNames with otherIsNamed | ⟨otherUnnamed, _⟩
    · exact Option.some.inj (isNamed.symm.trans otherIsNamed)
    · cases isNamed.symm.trans otherUnnamed
  · rcases otherNames with otherIsNamed | ⟨_, otherKey, otherRefers, rfl⟩
    · cases unnamed.symm.trans otherIsNamed
    · rw [refers.unique otherRefers]

/-- A document leaves no choice of the variables that an action binds. -/
theorem BindsVariables.unique
    {key : String}
    {declared : Controller}
    {described : Action × Bool}
    {variableNames others : List String}
    (binds : document.BindsVariables key declared described variableNames)
    (otherBinds : document.BindsVariables key declared described others) :
    variableNames = others := by
  cases binds with
  | models description inherits models _ declares named =>
      cases otherBinds with
      | models _ _ _ _ otherDeclares otherNamed =>
          cases Option.some.inj (declares.symm.trans otherDeclares)
          exact rightUnique_namesVariable.forall₂ named otherNamed
      | resource _ _ _ declaresNone =>
          cases declares.symm.trans declaresNone
      | nothing _ declaresNone =>
          cases declares.symm.trans declaresNone
  | resource description first model declaresNone isFirst refers =>
      cases otherBinds with
      | models _ _ _ _ otherDeclares =>
          cases declaresNone.symm.trans otherDeclares
      | resource _ _ _ _ otherIsFirst otherRefers =>
          cases Option.some.inj (isFirst.symm.trans otherIsFirst)
          rw [refers.unique otherRefers]
  | nothing description declaresNone =>
      cases otherBinds with
      | models _ _ _ _ otherDeclares =>
          cases declaresNone.symm.trans otherDeclares
      | nothing =>
          rfl

end Document

namespace Resolution

variable {document : Document} {context : Context}
variable {key : String} {declared : Document.Controller}

/-- The sources of actions say what is described, and are given the model of the resource where it
is to be bound. -/
theorem map_actionSources
    (declared : Document.Controller)
    (bound : List Binding) :
    (actionSources declared bound).map (fun source => (source.declared, source.given)) =
      declared.descriptions.map fun described =>
        (described.1, if described.2 then bound else []) := by
  unfold actionSources Document.Controller.descriptions
  split
  · rfl
  · simp [sourceOf]

/-- Where the model of the resource is to be bound, there is one. -/
theorem exists_firstModel_of_descriptions
    (hasModels : HasModels document context)
    {resource : Option Resource}
    {bound : List Binding}
    {description : Document.Action}
    (settled : resourceHead context key declared = .ok (resource, bound))
    (described : (description, true) ∈ declared.descriptions) :
    ∃ entity,
      FirstModel document context.entities key declared resource entity ∧
        bound = [usualBinding entity] := by
  unfold Document.Controller.descriptions at described
  split at described
  · simp at described
  · next notInvoked =>
    obtain ⟨name, _, same⟩ := List.mem_map.mp described
    have inherits : declared.BindsResource name := by
      simpa using congrArg Prod.snd same
    exact exists_firstModel_of_resourceHead hasModels settled (by simpa using notInvoked)
      inherits.1

theorem namesVariable_of_binds
    (hasModels : HasModels document context)
    {entry : Document.ModelEntry}
    {binding : Binding}
    (binds : document.Binds context.entities entry binding) :
    document.NamesVariable entry binding.variableName := by
  obtain ⟨entity, refers, stored, _, isNamed, _⟩ := binds
  cases given : entry.variableName with
  | none =>
      rw [given, hasModels.className_eq _ _ stored] at isNamed
      exact .inr ⟨given, entity.key, refers, isNamed⟩
  | some variableName =>
      rw [given] at isNamed
      exact .inl (given.trans (congrArg some isNamed.symm))

/-- What an action binds has the variables that the document tells. -/
theorem bindsVariables_of_actionModels
    (hasModels : HasModels document context)
    {owner : String}
    {resource : Option Resource}
    {bound models : List Binding}
    {described : Document.Action × Bool}
    (settled : resourceHead context key declared = .ok (resource, bound))
    (isDescribed : described ∈ declared.descriptions)
    (read :
      actionModels context owner (if described.2 then bound else []) described.1.models =
        .ok models) :
    document.BindsVariables key declared described (models.map (·.variableName)) := by
  obtain ⟨description, inherits⟩ := described
  cases declares : description.models with
  | some declaredModels =>
      simp only [declares, actionModels, bindModels, collect_eq_ok_iff] at read
      refine .models description inherits declaredModels _ declares ?_
      rw [List.forall₂_map_right_iff]
      exact read.imp fun entry binding isBound =>
        namesVariable_of_binds hasModels (binds_of_bindModel hasModels isBound)
  | none =>
      simp only [declares, actionModels, Except.ok.injEq] at read
      cases inherits with
      | false =>
          rw [← read]
          exact .nothing description declares
      | true =>
          obtain ⟨entity, isFirst, rfl⟩ :=
            exists_firstModel_of_descriptions hasModels settled isDescribed
          obtain ⟨first, isNamed, refers⟩ := isFirst.named
          have ofClass := hasModels.className_eq _ _ isFirst.stored
          have variableNames :
              models.map (·.variableName) =
                [Naming.camel (Context.classOf entity.key)] := by
            rw [← read, ← ofClass]
            rfl
          rw [variableNames]
          exact .resource description first entity.key declares isNamed refers

/-- The variables of queries are distinct among themselves. -/
theorem ActionSource.Makes.nodup_scope_iff
    {source : ActionSource}
    {action : Action}
    (makes : source.Makes context key action) :
    action.scope.Nodup ↔
      (action.models.map (·.variableName)).Nodup ∧
        (action.models.map (·.variableName)).Disjoint source.declared.queries.keys := by
  rw [Action.scope, map_variableName_of_queriesOf makes.queries_read, List.nodup_append',
    and_iff_right source.declared.queries.nodup_keys]

/-- The variables of all actions of a controller are distinct exactly when those are apart that its
actions bind by the document. -/
theorem forall_nodup_scope_iff
    (hasModels : HasModels document context)
    {controller : Controller}
    (resolved : controllerOf context key declared = .ok controller) :
    (∀ action ∈ controller.actions, action.scope.Nodup) ↔
      ∀ described ∈ declared.descriptions,
        ∀ variableNames,
          document.BindsVariables key declared described variableNames →
          variableNames.Nodup ∧ variableNames.Disjoint described.1.queries.keys := by
  obtain ⟨bound, settled, areMade⟩ := sources_of_controllerOf resolved
  rw [collect_eq_ok_iff] at areMade
  have sources := map_actionSources declared bound
  constructor
  · intro distinct described isDescribed variableNames binds
    obtain ⟨source, isSource, same⟩ := List.mem_map.mp (sources ▸ List.mem_map_of_mem isDescribed)
    obtain ⟨action, member, made⟩ := exists_of_mem_matched areMade.flip isSource
    have makes := ActionSource.makes_of_make made
    obtain ⟨sameDeclared, sameGiven⟩ := Prod.mk.inj same
    have read := makes.models_read
    rw [sameDeclared, sameGiven] at read
    rw [binds.unique (bindsVariables_of_actionModels hasModels settled isDescribed read),
      ← sameDeclared]
    exact makes.nodup_scope_iff.mp (distinct action member)
  · intro apart action member
    obtain ⟨source, isSource, made⟩ := exists_of_mem_matched areMade member
    obtain ⟨described, isDescribed, same⟩ :=
      List.mem_map.mp (sources ▸ List.mem_map_of_mem isSource)
    have makes := ActionSource.makes_of_make made
    obtain ⟨sameDeclared, sameGiven⟩ := Prod.mk.inj same
    have read := makes.models_read
    rw [← sameDeclared, ← sameGiven] at read
    rw [makes.nodup_scope_iff, ← sameDeclared]
    exact apart described isDescribed _
      (bindsVariables_of_actionModels hasModels settled isDescribed read)

end Resolution

/-- In the plan of a document the variables of every action are distinct exactly when no action of
the document binds two models to one variable or has a query of that variable. -/
theorem variablesDistinct_iff
    {document : Document}
    {plan : Plan}
    (resolved : resolve document = .ok plan) :
    plan.VariablesDistinct ↔ document.VariablesApart := by
  obtain ⟨resolves, rfl⟩ := resolve_eq_ok_iff.mp resolved
  constructor
  · intro distinct key declared isDeclared
    obtain ⟨controller, found, made⟩ := resolves.exists_controller isDeclared
    rw [← forall_nodup_scope_iff resolves.hasModels_shown made]
    exact distinct controller (Table.mem_values_iff.mpr ⟨key, found⟩)
  · intro apart controller isController
    obtain ⟨key, found⟩ := Table.mem_values_iff.mp isController
    obtain ⟨declared, isDeclared, made⟩ := resolves.get?_plan_controllers_eq_some_iff.mp found
    rw [forall_nodup_scope_iff resolves.hasModels_shown made]
    exact apart key declared isDeclared

/-- Two kinds of users and a controller that compares some of them. -/
def Document.ofComparison
    (models : Document.Models) :
    Document :=
  let users : Document.Columns := Table.ofList [("id", .line "id")]
  { Document.blank with
    database := { Document.Database.blank with
      models := Table.ofList
        [("Admin\\User", { Document.Model.blank with columns := some users }),
         ("Shop\\User",
          { Document.Model.blank with
            columns := some users
            table := some "shop_users" })] }
    http := { Document.Http.blank with
      controllers := Table.ofList
        [("UserController",
          { Document.Controller.blank with
            actions := Table.ofList
              [("compare", some
                { Document.Action.blank with models := some models })] })] } }

/-- Users that are bound under names of their own are told apart. -/
theorem variablesDistinct_ofComparison :
    ∃ plan,
      resolve (Document.ofComparison
          (.named (Table.ofList [("clerk", "Admin\\User"), ("buyer", "Shop\\User")]))) =
        .ok plan ∧ plan.VariablesDistinct := by
  let models : Document.Models :=
    .named (Table.ofList [("clerk", "Admin\\User"), ("buyer", "Shop\\User")])
  have isOk : (resolve (Document.ofComparison models)).isOk = true := by
    decide +kernel
  obtain ⟨plan, resolved⟩ := exists_eq_ok_of_isOk isOk
  refine ⟨plan, resolved, (variablesDistinct_iff resolved).mpr ?_⟩
  intro key declared isDeclared described isDescribed variableNames binds
  cases List.mem_singleton.mp (Table.get?_eq_some_iff.mp isDeclared)
  cases List.mem_singleton.mp isDescribed
  have tokens :
      models.tokens =
        [⟨some "clerk", "Admin\\User"⟩, ⟨some "buyer", "Shop\\User"⟩] := by
    decide +kernel
  have named :
      List.Forall₂ (Document.ofComparison models).NamesVariable models.tokens
        ["clerk", "buyer"] := by
    rw [tokens]
    exact .cons (.inl rfl) (.cons (.inl rfl) .nil)
  rw [binds.unique (.models _ _ models _ rfl named)]
  exact ⟨by decide, List.disjoint_nil_right _⟩

/-- Users that are bound after their classes are not. -/
theorem exists_not_variablesDistinct :
    ∃ plan,
      resolve (Document.ofComparison (.line "Admin\\User Shop\\User")) = .ok plan ∧
        ¬plan.VariablesDistinct := by
  have evaluated :
      (resolve (Document.ofComparison (.line "Admin\\User Shop\\User"))).toOption.any
          (fun plan => !plan.VariablesDistinct) =
        true := by
    decide +kernel
  obtain ⟨plan, resolved, repeats⟩ := exists_plan_of_any evaluated
  exact ⟨plan, resolved, by simpa using repeats⟩

end Blueprint
