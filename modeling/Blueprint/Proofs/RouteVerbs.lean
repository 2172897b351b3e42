import Blueprint.Proofs.ActionSources
import Blueprint.Proofs.RouteLines

namespace Blueprint

/-!
# Verbs of routes

A guessed route always has a verb. A declared one has a verb unless the line has nothing but bars
before the colon: such a line has the form of a route and passes, although it names no verb. Every
action that a document declares is among the actions of its controller, so that a plan has a route
without verbs exactly when some action declares such a line.
-/

open Http Text Resolution

/-- Every action of a plan has a route with a verb. -/
def Plan.RoutesAnswer
    (plan : Plan) :
    Prop :=
  ∀ controller ∈ plan.http.controllers.values,
    ∀ action ∈ controller.actions, action.route.verbs ≠ []

instance
    (plan : Plan) :
    Decidable plan.RoutesAnswer :=
  inferInstanceAs (Decidable
    (∀ controller ∈ plan.http.controllers.values,
      ∀ action ∈ controller.actions, action.route.verbs ≠ []))

/-- Some action of the document declares a route line. -/
def Document.DeclaresRoute
    (document : Document)
    (line : String) :
    Prop :=
  ∃ controller ∈ document.http.controllers.values,
    ∃ action, some action ∈ controller.actions.values ∧ action.route = some line

namespace Resolution

/-- A route line with nothing but bars in the place of its verbs. -/
def NamesNoVerb
    (line : String) :
    Prop :=
  ∃ parts : RouteLine,
    parts.StandsIn (trimBoth isBlank line.toList) ∧ ∀ letter ∈ parts.verbs, letter = '|'

/-- Whether a line names no verb is told by what is read of it. -/
theorem any_ofText?_iff_namesNoVerb
    {line : String} :
    ((RouteLine.ofText? (trimBoth isBlank line.toList)).any
        fun parts => parts.verbs.all (· == '|')) = true ↔
      NamesNoVerb line := by
  simp only [Option.any_eq_true, List.all_eq_true, beq_iff_eq]
  constructor
  · rintro ⟨parts, found, onlyBars⟩
    exact ⟨parts, RouteLine.standsIn_of_ofText? (isTrimmed_trimBoth _) found, onlyBars⟩
  · rintro ⟨parts, stands, onlyBars⟩
    exact ⟨parts, RouteLine.ofText?_of_standsIn stands, onlyBars⟩

instance
    (line : String) :
    Decidable (NamesNoVerb line) :=
  decidable_of_iff _ any_ofText?_iff_namesNoVerb

/-- In a text there stand no two different parts of a route. -/
theorem RouteLine.StandsIn.unique
    {parts others : RouteLine}
    {text : List Char}
    (stands : parts.StandsIn text)
    (otherStands : others.StandsIn text) :
    parts = others := by
  have same := (ofText?_of_standsIn stands).symm.trans (ofText?_of_standsIn otherStands)
  exact Option.some.inj same

theorem RouteLine.words_eq_nil_iff
    {parts : RouteLine} :
    parts.words = [] ↔ ∀ letter ∈ parts.verbs, letter = '|' := by
  have allBars :
      (∀ part ∈ cut (· == '|') parts.verbs, part = []) ↔ ∀ letter ∈ parts.verbs, letter = '|' := by
    simpa using @forall_mem_cut_eq_nil_iff (· == '|') parts.verbs
  rw [← allBars, words, List.splitOn_eq_splitOnP, ← cut_eq_splitOnP]
  simp [List.filter_eq_nil_iff]

/-- A declared route is without verbs exactly when its line names none. -/
theorem verbs_eq_nil_iff
    {controller action owner line : String}
    {route : Route}
    (read : declaredRoute controller action owner line = .ok route) :
    route.verbs = [] ↔ NamesNoVerb line := by
  obtain ⟨parts, stands, declares⟩ := declaredRoute_eq_ok_iff.mp read
  have sameLength := declares.verbs_spelled.length_eq
  have noWords : route.verbs = [] ↔ parts.words = [] := by
    rw [← List.length_eq_zero_iff, ← List.length_eq_zero_iff, sameLength]
  rw [noWords, RouteLine.words_eq_nil_iff]
  constructor
  · intro onlyBars
    exact ⟨parts, stands, onlyBars⟩
  · rintro ⟨others, otherStands, onlyBars⟩
    cases stands.unique otherStands
    exact onlyBars

theorem verbs_guessedRoute_ne_nil
    (controller action : String)
    (models : List Binding) :
    (guessedRoute controller action models).verbs ≠ [] := by
  simp only [guessedRoute, Verb.forAction]
  split <;> simp

/-! Actions and what they are made of. -/

variable {context : Context}

/-- An action of a controller is made of a declaration. -/
def ActionMade
    (context : Context)
    (controller : String)
    (declared : Document.Action)
    (action : Action) :
    Prop :=
  ∃ name given fromResource,
    actionOf context controller name declared given fromResource = .ok action

/-- An action that is made of a declaration is without verbs exactly when the declaration has a line
that names none. -/
theorem ActionMade.verbs_eq_nil_iff
    {controller : String}
    {declared : Document.Action}
    {action : Action}
    (made : ActionMade context controller declared action) :
    action.route.verbs = [] ↔ ∃ line, declared.route = some line ∧ NamesNoVerb line := by
  obtain ⟨name, given, fromResource, isMade⟩ := made
  simp only [actionOf, bind_eq_ok_iff, pure_eq_ok_iff] at isMade
  obtain ⟨models, _, route, isRoute, _, _, _, _, _, _, _, _, _, _, _, _, _, _, rfl⟩ := isMade
  cases line : declared.route with
  | none =>
      rw [line, routeOf, Except.ok.injEq] at isRoute
      simp [← isRoute, verbs_guessedRoute_ne_nil]
  | some text =>
      rw [line, routeOf] at isRoute
      simpa using Resolution.verbs_eq_nil_iff isRoute

/-- The actions of a controller: a single one, or those of its resource and then the others. -/
inductive ActionsMade
    (context : Context)
    (key : String)
    (declared : Document.Controller) :
    List Action →
    Prop where
  | invoked
      {action : Action}
      (few : declared.actions.size ≤ 1)
      (made : invokedAction context key declared = .ok action) :
      ActionsMade context key declared [action]
  | listed
      {names : List String}
      {expanded others : List Action}
      (expanded_made :
        List.Forall₂
          (fun name action => ∃ bound, resourceAction context key declared bound name = .ok action)
          names expanded)
      (others_made : otherActions context key declared names = .ok others) :
      ActionsMade context key declared (expanded ++ others)

theorem actionsMade_of_controllerOf
    {key : String}
    {declared : Document.Controller}
    {controller : Controller}
    (resolved : controllerOf context key declared = .ok controller) :
    ActionsMade context key declared controller.actions := by
  simp only [controllerOf, map_eq_ok_iff] at resolved
  obtain ⟨⟨resource, actions⟩, hasParts, rfl⟩ := resolved
  by_cases invokes : declared.invoke = true
  · simp only [controllerParts, invokes, ↓reduceIte, bind_eq_ok_iff, pure_eq_ok_iff,
      Prod.mk.injEq] at hasParts
    obtain ⟨_, isShaped, action, made, rfl, rfl⟩ := hasParts
    have few : declared.actions.size ≤ 1 := by
      by_contra many
      simp [Document.invokableShape, Nat.lt_of_not_le many, Document.refuse] at isShaped
    exact .invoked few made
  · simp only [controllerParts, invokes, Bool.false_eq_true, ↓reduceIte, bind_eq_ok_iff,
      pure_eq_ok_iff, Prod.exists, Prod.mk.injEq] at hasParts
    obtain ⟨present, expanded, isResource, others, areOthers, rfl, rfl⟩ := hasParts
    cases options : resourceOptions declared.resource with
    | none =>
        simp only [resourcePart, options, Except.ok.injEq, Prod.mk.injEq] at isResource
        obtain ⟨rfl, rfl⟩ := isResource
        exact .listed .nil areOthers
    | some found =>
        simp only [resourcePart, options, bind_eq_ok_iff, pure_eq_ok_iff, Prod.mk.injEq]
          at isResource
        obtain ⟨resource, _, bound, _, built, areBuilt, rfl, rfl⟩ := isResource
        exact .listed ((collect_eq_ok_iff.mp areBuilt).imp fun _ _ made => ⟨bound, made⟩) areOthers

namespace ActionsMade

variable {key : String} {declared : Document.Controller} {actions : List Action}

/-- What stands under a name says something, or is as good as a blank declaration. -/
theorem blank_or_mem
    {values : List (Option Document.Action)}
    (described : Option (Option Document.Action))
    (among : ∀ description ∈ described, description ∈ values) :
    described.join.getD .blank = .blank ∨ some (described.join.getD .blank) ∈ values := by
  rcases described with _ | _ | declared
  · exact .inl rfl
  · exact .inl rfl
  · exact .inr (among _ rfl)

/-- Every action is made of a declared one, or of one without declarations. -/
theorem exists_declared
    (areMade : ActionsMade context key declared actions)
    {action : Action}
    (member : action ∈ actions) :
    ∃ source,
      (source = .blank ∨ some source ∈ declared.actions.values) ∧
        ActionMade context key source action := by
  cases areMade with
  | invoked _ made =>
      cases List.mem_singleton.mp member
      refine ⟨_, blank_or_mem _ ?_, ⟨_, _, _, made⟩⟩
      exact fun _ isFirst => List.mem_of_mem_head? isFirst
  | listed expanded_made others_made =>
      rcases List.mem_append.mp member with isExpanded | isOther
      · obtain ⟨name, _, bound, made⟩ := exists_of_mem_matched expanded_made isExpanded
        refine ⟨_, blank_or_mem _ ?_, ⟨_, _, _, made⟩⟩
        exact fun _ isNamed => Table.mem_values_iff.mpr ⟨name, isNamed⟩
      · obtain ⟨entry, isEntry, made⟩ := exists_of_mem_collect others_made isOther
        have inTable : entry ∈ declared.actions.entries := (List.mem_filter.mp isEntry).1
        refine ⟨_, blank_or_mem (some entry.2) ?_, ⟨_, _, _, made⟩⟩
        rintro _ ⟨⟩
        exact List.mem_map_of_mem inTable

/-- Every declared action is made into one of them. -/
theorem exists_action
    (areMade : ActionsMade context key declared actions)
    {source : Document.Action}
    (isDeclared : some source ∈ declared.actions.values) :
    ∃ action ∈ actions, ActionMade context key source action := by
  cases areMade with
  | @invoked action few made =>
      -- Only the first declaration is read, and there is no other.
      have atMostOne : declared.actions.values.length ≤ 1 := by
        rwa [Table.values, List.length_map]
      have isFirst : declared.actions.values.head?.join.getD .blank = source := by
        cases values : declared.actions.values with
        | nil =>
            simp [values] at isDeclared
        | cons first others =>
            rw [values, List.length_cons] at atMostOne
            have noOthers : others = [] := List.length_eq_zero_iff.mp (by omega)
            rw [values, noOthers, List.mem_singleton] at isDeclared
            simp [← isDeclared]
      simp only [invokedAction, isFirst] at made
      exact ⟨action, List.mem_singleton_self action, _, _, _, made⟩
  | @listed names expanded others expanded_made others_made =>
      obtain ⟨name, isNamed⟩ := Table.mem_values_iff.mp isDeclared
      by_cases isExpanded : name ∈ names
      · obtain ⟨action, member, bound, made⟩ :=
          exists_of_mem_matched expanded_made.flip isExpanded
        simp only [resourceAction, isNamed, Option.join_some, Option.getD_some] at made
        exact ⟨action, List.mem_append_left _ member, _, _, _, made⟩
      · have isOther : (name, some source) ∈
            declared.actions.entries.filter fun entry => !names.contains entry.1 := by
          simpa [isExpanded] using Table.get?_eq_some_iff.mp isNamed
        obtain ⟨action, member, made⟩ :=
          exists_of_mem_matched (collect_eq_ok_iff.mp others_made).flip isOther
        exact ⟨action, List.mem_append_right _ member, _, _, _, made⟩

/-- All routes have verbs exactly when no declared line names none. -/
theorem verbs_ne_nil_iff
    (areMade : ActionsMade context key declared actions) :
    (∀ action ∈ actions, action.route.verbs ≠ []) ↔
      ∀ source, some source ∈ declared.actions.values →
        ∀ line, source.route = some line → ¬NamesNoVerb line := by
  constructor
  · intro answers source isDeclared line saysLine namesNone
    obtain ⟨action, member, made⟩ := areMade.exists_action isDeclared
    exact answers action member (made.verbs_eq_nil_iff.mpr ⟨line, saysLine, namesNone⟩)
  · intro named action member noVerbs
    obtain ⟨source, isBlank | isDeclared, made⟩ := areMade.exists_declared member
    · obtain ⟨line, saysLine, _⟩ := made.verbs_eq_nil_iff.mp noVerbs
      rw [isBlank, Document.Action.blank] at saysLine
      cases saysLine
    · obtain ⟨line, saysLine, namesNone⟩ := made.verbs_eq_nil_iff.mp noVerbs
      exact named source isDeclared line saysLine namesNone

end ActionsMade

end Resolution

/-- The routes of a plan all have verbs exactly when no route line of the document has nothing but
bars in the place of its verbs. -/
theorem routesAnswer_iff
    {document : Document}
    {plan : Plan}
    (resolved : resolve document = .ok plan) :
    plan.RoutesAnswer ↔ ∀ line, document.DeclaresRoute line → ¬NamesNoVerb line := by
  obtain ⟨resolves, rfl⟩ := resolve_eq_ok_iff.mp resolved
  have sameControllers :
      (settled document).plan.http.controllers = (served document).controllers := by
    rw [settled_eq]
    rfl
  rw [Plan.RoutesAnswer, sameControllers]
  constructor
  · rintro answers line ⟨declared, isDeclared, source, isSource, saysLine⟩
    obtain ⟨key, found⟩ := Table.mem_values_iff.mp isDeclared
    obtain ⟨built, isBuilt⟩ := fills_addController.exists_built_of_run resolves.controllers_run
      (Table.get?_eq_some_iff.mp found)
    obtain ⟨controller, made, rfl⟩ := map_eq_ok_iff.mp isBuilt
    have member : controller ∈ (served document).controllers.values :=
      Table.mem_values_iff.mpr
        ⟨key, resolves.get?_controllers_eq_some_iff.mpr ⟨declared, found, made⟩⟩
    exact (actionsMade_of_controllerOf made).verbs_ne_nil_iff.mp (answers controller member)
      source isSource line saysLine
  · intro named controller member
    obtain ⟨key, stored⟩ := Table.mem_values_iff.mp member
    obtain ⟨declared, found, made⟩ := resolves.get?_controllers_eq_some_iff.mp stored
    rw [(actionsMade_of_controllerOf made).verbs_ne_nil_iff]
    intro source isSource line saysLine
    exact named line
      ⟨declared, Table.mem_values_iff.mpr ⟨key, found⟩, source, isSource, saysLine⟩

/-- A controller with one action that declares a route. -/
def Document.ofRoute
    (line : String) :
    Document :=
  { Document.blank with
    http := { Document.Http.blank with
      controllers := Table.ofList
        [("PostController",
          { Document.Controller.blank with
            actions := Table.ofList
              [("list", some { Document.Action.blank with route := some line })] })] } }

theorem Document.DeclaresRoute.eq_of_ofRoute
    {line other : String}
    (declares : (Document.ofRoute line).DeclaresRoute other) :
    line = other := by
  obtain ⟨controller, isController, action, isAction, saysLine⟩ := declares
  cases List.mem_singleton.mp isController
  cases List.mem_singleton.mp isAction
  exact Option.some.inj saysLine

/-- Bars besides a verb do no harm. -/
theorem routesAnswer_ofRoute :
    ∃ plan,
      resolve (Document.ofRoute "|get||:posts") = .ok plan ∧ plan.RoutesAnswer := by
  have isOk : (resolve (Document.ofRoute "|get||:posts")).isOk = true := by
    decide +kernel
  obtain ⟨plan, resolved⟩ := exists_eq_ok_of_isOk isOk
  refine ⟨plan, resolved, (routesAnswer_iff resolved).mpr ?_⟩
  rintro line declares namesNone
  cases declares.eq_of_ofRoute
  exact absurd namesNone (by decide)

/-- A line of nothing but bars and a path passes and leaves a route that answers to nothing. -/
theorem exists_not_routesAnswer :
    ∃ plan,
      resolve (Document.ofRoute "|:posts") = .ok plan ∧ ¬plan.RoutesAnswer := by
  have evaluated :
      (resolve (Document.ofRoute "|:posts")).toOption.any (fun plan => !plan.RoutesAnswer) =
        true := by
    decide +kernel
  obtain ⟨plan, resolved, barred⟩ := exists_plan_of_any evaluated
  exact ⟨plan, resolved, by simpa using barred⟩

end Blueprint
