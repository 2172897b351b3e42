import Mathlib.Data.List.Basic
import Blueprint.Snapshot
import Blueprint.Proofs.JsonPages

namespace Blueprint

/-!
# Plans and their pages

A snapshot shows different values in different ways: it has every field, a word or a name for each
alternative, and shows no part that is there as an absent one. The only free values in a plan are
the attributes that its actions merge into what they save. So two plans that merge no
floating-point numbers print different pages unless they are equal.
-/

open Json

namespace Schema.RelationKind

/-- Every kind of relation is found by its word. -/
theorem ofWord?_word
    (kind : RelationKind) :
    ofWord? kind.word = some kind := by
  cases kind <;> rfl

/-- No two kinds of relations have one word. -/
theorem word_injective :
    Function.Injective word := by
  intro first second same
  have read := ofWord?_word first
  rw [same, ofWord?_word, Option.some.injEq] at read
  exact read.symm

end Schema.RelationKind

namespace Snapshot

section Parts

variable {α : Type} {render : α → Value}

/-! Parts of records. -/

/-- A text is printed as it is. -/
theorem text_injective :
    Function.Injective text :=
  fun _ _ => Value.string.inj

/-- An option is told from its value, as long as no value is printed as null. -/
theorem maybe_injective
    (injective : Function.Injective render)
    (present : ∀ value, render value ≠ .null) :
    Function.Injective (maybe render) := by
  intro first second same
  cases first with
  | none =>
      cases second with
      | none =>
          rfl
      | some value =>
          exact absurd same.symm (present value)
  | some value =>
      cases second with
      | none =>
          exact absurd same (present value)
      | some other =>
          exact congrArg some (injective same)

/-- Lists are told apart by their items. -/
theorem items_injective
    (injective : Function.Injective render) :
    Function.Injective (items render) :=
  fun _ _ same => List.map_injective_iff.mpr injective (Value.array.inj same)

/-- Tables are told apart by their names and entries, in order. -/
theorem entries_injective
    (injective : Function.Injective render) :
    Function.Injective (entries render) := by
  intro first second same
  have each : Function.Injective fun entry : String × α => (entry.1, render entry.2) := by
    intro entry other same
    exact Prod.ext (Prod.mk.inj same).1 (injective (Prod.mk.inj same).2)
  exact Table.ext (List.map_injective_iff.mpr each (Value.object.inj same))

end Parts

@[simp] theorem text_inj
    {first second : String} :
    text first = text second ↔ first = second :=
  text_injective.eq_iff

@[simp] theorem maybe_text_inj
    {first second : Option String} :
    maybe text first = maybe text second ↔ first = second :=
  (maybe_injective text_injective fun _ => nofun).eq_iff

@[simp] theorem texts_inj
    {first second : List String} :
    texts first = texts second ↔ first = second :=
  (items_injective text_injective).eq_iff

/-- A literal is told from a variable, and a variable by its name and its property. -/
theorem argument_injective :
    Function.Injective argument := by
  intro first second same
  cases first <;> cases second <;> simp_all [argument]

@[simp] theorem arguments_inj
    {first second : List Argument} :
    items argument first = items argument second ↔ first = second :=
  (items_injective argument_injective).eq_iff

/-- A method is told by its name and its arguments. -/
theorem method_injective :
    Function.Injective method := by
  intro first second same
  cases first
  cases second
  simpa [method] using same

@[simp] theorem methods_inj
    {first second : List Method} :
    items method first = items method second ↔ first = second :=
  (items_injective method_injective).eq_iff

/-- A call is told by its target and its arguments. -/
theorem call_injective :
    Function.Injective call := by
  intro first second same
  cases first
  cases second
  simpa [call] using same

@[simp] theorem calls_inj
    {first second : List Call} :
    items call first = items call second ↔ first = second :=
  (items_injective call_injective).eq_iff

/-! Entities and migrations. -/

section Schema

open Schema

/-- The types of models have words of their own. -/
theorem modelType_injective :
    Function.Injective modelType := by
  intro first second same
  cases first <;> cases second <;> simp_all [modelType]

/-- A column is told by its name, its type, its modifiers and its relation. -/
theorem column_injective :
    Function.Injective column := by
  intro first second same
  cases first
  cases second
  simpa [column] using same

/-- A relation is told by what its line says and by the column that it keeps. -/
theorem relation_injective :
    Function.Injective relation := by
  intro first second same
  cases first
  cases second
  simpa [relation, RelationKind.word_injective.eq_iff] using same

/-- A primary key is told by its column, its type and whether it counts up. -/
theorem primaryKey_injective :
    Function.Injective primaryKey := by
  intro first second same
  cases first
  cases second
  simpa [primaryKey] using same

/-- Timestamps are told by their switch and by their two columns. -/
theorem timestamps_injective :
    Function.Injective timestamps := by
  intro first second same
  cases first
  cases second
  simpa [timestamps] using same

/-- A soft delete is told by its switch and by its column. -/
theorem softDelete_injective :
    Function.Injective softDelete := by
  intro first second same
  cases first
  cases second
  simpa [softDelete] using same

/-- An entity is told by all that is printed of it. -/
theorem entity_injective :
    Function.Injective entity := by
  have maybePrimary := maybe_injective primaryKey_injective fun _ => nofun
  intro first second same
  cases first
  cases second
  simpa [entity, modelType_injective.eq_iff, (entries_injective column_injective).eq_iff,
    (entries_injective relation_injective).eq_iff, maybePrimary.eq_iff,
    timestamps_injective.eq_iff, softDelete_injective.eq_iff,
    (entries_injective text_injective).eq_iff, UInt32.toNat_inj] using same

/-- The kinds of indexes have words of their own. -/
theorem indexKind_injective :
    Function.Injective indexKind := by
  intro first second same
  cases first <;> cases second <;> simp_all [indexKind]

/-- An index is told by its kind, its name and its columns. -/
theorem index_injective :
    Function.Injective index := by
  intro first second same
  cases first
  cases second
  simpa [index, indexKind_injective.eq_iff] using same

/-- Migrations of the three origins are told apart, and two of one origin by its names. -/
theorem migrationSource_injective :
    Function.Injective migrationSource := by
  intro first second same
  cases first <;> cases second <;> simp_all [migrationSource]

/-- A migration is told by its table, what stands in it and where it comes from. -/
theorem migration_injective :
    Function.Injective migration := by
  intro first second same
  cases first
  cases second
  simpa [migration, (items_injective column_injective).eq_iff,
    (items_injective index_injective).eq_iff, migrationSource_injective.eq_iff] using same

end Schema

/-! Controllers. -/

section Http

open Http

/-- Verbs have words of their own. -/
theorem verb_injective :
    Function.Injective verb := by
  intro first second same
  cases first <;> cases second <;> simp_all [verb]

/-- A route is told by its verbs, its path, its name and whether it was guessed. -/
theorem route_injective :
    Function.Injective route := by
  intro first second same
  cases first
  cases second
  simpa [route, (items_injective verb_injective).eq_iff] using same

/-- A binding is told by its entity, its variable and its column. -/
theorem binding_injective :
    Function.Injective binding := by
  intro first second same
  cases first
  cases second
  simpa [binding] using same

/-- An action that authorizes nothing is told from one with an ability. -/
theorem authorize_injective :
    Function.Injective authorize := by
  intro first second same
  cases first <;> cases second <;> simp_all [authorize]

@[simp] theorem rules_inj
    {first second : Table (List Method)} :
    entries (items method) first = entries (items method) second ↔ first = second :=
  (entries_injective (items_injective method_injective)).eq_iff

/-- A validator class is told from rules by the mode. -/
theorem validation_injective :
    Function.Injective validation := by
  intro first second same
  cases first <;> cases second <;> simp_all [validation]

/-- A validation is never printed as null, which stands for none. -/
theorem validation_ne_null
    (value : Validation) :
    validation value ≠ .null := by
  cases value <;> nofun

/-- A query from an entity is told from one of a variable. -/
theorem querySource_injective :
    Function.Injective querySource := by
  intro first second same
  cases first <;> cases second <;> simp_all [querySource]

/-- A query is told by its variable, its source and its calls. -/
theorem query_injective :
    Function.Injective query := by
  intro first second same
  cases first
  cases second
  simpa [query, querySource_injective.eq_iff] using same

/-- What is saved is told by its variable, its entity and what is merged into it. -/
theorem save_injective :
    Function.Injective save := by
  intro first second same
  cases first
  cases second
  simpa [save, (entries_injective Function.injective_id).eq_iff] using same

/-- The three ways to redirect are told apart by where they lead. -/
theorem redirect_injective :
    Function.Injective redirect := by
  intro first second same
  cases first <;> cases second <;> simp_all [redirect]

/-- A redirect is never printed as null, which stands for none. -/
theorem redirect_ne_null
    (value : Redirect) :
    redirect value ≠ .null := by
  cases value <;> nofun

/-- A view is told by its name and its variables. -/
theorem view_injective :
    Function.Injective view := by
  intro first second same
  cases first
  cases second
  simpa [view] using same

/-- An action is told by its name and by all of its directives. -/
theorem action_injective :
    Function.Injective action := by
  have maybeValidation := maybe_injective validation_injective validation_ne_null
  have maybeSave := maybe_injective save_injective fun _ => nofun
  have maybeRedirect := maybe_injective redirect_injective redirect_ne_null
  have maybeView := maybe_injective view_injective fun _ => nofun
  intro first second same
  cases first
  cases second
  simpa [action, route_injective.eq_iff, (items_injective binding_injective).eq_iff,
    authorize_injective.eq_iff, maybeValidation.eq_iff,
    (items_injective query_injective).eq_iff, maybeSave.eq_iff, maybeRedirect.eq_iff,
    maybeView.eq_iff] using same

/-- A resource is told by its entities, its options and its actions. -/
theorem resource_injective :
    Function.Injective resource := by
  intro first second same
  cases first
  cases second
  simpa [resource] using same

/-- Middleware is told by its names and by whether it is terminable. -/
theorem middleware_injective :
    Function.Injective middleware := by
  intro first second same
  cases first
  cases second
  simpa [middleware] using same

/-- A controller is told by its names, its middleware, its resource and its actions. -/
theorem controller_injective :
    Function.Injective controller := by
  have maybeResource := maybe_injective resource_injective fun _ => nofun
  intro first second same
  cases first
  cases second
  simpa [controller, maybeResource.eq_iff, (items_injective action_injective).eq_iff] using same

end Http

/-! Gates, policies and forms. -/

section Auth

open Auth

/-- A gate is told by its ability and by what handles it. -/
theorem gate_injective :
    Function.Injective gate := by
  intro first second same
  cases first
  cases second
  simpa [gate] using same

/-- A policy is told by its entity, its class and what it grants. -/
theorem policy_injective :
    Function.Injective policy := by
  intro first second same
  cases first
  cases second
  simpa [policy] using same

/-- The ways to authorize a form are told apart by their mode. -/
theorem formAuthorization_injective :
    Function.Injective formAuthorization := by
  intro first second same
  cases first <;> cases second <;> simp_all [formAuthorization]

/-- A form is told by its names, its authorization and its rules. -/
theorem form_injective :
    Function.Injective form := by
  intro first second same
  cases first
  cases second
  simpa [form, formAuthorization_injective.eq_iff] using same

end Auth

/-! Plans. -/

/-- The database part of a plan is told by its entities and its migrations. -/
theorem databasePlan_injective :
    Function.Injective databasePlan := by
  intro first second same
  cases first
  cases second
  simpa [databasePlan, (entries_injective entity_injective).eq_iff,
    (entries_injective migration_injective).eq_iff] using same

/-- The HTTP part of a plan is told by its middleware and its controllers. -/
theorem httpPlan_injective :
    Function.Injective httpPlan := by
  intro first second same
  cases first
  cases second
  simpa [httpPlan, (entries_injective middleware_injective).eq_iff,
    (entries_injective controller_injective).eq_iff] using same

/-- The last part of a plan is told by its gates, its policies and its forms. -/
theorem authPlan_injective :
    Function.Injective authPlan := by
  intro first second same
  cases first
  cases second
  simpa [authPlan, (entries_injective gate_injective).eq_iff,
    (entries_injective policy_injective).eq_iff,
    (entries_injective form_injective).eq_iff] using same

/-- Two plans are shown alike only if they are equal. -/
theorem plan_injective :
    Function.Injective plan := by
  intro first second same
  cases first
  cases second
  simpa [plan, databasePlan_injective.eq_iff, httpPlan_injective.eq_iff,
    authPlan_injective.eq_iff] using same

end Snapshot

/-! Floating-point numbers. -/

/-- The values that an action merges into what it saves. -/
def Http.Action.merged
    (action : Http.Action) :
    List Value :=
  action.save.elim [] fun save => save.merge.values

/-- The values that the actions of a plan merge into what they save. -/
def Plan.merged
    (plan : Plan) :
    List Value :=
  plan.http.controllers.values.flatMap fun controller =>
    controller.actions.flatMap Http.Action.merged

namespace Snapshot

theorem exists_mem_flatMap_iff
    {α β : Type}
    {items : List α}
    {parts : α → List β}
    {holds : β → Prop} :
    (∃ part ∈ items.flatMap parts, holds part) ↔
      ∃ item ∈ items, ∃ part ∈ parts item, holds part := by
  grind

section Parts

variable {α : Type} {render : α → Value}

/-- A text holds no floating-point number. -/
@[simp] theorem not_hasReal_text
    (value : String) :
    ¬(text value).HasReal :=
  Value.not_hasReal_string value

/-- An option holds a floating-point number if there is a value that does. -/
@[simp] theorem hasReal_maybe_iff
    {value : Option α} :
    (maybe render value).HasReal ↔ ∃ part ∈ value, (render part).HasReal := by
  cases value <;> simp [maybe]

/-- A list holds a floating-point number if one of its items does. -/
@[simp] theorem hasReal_items_iff
    {values : List α} :
    (items render values).HasReal ↔ ∃ value ∈ values, (render value).HasReal := by
  simp [items]

/-- A table holds a floating-point number if one of its values does. -/
@[simp] theorem hasReal_entries_iff
    {table : Table α} :
    (entries render table).HasReal ↔ ∃ value ∈ table.values, (render value).HasReal := by
  simp only [entries, Table.values, Value.hasReal_object_iff, List.mem_map,
    exists_exists_and_eq_and]

end Parts

@[simp] theorem not_hasReal_texts
    (values : List String) :
    ¬(texts values).HasReal := by
  simp [texts]

@[simp] theorem not_hasReal_argument
    (value : Argument) :
    ¬(argument value).HasReal := by
  cases value <;> simp [argument]

@[simp] theorem not_hasReal_method
    (value : Method) :
    ¬(method value).HasReal := by
  simp [method]

@[simp] theorem not_hasReal_call
    (value : Call) :
    ¬(call value).HasReal := by
  simp [call]

@[simp] theorem not_hasReal_column
    (value : Schema.Column) :
    ¬(column value).HasReal := by
  simp [column]

/-- Nothing of an entity is a floating-point number; the items per page are counted. -/
theorem not_hasReal_entity
    (value : Schema.Entity) :
    ¬(entity value).HasReal := by
  have noneInType : ¬(modelType value.modelType).HasReal := by
    cases value.modelType <;> simp [modelType]
  simp [entity, noneInType, relation, primaryKey, timestamps, softDelete]

/-- Nothing of a migration is a floating-point number. -/
theorem not_hasReal_migration
    (value : Schema.Migration) :
    ¬(migration value).HasReal := by
  have noneInKind (kind : Schema.IndexKind) : ¬(indexKind kind).HasReal := by
    cases kind <;> simp [indexKind]
  have noneInSource : ¬(migrationSource value.source).HasReal := by
    cases value.source <;> simp [migrationSource]
  simp [migration, index, noneInKind, noneInSource]

/-- Nothing of a route is a floating-point number. -/
theorem not_hasReal_route
    (value : Http.Route) :
    ¬(route value).HasReal := by
  have noneInVerb (word : Http.Verb) : ¬(verb word).HasReal := by
    cases word <;> simp [verb]
  simp [route, noneInVerb]

theorem not_hasReal_authorize
    (value : Http.Authorize) :
    ¬(authorize value).HasReal := by
  cases value <;> simp [authorize]

/-- Rules take texts and variables, so no floating-point numbers. -/
theorem not_hasReal_validation
    (value : Http.Validation) :
    ¬(validation value).HasReal := by
  cases value <;> simp [validation]

theorem not_hasReal_query
    (value : Http.Query) :
    ¬(query value).HasReal := by
  have noneInSource : ¬(querySource value.source).HasReal := by
    cases value.source <;> simp [querySource]
  simp [query, noneInSource]

theorem not_hasReal_redirect
    (value : Http.Redirect) :
    ¬(redirect value).HasReal := by
  cases value <;> simp [redirect]

/-- Nothing of a form is a floating-point number. -/
theorem not_hasReal_form
    (value : Auth.Form) :
    ¬(form value).HasReal := by
  have noneInAuthorization : ¬(formAuthorization value.authorize).HasReal := by
    cases value.authorize <;> simp [formAuthorization]
  simp [form, noneInAuthorization]

/-- Of the fields of an action, only what is saved can show a floating-point number. -/
theorem hasReal_action_iff
    {value : Http.Action} :
    (action value).HasReal ↔ ∃ merged ∈ value.merged, merged.HasReal := by
  cases saved : value.save <;>
    simp [action, saved, save, binding, view, Http.Action.merged, not_hasReal_route,
      not_hasReal_authorize, not_hasReal_validation, not_hasReal_query, not_hasReal_redirect]

/-- A controller holds a floating-point number only in what its actions merge. -/
theorem hasReal_controller_iff
    {value : Http.Controller} :
    (controller value).HasReal ↔
      ∃ merged ∈ value.actions.flatMap Http.Action.merged, merged.HasReal := by
  rw [exists_mem_flatMap_iff]
  simp [controller, resource, hasReal_action_iff]

/-- A plan shows a floating-point number exactly if an action merges one. -/
theorem hasReal_plan_iff
    {value : Plan} :
    (plan value).HasReal ↔ ∃ merged ∈ value.merged, merged.HasReal := by
  rw [Plan.merged, exists_mem_flatMap_iff]
  simp only [← hasReal_controller_iff]
  simp [plan, databasePlan, httpPlan, authPlan, middleware, gate, policy,
    not_hasReal_entity, not_hasReal_migration, not_hasReal_form]

end Snapshot

/-- Plans that merge no floating-point numbers are equal if their pages are the same text. -/
theorem Plan.eq_of_page_eq
    {first second : Plan}
    (noReal : ∀ value ∈ first.merged, ¬value.HasReal)
    (noOtherReal : ∀ value ∈ second.merged, ¬value.HasReal)
    (samePage : first.page = second.page) :
    first = second := by
  have shownWhole {plan : Plan} (whole : ∀ value ∈ plan.merged, ¬value.HasReal) :
      ¬(Snapshot.plan plan).HasReal := by
    rw [Snapshot.hasReal_plan_iff]
    rintro ⟨value, isMerged, hasReal⟩
    exact whole value isMerged hasReal
  exact Snapshot.plan_injective
    (Value.eq_of_page (shownWhole noReal) (shownWhole noOtherReal) samePage)

/-- A plan with one action, which stores a post and merges values into it. -/
def storingPlan
    (merge : Table Value) :
    Plan :=
  let store : Http.Action :=
    { name := "store"
      route := ⟨[.post], "/posts", "posts.store", true⟩
      models := []
      authorize := .ability "create" (some "Post") []
      validate := some (.delegated "StorePostRequest")
      queries := []
      save := some ⟨"post", some "Post", merge, true⟩
      delete := none
      fire := []
      notify := []
      flash := [⟨"message", [.literal "saved"]⟩]
      redirect := some (.route "posts.show" [.reference "post" none])
      view := none
      fromResource := false }
  { database := ⟨"App", ∅, ∅⟩
    http :=
      ⟨"App\\Http", ∅,
        .ofList [("Post", ⟨"Post", "PostController", "App\\Http", false, none, [], [store]⟩)]⟩
    auth := ⟨∅, ∅, ∅⟩ }

/-- Merged values that were put under their names one after the other, one of them twice. -/
def revisedValues : Table Value :=
  .ofList
    [("title", .null), ("tags", .array [.number (.integer 1), .null]),
     ("title", .string "a \"b\"\n")]

/-- The values that are left. -/
def finalValues : Table Value :=
  .ofList
    [("title", .string "a \"b\"\n"), ("tags", .array [.number (.integer 1), .null])]

theorem merged_storingPlan
    (merge : Table Value) :
    (storingPlan merge).merged = merge.values := by
  simp [storingPlan, Plan.merged, Http.Action.merged, Table.values, Table.ofList, Table.insert,
    Table.empty, Entries.insert]

theorem Plan.eq_of_page_eq_storingPlan :
    (∀ value ∈ (storingPlan revisedValues).merged, ¬value.HasReal) ∧
      (∀ value ∈ (storingPlan finalValues).merged, ¬value.HasReal) ∧
      (storingPlan revisedValues).page = (storingPlan finalValues).page ∧
      storingPlan revisedValues = storingPlan finalValues := by
  have revised : revisedValues.values =
      [.string "a \"b\"\n", .array [.number (.integer 1), .null]] :=
    rfl
  have final : finalValues.values =
      [.string "a \"b\"\n", .array [.number (.integer 1), .null]] :=
    rfl
  have noReal : ∀ value ∈ (storingPlan revisedValues).merged, ¬value.HasReal := by
    simp [merged_storingPlan, revised]
  have noOtherReal : ∀ value ∈ (storingPlan finalValues).merged, ¬value.HasReal := by
    simp [merged_storingPlan, final]
  have samePage : (storingPlan revisedValues).page = (storingPlan finalValues).page :=
    rfl
  exact ⟨noReal, noOtherReal, samePage, Plan.eq_of_page_eq noReal noOtherReal samePage⟩

end Blueprint
