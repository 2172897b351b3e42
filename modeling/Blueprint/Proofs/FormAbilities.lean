import Blueprint.Proofs.FieldOrder
import Blueprint.Proofs.Policies

namespace Blueprint

/-!
# Abilities of forms

A form that names an ability is resolved exactly when a gate of the document checks it or a policy
of the table grants it. This is asked after all gates and policies are there, so it does not matter
in which order the document has its sections, and it is asked of the table, so that a policy that is
switched off makes no ability known. It holds of every context that runs of stages lead to, since
none of them puts a gate or a form there that the document has not, or a policy that no enabled
entry grants.
-/

open Auth Resolution

namespace Document

/-- A gate of the document checks an ability, or a policy of a table grants it. -/
def Knows
    (document : Document)
    (policies : Table Auth.Policy)
    (ability : String) :
    Prop :=
  ability ∈ document.auth.gates.keys ∨ ∃ policy ∈ policies.values, ability ∈ policy.actions

/-- Who may send a form, as the document says it. -/
def authorizationOf :
    Option Authorize →
    FormAuthorization
  | none => .allow
  | some (.toggle true) => .allow
  | some (.toggle false) => .deny
  | some (.line line) => .ability (trimmed line)

/-- A form as the document says it. -/
def formOf
    (name : String)
    (declared : Option Form) :
    Auth.Form :=
  let form := declared.getD .blank
  ⟨name, formClass name, authorizationOf form.authorize, fieldMethods form.rules⟩

/-- The document without the policies that are switched off. -/
def withoutDisabled
    (document : Document) :
    Document :=
  { document with
    auth := { document.auth with
      policies := Table.ofList
        (document.auth.policies.entries.filter fun entry =>
          entry.2 != some (.toggle false)) } }

end Document

namespace Resolution

/-- Put the gates and then the policies into a context. -/
def abilities
    (document : Document)
    (context : Context) :
    Outcome :=
  (Outcome.ofSteps addGate context document.auth.gates.entries).andThen
    fun context => Outcome.ofSteps addPolicy context document.auth.policies.entries

/-- The last stage adds the forms after the gates and the policies. -/
theorem auth_eq_andThen
    (document : Document)
    (context : Context) :
    auth document context =
      (abilities document context).andThen
        fun context => Outcome.ofSteps addForm context document.auth.forms.entries :=
  rfl

/-! What runs of stages leave of the sections. -/

/-- The gates and forms of a context are declared, and its policies granted by enabled entries. -/
structure Authorizes
    (document : Document)
    (context : Context) :
    Prop where
  gates_declared : context.gates.keys ⊆ document.auth.gates.keys
  policies_granted :
    ∀ policy ∈ context.policies.values,
      ∃ entry ∈ document.auth.policies.entries,
        Document.IsEnabled entry.2 ∧ Document.Grants entry.2 policy.actions
  forms_declared : context.forms.keys ⊆ document.auth.forms.keys

variable {document : Document} {context : Context}

theorem authorizes_start
    (document : Document) :
    Authorizes document (Context.start document) where
  gates_declared := by simp [Context.start]
  policies_granted := by simp [Context.start]
  forms_declared := by simp [Context.start]

/-- Only the sections count. -/
theorem Authorizes.of_eq
    {other : Context}
    (authorizes : Authorizes document context)
    (sameGates : other.gates = context.gates)
    (samePolicies : other.policies = context.policies)
    (sameForms : other.forms = context.forms) :
    Authorizes document other where
  gates_declared := sameGates ▸ authorizes.gates_declared
  policies_granted := samePolicies ▸ authorizes.policies_granted
  forms_declared := sameForms ▸ authorizes.forms_declared

/-- Gates are added under declared abilities only. -/
theorem authorizes_gates
    (authorizes : Authorizes document context) :
    Authorizes document (Outcome.ofSteps addGate context document.auth.gates.entries).context :=
  fills_addGate.holds_ofSteps (Authorizes document)
    (fills_addGate.keys_ofSteps_subset buildsNamed_gateEntry authorizes.gates_declared)
    fun _ declared => { authorizes with gates_declared := declared }

/-- A policy is added with what some enabled entry grants. -/
theorem authorizes_addPolicy
    {entry : String × Option Document.Policy}
    {next : Context}
    (member : entry ∈ document.auth.policies.entries)
    (authorizes : Authorizes document context)
    (added : addPolicy context entry = .ok next) :
    Authorizes document next := by
  rw [fills_addPolicy.step_eq, map_eq_ok_iff] at added
  obtain ⟨built, isBuilt, rfl⟩ := added
  cases built with
  | none =>
      exact authorizes
  | some named =>
      refine { authorizes with policies_granted := ?_ }
      intro policy isPolicy
      rcases Table.mem_values_of_insert isPolicy with rfl | former
      · obtain ⟨actions, entity, granted, _, _, isNew⟩ := policyEntry_eq_some_iff.mp isBuilt
        rw [isNew]
        exact ⟨entry, member, isEnabled_and_grants_of_policyGrants granted⟩
      · exact authorizes.policies_granted policy former

/-- Forms are added under declared names only. -/
theorem authorizes_forms
    (authorizes : Authorizes document context) :
    Authorizes document (Outcome.ofSteps addForm context document.auth.forms.entries).context :=
  fills_addForm.holds_ofSteps (Authorizes document)
    (fills_addForm.keys_ofSteps_subset (buildsNamed_formEntry context) authorizes.forms_declared)
    fun _ declared => { authorizes with forms_declared := declared }

theorem authorizes_abilities
    (authorizes : Authorizes document context) :
    Authorizes document (abilities document context).context :=
  Outcome.andThen_invariant (Authorizes document) (authorizes_gates authorizes)
    fun _ reached => Outcome.ofSteps_invariant (Authorizes document) reached
      fun _ _ _ member former added => authorizes_addPolicy member former added

theorem authorizes_auth
    (authorizes : Authorizes document context) :
    Authorizes document (auth document context).context :=
  Outcome.andThen_invariant (Authorizes document) (authorizes_abilities authorizes)
    fun _ reached => authorizes_forms reached

/-- Whatever stage is run, gates, policies and forms stay accounted for. -/
theorem authorizes_run
    (authorizes : Authorizes document context)
    (stage : Stage) :
    Authorizes document (stage.run document context).context := by
  cases stage with
  | entities =>
      obtain ⟨_, only⟩ :=
        fills_addEntity.context_ofSteps context document.database.models.entries
      exact only ▸ authorizes.of_eq rfl rfl rfl
  | relations =>
      obtain ⟨_, only⟩ := context_relations document context
      exact only ▸ authorizes.of_eq rfl rfl rfl
  | migrations =>
      obtain ⟨_, only⟩ := context_migrations document context
      exact only ▸ authorizes.of_eq rfl rfl rfl
  | http =>
      obtain ⟨_, _, only⟩ := context_http document context
      exact only ▸ authorizes.of_eq rfl rfl rfl
  | auth =>
      exact authorizes_auth authorizes

theorem authorizes_afterRuns
    (document : Document)
    (stages : List Stage) :
    Authorizes document (Context.afterRuns document stages) :=
  Context.afterRuns_invariant (Authorizes document) (authorizes_start document)
    (fun _ stage authorizes => authorizes_run authorizes stage) stages

/-! What forms ask of the sections. -/

/-- Once gates and policies are there, the gates are the declared ones. -/
theorem abilities_gates
    (authorizes : Authorizes document context)
    (done : (abilities document context).error = none)
    {ability : String} :
    ability ∈ (abilities document context).context.gates.keys ↔
      ability ∈ document.auth.gates.keys := by
  constructor
  · exact fun known => (authorizes_abilities authorizes).gates_declared known
  · intro isDeclared
    obtain ⟨entry, member, rfl⟩ := List.mem_map.mp isDeclared
    have gatesDone := (Outcome.andThen_error_eq_none_iff.mp done).1
    have present := fills_addGate.mem_keys_of_built (Outcome.eq_of_error_eq_none gatesDone) member
      rfl
    rw [abilities, Outcome.andThen_of_error_eq_none gatesDone]
    obtain ⟨_, only⟩ := fills_addPolicy.context_ofSteps
      (Outcome.ofSteps addGate context document.auth.gates.entries).context
      document.auth.policies.entries
    rw [only]
    exact present

/-- Once the gates and policies are there, an ability is known as the document says it. -/
theorem knowsAbility_abilities_iff
    (authorizes : Authorizes document context)
    (done : (abilities document context).error = none)
    {ability : String} :
    knowsAbility (abilities document context).context ability = true ↔
      document.Knows (abilities document context).context.policies ability := by
  rw [knowsAbility, Bool.or_eq_true, Table.contains_iff, abilities_gates authorizes done,
    Document.Knows]
  simp [Policy.allows]

/-- A form is authorized as its line says, if that names a known ability. -/
theorem formAuthorization_eq_ok_iff
    {owner : String}
    {declared : Option Document.Authorize}
    {authorization : FormAuthorization} :
    formAuthorization context owner declared = .ok authorization ↔
      Document.authorizationOf declared = authorization ∧
        ∀ line, declared = some (.line line) → knowsAbility context (trimmed line) = true := by
  match declared with
  | none | some (.toggle true) | some (.toggle false) =>
      simp [formAuthorization, Document.authorizationOf]
  | some (.line line) =>
      by_cases known : knowsAbility context (trimmed line) = true
      · simp [formAuthorization, Document.authorizationOf, known]
      · simp [formAuthorization, known]

/-- A form resolves exactly when its line names a known ability, or none. -/
theorem formEntry_eq_ok_iff
    {entry : String × Option Document.Form}
    {built : Option (String × Auth.Form)} :
    formEntry context entry = .ok built ↔
      built = some (entry.1, Document.formOf entry.1 entry.2) ∧
        ∀ line, (entry.2.getD .blank).authorize = some (.line line) →
          knowsAbility context (trimmed line) = true := by
  simp only [formEntry, map_eq_ok_iff, formAuthorization_eq_ok_iff]
  constructor
  · rintro ⟨_, ⟨rfl, known⟩, rfl⟩
    exact ⟨rfl, known⟩
  · rintro ⟨rfl, known⟩
    exact ⟨_, ⟨rfl, known⟩, rfl⟩

/-- Where the gates and policies resolve, the forms are left. -/
theorem auth_eq_ofSteps
    (done : (abilities document context).error = none) :
    auth document context =
      Outcome.ofSteps addForm (abilities document context).context document.auth.forms.entries := by
  rw [auth_eq_andThen, Outcome.andThen_of_error_eq_none done]

theorem auth_policies
    (done : (abilities document context).error = none) :
    (auth document context).context.policies =
      (abilities document context).context.policies := by
  obtain ⟨_, only⟩ := fills_addForm.context_ofSteps (abilities document context).context
    document.auth.forms.entries
  rw [auth_eq_ofSteps done, only]
  rfl

/-- The forms resolve exactly when every ability that one of them names is known. -/
theorem auth_error_eq_none_iff
    (authorizes : Authorizes document context)
    (done : (abilities document context).error = none) :
    (auth document context).error = none ↔
      ∀ entry ∈ document.auth.forms.entries,
        ∀ line, (entry.2.getD .blank).authorize = some (.line line) →
          document.Knows (auth document context).context.policies (trimmed line) := by
  rw [auth_policies done, auth_eq_ofSteps done, fills_addForm.ofSteps_eq, failure?_eq_none_iff]
  refine forall₂_congr fun entry _ => ?_
  constructor
  · rintro ⟨built, isBuilt⟩ line saysLine
    obtain ⟨_, known⟩ := formEntry_eq_ok_iff.mp isBuilt
    exact (knowsAbility_abilities_iff authorizes done).mp (known line saysLine)
  · intro known
    refine ⟨_, formEntry_eq_ok_iff.mpr ⟨rfl, fun line saysLine => ?_⟩⟩
    exact (knowsAbility_abilities_iff authorizes done).mpr (known line saysLine)

/-- The forms of the context are then those of the document, as it says them. -/
theorem get?_forms_eq_some_iff
    (authorizes : Authorizes document context)
    (done : (abilities document context).error = none)
    (formsDone : (auth document context).error = none)
    {name : String}
    {form : Auth.Form} :
    (auth document context).context.forms.get? name = some form ↔
      ∃ declared,
        document.auth.forms.get? name = some declared ∧
          form = Document.formOf name declared := by
  rw [auth_eq_ofSteps done] at formsDone ⊢
  have run := Outcome.eq_of_error_eq_none formsDone
  refine (fills_addForm.get?_ofSteps_eq_some_iff run (buildsNamed_formEntry _)
    document.auth.forms.nodup_keys (authorizes_abilities authorizes).forms_declared).trans ?_
  constructor
  · rintro ⟨⟨other, declared⟩, member, isBuilt⟩
    obtain ⟨same, _⟩ := formEntry_eq_ok_iff.mp isBuilt
    cases same
    exact ⟨declared, Table.get?_eq_some_iff.mpr member, rfl⟩
  · rintro ⟨declared, found, rfl⟩
    have member := Table.get?_eq_some_iff.mp found
    obtain ⟨built, isBuilt⟩ := fills_addForm.exists_built_of_run run member
    obtain ⟨rfl, _⟩ := formEntry_eq_ok_iff.mp isBuilt
    exact ⟨(name, declared), member, isBuilt⟩

/-- Elements at which nothing is done may be left out of a run. -/
theorem ofSteps_filter
    {α : Type}
    {step : Context → α → Except ResolveError Context}
    {keeps : α → Bool}
    {items : List α}
    (idle : ∀ item ∈ items, keeps item = false → ∀ context, step context item = .ok context)
    (context : Context) :
    Outcome.ofSteps step context (items.filter keeps) = Outcome.ofSteps step context items := by
  induction items generalizing context with
  | nil =>
      rfl
  | cons item rest inductionHypothesis =>
      have later := inductionHypothesis fun other inRest => idle other (by simp [inRest])
      by_cases isKept : keeps item = true
      · cases stepped : step context item with
        | error cause =>
            simp [Outcome.ofSteps, isKept, stepped]
        | ok next =>
            simp [Outcome.ofSteps, isKept, stepped, later]
      · have stepped := idle item (by simp) (by simpa using isKept) context
        simp [Outcome.ofSteps, isKept, stepped, later]

/-- Policies that are switched off might as well not be there. -/
theorem auth_withoutDisabled
    (document : Document) :
    auth document.withoutDisabled = auth document := by
  have entries :
      document.withoutDisabled.auth.policies.entries =
        document.auth.policies.entries.filter fun entry => entry.2 != some (.toggle false) :=
    Table.entries_ofList
      (document.auth.policies.nodup_keys.sublist (List.filter_sublist.map Prod.fst))
  have idle : ∀ entry ∈ document.auth.policies.entries,
      (entry.2 != some (.toggle false)) = false →
        ∀ context, addPolicy context entry = .ok context := by
    intro entry _ isDisabled context
    have isOff : entry.2 = some (.toggle false) := by simpa using isDisabled
    simp [addPolicy, policyGrants, isOff]
  funext context
  simp only [auth, entries, ofSteps_filter idle]
  rfl

end Resolution

/-- The authorization section is read alike with its own sections in any order. -/
theorem Document.read_authCodec_of_perm
    {entries others : List (Node × Node)}
    (perm : entries.Perm others)
    {tail : Option Fault}
    {standing : Standing}
    {auth : Document.Auth}
    (isRead : authCodec.read (.map entries tail standing) = .ok auth) :
    authCodec.read (.map others tail standing) = .ok auth := by
  refine Codec.read_record_of_perm ?_ perm isRead
  intro field isField other isOther different
  simp only [List.mem_cons, List.not_mem_nil, or_false] at isField isOther
  rcases isField with rfl | rfl | rfl <;> rcases isOther with rfl | rfl | rfl
  all_goals
    first
    | exact absurd rfl different
    | exact Codec.commutes_field fun _ _ _ => rfl

/--
Once the gates and policies of a document resolve, in whatever context runs of stages lead to, its
forms resolve exactly when each ability that one of them names is known, and are then the forms of
the document as it says them. Policies that are switched off are none of those that make an ability
known and might as well not be there, and the order of the sections does not matter.
-/
theorem auth_afterRuns
    (document : Document)
    (stages : List Stage)
    (done : (abilities document (Context.afterRuns document stages)).error = none) :
    let outcome := auth document (Context.afterRuns document stages)
    (outcome.error = none ↔
        ∀ entry ∈ document.auth.forms.entries,
          ∀ line, (entry.2.getD .blank).authorize = some (.line line) →
            document.Knows outcome.context.policies (trimmed line)) ∧
      (outcome.error = none →
        ∀ name form,
          outcome.context.forms.get? name = some form ↔
            ∃ declared,
              document.auth.forms.get? name = some declared ∧
                form = Document.formOf name declared) ∧
      (∀ policy ∈ outcome.context.policies.values,
        ∃ entry ∈ document.auth.policies.entries,
          Document.IsEnabled entry.2 ∧ Document.Grants entry.2 policy.actions) ∧
      auth document.withoutDisabled (Context.afterRuns document stages) = outcome ∧
      ∀ entries others tail standing,
        entries.Perm others →
        Document.authCodec.read (.map entries tail standing) = .ok document.auth →
        Document.authCodec.read (.map others tail standing) = .ok document.auth := by
  have authorizes := authorizes_afterRuns document stages
  exact ⟨auth_error_eq_none_iff authorizes done,
    fun formsDone _ _ => get?_forms_eq_some_iff authorizes done formsDone,
    (authorizes_auth authorizes).policies_granted,
    congrFun (auth_withoutDisabled document) _,
    fun _ _ _ _ perm isRead => Document.read_authCodec_of_perm perm isRead⟩

/-- Posts with a policy, and a form that asks for an ability. -/
def Document.ofForm
    (policy : Option Policy) :
    Document :=
  Document.ofAuth
    { Document.Auth.blank with
      policies := Table.ofList [("Post", policy)]
      forms := Table.ofList
        [("listing", some { Document.Form.blank with authorize := some (.line " index ") })] }

/-- The ability is known of the policy, and not any more when it is switched off. -/
theorem auth_afterRuns_ofForm :
    (auth (.ofForm none) (Context.afterRuns (.ofForm none) [.entities])).error = none ∧
      (auth (.ofForm (some (.toggle false)))
        (Context.afterRuns (.ofForm (some (.toggle false))) [.entities])).error ≠ none := by
  have enabledDone :
      (abilities (.ofForm none) (Context.afterRuns (.ofForm none) [.entities])).error = none := by
    decide +kernel
  have disabledDone :
      (abilities (.ofForm (some (.toggle false)))
        (Context.afterRuns (.ofForm (some (.toggle false))) [.entities])).error = none := by
    decide +kernel
  constructor
  · rw [(auth_afterRuns _ _ enabledDone).1]
    intro entry member line saysLine
    cases List.mem_singleton.mp member
    cases saysLine
    exact .inr (by decide +kernel)
  · obtain ⟨succeeds, _, granted, _⟩ := auth_afterRuns _ _ disabledDone
    rw [Ne, succeeds]
    intro known
    obtain isGate | ⟨policy, isPolicy, _⟩ := known _ (List.mem_singleton_self _) _ rfl
    · cases isGate
    · obtain ⟨entry, member, isEnabled, _⟩ := granted policy isPolicy
      cases List.mem_singleton.mp member
      exact isEnabled rfl

end Blueprint
