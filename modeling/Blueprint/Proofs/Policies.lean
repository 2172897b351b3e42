import Blueprint.Proofs.Convergence
import Blueprint.Proofs.ModelNames

namespace Blueprint

/-!
# Policies

A declared policy is stored under the key of the model that its name refers to, and different names
may refer to one model: a later policy of a model takes the place of an earlier one. No declared
policy is lost exactly when all that refer to one model name the same abilities.
-/

open Auth Resolution

namespace Document

/-- The abilities that a declared policy names: all of them, unless it is switched off or has words
of its own. -/
def abilitiesNamed :
    Option Policy →
    List String
  | none => policyActions
  | some (.toggle true) => policyActions
  | some (.toggle false) => []
  | some (.actions words) => words.toList

/-- A declared policy that is not switched off. -/
def IsEnabled
    (declared : Option Policy) :
    Prop :=
  declared ≠ some (.toggle false)

/-- Actions are the abilities that a declared policy names, each once and in the usual order. -/
structure Grants
    (declared : Option Policy)
    (actions : List String) :
    Prop where
  ordered : actions.Sublist policyActions
  mem_iff : ∀ ability, ability ∈ actions ↔ ability ∈ abilitiesNamed declared

/-- Nothing but posts and an authorization section. -/
def ofAuth
    (auth : Auth) :
    Document :=
  { Document.ofModels [("Post", [("id", .line "id")])] with auth := auth }

end Document

/-- A plan has a declared policy of a document under the key that its name refers to. -/
def Plan.Keeps
    (plan : Plan)
    (document : Document)
    (entry : String × Option Document.Policy) :
    Prop :=
  ∃ key policy,
    document.Refers entry.1 key ∧
      plan.auth.policies.get? key = some policy ∧
      Document.Grants entry.2 policy.actions

namespace Resolution

/-! What a declared policy grants. -/

theorem grants_of_all
    {declared : Option Document.Policy}
    (namesAll : Document.abilitiesNamed declared = policyActions) :
    Document.Grants declared policyActions where
  ordered := List.Sublist.refl _
  mem_iff := by simp [namesAll]

/-- Words are granted if each of them is an ability. -/
theorem grants_of_grantedActions
    {owner : String}
    {words : Document.Words}
    {actions : List String}
    (granted : grantedActions owner words.toList = .ok actions) :
    Document.Grants (some (.actions words)) actions := by
  unfold grantedActions at granted
  split at granted
  · cases granted
  · next noUnknown =>
      cases granted
      have known : ∀ word ∈ words.toList, word ∈ policyActions := by
        simpa using noUnknown
      constructor
      · exact List.filter_sublist
      · intro ability
        simp only [List.mem_filter, List.contains_iff_mem, Document.abilitiesNamed,
          and_iff_right_iff_imp]
        exact known ability

theorem isEnabled_and_grants_of_policyGrants
    {owner : String}
    {declared : Option Document.Policy}
    {actions : List String}
    (granted : policyGrants owner declared = .ok (some actions)) :
    Document.IsEnabled declared ∧ Document.Grants declared actions := by
  match declared with
  | none | some (.toggle true) =>
      cases granted
      exact ⟨nofun, grants_of_all rfl⟩
  | some (.toggle false) =>
      cases granted
  | some (.actions words) =>
      rw [policyGrants, map_eq_ok_iff] at granted
      obtain ⟨_, isGranted, same⟩ := granted
      cases same
      exact ⟨nofun, grants_of_grantedActions isGranted⟩

theorem policyGrants_eq_none_iff
    (owner : String)
    {declared : Option Document.Policy} :
    policyGrants owner declared = .ok none ↔ declared = some (.toggle false) := by
  match declared with
  | none | some (.toggle true) | some (.toggle false) =>
      simp [policyGrants]
  | some (.actions words) =>
      simp [policyGrants, map_eq_ok_iff]

/-- A policy is built of the entity that its declaration names and of what it grants. -/
theorem policyEntry_eq_some_iff
    {context : Context}
    {entry : String × Option Document.Policy}
    {key : String}
    {policy : Policy} :
    policyEntry context entry = .ok (some (key, policy)) ↔
      ∃ actions entity,
        policyGrants ("policies." ++ entry.1) entry.2 = .ok (some actions) ∧
          context.entity entry.1 ("policies." ++ entry.1) = .ok entity ∧
          key = entity.key ∧
          policy = ⟨entity.key, entity.className ++ "Policy", actions⟩ := by
  simp only [policyEntry]
  cases granted : policyGrants ("policies." ++ entry.1) entry.2 with
  | error cause =>
      simp
  | ok grants =>
      cases grants with
      | none =>
          simp
      | some actions =>
          simp only [map_eq_ok_iff, Except.ok.injEq, Option.some.injEq, Prod.mk.injEq]
          constructor
          · rintro ⟨entity, found, rfl, rfl⟩
            exact ⟨actions, entity, rfl, found, rfl, rfl⟩
          · rintro ⟨_, entity, rfl, found, rfl, rfl⟩
            exact ⟨entity, found, rfl, rfl⟩

theorem policyEntry_eq_none_iff
    {context : Context}
    {entry : String × Option Document.Policy} :
    policyEntry context entry = .ok none ↔ entry.2 = some (.toggle false) := by
  rw [← policyGrants_eq_none_iff ("policies." ++ entry.1)]
  simp only [policyEntry]
  cases granted : policyGrants ("policies." ++ entry.1) entry.2 with
  | error cause =>
      simp
  | ok grants =>
      cases grants <;> simp [map_eq_ok_iff]

variable {document : Document}

theorem Resolves.hasModels_gated
    (resolves : Resolves document) :
    HasModels document (gated document) := by
  have sameEntities : (gated document).entities = (linked document).entities := by
    rw [resolves.gated_eq, served_eq]
  refine (hasModels_linked resolves.entities_done).of_outline_eq ?_ ?_
  · rw [Context.outline, Context.outline, sameEntities]
  · rw [sameEntities]
    exact (wellLinked_linked document).keyed

/-- Under the key that the name of an enabled policy refers to there is a policy. -/
theorem Resolves.exists_key_of_entry
    (resolves : Resolves document)
    {entry : String × Option Document.Policy}
    (member : entry ∈ document.auth.policies.entries)
    (isEnabled : Document.IsEnabled entry.2) :
    ∃ key, document.Refers entry.1 key ∧ key ∈ (settled document).policies.keys := by
  obtain ⟨built, isBuilt⟩ :=
    fills_addPolicy.exists_built_of_run resolves.policies_first.run member
  cases built with
  | none =>
      exact absurd (policyEntry_eq_none_iff.mp isBuilt) isEnabled
  | some named =>
      have present := fills_addPolicy.mem_keys_of_built resolves.policies_first.run member isBuilt
      obtain ⟨actions, entity, _, found, isKey, _⟩ := policyEntry_eq_some_iff.mp isBuilt
      obtain ⟨key, refers, stored⟩ := resolves.hasModels_gated.entity_eq_ok_iff.mp found
      have ownKey := resolves.hasModels_gated.keyed key entity stored
      rw [isKey, ownKey] at present
      exact ⟨key, refers, present⟩

/-- A policy of the plan is that of some enabled entry that refers to its key. -/
theorem Resolves.exists_entry_of_policy
    (resolves : Resolves document)
    {key : String}
    {policy : Policy}
    (found : (settled document).policies.get? key = some policy) :
    ∃ entry ∈ document.auth.policies.entries,
      Document.IsEnabled entry.2 ∧
        document.Refers entry.1 key ∧
        Document.Grants entry.2 policy.actions := by
  have filled := congrArg (·.context.policies.get? key) resolves.policies_first.run
  obtain ⟨entry, member, isBuilt⟩ :=
    fills_addPolicy.exists_item_of_get? resolves.policies_first.empty (filled.trans found)
  obtain ⟨actions, entity, granted, isEntity, rfl, rfl⟩ := policyEntry_eq_some_iff.mp isBuilt
  obtain ⟨isEnabled, grants⟩ := isEnabled_and_grants_of_policyGrants granted
  obtain ⟨key, refers, stored⟩ := resolves.hasModels_gated.entity_eq_ok_iff.mp isEntity
  have ownKey := resolves.hasModels_gated.keyed key entity stored
  exact ⟨entry, member, isEnabled, ownKey ▸ refers, grants⟩

end Resolution

/--
Every enabled policy of a document is in its plan, under the key that its name refers to and with
the abilities that it names, exactly when enabled policies that refer to one model name the same
abilities.
-/
theorem forall_keeps_iff
    {document : Document}
    {plan : Plan}
    (resolved : resolve document = .ok plan) :
    (∀ entry ∈ document.auth.policies.entries,
        Document.IsEnabled entry.2 → plan.Keeps document entry) ↔
      ∀ first ∈ document.auth.policies.entries,
        ∀ second ∈ document.auth.policies.entries,
          Document.IsEnabled first.2 →
          Document.IsEnabled second.2 →
          ∀ key,
            document.Refers first.1 key →
            document.Refers second.1 key →
            ∀ ability,
              ability ∈ Document.abilitiesNamed first.2 ↔
                ability ∈ Document.abilitiesNamed second.2 := by
  obtain ⟨resolves, rfl⟩ := resolve_eq_ok_iff.mp resolved
  constructor
  · intro keeps first isFirst second isSecond firstEnabled secondEnabled key firstRefers
      secondRefers ability
    obtain ⟨firstKey, firstPolicy, refersFirst, foundFirst, grantsFirst⟩ :=
      keeps first isFirst firstEnabled
    obtain ⟨secondKey, secondPolicy, refersSecond, foundSecond, grantsSecond⟩ :=
      keeps second isSecond secondEnabled
    cases firstRefers.unique refersFirst
    cases secondRefers.unique refersSecond
    cases foundFirst.symm.trans foundSecond
    rw [← grantsFirst.mem_iff, grantsSecond.mem_iff]
  · intro agree entry member isEnabled
    -- The policy that is there may be another one's, which then names the same abilities.
    obtain ⟨key, refers, present⟩ := resolves.exists_key_of_entry member isEnabled
    obtain ⟨policy, found⟩ := Table.mem_keys_iff.mp present
    obtain ⟨last, isLast, lastEnabled, lastRefers, grants⟩ := resolves.exists_entry_of_policy found
    refine ⟨key, policy, refers, found, grants.ordered, ?_⟩
    intro ability
    rw [grants.mem_iff]
    exact agree last isLast entry member lastEnabled isEnabled key lastRefers refers ability

/-- Posts under two names, each with a policy. -/
def Document.ofPolicies
    (first second : Option Policy) :
    Document :=
  Document.ofAuth
    { Document.Auth.blank with policies := Table.ofList [("Post", first), ("post", second)] }

/-- Policies of one model that name the same abilities in different words are both kept. -/
theorem forall_keeps_ofPolicies :
    ∃ document plan,
      resolve document = .ok plan ∧
        document.auth.policies.keys = ["Post", "post"] ∧
        ∀ entry ∈ document.auth.policies.entries,
          Document.IsEnabled entry.2 → plan.Keeps document entry := by
  let first : Option Document.Policy := some (.actions (.line "update index"))
  let second : Option Document.Policy := some (.actions (.list ["index", "update"]))
  have isOk : (resolve (.ofPolicies first second)).isOk = true := by
    decide +kernel
  obtain ⟨plan, resolved⟩ := exists_eq_ok_of_isOk isOk
  refine ⟨_, plan, resolved, rfl, (forall_keeps_iff resolved).mpr ?_⟩
  have names : ∀ entry ∈ (Document.ofPolicies first second).auth.policies.entries,
      (Document.abilitiesNamed entry.2).Perm ["index", "update"] := by
    decide +kernel
  intro first isFirst second isSecond _ _ _ _ _ ability
  exact ((names first isFirst).trans (names second isSecond).symm).mem_iff

/-- A document may resolve and yet lose a policy to another one of the same model. -/
theorem exists_not_keeps :
    ∃ document plan,
      resolve document = .ok plan ∧
        ∃ entry ∈ document.auth.policies.entries,
          Document.IsEnabled entry.2 ∧ ¬plan.Keeps document entry := by
  have evaluated :
      (resolve (.ofPolicies (some (.actions (.line "index")))
        (some (.actions (.line "show"))))).toOption.any (fun plan =>
          (plan.auth.policies.get? "Post").all fun policy => policy.actions == ["show"]) =
        true := by
    decide +kernel
  obtain ⟨plan, resolved, onlyShow⟩ := exists_plan_of_any evaluated
  refine ⟨_, plan, resolved, ("Post", some (.actions (.line "index"))), by decide, nofun, ?_⟩
  rintro ⟨key, policy, refers, found, grants⟩
  have isPost : key = "Post" := refers.unique ⟨by decide, .inl rfl⟩
  rw [isPost] at found
  have grantsIndex := (grants.mem_iff "index").mpr (by decide)
  simp only [found, Option.all_some, beq_iff_eq] at onlyShow
  simp [onlyShow] at grantsIndex

end Blueprint
