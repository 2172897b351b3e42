import Blueprint.Proofs.Steps
import Blueprint.Proofs.Table
import Blueprint.Resolution

namespace Blueprint

/-!
# Stage parts that fill a table

Apart from linking and from the migrations, every stage part does the same thing: it builds one
entry after the other from what other tables hold and puts it into a table of its own. Such a run
comes to inserting the entries that were built before the first failure, in order, and it leaves
every other table alone. The parts are told apart only by the table that they fill and by the
entry that they build.
-/

open Resolution

variable {ε α β : Type}

/-- A table of a context. -/
structure Slot (α : Type) where
  read : Context → Table α
  write : Context → Table α → Context
  read_write :
    ∀ context table, read (write context table) = table
  write_read :
    ∀ context, write context (read context) = context
  write_write :
    ∀ context first second, write (write context first) second = write context second

namespace Slot

/-! The tables that are filled entry by entry. -/

def entities : Slot Schema.Entity :=
  ⟨(·.entities), fun context table => { context with entities := table },
    fun _ _ => rfl, fun _ => rfl, fun _ _ _ => rfl⟩

def middleware : Slot Http.Middleware :=
  ⟨(·.middleware), fun context table => { context with middleware := table },
    fun _ _ => rfl, fun _ => rfl, fun _ _ _ => rfl⟩

def controllers : Slot Http.Controller :=
  ⟨(·.controllers), fun context table => { context with controllers := table },
    fun _ _ => rfl, fun _ => rfl, fun _ _ _ => rfl⟩

def gates : Slot Auth.Gate :=
  ⟨(·.gates), fun context table => { context with gates := table },
    fun _ _ => rfl, fun _ => rfl, fun _ _ _ => rfl⟩

def policies : Slot Auth.Policy :=
  ⟨(·.policies), fun context table => { context with policies := table },
    fun _ _ => rfl, fun _ => rfl, fun _ _ _ => rfl⟩

def forms : Slot Auth.Form :=
  ⟨(·.forms), fun context table => { context with forms := table },
    fun _ _ => rfl, fun _ => rfl, fun _ _ _ => rfl⟩

/-- Put an entry into the slot, if there is one. -/
def put
    (slot : Slot α)
    (context : Context) :
    Option (String × α) →
    Context
  | none => context
  | some entry => slot.write context ((slot.read context).insert entry.1 entry.2)

end Slot

/-- The entries built before the first failure. -/
def gathered
    (build : α → Except ε (Option β)) :
    List α →
    List β
  | [] => []
  | item :: rest =>
      match build item with
      | .error _ => []
      | .ok built => built.toList ++ gathered build rest

/-- The first failure to build an entry. -/
def failure?
    (build : α → Except ε (Option β)) :
    List α →
    Option ε
  | [] => none
  | item :: rest =>
      match build item with
      | .error cause => some cause
      | .ok _ => failure? build rest

/-- There is no failure exactly when something is built of every element. -/
theorem failure?_eq_none_iff
    {build : α → Except ε (Option β)}
    {items : List α} :
    failure? build items = none ↔ ∀ item ∈ items, ∃ built, build item = .ok built := by
  induction items with
  | nil =>
      simp [failure?]
  | cons head rest inductionHypothesis =>
      cases step : build head with
      | error cause =>
          simp [failure?, step]
      | ok built =>
          simp [failure?, step, inductionHypothesis]

/-- The first failure is that of some element. -/
theorem exists_item_of_failure?
    {build : α → Except ε (Option β)}
    {items : List α}
    {cause : ε}
    (failed : failure? build items = some cause) :
    ∃ item ∈ items, build item = .error cause := by
  induction items with
  | nil =>
      simp [failure?] at failed
  | cons head rest inductionHypothesis =>
      cases step : build head with
      | error reason =>
          simp only [failure?, step, Option.some.injEq] at failed
          exact ⟨head, by simp, by rw [step, failed]⟩
      | ok built =>
          simp only [failure?, step] at failed
          obtain ⟨item, inRest, fails⟩ := inductionHypothesis failed
          exact ⟨item, by simp [inRest], fails⟩

/-- What is gathered has been built of some element. -/
theorem exists_item_of_mem_gathered
    {build : α → Except ε (Option β)}
    {items : List α}
    {entry : β}
    (member : entry ∈ gathered build items) :
    ∃ item ∈ items, build item = .ok (some entry) := by
  induction items with
  | nil =>
      simp [gathered] at member
  | cons head rest inductionHypothesis =>
      cases step : build head with
      | error cause =>
          simp [gathered, step] at member
      | ok built =>
          simp only [gathered, step, List.mem_append, Option.mem_toList] at member
          rcases member with isBuilt | inRest
          · exact ⟨head, by simp, by rw [step, isBuilt]⟩
          · obtain ⟨item, inItems, found⟩ := inductionHypothesis inRest
            exact ⟨item, by simp [inItems], found⟩

/-- Without a failure all that is built of the elements is gathered. -/
theorem mem_gathered_iff
    {build : α → Except ε (Option β)}
    {items : List α}
    (succeeded : failure? build items = none)
    {entry : β} :
    entry ∈ gathered build items ↔ ∃ item ∈ items, build item = .ok (some entry) := by
  induction items with
  | nil =>
      simp [gathered]
  | cons head rest inductionHypothesis =>
      cases step : build head with
      | error cause =>
          simp [failure?, step] at succeeded
      | ok built =>
          simp only [failure?, step] at succeeded
          simp [gathered, step, inductionHypothesis succeeded]

/--
Elements of which each gives an entry under the same name as another build does, or fails, gather
an initial part of the names that a build without failures gathers.
-/
theorem names_gathered_initial
    {build other : α → Except ε (Option (String × β))}
    {items : List α}
    (same :
      ∀ item ∈ items, ∀ built,
        build item = .ok built →
        ∃ final, other item = .ok final ∧ final.map Prod.fst = built.map Prod.fst) :
    Entries.names (gathered build items) <+: Entries.names (gathered other items) := by
  induction items with
  | nil =>
      simp [gathered, Entries.names]
  | cons item rest inductionHypothesis =>
      cases step : build item with
      | error cause =>
          simp [gathered, step, Entries.names]
      | ok built =>
          obtain ⟨final, finalStep, sameName⟩ := same item (by simp) built step
          have later := inductionHypothesis fun later inRest => same later (by simp [inRest])
          have first : built.toList.map Prod.fst = final.toList.map Prod.fst := by
            rw [← Option.toList_map, ← Option.toList_map, sameName]
          simp only [Entries.names] at later ⊢
          simp only [gathered, step, finalStep, List.map_append, first]
          exact (List.prefix_append_right_inj _).mpr later

/-- Whatever is built of an element is an entry under the name of that element. -/
def BuildsNamed
    (nameOf : α → String)
    (build : α → Except ε (Option (String × β))) :
    Prop :=
  ∀ item built, build item = .ok built → ∃ value, built = some (nameOf item, value)

/-- An entry that is always put under the name of its element is named so. -/
theorem buildsNamed_ok
    {nameOf : α → String}
    {valueOf : α → β} :
    BuildsNamed nameOf fun item => (.ok (some (nameOf item, valueOf item)) : Except ε _) := by
  intro item built isBuilt
  cases isBuilt
  exact ⟨_, rfl⟩

/-- An entry that is put under the name of its element unless it fails is named so. -/
theorem buildsNamed_map
    {γ : Type}
    {nameOf : α → String}
    {make : α → Except ε γ}
    {valueOf : α → γ → β} :
    BuildsNamed nameOf fun item =>
      (make item).map fun made => some (nameOf item, valueOf item made) := by
  intro item built isBuilt
  obtain ⟨_, _, rfl⟩ := map_eq_ok_iff.mp isBuilt
  exact ⟨_, rfl⟩

/-- Two builds under the names of the elements agree on the names. -/
theorem BuildsNamed.names_eq
    {nameOf : α → String}
    {build other : α → Except ε (Option (String × β))}
    (named : BuildsNamed nameOf build)
    (otherNamed : BuildsNamed nameOf other)
    {item : α}
    {built final : Option (String × β)}
    (isBuilt : build item = .ok built)
    (isFinal : other item = .ok final) :
    final.map Prod.fst = built.map Prod.fst := by
  obtain ⟨_, rfl⟩ := named item built isBuilt
  obtain ⟨_, rfl⟩ := otherNamed item final isFinal
  rfl

/-- If every element gives an entry under its own name, the gathered names are those of all. -/
theorem names_gathered_of_named
    {build : α → Except ε (Option (String × β))}
    {items : List α}
    {nameOf : α → String}
    (succeeded : failure? build items = none)
    (named : BuildsNamed nameOf build) :
    Entries.names (gathered build items) = items.map nameOf := by
  induction items with
  | nil =>
      rfl
  | cons item rest inductionHypothesis =>
      cases step : build item with
      | error cause =>
          simp [failure?, step] at succeeded
      | ok built =>
          simp only [failure?, step] at succeeded
          obtain ⟨value, rfl⟩ := named item built step
          have later := inductionHypothesis succeeded
          simp only [Entries.names] at later ⊢
          simp [gathered, step, later]

/-- A step that puts what it builds into a slot, and builds it without reading the slot. -/
structure Fills
    (slot : Slot α)
    (build : Context → β → Except ResolveError (Option (String × α)))
    (step : Context → β → Except ResolveError Context) :
    Prop where
  step_eq :
    ∀ context item, step context item = (build context item).map (slot.put context)
  build_write :
    ∀ context table, build (slot.write context table) = build context

/-- A run that finds its slot empty and leaves the final table there. -/
structure FirstRun
    (slot : Slot α)
    (step : Context → β → Except ResolveError Context)
    (first : Context)
    (items : List β)
    (final : Table α)
    (error : Option ResolveError) :
    Prop where
  empty : slot.read first = ∅
  run : Outcome.ofSteps step first items = ⟨slot.write first final, error⟩

namespace Fills

variable {slot : Slot α}
variable {build : Context → β → Except ResolveError (Option (String × α))}
variable {step : Context → β → Except ResolveError Context}

/-- A run inserts what was built before the first failure and ends with that failure. -/
theorem ofSteps_eq
    (fills : Fills slot build step)
    (context : Context)
    (items : List β) :
    Outcome.ofSteps step context items =
      ⟨slot.write context ((slot.read context).insertAll (gathered (build context) items)),
        failure? (build context) items⟩ := by
  induction items generalizing context with
  | nil =>
      simp [Outcome.ofSteps, gathered, failure?, slot.write_read]
  | cons item rest inductionHypothesis =>
      cases built : build context item with
      | error cause =>
          simp [Outcome.ofSteps, fills.step_eq, built, Except.map, gathered, failure?,
            slot.write_read]
      | ok entry =>
          cases entry with
          | none =>
              simp [Outcome.ofSteps, fills.step_eq, built, Except.map, gathered, failure?,
                Slot.put, inductionHypothesis]
          | some entry =>
              simp [Outcome.ofSteps, fills.step_eq, built, Except.map, gathered, failure?,
                Slot.put, inductionHypothesis, fills.build_write, slot.read_write,
                slot.write_write]

/-- A run that fills an empty slot leaves the table of what it gathered. -/
theorem read_ofSteps_of_empty
    (fills : Fills slot build step)
    {context : Context}
    (empty : slot.read context = ∅)
    (items : List β) :
    slot.read (Outcome.ofSteps step context items).context =
      Table.ofList (gathered (build context) items) := by
  rw [fills.ofSteps_eq, slot.read_write, empty, Table.ofList_eq_insertAll]

/-- A run changes its slot and nothing else. -/
theorem reached_eq
    (fills : Fills slot build step)
    {context reached : Context}
    {error : Option ResolveError}
    {items : List β}
    (run : Outcome.ofSteps step context items = ⟨reached, error⟩) :
    reached = slot.write context (slot.read reached) := by
  rw [fills.ofSteps_eq, Outcome.mk.injEq] at run
  rw [← run.1, slot.read_write]

/-- What holds after a run is decided by what it leaves in the slot. -/
theorem holds_ofSteps
    (fills : Fills slot build step)
    (holds : Context → Prop)
    {keeps : Table α → Prop}
    {context : Context}
    {items : List β}
    (kept : keeps (slot.read (Outcome.ofSteps step context items).context))
    (written : ∀ table, keeps table → holds (slot.write context table)) :
    holds (Outcome.ofSteps step context items).context := by
  have run : Outcome.ofSteps step context items = ⟨_, _⟩ := rfl
  rw [fills.reached_eq run]
  exact written _ kept

/-- A run without a failure has built something of every element. -/
theorem exists_built_of_run
    (fills : Fills slot build step)
    {first reached : Context}
    {items : List β}
    (run : Outcome.ofSteps step first items = ⟨reached, none⟩)
    {item : β}
    (member : item ∈ items) :
    ∃ built, build first item = .ok built := by
  rw [fills.ofSteps_eq] at run
  exact failure?_eq_none_iff.mp (congrArg Outcome.error run) item member

/-- A run over an empty slot is a first one up to the table that it leaves. -/
theorem firstRun
    (fills : Fills slot build step)
    {first reached : Context}
    {error : Option ResolveError}
    {items : List β}
    (run : Outcome.ofSteps step first items = ⟨reached, error⟩)
    (empty : slot.read first = ∅) :
    FirstRun slot step first items (slot.read reached) error where
  empty := empty
  run := by
    rw [run, ← fills.reached_eq run]

/-- The final table is that of what a first run gathers. -/
theorem table_eq_of_firstRun
    (fills : Fills slot build step)
    {first : Context}
    {items : List β}
    {final : Table α}
    {error : Option ResolveError}
    (isFirst : FirstRun slot step first items final error) :
    final = Table.ofList (gathered (build first) items) := by
  have table := fills.read_ofSteps_of_empty isFirst.empty items
  rwa [isFirst.run, slot.read_write] at table

/--
Filling a slot that holds an initial part of the final names gives what the first run gave, and
fails where that did.
-/
theorem ofSteps_again
    (fills : Fills slot build step)
    {context first : Context}
    {items : List β}
    {final : Table α}
    {error : Option ResolveError}
    (isFirst : FirstRun slot step first items final error)
    (same : build context = build first)
    (initial : (slot.read context).keys <+: final.keys) :
    Outcome.ofSteps step context items = ⟨slot.write context final, error⟩ := by
  have table := fills.table_eq_of_firstRun isFirst
  have failure : failure? (build first) items = error := by
    have run := isFirst.run
    rw [fills.ofSteps_eq] at run
    exact congrArg Outcome.error run
  rw [table] at initial
  rw [fills.ofSteps_eq, same, failure, table, Table.insertAll_eq_ofList initial]

/--
After a first run without a failure, every further run leaves an initial part of the final names in
the slot if there was one before, as long as its entries bear the names that they bore first.
-/
theorem keys_ofSteps_initial
    (fills : Fills slot build step)
    {context first : Context}
    {items : List β}
    {final : Table α}
    (isFirst : FirstRun slot step first items final none)
    (initial : (slot.read context).keys <+: final.keys)
    (sameName :
      ∀ item built last,
        build context item = .ok built →
        build first item = .ok last →
        last.map Prod.fst = built.map Prod.fst) :
    (slot.read (Outcome.ofSteps step context items).context).keys <+: final.keys := by
  rw [fills.table_eq_of_firstRun isFirst] at initial ⊢
  rw [fills.ofSteps_eq, slot.read_write]
  refine Table.keys_insertAll_initial initial (names_gathered_initial ?_)
  intro item member built isBuilt
  obtain ⟨last, isLast⟩ := fills.exists_built_of_run isFirst.run member
  exact ⟨last, isLast, sameName item built last isBuilt isLast⟩

/-- A run keeps every entry of the slot under its own name if that is how entries are built. -/
theorem keyed_ofSteps
    (fills : Fills slot build step)
    {nameOf : α → String}
    {context : Context}
    (keyed : (slot.read context).Keyed nameOf)
    (own : ∀ item entry, build context item = .ok (some entry) → nameOf entry.2 = entry.1)
    (items : List β) :
    (slot.read (Outcome.ofSteps step context items).context).Keyed nameOf := by
  rw [fills.ofSteps_eq, slot.read_write]
  apply keyed.insertAll
  intro entry member
  obtain ⟨item, _, isBuilt⟩ := exists_item_of_mem_gathered member
  exact own item entry isBuilt

/-- A run adds no names but the own ones of the elements, whether or not it fails. -/
theorem keys_ofSteps_subset
    (fills : Fills slot build step)
    {context : Context}
    {items : List β}
    {nameOf : β → String}
    (named : BuildsNamed nameOf (build context))
    (held : (slot.read context).keys ⊆ items.map nameOf) :
    (slot.read (Outcome.ofSteps step context items).context).keys ⊆ items.map nameOf := by
  intro name member
  rw [fills.ofSteps_eq, slot.read_write, Table.keys_insertAll, List.mem_eraseDups,
    List.mem_append] at member
  rcases member with former | isNew
  · exact held former
  · obtain ⟨entry, isGathered, rfl⟩ := List.mem_map.mp isNew
    obtain ⟨item, inItems, isBuilt⟩ := exists_item_of_mem_gathered isGathered
    obtain ⟨value, same⟩ := named item _ isBuilt
    cases same
    exact List.mem_map_of_mem inItems

/--
A run without a failure that puts an entry under the own name of every element leaves under a name
what is built of the element of that name, if no two have the same one and the slot held no others.
-/
theorem get?_ofSteps_eq_some_iff
    (fills : Fills slot build step)
    {context reached : Context}
    {items : List β}
    (run : Outcome.ofSteps step context items = ⟨reached, none⟩)
    {nameOf : β → String}
    (named : BuildsNamed nameOf (build context))
    (distinct : (items.map nameOf).Nodup)
    (held : (slot.read context).keys ⊆ items.map nameOf)
    {name : String}
    {value : α} :
    (slot.read reached).get? name = some value ↔
      ∃ item ∈ items, build context item = .ok (some (name, value)) := by
  rw [fills.ofSteps_eq, Outcome.mk.injEq] at run
  obtain ⟨rfl, succeeded⟩ := run
  have names := names_gathered_of_named succeeded named
  rw [slot.read_write, Table.get?_insertAll, ← mem_gathered_iff succeeded]
  constructor
  · intro found
    cases inserted : (Table.ofList (gathered (build context) items)).get? name with
    | some other =>
        rw [inserted, Option.some_or, Option.some.injEq] at found
        exact Table.mem_of_get?_ofList (found ▸ inserted)
    | none =>
        -- All names that were held before are inserted again.
        rw [inserted, Option.none_or] at found
        rw [Table.get?_eq_none_iff, Table.keys_ofList, List.mem_eraseDups, names] at inserted
        exact absurd (held (Table.mem_keys_iff.mpr ⟨value, found⟩)) inserted
  · intro member
    have namesDistinct : (Entries.names (gathered (build context) items)).Nodup := by
      rwa [names]
    rw [← Table.entries_ofList namesDistinct, ← Table.get?_eq_some_iff] at member
    rw [member, Option.some_or]

/-- Whatever a run without a failure builds, something stands under its name afterwards. -/
theorem mem_keys_of_built
    (fills : Fills slot build step)
    {context reached : Context}
    {items : List β}
    (run : Outcome.ofSteps step context items = ⟨reached, none⟩)
    {item : β}
    (member : item ∈ items)
    {entry : String × α}
    (isBuilt : build context item = .ok (some entry)) :
    entry.1 ∈ (slot.read reached).keys := by
  rw [fills.ofSteps_eq, Outcome.mk.injEq] at run
  obtain ⟨rfl, succeeded⟩ := run
  have isGathered := (mem_gathered_iff succeeded).mpr ⟨item, member, isBuilt⟩
  rw [slot.read_write, Table.keys_insertAll, List.mem_eraseDups]
  exact List.mem_append_right _ (List.mem_map_of_mem isGathered)

end Fills

/-- The entity that a model makes, under the key of the model. -/
def entityEntry
    (context : Context)
    (entry : String × Document.Model) :
    Except ResolveError (Option (String × Schema.Entity)) :=
  (entityOf context.databaseSpace entry.1 entry.2).map fun entity => some (entry.1, entity)

/-- The middleware of a declaration, under its short name. -/
def middlewareEntry
    (entry : String × Option Document.Middleware) :
    String × Http.Middleware :=
  (entry.1, middlewareOf entry.1 entry.2)

/-- The controller of a declaration, under its key. -/
def controllerEntry
    (context : Context)
    (entry : String × Document.Controller) :
    Except ResolveError (Option (String × Http.Controller)) :=
  (controllerOf context entry.1 entry.2).map fun controller => some (entry.1, controller)

/-- The gate of a declaration, under its ability. -/
def gateEntry
    (entry : String × Option String) :
    String × Auth.Gate :=
  (entry.1, Auth.Gate.ofHandler entry.1 entry.2)

/-- The policy of a declaration under the key of its entity, unless it is switched off. -/
def policyEntry
    (context : Context)
    (entry : String × Option Document.Policy) :
    Except ResolveError (Option (String × Auth.Policy)) :=
  let owner := "policies." ++ entry.1
  match policyGrants owner entry.2 with
  | .error cause => .error cause
  | .ok none => .ok none
  | .ok (some actions) =>
      (context.entity entry.1 owner).map fun entity =>
        some (entity.key, ⟨entity.key, entity.className ++ "Policy", actions⟩)

/-- The form of a declaration, under its name. -/
def formEntry
    (context : Context)
    (entry : String × Option Document.Form) :
    Except ResolveError (Option (String × Auth.Form)) :=
  let declared := entry.2.getD .blank
  (formAuthorization context ("forms." ++ entry.1) declared.authorize).map fun authorize =>
    some (entry.1, ⟨entry.1, formClass entry.1, authorize, fieldMethods declared.rules⟩)

/-! All but policies stand under the names of their declarations. -/

theorem buildsNamed_entityEntry
    (context : Context) :
    BuildsNamed Prod.fst (entityEntry context) :=
  buildsNamed_map

theorem buildsNamed_middlewareEntry :
    BuildsNamed Prod.fst fun entry => (.ok (some (middlewareEntry entry)) : Except ε _) :=
  buildsNamed_ok

theorem buildsNamed_controllerEntry
    (context : Context) :
    BuildsNamed Prod.fst (controllerEntry context) :=
  buildsNamed_map

theorem buildsNamed_gateEntry :
    BuildsNamed Prod.fst fun entry => (.ok (some (gateEntry entry)) : Except ε _) :=
  buildsNamed_ok

theorem buildsNamed_formEntry
    (context : Context) :
    BuildsNamed Prod.fst (formEntry context) :=
  buildsNamed_map

/-! Each of these stage parts fills a slot. -/

/-- Models fill the entities. -/
theorem fills_addEntity :
    Fills .entities entityEntry addEntity where
  step_eq context entry := by
    cases built : entityOf context.databaseSpace entry.1 entry.2 <;>
      simp [addEntity, entityEntry, built, Except.map, Slot.put, Slot.entities]
  build_write _ _ := rfl

theorem fills_addMiddleware :
    Fills .middleware (fun _ entry => .ok (some (middlewareEntry entry))) addMiddleware where
  step_eq _ _ := rfl
  build_write _ _ := rfl

theorem fills_addController :
    Fills .controllers controllerEntry addController where
  step_eq context entry := by
    cases built : controllerOf context entry.1 entry.2 <;>
      simp [addController, controllerEntry, built, Except.map, Slot.put, Slot.controllers]
  build_write _ _ := rfl

theorem fills_addGate :
    Fills .gates (fun _ entry => .ok (some (gateEntry entry))) addGate where
  step_eq _ _ := rfl
  build_write _ _ := rfl

theorem fills_addPolicy :
    Fills .policies policyEntry addPolicy where
  step_eq context entry := by
    simp only [addPolicy, policyEntry]
    cases granted : policyGrants ("policies." ++ entry.1) entry.2 with
    | error cause =>
        rfl
    | ok grants =>
        cases grants with
        | none =>
            rfl
        | some actions =>
            cases context.entity entry.1 ("policies." ++ entry.1) <;> rfl
  build_write _ _ := rfl

theorem fills_addForm :
    Fills .forms formEntry addForm where
  step_eq context entry := by
    simp only [addForm, formEntry]
    cases formAuthorization context ("forms." ++ entry.1) (entry.2.getD .blank).authorize <;> rfl
  build_write _ _ := rfl

end Blueprint
