import Blueprint.Proofs.Convergence

namespace Blueprint

/-!
# Sections by themselves

The stages of the database section read nothing else of a document, the HTTP stage adds the HTTP
section to that, and the authorization stage adds the authorization section. No stage reads the
tables that the last two stages fill but its own. So a document resolves exactly when it does
without its authorization section and without its HTTP section, and its plan is put together of
the plans of these documents.
-/

open Resolution Schema

/-- An outcome with its context changed. -/
def Outcome.map
    (change : Context → Context)
    (outcome : Outcome) :
    Outcome :=
  ⟨change outcome.context, outcome.error⟩

namespace Outcome

variable {α : Type} {change : Context → Context}

/-- A change that every step passes on goes through a run. -/
theorem ofSteps_map
    {step : Context → α → Except ResolveError Context}
    (passed : ∀ context item, step (change context) item = (step context item).map change)
    (context : Context)
    (items : List α) :
    ofSteps step (change context) items = (ofSteps step context items).map change := by
  induction items generalizing context with
  | nil =>
      rfl
  | cons item rest inductionHypothesis =>
      cases stepped : step context item with
      | error cause =>
          simp only [ofSteps, passed, stepped, Except.map]
          rfl
      | ok next =>
          simp only [ofSteps, passed, stepped, Except.map]
          exact inductionHypothesis next

/-- A change that both of two stages pass on is passed on by the one after the other. -/
theorem andThen_map
    {outcome : Outcome}
    {next : Context → Outcome}
    (passed : ∀ context, next (change context) = (next context).map change) :
    (outcome.map change).andThen next = (outcome.andThen next).map change := by
  cases failed : outcome.error with
  | some cause =>
      simp [andThen, Outcome.map, failed]
  | none =>
      simp only [andThen, Outcome.map, failed]
      exact passed outcome.context

end Outcome

namespace Resolution

/-! What the last two stages neither read nor write. -/

/-- A context with all that the HTTP stage reads and writes taken from another. -/
def withHttpOf
    (rest context : Context) :
    Context :=
  { rest with
    httpSpace := context.httpSpace
    entities := context.entities
    middleware := context.middleware
    controllers := context.controllers }

/-- A context with all that the authorization stage reads and writes taken from another. -/
def withAuthOf
    (rest context : Context) :
    Context :=
  { rest with
    entities := context.entities
    gates := context.gates
    policies := context.policies
    forms := context.forms }

/-- The HTTP stage does not see the gates, the policies and the forms. -/
theorem http_withHttpOf
    (document : Document)
    (rest context : Context) :
    http document (withHttpOf rest context) =
      (http document context).map (withHttpOf rest) := by
  unfold http
  rw [Outcome.ofSteps_map]
  · apply Outcome.andThen_map
    intro context
    apply Outcome.ofSteps_map
    intro context entry
    have sameController :
        controllerOf (withHttpOf rest context) entry.1 entry.2 =
          controllerOf context entry.1 entry.2 := rfl
    simp only [addController, sameController]
    cases controllerOf context entry.1 entry.2 <;> rfl
  · intro context entry
    rfl

/-- The last stage does not see the middleware and the controllers. -/
theorem auth_withAuthOf
    (document : Document)
    (rest context : Context) :
    auth document (withAuthOf rest context) =
      (auth document context).map (withAuthOf rest) := by
  unfold auth
  rw [Outcome.ofSteps_map, Outcome.andThen_map, Outcome.andThen_map]
  · intro context
    apply Outcome.ofSteps_map
    intro context entry
    have sameForm : formAuthorization (withAuthOf rest context) = formAuthorization context := rfl
    simp only [addForm, sameForm]
    cases formAuthorization context ("forms." ++ entry.1) (entry.2.getD .blank).authorize <;> rfl
  · intro context
    apply Outcome.ofSteps_map
    intro context entry
    have sameEntity : (withAuthOf rest context).entity = context.entity := rfl
    simp only [addPolicy, sameEntity]
    cases policyGrants ("policies." ++ entry.1) entry.2 with
    | error cause =>
        rfl
    | ok grants =>
        cases grants with
        | none =>
            rfl
        | some actions =>
            cases context.entity entry.1 ("policies." ++ entry.1) <;> rfl
  · intro context entry
    rfl

/-! What stages make of documents that share sections. -/

section SameSections

variable {document other : Document}

/-- The first stage depends on the database section alone. -/
theorem entities_of_database_eq
    (same : other.database = document.database) :
    (built other).entities = (built document).entities ∧
      (entities other (Context.start other)).error =
        (entities document (Context.start document)).error := by
  have sameStage (context : Context) : entities other context = entities document context := by
    rw [entities, entities, same]
  have sameSpace :
      (Context.start other).databaseSpace = (Context.start document).databaseSpace := by
    simp only [Context.start, same]
  have run :
      entities document (Context.start other) =
        ⟨{ Context.start other with entities := (built document).entities },
          (entities document (Context.start document)).error⟩ :=
    entities_of_outline sameSpace (.inl rfl)
  rw [built, sameStage, run]
  exact ⟨rfl, rfl⟩

theorem relations_of_database_eq
    (same : other.database = document.database) :
    (linked other).entities = (linked document).entities ∧
      (relations other (built other)).error = (relations document (built document)).error := by
  have sameStage (context : Context) : relations other context = relations document context := by
    rw [relations, relations, placeholders, placeholders, same]
  have run := relations_of_entities_eq (entities_of_database_eq same).1 document
  rw [linked, sameStage, run]
  exact ⟨rfl, rfl⟩

theorem migrations_of_database_eq
    (same : other.database = document.database) :
    (tabled other).migrations = (tabled document).migrations ∧
      (migrations other (linked other)).error =
        (migrations document (linked document)).error := by
  have sameTable :
      migrationTable other (linked other) = migrationTable document (linked document) := by
    rw [← migrationTable_congr (relations_of_database_eq same).1 document]
    simp only [migrationTable, same]
  have noneYet : (linked other).migrations = (linked document).migrations := by
    rw [linked_eq other, linked_eq document]
    rfl
  rw [tabled, tabled, migrations, migrations, sameTable]
  cases migrationTable document (linked document) with
  | error cause =>
      exact ⟨noneYet, rfl⟩
  | ok table =>
      exact ⟨rfl, rfl⟩

/-- The HTTP stage depends on its own section and on the database section. -/
theorem http_of_sections_eq
    (sameDatabase : other.database = document.database)
    (sameHttp : other.http = document.http) :
    (served other).middleware = (served document).middleware ∧
      (served other).controllers = (served document).controllers ∧
      (http other (tabled other)).error = (http document (tabled document)).error := by
  have sameStage (context : Context) : http other context = http document context := by
    rw [http, http, sameHttp]
  have sameReads : tabled other = withHttpOf (tabled other) (tabled document) := by
    rw [tabled_eq document, tabled_eq other, (relations_of_database_eq sameDatabase).1]
    simp only [withHttpOf, Context.start, sameHttp]
  have run : http other (tabled other) =
      (http document (tabled document)).map (withHttpOf (tabled other)) := by
    rw [sameStage, sameReads]
    exact http_withHttpOf document (tabled other) (tabled document)
  rw [served, run]
  exact ⟨rfl, rfl, rfl⟩

/-- The last stage depends on its own section and on the database section. -/
theorem auth_of_sections_eq
    (sameDatabase : other.database = document.database)
    (sameAuth : other.auth = document.auth) :
    (settled other).plan.auth = (settled document).plan.auth ∧
      (auth other (served other)).error = (auth document (served document)).error := by
  have sameStage (context : Context) : auth other context = auth document context := by
    rw [auth, auth, sameAuth]
  have sameReads : served other = withAuthOf (served other) (served document) := by
    rw [served_eq document, served_eq other, (relations_of_database_eq sameDatabase).1]
    rfl
  have run : auth other (served other) =
      (auth document (served document)).map (withAuthOf (served other)) := by
    rw [sameStage, sameReads]
    exact auth_withAuthOf document (served other) (served document)
  rw [settled, run]
  exact ⟨rfl, rfl⟩

/-- The database part of a plan depends on the database section alone. -/
theorem plan_database_of_database_eq
    (same : other.database = document.database) :
    (settled other).plan.database = (settled document).plan.database := by
  simp only [plan_database, plannedDatabase, Context.start, same,
    (relations_of_database_eq same).1, (migrations_of_database_eq same).1]

/-- The HTTP part of a plan depends on two of the three sections. -/
theorem plan_http_of_sections_eq
    (sameDatabase : other.database = document.database)
    (sameHttp : other.http = document.http) :
    (settled other).plan.http = (settled document).plan.http := by
  obtain ⟨sameMiddleware, sameControllers, _⟩ := http_of_sections_eq sameDatabase sameHttp
  rw [settled_eq other, settled_eq document]
  simp only [Context.plan, Context.start, sameHttp, sameMiddleware, sameControllers]

end SameSections

end Resolution

namespace Document

/-- A document with its HTTP section left out. -/
def withoutHttp
    (document : Document) :
    Document :=
  { document with http := .blank }

/-- A document with its authorization section left out. -/
def withoutAuth
    (document : Document) :
    Document :=
  { document with auth := .blank }

end Document

namespace Resolution

section

variable {document other : Document}

/-- A document resolves if its database does in another one and the rest succeeds. -/
theorem Resolves.of_sections_eq
    (resolves : Resolves document)
    (sameDatabase : other.database = document.database)
    (checked : other.check = .ok ())
    (http_done : (http other (tabled other)).error = none)
    (auth_done : (auth other (served other)).error = none) :
    Resolves other where
  checked := checked
  entities_done := (entities_of_database_eq sameDatabase).2.trans resolves.entities_done
  relations_done := (relations_of_database_eq sameDatabase).2.trans resolves.relations_done
  migrations_done := (migrations_of_database_eq sameDatabase).2.trans resolves.migrations_done
  http_done := http_done
  auth_done := auth_done

/-- Without its last section a document still resolves. -/
theorem Resolves.withoutAuth
    (resolves : Resolves document) :
    Resolves document.withoutAuth := by
  have sameDatabase : document.withoutAuth.database = document.database := rfl
  have sameHttp : document.withoutAuth.http = document.http := rfl
  apply resolves.of_sections_eq sameDatabase
  · exact resolves.checked
  · exact (http_of_sections_eq sameDatabase sameHttp).2.2.trans resolves.http_done
  · rfl

/-- Without its HTTP section a document still resolves. -/
theorem Resolves.withoutHttp
    (resolves : Resolves document) :
    Resolves document.withoutHttp := by
  have sameDatabase : document.withoutHttp.database = document.database := rfl
  have sameAuth : document.withoutHttp.auth = document.auth := rfl
  apply resolves.of_sections_eq sameDatabase
  · obtain ⟨models, migrations, _⟩ := Document.check_eq_ok_iff.mp resolves.checked
    refine Document.check_eq_ok_iff.mpr ⟨models, migrations, ?_⟩
    intro entry member
    exact absurd member List.not_mem_nil
  · rfl
  · exact (auth_of_sections_eq sameDatabase sameAuth).2.trans resolves.auth_done

/-- Nothing goes wrong in a document that does not go wrong in its HTTP or its authorization
section, each beside the database section alone. -/
theorem resolves_iff_withoutAuth_and_withoutHttp :
    Resolves document ↔ Resolves document.withoutAuth ∧ Resolves document.withoutHttp := by
  constructor
  · intro resolves
    exact ⟨resolves.withoutAuth, resolves.withoutHttp⟩
  · rintro ⟨servedAlone, guardedAlone⟩
    have sameAsServed : document.database = document.withoutAuth.database := rfl
    have sameHttp : document.http = document.withoutAuth.http := rfl
    have sameAsGuarded : document.database = document.withoutHttp.database := rfl
    have sameAuth : document.auth = document.withoutHttp.auth := rfl
    apply servedAlone.of_sections_eq sameAsServed
    · exact servedAlone.checked
    · exact (http_of_sections_eq sameAsServed sameHttp).2.2.trans servedAlone.http_done
    · exact (auth_of_sections_eq sameAsGuarded sameAuth).2.trans guardedAlone.auth_done

/-- The three parts of a plan are the parts of the plans of the sections by themselves. -/
theorem plan_eq_of_sections
    (document : Document) :
    (settled document).plan =
      ⟨(settled document.withoutHttp.withoutAuth).plan.database,
        (settled document.withoutAuth).plan.http,
        (settled document.withoutHttp).plan.auth⟩ := by
  have sameBare : document.withoutHttp.withoutAuth.database = document.database := rfl
  have sameServed : document.withoutAuth.database = document.database := rfl
  have sameHttp : document.withoutAuth.http = document.http := rfl
  have sameGuarded : document.withoutHttp.database = document.database := rfl
  have sameAuth : document.withoutHttp.auth = document.auth := rfl
  rw [plan_database_of_database_eq sameBare, plan_http_of_sections_eq sameServed sameHttp,
    (auth_of_sections_eq sameGuarded sameAuth).1]

end

end Resolution

/-- A document resolves exactly when it does without its authorization section and without its HTTP
section. Its plan has the database part that the database section gives alone, the HTTP part that
is there without the authorization section, and the authorization part that is there without the
HTTP section; another HTTP or authorization section changes no other part. -/
theorem resolve_by_sections
    {document : Document} :
    ((resolve document).isOk = true ↔
        (resolve document.withoutAuth).isOk = true ∧
          (resolve document.withoutHttp).isOk = true) ∧
      ∀ plan,
        resolve document = .ok plan →
        (∃ bare served guarded,
          resolve document.withoutHttp.withoutAuth = .ok bare ∧
            resolve document.withoutAuth = .ok served ∧
            resolve document.withoutHttp = .ok guarded ∧
            plan = ⟨bare.database, served.http, guarded.auth⟩) ∧
          (∀ http other,
            resolve { document with http := http } = .ok other →
            other.database = plan.database ∧ other.auth = plan.auth) ∧
          ∀ auth other,
            resolve { document with auth := auth } = .ok other →
            other.database = plan.database ∧ other.http = plan.http := by
  refine ⟨?_, ?_⟩
  · simp only [isOk_resolve_iff]
    exact resolves_iff_withoutAuth_and_withoutHttp
  · intro plan resolved
    obtain ⟨resolves, isPlan⟩ := resolve_eq_ok_iff.mp resolved
    subst isPlan
    refine ⟨?_, ?_, ?_⟩
    · exact ⟨_, _, _, resolve_eq_ok_iff.mpr ⟨resolves.withoutHttp.withoutAuth, rfl⟩,
        resolve_eq_ok_iff.mpr ⟨resolves.withoutAuth, rfl⟩,
        resolve_eq_ok_iff.mpr ⟨resolves.withoutHttp, rfl⟩, plan_eq_of_sections document⟩
    · intro http other otherResolved
      obtain ⟨_, rfl⟩ := resolve_eq_ok_iff.mp otherResolved
      have sameDatabase : { document with http := http }.database = document.database := rfl
      have sameAuth : { document with http := http }.auth = document.auth := rfl
      exact ⟨plan_database_of_database_eq sameDatabase,
        (auth_of_sections_eq sameDatabase sameAuth).1⟩
    · intro auth other otherResolved
      obtain ⟨_, rfl⟩ := resolve_eq_ok_iff.mp otherResolved
      have sameDatabase : { document with auth := auth }.database = document.database := rfl
      have sameHttp : { document with auth := auth }.http = document.http := rfl
      exact ⟨plan_database_of_database_eq sameDatabase,
        plan_http_of_sections_eq sameDatabase sameHttp⟩

/-- Posts are published the same whatever the other sections say. -/
theorem resolve_by_sections_publishingDocument :
    ∃ plan bare served guarded,
      resolve publishingDocument = .ok plan ∧
        resolve publishingDocument.withoutHttp.withoutAuth = .ok bare ∧
        resolve publishingDocument.withoutAuth = .ok served ∧
        resolve publishingDocument.withoutHttp = .ok guarded ∧
        plan = ⟨bare.database, served.http, guarded.auth⟩ := by
  obtain ⟨plan, resolved⟩ := exists_eq_ok_of_isOk isOk_publishingDocument
  obtain ⟨⟨bare, served, guarded, isBare, isServed, isGuarded, parts⟩, _⟩ :=
    resolve_by_sections.2 plan resolved
  exact ⟨plan, bare, served, guarded, resolved, isBare, isServed, isGuarded, parts⟩

end Blueprint
