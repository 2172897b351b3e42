import Blueprint.Proofs.ForeignKeys
import Blueprint.Proofs.Shape
import Blueprint.Proofs.UnrelatedModel

namespace Blueprint

/-!
# Tables of models and explicit tables

The same lines may be declared as the columns of a model, with a table for it, or as that table by
itself. Each declaration is read, checked and given a key in a stage of its own; yet alone in a
document both are refused, for the same column, or both make the same table of the lines.
-/

open Resolution Schema

/-- A document of one explicit table and nothing else but the namespace of models. -/
def Document.tabling
    (space : Option String)
    (table : String)
    (columns : Document.Columns) :
    Document :=
  { Document.blank with
    database := { Document.Database.blank with
      space := space
      migrations := Table.ofList [(table, columns)] } }

/-- A model that declares columns and a table for them, without a key of its own choice and without
anything that is looked up: what else it declares is taken as it is. -/
structure Document.Model.DeclaresTable
    (table : String)
    (columns : Document.Columns)
    (model : Document.Model) :
    Prop where
  columns_eq : model.columns = some columns
  table_eq : model.table = some table
  infersKey : model.InfersKey
  modelType_eq : model.modelType = none
  route_eq : model.route = none
  events_eq : model.events = none

/-- All columns are lines. -/
def Document.LinesOnly
    (columns : Document.Columns) :
    Prop :=
  ∀ entry ∈ columns.entries, ∃ text, entry.2 = .line text

/-- The first column with nothing on its line. -/
def Document.firstBlank?
    (columns : Document.Columns) :
    Option String :=
  ((columnLines columns).find? fun line => isBlankText line.2).map Prod.fst

/-- Two tables have the same columns, in the same order, the same key and the same indexes. -/
structure Schema.Migration.SameTable
    (first second : Migration) :
    Prop where
  columns_eq : first.columns = second.columns
  primary_eq : first.primary = second.primary
  indexes_eq : first.indexes = second.indexes

namespace Document

/-- A declaration of lines is refused for the first of them that has nothing on it. -/
theorem checkColumns_of_linesOnly
    {columns : Columns}
    (linesOnly : LinesOnly columns)
    (owner : String)
    (allowRelations : Bool) :
    checkColumns owner allowRelations columns =
      match firstBlank? columns with
      | some name => refuse (owner ++ "." ++ name) .emptyColumnLine
      | none => .ok () := by
  unfold LinesOnly at linesOnly
  unfold checkColumns firstBlank? columnLines
  generalize columns.entries = entries at linesOnly ⊢
  induction entries with
  | nil =>
      rfl
  | cons entry rest inductionHypothesis =>
      obtain ⟨isLine, restLines⟩ := List.forall_mem_cons.mp linesOnly
      obtain ⟨name, column⟩ := entry
      obtain ⟨text, rfl⟩ := isLine
      by_cases isBlank : isBlankText text = true
      · simp [checkAll, checkColumn, isBlank, refuse]
      · simpa [checkAll, checkColumn, isBlank] using inductionHypothesis restLines

/-- There is no first blank line exactly when no line is blank. -/
theorem firstBlank?_eq_none_iff
    {columns : Columns} :
    firstBlank? columns = none ↔ ∀ line ∈ columnLines columns, isBlankText line.2 = false := by
  simp [firstBlank?]

variable {table : String} {columns : Columns} {model : Model}

theorem Model.DeclaresTable.modelColumns_eq
    (declares : model.DeclaresTable table columns)
    (notEmpty : columns.entries ≠ [])
    (key : String) :
    modelColumns key model = .ok columns := by
  simp [modelColumns, declares.columns_eq, notEmpty]

theorem Model.DeclaresTable.modelType_read
    (declares : model.DeclaresTable table columns)
    (key : String) :
    Document.modelType key model = .ok .model := by
  simp [Document.modelType, declares.modelType_eq]

/-- The check of such a model is that of its columns. -/
theorem Model.DeclaresTable.checkModel_eq
    (declares : model.DeclaresTable table columns)
    (notEmpty : columns.entries ≠ [])
    (key : String) :
    checkModel (key, model) = checkColumns key true columns := by
  simp only [checkModel, declares.modelColumns_eq notEmpty, declares.modelType_read, bind,
    Except.bind]
  cases checkColumns key true columns with
  | error cause =>
      rfl
  | ok _ =>
      rcases declares.infersKey with absent | asked
      · rw [absent]
        rfl
      · rw [asked]
        rfl

/-- The check of a document with one model is that of the model. -/
theorem check_holding
    (space : Option String)
    (key : String)
    (model : Model) :
    (holding space key model).check = checkModel (key, model) := by
  have models : (holding space key model).database.models.entries = [(key, model)] := rfl
  have migrations : (holding space key model).database.migrations.entries = [] := rfl
  have controllers : (holding space key model).http.controllers.entries = [] := rfl
  simp only [check, models, migrations, controllers, checkAll, bind, Except.bind]
  cases checkModel (key, model) with
  | error cause =>
      rfl
  | ok _ =>
      rfl

theorem check_tabling
    (space : Option String)
    (table : String)
    (columns : Columns) :
    (tabling space table columns).check = checkColumns ("migrations." ++ table) false columns := by
  have models : (tabling space table columns).database.models.entries = [] := rfl
  have migrations : (tabling space table columns).database.migrations.entries =
      [(table, columns)] := rfl
  have controllers : (tabling space table columns).http.controllers.entries = [] := rfl
  simp only [check, models, migrations, controllers, checkAll, checkMigration, bind, Except.bind]
  cases checkColumns ("migrations." ++ table) false columns with
  | error cause =>
      rfl
  | ok _ =>
      rfl

end Document

namespace Resolution

variable {space : Option String} {table key : String} {columns : Document.Columns}
variable {model : Document.Model}

/-- A document without relations, controllers and policies resolves once its models make entities
and its tables are put together. -/
theorem exists_plan_of_migrationTable
    {document : Document}
    {made : Table Migration}
    (noHttp : document.http = .blank)
    (noAuth : document.auth = .blank)
    (unrelated : placeholders document = [])
    (checked : document.check = .ok ())
    (entitiesDone : (entities document (Context.start document)).error = none)
    (isMade : migrationTable document (built document) = .ok made) :
    ∃ plan, resolve document = .ok plan ∧ plan.database.migrations = made := by
  have isLinked : linked document = built document := by
    rw [linked, relations, unrelated]
    rfl
  have resolves : Resolves document := {
    checked := checked
    entities_done := entitiesDone
    relations_done := by
      rw [relations, unrelated]
      rfl
    migrations_done := by
      rw [isLinked, migrations, isMade]
    http_done := by
      rw [http, noHttp]
      rfl
    auth_done := by
      rw [auth, noAuth]
      rfl }
  refine ⟨_, resolve_eq_ok_iff.mpr ⟨resolves, rfl⟩, ?_⟩
  rw [plan_database]
  exact Except.ok.inj (resolves.migrationTable_eq.symm.trans (isLinked ▸ isMade))

/-- The lines of a model make an entity with a column for each of them. -/
theorem exists_entityOf_of_declaresTable
    (declares : model.DeclaresTable table columns)
    (notEmpty : columns.entries ≠ [])
    {read : Table Column}
    (isRead : scalarColumns key columns = .ok read)
    (space : String) :
    ∃ entity,
      entityOf space key model = .ok entity ∧
        entity.table = table ∧
        entity.columns = read ∧
        entity.relations = ∅ ∧
        entity.primary = inferredPrimary read := by
  have exists_entity : ∃ entity, entityOf space key model = .ok entity := by
    simp [entityOf, declares.modelColumns_eq notEmpty, isRead, declares.modelType_read,
      primaryOf_of_infersKey declares.infersKey, declares.route_eq, routeBindingOf,
      declares.events_eq, eventsOf, eventHandlers, accumulate, bind, Except.bind, pure,
      Except.pure]
  obtain ⟨entity, isEntity⟩ := exists_entity
  have made := madeFrom_of_entityOf isEntity
  have sameColumns : entity.columns = read := by
    obtain ⟨declared, hasColumns, readColumns⟩ := made.columns_read
    cases hasColumns.symm.trans (declares.modelColumns_eq notEmpty key)
    exact Except.ok.inj (readColumns.symm.trans isRead)
  refine ⟨entity, isEntity, ?_, sameColumns, made.no_relations, ?_⟩
  · simp [made.table_eq, declares.table_eq]
  · have resolved := made.primary_resolved
    rw [primaryOf_of_infersKey declares.infersKey, sameColumns] at resolved
    exact (Except.ok.inj resolved).symm

/-- Without relation lines there are no relations. -/
theorem placeholders_holding
    (declares : model.DeclaresTable table columns)
    (linesOnly : Document.LinesOnly columns) :
    placeholders (Document.holding space key model) = [] := by
  rw [List.eq_nil_iff_forall_not_mem]
  intro placeholder member
  obtain ⟨other, isModel, isDeclared⟩ := mem_placeholders_iff.mp member
  obtain ⟨_, rfl⟩ := Table.get?_ofList_singleton.mp isModel
  obtain ⟨_, declared, hasColumns, isColumn⟩ := mem_placeholdersOf_iff.mp isDeclared
  cases hasColumns.symm.trans declares.columns_eq
  obtain ⟨text, isLine⟩ := linesOnly _ (Table.get?_eq_some_iff.mp isColumn)
  cases isLine

/-- A document with such a model resolves to a plan with its table. -/
theorem exists_plan_holding
    (declares : model.DeclaresTable table columns)
    (notEmpty : columns.entries ≠ [])
    (linesOnly : Document.LinesOnly columns)
    (checked : (Document.holding space key model).check = .ok ())
    {read : Table Column}
    (isRead : scalarColumns key columns = .ok read) :
    ∃ plan migration,
      resolve (.holding space key model) = .ok plan ∧
        plan.database.migrations.get? table = some migration ∧
        migration.SameTable (Migration.ofColumns table read.values) := by
  let document := Document.holding space key model
  obtain ⟨entity, isEntity, rfl, rfl, unrelated, isPrimary⟩ :=
    exists_entityOf_of_declaresTable declares notEmpty isRead
      (Context.start document).databaseSpace
  have ran : entities document (Context.start document) =
      ⟨{ Context.start document with entities := Table.ofList [(key, entity)] }, none⟩ := by
    have models : document.database.models.entries = [(key, model)] := rfl
    simp only [entities, models, Outcome.ofSteps, addEntity, isEntity]
    rfl
  have isMade : migrationTable document (built document) =
      .ok (Table.ofList [(entity.table, Migration.ofEntity entity)]) := by
    have values : (built document).entities.values = [entity] := by
      rw [built, ran]
      rfl
    have noPivots : guessedPivots (built document) = [] := by
      rw [guessedPivots, values, List.flatMap_singleton, unrelated]
      rfl
    rw [migrationTable, values, noPivots]
    rfl
  obtain ⟨plan, resolved, isPlanned⟩ := exists_plan_of_migrationTable rfl rfl
    (placeholders_holding declares linesOnly) checked (by rw [ran]) isMade
  refine ⟨plan, Migration.ofEntity entity, resolved, ?_, ?_⟩
  · rw [isPlanned]
    exact Table.get?_ofList_singleton.mpr ⟨rfl, rfl⟩
  · refine ⟨rfl, ?_, rfl⟩
    simp [Migration.ofEntity, Migration.ofColumns, isPrimary, inferredPrimary, Function.comp_def]

/-- A document with one explicit table resolves to a plan with that table. -/
theorem exists_plan_tabling
    (checked : (Document.tabling space table columns).check = .ok ())
    {read : Table Column}
    (isRead : scalarColumns ("migrations." ++ table) columns = .ok read) :
    ∃ plan,
      resolve (.tabling space table columns) = .ok plan ∧
        plan.database.migrations.get? table = some (Migration.ofColumns table read.values) := by
  let document := Document.tabling space table columns
  have isMade : migrationTable document (built document) =
      .ok (Table.ofList [(table, Migration.ofColumns table read.values)]) := by
    have explicit : document.database.migrations.entries = [(table, columns)] := rfl
    have noEntities : (built document).entities.values = [] := rfl
    have noPivots : guessedPivots (built document) = [] := rfl
    simp only [migrationTable, explicit, noEntities, noPivots, accumulate, addExplicitTable, isRead]
    rfl
  obtain ⟨plan, resolved, isPlanned⟩ :=
    exists_plan_of_migrationTable rfl rfl rfl checked rfl isMade
  refine ⟨plan, resolved, ?_⟩
  rw [isPlanned]
  exact Table.get?_ofList_singleton.mpr ⟨rfl, rfl⟩

/-- Lines with something on each of them make the same scalar columns for any owner. -/
theorem exists_scalarColumns_of_firstBlank?
    (written : Document.firstBlank? columns = none) :
    ∃ read, ∀ owner, scalarColumns owner columns = .ok read := by
  obtain ⟨read, isRead⟩ : ∃ read, scalarColumns "" columns = .ok read :=
    exists_scalarColumns_iff.mpr (Document.firstBlank?_eq_none_iff.mp written)
  refine ⟨read, fun owner => ?_⟩
  rw [scalarColumns_eq_ok_iff] at isRead ⊢
  simpa only [columnOfLine_eq_ok_iff] using isRead

/-- What the check refuses resolution refuses with the same error. -/
theorem resolve_eq_error_of_check
    {document : Document}
    {cause : ResolveError}
    (refused : document.check = .error cause) :
    resolve document = .error cause := by
  rw [resolve, refused]
  rfl

end Resolution

/-- Lines that are declared as the columns of a model with a table, or as that table, alone in a
document, are refused for the same column or make the same table. -/
theorem declarations_agree
    {table : String}
    {columns : Document.Columns}
    {model : Document.Model}
    (declares : model.DeclaresTable table columns)
    (notEmpty : columns.entries ≠ [])
    (linesOnly : Document.LinesOnly columns)
    (space : Option String)
    (key : String) :
    (∃ name,
        Document.firstBlank? columns = some name ∧
          resolve (.holding space key model) =
            .error (.malformed (key ++ "." ++ name) .emptyColumnLine) ∧
          resolve (.tabling space table columns) =
            .error (.malformed ("migrations." ++ table ++ "." ++ name) .emptyColumnLine)) ∨
      ∃ plan tablePlan migration explicit,
        Document.firstBlank? columns = none ∧
          resolve (.holding space key model) = .ok plan ∧
          resolve (.tabling space table columns) = .ok tablePlan ∧
          plan.database.migrations.get? table = some migration ∧
          tablePlan.database.migrations.get? table = some explicit ∧
          migration.SameTable explicit := by
  have modelCheck : (Document.holding space key model).check =
      Document.checkColumns key true columns :=
    (Document.check_holding space key model).trans (declares.checkModel_eq notEmpty key)
  have tableCheck := Document.check_tabling space table columns
  rw [Document.checkColumns_of_linesOnly linesOnly] at modelCheck tableCheck
  cases blank : Document.firstBlank? columns with
  | some name =>
      rw [blank] at modelCheck tableCheck
      exact .inl ⟨name, rfl, resolve_eq_error_of_check modelCheck,
        resolve_eq_error_of_check tableCheck⟩
  | none =>
      rw [blank] at modelCheck tableCheck
      obtain ⟨read, isRead⟩ := exists_scalarColumns_of_firstBlank? blank
      obtain ⟨plan, migration, resolved, isMigration, same⟩ :=
        exists_plan_holding declares notEmpty linesOnly modelCheck (isRead key)
      obtain ⟨tablePlan, tableResolved, isExplicit⟩ :=
        exists_plan_tabling tableCheck (isRead ("migrations." ++ table))
      exact .inr ⟨plan, tablePlan, migration, _, rfl, resolved, tableResolved, isMigration,
        isExplicit, same⟩

/-- Two columns that number rows, and one with a named index. -/
def entryColumns : Document.Columns :=
  Table.ofList
    [("slug", .line "string:40 unique:entries_slug"), ("number", .line "increments"),
     ("id", .line "id")]

/-- Columns of which one was left blank. -/
def unfinishedColumns : Document.Columns :=
  Table.ofList [("id", .line "id"), ("slug", .line " ")]

/-- A model with a table of entries, without timestamps. -/
def entryModel
    (columns : Document.Columns) :
    Document.Model :=
  { Document.Model.blank with
    columns := some columns
    table := some "entries"
    primary := some (.toggle true)
    timestamps := some (.toggle false) }

/-- Finished columns make the same table twice, unfinished ones are refused twice. -/
theorem declarations_agree_entryModel :
    (∃ plan tablePlan migration explicit,
        resolve (.holding none "Entry" (entryModel entryColumns)) = .ok plan ∧
          resolve (.tabling none "entries" entryColumns) = .ok tablePlan ∧
          plan.database.migrations.get? "entries" = some migration ∧
          tablePlan.database.migrations.get? "entries" = some explicit ∧
          migration.SameTable explicit) ∧
      resolve (.holding none "Entry" (entryModel unfinishedColumns)) =
        .error (.malformed "Entry.slug" .emptyColumnLine) ∧
      resolve (.tabling none "entries" unfinishedColumns) =
        .error (.malformed "migrations.entries.slug" .emptyColumnLine) := by
  have declares (columns : Document.Columns) :
      (entryModel columns).DeclaresTable "entries" columns :=
    ⟨rfl, rfl, .inr rfl, rfl, rfl, rfl⟩
  have entryLines : Document.LinesOnly entryColumns := by
    have entries : entryColumns.entries =
        [("slug", .line "string:40 unique:entries_slug"), ("number", .line "increments"),
         ("id", .line "id")] := rfl
    simp [Document.LinesOnly, entries]
  have unfinishedLines : Document.LinesOnly unfinishedColumns := by
    have entries : unfinishedColumns.entries = [("id", .line "id"), ("slug", .line " ")] := rfl
    simp [Document.LinesOnly, entries]
  have finished : Document.firstBlank? entryColumns = none := by
    decide +kernel
  have unfinished : Document.firstBlank? unfinishedColumns = some "slug" := by
    decide +kernel
  refine ⟨?_, ?_⟩
  · rcases declarations_agree (declares entryColumns) (by decide) entryLines none "Entry" with
      ⟨_, blank, _⟩ | ⟨plan, tablePlan, migration, explicit, _, same⟩
    · cases finished.symm.trans blank
    · exact ⟨plan, tablePlan, migration, explicit, same⟩
  · rcases declarations_agree (declares unfinishedColumns) (by decide) unfinishedLines none
      "Entry" with ⟨_, blank, refused⟩ | ⟨_, _, _, _, notBlank, _⟩
    · cases unfinished.symm.trans blank
      exact refused
    · cases unfinished.symm.trans notBlank

end Blueprint
