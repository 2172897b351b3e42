import Blueprint.Proofs.Declarations
import Blueprint.Proofs.Pieces
import Blueprint.Proofs.Placeholders
import Blueprint.Proofs.Tabulation

namespace Blueprint

/-!
# The shape that is checked and the shape that is needed

The check of a document and the stages ask the same questions at different places and in different
words: a line is blank for the one, it has no pieces for the others. What passes the check meets no
error of form in any stage. What does not pass it fails in a stage as well, unless it is a relation
in an explicit table, which no stage looks at.
-/

open Resolution Schema

/-! Blank lines. -/

/-- A line has no pieces exactly when it is blank. -/
theorem piecesOf_eq_nil_iff
    {text : String} :
    piecesOf text = [] ↔ isBlankText text = true := by
  rw [isBlankText, ← Text.forall_mem_cut_eq_nil_iff]
  simp [piecesOf, Text.pieces, List.filter_eq_nil_iff]

/-- A line has no calls exactly when it is blank. -/
theorem Method.ofLine_eq_nil_iff
    {line : String} :
    Method.ofLine line = [] ↔ isBlankText line = true := by
  rw [Method.ofLine, List.map_eq_nil_iff, piecesOf_eq_nil_iff]

/-- A column line is read whatever it says, as long as it says something. -/
theorem exists_columnOfLine_iff
    {owner : String}
    {line : String × String} :
    (∃ column, columnOfLine owner line = .ok column) ↔ isBlankText line.2 = false := by
  rw [← Bool.not_eq_true, ← Method.ofLine_eq_nil_iff]
  cases methods : Method.ofLine line.2 with
  | nil =>
      simp [columnOfLine, methods, Column.ofMethods?, Document.refuse]
  | cons typeCall modifiers =>
      simp [columnOfLine, methods, Column.ofMethods?]

/-- A line makes no column exactly when there is nothing on it. -/
theorem columnOfLine_eq_error_iff
    {owner : String}
    {line : String × String}
    {cause : ResolveError} :
    columnOfLine owner line = .error cause ↔
      isBlankText line.2 = true ∧ cause = .malformed (owner ++ "." ++ line.1) .emptyColumnLine := by
  rw [← Method.ofLine_eq_nil_iff]
  cases methods : Method.ofLine line.2 with
  | nil =>
      simp [columnOfLine, methods, Column.ofMethods?, Document.refuse, eq_comm (b := cause)]
  | cons typeCall modifiers =>
      simp [columnOfLine, methods, Column.ofMethods?]

/-- The lines of columns are read exactly when none of them is blank. -/
theorem exists_scalarColumns_iff
    {owner : String}
    {columns : Document.Columns} :
    (∃ read, scalarColumns owner columns = .ok read) ↔
      ∀ line ∈ columnLines columns, isBlankText line.2 = false := by
  constructor
  · rintro ⟨read, isRead⟩ line member
    obtain ⟨results, collected, _⟩ := map_eq_ok_iff.mp isRead
    obtain ⟨column, _, made⟩ :=
      exists_of_mem_matched (List.Forall₂.flip (collect_eq_ok_iff.mp collected)) member
    exact exists_columnOfLine_iff.mp ⟨column, made⟩
  · intro written
    obtain ⟨results, collected⟩ :=
      exists_collect_of_forall fun line member => exists_columnOfLine_iff.mpr (written line member)
    exact ⟨_, map_eq_ok_iff.mpr ⟨results, collected, rfl⟩⟩

/-! What the check asks for. -/

namespace Document

/-- A column with something on its line. -/
def Column.Written :
    Column →
    Prop
  | .line text => isBlankText text = false
  | .relation written => isBlankText (written.getD "") = false

/-- Explicit tables have no relations. -/
def ExplicitLinesOnly
    (document : Document) :
    Prop :=
  ∀ entry ∈ document.database.migrations.entries,
    ∀ column ∈ entry.2.entries, ∃ text, column.2 = .line text

/-- A column passes if its line is written, and is a column line where others are not allowed. -/
theorem checkColumn_eq_ok_iff
    {owner : String}
    {allowRelations : Bool}
    {entry : String × Column} :
    checkColumn owner allowRelations entry = .ok () ↔
      entry.2.Written ∧ (allowRelations = true ∨ ∃ text, entry.2 = .line text) := by
  obtain ⟨name, text | line⟩ := entry
  · by_cases isBlank : isBlankText text = true <;>
      simp [checkColumn, Column.Written, refuse, isBlank]
  · cases allowRelations
    · simp [checkColumn, refuse]
    · by_cases isBlank : isBlankText (line.getD "") = true <;>
        simp [checkColumn, Column.Written, refuse, isBlank]

/-- Columns pass the check exactly when each of them does. -/
theorem checkColumns_eq_ok_iff
    {owner : String}
    {allowRelations : Bool}
    {columns : Columns} :
    checkColumns owner allowRelations columns = .ok () ↔
      ∀ entry ∈ columns.entries,
        entry.2.Written ∧ (allowRelations = true ∨ ∃ text, entry.2 = .line text) := by
  simp only [checkColumns, checkAll_eq_ok_iff, checkColumn_eq_ok_iff]

/-- What the check of a model asks for: columns with something on their lines, a type that is
known, and the parts of a primary key that is spelled out. -/
structure ModelChecked
    (key : String)
    (model : Model) :
    Prop where
  columns :
    ∃ columns, modelColumns key model = .ok columns ∧ ∀ entry ∈ columns.entries, entry.2.Written
  modelType : ∃ modelType, Document.modelType key model = .ok modelType
  primary :
    ∀ block,
      model.primary = some (.block block) →
      ∃ parts, primaryParts key block = .ok parts

/-- A model passes the check exactly when it is as the check wants it. -/
theorem checkModel_eq_ok_iff
    {key : String}
    {model : Model} :
    checkModel (key, model) = .ok () ↔ ModelChecked key model := by
  simp only [checkModel, bind_eq_ok_iff]
  constructor
  · rintro ⟨columns, hasColumns, _, written, modelType, hasType, hasParts⟩
    refine ⟨⟨columns, hasColumns, ?_⟩, ⟨modelType, hasType⟩, ?_⟩
    · intro entry member
      exact (checkColumns_eq_ok_iff.mp written entry member).1
    · intro block isBlock
      rw [isBlock] at hasParts
      obtain ⟨parts, read, _⟩ := bind_eq_ok_iff.mp hasParts
      exact ⟨parts, read⟩
  · rintro ⟨⟨columns, hasColumns, written⟩, ⟨modelType, hasType⟩, primary⟩
    refine ⟨columns, hasColumns, (), ?_, modelType, hasType, ?_⟩
    · exact checkColumns_eq_ok_iff.mpr fun entry member => ⟨written entry member, .inl rfl⟩
    · split
      · next block isBlock =>
        obtain ⟨parts, read⟩ := primary block isBlock
        exact bind_eq_ok_iff.mpr ⟨parts, read, rfl⟩
      · rfl

end Document

namespace Resolution

/-! No stage has an error of form after the check. -/

/-- A result that is no error of form. -/
abbrev NotMisshapen
    {α : Type}
    (result : Except ResolveError α) :
    Prop :=
  Follows (fun cause => ¬cause.IsShape) result result

theorem NotMisshapen.error
    {α : Type}
    {cause : ResolveError}
    (notShape : ¬cause.IsShape) :
    NotMisshapen (.error cause : Except ResolveError α) :=
  Follows.self fun reason same => by
    cases same
    exact notShape

/-- The error of a look-up is none of form. -/
theorem not_isShape_of_isLookup
    {cause : ResolveError}
    (isLookup : cause.IsLookup) :
    ¬cause.IsShape := by
  unfold ResolveError.IsLookup at isLookup
  split at isLookup
  · exact not_false
  · exact not_false
  · exact isLookup.elim

/-- Looking up a name never fails with an error of form. -/
theorem lookups_notShape
    (context : Context) :
    AnswersAlike ResolveError.IsUnchecked (fun cause => ¬cause.IsShape) context context where
  knownErrors _ isUnchecked := isUnchecked.2
  entityKey _ _ := .self fun _ failed =>
    not_isShape_of_isLookup (Context.isLookup_of_entityKey_error failed)
  entity _ _ := .self fun _ failed =>
    not_isShape_of_isLookup (Context.isLookup_of_entity_error failed)

/-- Written columns are read. -/
theorem exists_scalarColumns_of_written
    (owner : String)
    {columns : Document.Columns}
    (written : ∀ entry ∈ columns.entries, entry.2.Written) :
    ∃ read, scalarColumns owner columns = .ok read := by
  refine exists_scalarColumns_iff.mpr fun line member => ?_
  obtain ⟨⟨name, text | relation⟩, isColumn, made⟩ := List.mem_filterMap.mp member
  · cases made
    exact written _ isColumn
  · cases made

/-- A checked model makes an entity or fails otherwise than by its form. -/
theorem entityOf_notShape
    {key : String}
    {model : Document.Model}
    (checked : Document.ModelChecked key model)
    (space : String) :
    NotMisshapen (entityOf space key model) := by
  obtain ⟨declared, hasColumns, written⟩ := checked.columns
  obtain ⟨columns, read⟩ := exists_scalarColumns_of_written key written
  obtain ⟨modelType, hasType⟩ := checked.modelType
  have plain (cause : ResolveError) (isPlain : cause.IsPlain) := isPlain.2.1
  unfold entityOf
  rw [hasColumns, hasType]
  refine (Follows.ok declared).bind_of_ok fun _ isDeclared => ?_
  cases isDeclared
  rw [read]
  refine (Follows.ok columns).bind fun columns => (Follows.ok modelType).bind fun modelType => ?_
  refine Follows.bind (primaryOf_follows ?_ fun _ _ _ _ _ => not_false) fun primary => ?_
  · intro block isBlock
    obtain ⟨parts, hasParts⟩ := checked.primary block isBlock
    rw [hasParts]
    exact .ok parts
  · refine (routeBindingOf_follows plain key columns model.route).bind fun binding => ?_
    exact (eventsOf_follows plain key _ model.events).bind fun events => .ok _

theorem attach_notShape
    (entity : Entity)
    (key name : String)
    (relation : Relation)
    (column : Option Column) :
    NotMisshapen (attach entity key name relation column) := by
  unfold attach
  split
  · exact .ok _
  · split
    · exact NotMisshapen.error not_false
    · exact .ok _

/-- A relation with a line on it fails otherwise than by its form. -/
theorem addRelation_notShape
    {placeholder : Placeholder}
    (written : isBlankText (placeholder.line.getD "") = false)
    (context : Context) :
    NotMisshapen (addRelation context placeholder) := by
  unfold addRelation
  cases given : placeholder.line with
  | none =>
      rw [given] at written
      cases written
  | some line =>
      rw [given] at written
      have lookups := lookups_notShape context
      have isHead : Method.ofLine line ≠ [] := fun isEmpty =>
        Bool.eq_false_iff.mp written (Method.ofLine_eq_nil_iff.mp isEmpty)
      refine (relationOf_follows lookups.plain _ fun isEmpty => absurd isEmpty isHead).bind
        fun relation => ?_
      refine (belongingColumnOf_follows lookups.plain _ _ relation).bind fun column => ?_
      split
      · exact NotMisshapen.error not_false
      · exact (attach_notShape _ _ _ relation column).bind fun changed => .ok _

theorem addEntityTable_notShape
    (declared : Table Migration)
    (entity : Entity) :
    NotMisshapen (addEntityTable declared entity) := by
  unfold addEntityTable
  split
  · exact NotMisshapen.error not_false
  · exact .ok _

/-- A checked explicit table fails by its name only. -/
theorem addExplicitTable_notShape
    {entry : String × Document.Columns}
    (checked : Document.checkMigration entry = .ok ())
    (declared : Table Migration) :
    NotMisshapen (addExplicitTable declared entry) := by
  have written := Document.checkColumns_eq_ok_iff.mp checked
  obtain ⟨columns, read⟩ :=
    exists_scalarColumns_of_written ("migrations." ++ entry.1) fun column isColumn =>
      (written column isColumn).1
  simp only [addExplicitTable, read]
  split
  · exact NotMisshapen.error not_false
  · exact .ok _

theorem sideColumn_notShape
    (owner relation : String)
    (side : Entity) :
    NotMisshapen (sideColumn owner relation side) := by
  unfold sideColumn
  split
  · exact NotMisshapen.error not_false
  · exact .ok _

theorem pivotMigration_notShape
    (context : Context)
    (entity : Entity)
    (relation : Relation) :
    NotMisshapen (pivotMigration context entity relation) := by
  unfold pivotMigration
  dsimp only
  split
  · exact NotMisshapen.error not_false
  · split
    · exact NotMisshapen.error not_false
    · next key _ _ =>
      rcases ((lookups_notShape context).entity key (entity.key ++ "." ++ relation.name)).cases with
        ⟨cause, failed, notShape⟩ | ⟨target, found, _⟩
      · rw [failed]
        exact NotMisshapen.error notShape
      · rw [found]
        refine (sideColumn_notShape _ _ entity).bind fun first => ?_
        refine (sideColumn_notShape _ _ target).bind fun second => ?_
        split
        · exact NotMisshapen.error not_false
        · exact .ok _

theorem addPivotTable_notShape
    (declared : Table Migration)
    (pivot : Migration) :
    NotMisshapen (addPivotTable declared pivot) := by
  unfold addPivotTable
  split
  · exact .ok _
  · split
    · exact .ok _
    · exact NotMisshapen.error not_false

theorem migrationTable_notShape
    {document : Document}
    (checked : document.check = .ok ())
    (context : Context) :
    NotMisshapen (migrationTable document context) := by
  refine Follows.bind (.accumulate fun declared entity _ => ?_) fun entityTables => ?_
  · exact addEntityTable_notShape declared entity
  refine Follows.bind (.accumulate fun declared entry member => ?_) fun declared => ?_
  · have checkedTable := (Document.check_eq_ok_iff.mp checked).2.1 entry member
    exact addExplicitTable_notShape checkedTable declared
  refine Follows.bind (.collect fun pair _ => ?_) fun pivots => ?_
  · exact pivotMigration_notShape context pair.1 pair.2
  · exact .accumulate fun declared pivot _ => addPivotTable_notShape declared pivot

/-- Controllers of a checked document fail otherwise than by its form. -/
theorem http_notShape
    {document : Document}
    (checked : document.check = .ok ())
    (context : Context) :
    Outcome.Follows (fun cause => ¬cause.IsShape) Eq (http document context)
      (http document context) := by
  obtain ⟨_, _, controllers⟩ := Document.check_eq_ok_iff.mp checked
  refine Outcome.Follows.andThen ?_ ?_
  · exact fills_addMiddleware.ofSteps_follows rfl (fun _ => rfl) fun _ _ => .ok _
  · rintro context _ rfl
    refine fills_addController.ofSteps_follows rfl (fun _ => rfl) fun entry member => ?_
    apply controllerEntry_follows (lookups_notShape context) rfl
    intro cause failed
    rw [controllers entry member] at failed
    cases failed

/-- The last section has no form that is checked. -/
theorem auth_notShape
    (document : Document)
    (context : Context) :
    Outcome.Follows (fun cause => ¬cause.IsShape) Eq (auth document context)
      (auth document context) := by
  refine Outcome.Follows.andThen (.andThen ?_ ?_) ?_
  · exact fills_addGate.ofSteps_follows rfl (fun _ => rfl) fun _ _ => .ok _
  · rintro context _ rfl
    exact fills_addPolicy.ofSteps_follows rfl (fun _ => rfl) fun entry _ =>
      policyEntry_follows (lookups_notShape context).plain entry
  · rintro context _ rfl
    exact fills_addForm.ofSteps_follows rfl (fun _ => rfl) fun entry _ =>
      formEntry_follows (lookups_notShape context).plain.knownErrors rfl rfl entry

/-- The line of every relation of a checked document has something on it. -/
theorem written_of_mem_placeholders
    {document : Document}
    (checked : document.check = .ok ())
    {placeholder : Placeholder}
    (member : placeholder ∈ placeholders document) :
    isBlankText (placeholder.line.getD "") = false := by
  obtain ⟨model, isModel, isDeclared⟩ := mem_placeholders_iff.mp member
  obtain ⟨_, columns, hasColumns, isColumn⟩ := mem_placeholdersOf_iff.mp isDeclared
  have modelChecked := Document.checkModel_eq_ok_iff.mp
    ((Document.check_eq_ok_iff.mp checked).1 _ (Table.get?_eq_some_iff.mp isModel))
  obtain ⟨declared, read, written⟩ := modelChecked.columns
  cases hasColumns.symm.trans (columns_of_modelColumns read)
  exact written _ (Table.get?_eq_some_iff.mp isColumn)

/-- A stage has no error of form on any context once the document is checked. -/
theorem run_notShape
    {document : Document}
    (checked : document.check = .ok ())
    (stage : Stage)
    (context : Context)
    {cause : ResolveError}
    (failed : (stage.run document context).error = some cause) :
    ¬cause.IsShape := by
  cases stage with
  | entities =>
      rw [Stage.run, entities, fills_addEntity.ofSteps_eq] at failed
      have built (entry : String × Document.Model)
          (member : entry ∈ document.database.models.entries) :
          NotMisshapen (entityEntry context entry) := by
        have modelChecked := Document.checkModel_eq_ok_iff.mp
          ((Document.check_eq_ok_iff.mp checked).1 entry member)
        exact (entityOf_notShape modelChecked context.databaseSpace).map _
      exact (gathered_of_follows built).2 cause failed
  | relations =>
      obtain ⟨earlier, placeholder, later, split, _, fails⟩ :=
        Outcome.exists_failing_of_ofSteps failed
      have member : placeholder ∈ placeholders document := by simp [split]
      have written := written_of_mem_placeholders checked member
      exact (addRelation_notShape written _).of_error cause fails
  | migrations =>
      cases made : migrationTable document context with
      | error reason =>
          simp only [Stage.run, migrations, made, Option.some.injEq] at failed
          exact failed ▸ (migrationTable_notShape checked context).of_error reason made
      | ok table =>
          simp [Stage.run, migrations, made] at failed
  | http =>
      exact (http_notShape checked context).of_error cause failed
  | auth =>
      exact (auth_notShape document context).of_error cause failed

/-- Whatever stages are run on a checked document, none fails by a form. -/
theorem runStages_notShape
    {document : Document}
    (checked : document.check = .ok ())
    {stages : List Stage}
    {context : Context}
    {cause : ResolveError}
    (failed : (runStages document context stages).error = some cause) :
    ¬cause.IsShape := by
  induction stages generalizing context with
  | nil =>
      cases failed
  | cons stage rest inductionHypothesis =>
      rcases Outcome.andThen_error_eq_some_iff.mp failed with stageFailed | ⟨_, laterFailed⟩
      · exact run_notShape checked stage context stageFailed
      · exact inductionHypothesis laterFailed

/-! The stages ask for all of the shape but lines in explicit tables. -/

/-- A relation that is added has something on its line. -/
theorem written_of_addRelation
    {context next : Context}
    {placeholder : Placeholder}
    (added : addRelation context placeholder = .ok next) :
    isBlankText (placeholder.line.getD "") = false := by
  obtain ⟨line, relation, _, _, _, isLine, read, _⟩ := addRelation_eq_ok_iff.mp added
  obtain ⟨head, modifiers, _, _, _, methods, _⟩ := relationOf_eq_ok_iff.mp read
  rw [isLine, Option.getD_some, Bool.eq_false_iff, ne_eq, ← Method.ofLine_eq_nil_iff, methods]
  simp

/-- A model that makes an entity and relations would have passed the check. -/
theorem modelChecked_of_made
    {space key : String}
    {model : Document.Model}
    {entity : Entity}
    (made : MadeFrom space key model entity)
    (related :
      ∀ placeholder ∈ placeholdersOf (key, model),
        isBlankText (placeholder.line.getD "") = false) :
    Document.ModelChecked key model := by
  obtain ⟨declared, hasColumns, read⟩ := made.columns_read
  refine ⟨⟨declared, hasColumns, ?_⟩, ⟨_, made.modelType_read⟩, ?_⟩
  · rintro ⟨name, text | line⟩ member
    · refine exists_scalarColumns_iff.mp ⟨_, read⟩ (name, text) ?_
      exact List.mem_filterMap.mpr ⟨_, member, rfl⟩
    · refine related ⟨key, name, line⟩ (mem_placeholdersOf_iff.mpr ⟨rfl, declared, ?_, ?_⟩)
      · exact columns_of_modelColumns hasColumns
      · exact Table.get?_eq_some_iff.mpr member
  · intro block isBlock
    have resolved := made.primary_resolved
    rw [isBlock] at resolved
    obtain ⟨parts, hasParts, _⟩ := bind_eq_ok_iff.mp resolved
    exact ⟨parts, hasParts⟩

/-- An explicit table of lines that are read would have passed the check. -/
theorem checkMigration_of_scalarColumns
    {owner : String}
    {entry : String × Document.Columns}
    {columns : Table Column}
    (linesOnly : ∀ column ∈ entry.2.entries, ∃ text, column.2 = .line text)
    (read : scalarColumns owner entry.2 = .ok columns) :
    Document.checkMigration entry = .ok () := by
  refine Document.checkColumns_eq_ok_iff.mpr ?_
  rintro ⟨name, column⟩ member
  obtain ⟨text, isLine⟩ := linesOnly _ member
  cases isLine
  refine ⟨?_, .inr ⟨text, rfl⟩⟩
  exact exists_scalarColumns_iff.mp ⟨_, read⟩ (name, text)
    (List.mem_filterMap.mpr ⟨_, member, rfl⟩)

/-- A controller that resolves would have passed the check. -/
theorem checkController_of_controllerOf
    {context : Context}
    {key : String}
    {declared : Document.Controller}
    {controller : Http.Controller}
    (resolved : controllerOf context key declared = .ok controller) :
    Document.checkController (key, declared) = .ok () := by
  obtain ⟨parts, hasParts, _⟩ := map_eq_ok_iff.mp resolved
  cases invokes : declared.invoke with
  | false =>
      simp [Document.checkController, invokes]
  | true =>
      simp only [controllerParts, invokes, ↓reduceIte, bind_eq_ok_iff] at hasParts
      obtain ⟨_, isInvokable, _⟩ := hasParts
      simpa [Document.checkController, invokes] using isInvokable

/-- A document on which no stage fails has the shape that is checked for, if its explicit tables
have lines only. -/
theorem check_of_resolveUnchecked
    {document : Document}
    (linesOnly : document.ExplicitLinesOnly)
    (done : (resolveUnchecked document).error = none) :
    document.check = .ok () := by
  simp only [resolveUnchecked, Stage.all, runStages, Stage.run,
    Outcome.andThen_error_eq_none_iff, and_true] at done
  obtain ⟨entitiesDone, relationsDone, migrationsDone, httpDone, _⟩ := done
  refine Document.check_eq_ok_iff.mpr ⟨?_, ?_, ?_⟩
  · rintro ⟨key, model⟩ isModel
    obtain ⟨entity, made⟩ :=
      entities_error_eq_none_iff.mp entitiesDone key model (Table.get?_eq_some_iff.mpr isModel)
    refine Document.checkModel_eq_ok_iff.mpr (modelChecked_of_made (madeFrom_of_entityOf made) ?_)
    intro placeholder isDeclared
    have member : placeholder ∈ placeholders document :=
      List.mem_flatMap.mpr ⟨_, isModel, isDeclared⟩
    obtain ⟨_, _, added⟩ := Outcome.exists_step_of_mem relationsDone member
    exact written_of_addRelation added
  · intro entry member
    obtain ⟨columns, read⟩ :=
      (migrations_error_eq_none_iff.mp migrationsDone).explicit_read entry member
    exact checkMigration_of_scalarColumns (linesOnly entry member) read
  · intro entry member
    obtain ⟨_, controllersDone⟩ := Outcome.andThen_error_eq_none_iff.mp httpDone
    rw [fills_addController.ofSteps_eq, failure?_eq_none_iff] at controllersDone
    obtain ⟨_, built⟩ := controllersDone entry member
    obtain ⟨controller, resolved, _⟩ := map_eq_ok_iff.mp built
    exact checkController_of_controllerOf resolved

end Resolution

/-- A document that passes the check meets no error of form in any stages, run on any context. A
document that does not pass it fails in some stage as well, if its explicit tables have lines
only. -/
theorem check_agrees_with_stages
    {document : Document} :
    (document.check = .ok () →
      ∀ stages context cause,
        (runStages document context stages).error = some cause → ¬cause.IsShape) ∧
      (document.ExplicitLinesOnly →
        document.check ≠ .ok () →
        ∃ cause, (resolveUnchecked document).error = some cause) := by
  refine ⟨fun checked stages context cause failed => ?_, fun linesOnly refused => ?_⟩
  · exact runStages_notShape checked failed
  · cases failed : (resolveUnchecked document).error with
    | none =>
        exact absurd (check_of_resolveUnchecked linesOnly failed) refused
    | some cause =>
        exact ⟨cause, rfl⟩

/-- Posts with an author, in whatever words. -/
def authoredDocument
    (line : String) :
    Document where
  database :=
    { Document.Database.blank with
      models := Table.ofList
        [("Post",
          { Document.Model.blank with
            columns := some (Table.ofList
              [("id", .line "id"), ("author", .relation (some line))]) })] }
  http := .blank
  auth := .blank

/-- An author that is no entity is well formed, and the error of the stages is none of form; an
author on a line that is a no-break space is refused by the check, and by a stage without it. -/
theorem check_agrees_with_stages_authoredDocument :
    (∃ cause,
        (resolveUnchecked (authoredDocument "belongsTo:Author")).error = some cause ∧
          ¬cause.IsShape) ∧
      ∃ cause, (resolveUnchecked (authoredDocument "\u00a0")).error = some cause := by
  have checked : (authoredDocument "belongsTo:Author").check = .ok () := by
    decide +kernel
  have failed :
      (resolveUnchecked (authoredDocument "belongsTo:Author")).error =
        some (.missing .entity "Author" "Post.author") := by
    decide +kernel
  refine ⟨⟨_, failed, ?_⟩, ?_⟩
  · exact check_agrees_with_stages.1 checked Stage.all _ _ failed
  · refine check_agrees_with_stages.2 ?_ ?_
    · intro entry member
      exact absurd member List.not_mem_nil
    · decide +kernel

end Blueprint
