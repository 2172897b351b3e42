import Blueprint.Document
import Blueprint.Proofs.Codecs

namespace Blueprint

/-!
# Documents in JSON

A document that was read from JSON is written in such a way that the same document is read again,
on one line or over several. Only the attributes that an action saves are values of the author's
own choice; they must hold no floating-point number. That they are not too deep to be read again
need not be asked: they stand as deep in what is written as in what was read.
-/

/-! What a document holds of free values. -/

/-- A value of a text whose numbers are all integers keeps them exact. -/
theorem Json.Value.Fits.exact
    {depth : Nat}
    {value : Json.Value}
    (fits : value.Fits Json.Number.IsReadable depth)
    (noReal : ¬value.HasReal) :
    value.Fits Json.Number.IsExact depth := by
  induction fits with
  | null depth =>
      exact .null depth
  | bool depth truth =>
      exact .bool depth truth
  | @number depth number readable =>
      cases number with
      | integer _ =>
          exact .number depth readable
      | real bits =>
          exact absurd (.number bits) noReal
  | string depth text =>
      exact .string depth text
  | array _ inductionHypothesis =>
      exact .array fun item member =>
        inductionHypothesis item member fun hasReal => noReal (.array member hasReal)
  | object distinct _ inductionHypothesis =>
      exact .object distinct fun member isMember =>
        inductionHypothesis member isMember fun hasReal => noReal (.object isMember hasReal)

namespace Document

/-- The values of the attributes that are merged into what is saved. -/
def Save.attributes :
    Save →
    List Json.Value
  | target _ => []
  | merge attributes => attributes.values.flatMap Table.values

/-- The values of the attributes that an action saves. -/
def Action.attributes
    (action : Action) :
    List Json.Value :=
  action.save.elim [] Save.attributes

/-- The values of the attributes that the actions of a controller save. -/
def Controller.attributes
    (controller : Controller) :
    List Json.Value :=
  controller.actions.values.flatMap fun action => action.elim [] Action.attributes

/-- The values of the attributes that the actions of a section save. -/
def Http.attributes
    (http : Http) :
    List Json.Value :=
  http.controllers.values.flatMap Controller.attributes

open Codec

/-! What is written is read back. -/

section Written

variable (depth : Nat)

/-- A text that may be left out is restored, and so is its absence. -/
theorem restores_optionalText
    (written : Option String) :
    (optional text).Restores depth written :=
  restores_optional fun line _ => roundTrips_text depth line

/-- A flag is read back from either truth value. -/
theorem restores_flag
    (written : Bool) :
    (defaulted false truth).Restores depth written :=
  restores_defaulted false (roundTrips_truth depth written)

theorem roundTrips_texts
    (written : List String) :
    (list text).RoundTrips (depth + 1) written :=
  roundTrips_list fun line _ => (roundTrips_text depth line).toRestores

theorem roundTrips_namedTexts
    (written : Table String) :
    (table text).RoundTrips (depth + 1) written :=
  roundTrips_table fun line _ => (roundTrips_text depth line).toRestores

/-- Words are read back in the form in which they were written, a line or a list. -/
theorem roundTrips_words
    (written : Words) :
    wordsCodec.RoundTrips (depth + 1) written := by
  cases written with
  | line text =>
      exact roundTrips_shape (roundTrips_text _ text) rfl
  | list words =>
      exact roundTrips_choice_tail rfl (roundTrips_shape (roundTrips_texts depth words) rfl)

/-- Directive lines are read back as one or as many. -/
theorem roundTrips_lines
    (written : Lines) :
    linesCodec.RoundTrips (depth + 1) written := by
  cases written with
  | one line =>
      exact roundTrips_shape (roundTrips_text _ line) rfl
  | many lines =>
      exact roundTrips_choice_tail rfl (roundTrips_shape (roundTrips_texts depth lines) rfl)

/-- Rules are read back as a line or as a list. -/
theorem roundTrips_rules
    (written : Rules) :
    rulesCodec.RoundTrips (depth + 1) written := by
  cases written with
  | line text =>
      exact roundTrips_shape (roundTrips_text _ text) rfl
  | list rules =>
      exact roundTrips_choice_tail rfl (roundTrips_shape (roundTrips_texts depth rules) rfl)

/-- Bound models are read back in the form in which they were written. -/
theorem roundTrips_models
    (written : Models) :
    modelsCodec.RoundTrips (depth + 1) written := by
  cases written with
  | line text =>
      exact roundTrips_shape (roundTrips_text _ text) rfl
  | list tokens =>
      exact roundTrips_choice_tail rfl (roundTrips_shape (roundTrips_texts depth tokens) rfl)
  | named tokens =>
      have named := roundTrips_namedTexts depth tokens
      exact roundTrips_choice_tail rfl (roundTrips_choice_tail rfl (roundTrips_shape named rfl))

/-! The database section. -/

/-- A column is read back as a line, or as a relation with its line if it has one. -/
theorem roundTrips_column
    (written : Column) :
    columnCodec.RoundTrips (depth + 1) written := by
  cases written with
  | line text =>
      exact ⟨⟨.string _ text, rfl⟩, nofun⟩
  | relation line =>
      have fits : (columnCodec.write (.relation line)).Fits Json.Number.IsExact (depth + 1) := by
        refine .object (by simp [Entries.names]) fun member isMember => ?_
        obtain rfl := List.mem_singleton.mp isMember
        exact (restores_optionalText depth line).fits
      refine ⟨⟨fits, ?_⟩, nofun⟩
      simp only [columnCodec] at fits ⊢
      rw [Node.value_ofValue fits]
      cases line <;> rfl

/-- The columns of a table are read back in order. -/
theorem roundTrips_columns
    (written : Columns) :
    columnsCodec.RoundTrips (depth + 2) written :=
  roundTrips_table fun column _ => (roundTrips_column depth column).toRestores

/-- A primary key is read back as a switch or as a block. -/
theorem roundTrips_primary
    (written : Primary) :
    primaryCodec.RoundTrips (depth + 1) written := by
  cases written with
  | toggle enabled =>
      exact roundTrips_shape (roundTrips_truth _ enabled) rfl
  | block block =>
      have record : primaryBlockCodec.RoundTrips (depth + 1) block := by
        apply roundTrips_record (by decide)
        apply FieldsLead.cons (restores_optionalText depth block.column)
        apply FieldsLead.cons (restores_optionalText depth block.keyType)
        apply FieldsLead.cons (restores_optional fun flag _ => roundTrips_truth depth flag)
        exact .nil block
      exact roundTrips_choice_tail rfl (roundTrips_shape record rfl)

/-- Events are read back as a list or with their handlers. -/
theorem roundTrips_events
    (written : Events) :
    eventsCodec.RoundTrips (depth + 1) written := by
  cases written with
  | list events =>
      exact roundTrips_shape (roundTrips_texts depth events) rfl
  | map handlers =>
      exact roundTrips_choice_tail rfl (roundTrips_shape (roundTrips_namedTexts depth handlers) rfl)

/-- Timestamps are read back as a switch or with their columns. -/
theorem roundTrips_timestamps
    (written : Timestamps) :
    timestampsCodec.RoundTrips (depth + 1) written := by
  cases written with
  | toggle enabled =>
      exact roundTrips_shape (roundTrips_truth _ enabled) rfl
  | columns columns =>
      have lead : FieldsLead depth columns timestampFields ⟨none, none⟩ columns := by
        apply FieldsLead.cons (restores_optionalText depth columns.createdAt)
        apply FieldsLead.cons (restores_optionalText depth columns.updatedAt)
        exact .nil columns
      have distinct : (timestampFields.map Field.name).Nodup := by decide
      have read := readBlock_writeRecord distinct lead
      apply roundTrips_choice_tail rfl
      apply roundTrips_choice_head
      · exact fits_writeRecord distinct lead
      · nofun
      · exact congrArg (Except.map Timestamps.columns) read

/-- Soft deletes are read back as a switch or as a column. -/
theorem roundTrips_softDeletes
    (written : SoftDeletes) :
    softDeletesCodec.RoundTrips depth written := by
  cases written with
  | toggle enabled =>
      exact roundTrips_shape (roundTrips_truth depth enabled) rfl
  | column name =>
      exact roundTrips_choice_tail rfl (roundTrips_shape (roundTrips_text depth name) rfl)

/-- A model is read back with every field, since a field left out is written as null. -/
theorem roundTrips_model
    (written : Model) :
    modelCodec.RoundTrips (depth + 3) written := by
  have texts (written : List String) :
      (defaulted [] (list text)).Restores (depth + 2) written :=
    restores_defaulted [] (roundTrips_texts _ written)
  apply roundTrips_record (by decide)
  apply FieldsLead.cons (restores_optional fun columns _ => roundTrips_columns depth columns)
  apply FieldsLead.cons (restores_optional fun primary _ => roundTrips_primary _ primary)
  apply FieldsLead.cons (restores_optionalText _ written.table)
  apply FieldsLead.cons (restores_optionalText _ written.modelType)
  apply FieldsLead.cons (restores_optional fun size _ => roundTrips_word _ size)
  apply FieldsLead.cons (texts written.fillable)
  apply FieldsLead.cons (texts written.scopes)
  apply FieldsLead.cons (restores_optional fun events _ => roundTrips_events _ events)
  apply FieldsLead.cons (restores_optionalText _ written.route)
  apply FieldsLead.cons (restores_flag _ written.json)
  apply FieldsLead.cons (restores_flag _ written.repository)
  apply FieldsLead.cons (restores_optional fun flag _ => roundTrips_truth _ flag)
  apply FieldsLead.cons (restores_optional fun stamps _ => roundTrips_timestamps _ stamps)
  apply FieldsLead.cons (restores_optional fun deletes _ => roundTrips_softDeletes _ deletes)
  exact .nil written

/-- The database section is read back within five levels. -/
theorem roundTrips_database
    (written : Database) :
    databaseCodec.RoundTrips (depth + 5) written := by
  have models := roundTrips_table fun model (_ : model ∈ written.models.values) =>
    (roundTrips_model depth model).toRestores
  have migrations := roundTrips_table fun columns (_ : columns ∈ written.migrations.values) =>
    (roundTrips_columns (depth + 1) columns).toRestores
  apply roundTrips_record (by decide)
  apply FieldsLead.cons (restores_optionalText _ written.space)
  apply FieldsLead.cons (restores_defaulted ∅ models)
  apply FieldsLead.cons (restores_defaulted ∅ migrations)
  exact .nil written

/-! The HTTP section. -/

theorem roundTrips_middleware
    (written : Middleware) :
    middlewareCodec.RoundTrips (depth + 1) written := by
  apply roundTrips_record (by decide)
  apply FieldsLead.cons (restores_optionalText depth written.className)
  apply FieldsLead.cons (restores_flag depth written.terminable)
  exact .nil written

/-- A resource is read back as a switch or with its options. -/
theorem roundTrips_resource
    (written : Resource) :
    resourceCodec.RoundTrips (depth + 2) written := by
  have words (written : Option Words) : (optional wordsCodec).Restores (depth + 1) written :=
    restores_optional fun words _ => roundTrips_words depth words
  cases written with
  | toggle enabled =>
      exact roundTrips_shape (roundTrips_truth _ enabled) rfl
  | block options =>
      have record : resourceOptionsCodec.RoundTrips (depth + 2) options := by
        apply roundTrips_record (by decide)
        apply FieldsLead.cons (words options.models)
        apply FieldsLead.cons (restores_flag _ options.json)
        apply FieldsLead.cons (restores_flag _ options.api)
        apply FieldsLead.cons (words options.only)
        apply FieldsLead.cons (words options.except)
        exact .nil options
      exact roundTrips_choice_tail rfl (roundTrips_shape record rfl)

/-- An authorization is read back as a switch or as a line. -/
theorem roundTrips_authorize
    (written : Authorize) :
    authorizeCodec.RoundTrips depth written := by
  cases written with
  | toggle enabled =>
      exact roundTrips_shape (roundTrips_truth depth enabled) rfl
  | line text =>
      exact roundTrips_choice_tail rfl (roundTrips_shape (roundTrips_text depth text) rfl)

theorem roundTrips_fieldRules
    (written : Table Rules) :
    (table rulesCodec).RoundTrips (depth + 2) written :=
  roundTrips_table fun rules _ => (roundTrips_rules depth rules).toRestores

/-- A validation is read back as a class or as rules. -/
theorem roundTrips_validate
    (written : Validate) :
    validateCodec.RoundTrips (depth + 2) written := by
  cases written with
  | delegated className =>
      exact roundTrips_shape (roundTrips_text _ className) rfl
  | fields rules =>
      exact roundTrips_choice_tail rfl (roundTrips_shape (roundTrips_fieldRules depth rules) rfl)

/-- What is saved is read back if what is merged fits the depth and is exact. -/
theorem roundTrips_save
    {written : Save}
    (fit : ∀ value ∈ written.attributes, value.Fits Json.Number.IsExact depth) :
    saveCodec.RoundTrips (depth + 2) written := by
  cases written with
  | target text =>
      exact roundTrips_shape (roundTrips_text _ text) rfl
  | merge attributes =>
      have merged : (table (table value)).RoundTrips (depth + 2) attributes := by
        refine roundTrips_table fun inner isInner => ?_
        have each (value : Json.Value) (member : value ∈ inner.values) :
            Codec.value.Restores depth value :=
          restores_value (fit value (List.mem_flatMap.mpr ⟨inner, isInner, member⟩))
        exact (roundTrips_table each).toRestores
      exact roundTrips_choice_tail rfl (roundTrips_shape merged rfl)

/-- An action is read back if what it merges fits the depth and is exact. -/
theorem roundTrips_action
    {written : Action}
    (fit : ∀ value ∈ written.attributes, value.Fits Json.Number.IsExact depth) :
    actionCodec.RoundTrips (depth + 3) written := by
  have lines (written : Option Lines) : (optional linesCodec).Restores (depth + 2) written :=
    restores_optional fun lines _ => roundTrips_lines _ lines
  have save : (optional saveCodec).Restores (depth + 2) written.save := by
    refine restores_optional fun save isSave => roundTrips_save depth ?_
    rw [Action.attributes, Option.mem_def.mp isSave] at fit
    exact fit
  apply roundTrips_record (by decide)
  apply FieldsLead.cons (restores_optionalText _ written.route)
  apply FieldsLead.cons (restores_optional fun authorize _ => roundTrips_authorize _ authorize)
  apply FieldsLead.cons (restores_optional fun validate _ => roundTrips_validate depth validate)
  apply FieldsLead.cons (restores_optional fun models _ => roundTrips_models _ models)
  apply FieldsLead.cons (restores_defaulted ∅ (roundTrips_namedTexts _ written.queries))
  apply FieldsLead.cons save
  apply FieldsLead.cons (restores_optionalText _ written.delete)
  apply FieldsLead.cons (lines written.fire)
  apply FieldsLead.cons (lines written.notify)
  apply FieldsLead.cons (lines written.flash)
  apply FieldsLead.cons (restores_optionalText _ written.redirect)
  apply FieldsLead.cons (restores_optionalText _ written.view)
  exact .nil written

/-- A controller is read back if what its actions merge fits and is exact. -/
theorem roundTrips_controller
    {written : Controller}
    (fit : ∀ value ∈ written.attributes, value.Fits Json.Number.IsExact depth) :
    controllerCodec.RoundTrips (depth + 5) written := by
  have actions : (table (optional actionCodec)).RoundTrips (depth + 4) written.actions := by
    refine roundTrips_table fun entry isEntry => restores_optional fun action isAction => ?_
    refine roundTrips_action depth fun value member => fit value ?_
    rw [Option.mem_def.mp isAction] at isEntry
    exact List.mem_flatMap.mpr ⟨some action, isEntry, member⟩
  apply roundTrips_record (by decide)
  apply FieldsLead.cons (restores_flag _ written.invoke)
  apply FieldsLead.cons (restores_optional fun resource _ => roundTrips_resource _ resource)
  apply FieldsLead.cons (restores_defaulted [] (roundTrips_texts _ written.middleware))
  apply FieldsLead.cons (restores_defaulted ∅ actions)
  exact .nil written

/-- The HTTP section is read back within seven levels and what is merged below them. -/
theorem roundTrips_http
    {written : Http}
    (fit : ∀ value ∈ written.attributes, value.Fits Json.Number.IsExact depth) :
    httpCodec.RoundTrips (depth + 7) written := by
  have middleware := roundTrips_table fun entry (_ : entry ∈ written.middleware.values) =>
    restores_optional fun middleware _ => roundTrips_middleware (depth + 4) middleware
  have controllers : (table controllerCodec).RoundTrips (depth + 6) written.controllers := by
    refine roundTrips_table fun controller isController => RoundTrips.toRestores ?_
    refine roundTrips_controller depth fun value member => fit value ?_
    exact List.mem_flatMap.mpr ⟨controller, isController, member⟩
  apply roundTrips_record (by decide)
  apply FieldsLead.cons (restores_optionalText _ written.space)
  apply FieldsLead.cons (restores_defaulted ∅ middleware)
  apply FieldsLead.cons (restores_defaulted ∅ controllers)
  exact .nil written

/-! The authorization section. -/

/-- A policy is read back as a switch or by its actions. -/
theorem roundTrips_policy
    (written : Policy) :
    policyCodec.RoundTrips (depth + 1) written := by
  cases written with
  | toggle enabled =>
      exact roundTrips_shape (roundTrips_truth _ enabled) rfl
  | actions words =>
      have refused : reader truth Policy.toggle (Node.ofValue (wordsCodec.write words)) =
          .error (.mismatch .shape) := by
        cases words <;> rfl
      exact roundTrips_choice_tail refused (roundTrips_shape (roundTrips_words depth words) rfl)

theorem roundTrips_form
    (written : Form) :
    formCodec.RoundTrips (depth + 3) written := by
  apply roundTrips_record (by decide)
  apply FieldsLead.cons (restores_optional fun authorize _ => roundTrips_authorize _ authorize)
  apply FieldsLead.cons (restores_defaulted ∅ (roundTrips_fieldRules depth written.rules))
  exact .nil written

/-- The authorization section is read back within five levels. -/
theorem roundTrips_auth
    (written : Auth) :
    authCodec.RoundTrips (depth + 5) written := by
  have gates := roundTrips_table fun entry (_ : entry ∈ written.gates.values) =>
    restores_optionalText (depth + 3) entry
  have policies := roundTrips_table fun entry (_ : entry ∈ written.policies.values) =>
    restores_optional fun policy _ => roundTrips_policy (depth + 2) policy
  have forms := roundTrips_table fun entry (_ : entry ∈ written.forms.values) =>
    restores_optional fun form _ => roundTrips_form depth form
  apply roundTrips_record (by decide)
  apply FieldsLead.cons (restores_defaulted ∅ gates)
  apply FieldsLead.cons (restores_defaulted ∅ policies)
  apply FieldsLead.cons (restores_defaulted ∅ forms)
  exact .nil written

/-- A document is read back if the attributes in it fit a depth that leaves room for the eight
containers around each of them. -/
theorem roundTrips_document
    {written : Document}
    (fit : ∀ value ∈ written.http.attributes, value.Fits Json.Number.IsExact depth) :
    codec.RoundTrips (depth + 8) written := by
  apply roundTrips_record (by decide)
  apply FieldsLead.cons (restores_defaulted .blank (roundTrips_database _ written.database))
  apply FieldsLead.cons (restores_defaulted .blank (roundTrips_http depth fit))
  apply FieldsLead.cons (restores_defaulted .blank (roundTrips_auth _ written.auth))
  exact .nil written

end Written

/-! What is read fits the depth that is left. -/

section Read

variable (depth : Nat)

/-- The attributes of what is saved are two levels below it. -/
theorem yields_save :
    saveCodec.Yields (depth + 2) fun save =>
      ∀ value ∈ save.attributes, value.Fits Json.Number.IsReadable depth := by
  refine yields_choice ?_
  simp only [List.forall_mem_cons, reader, map_eq_ok_iff]
  refine ⟨?_, ?_, by simp⟩
  · intro node save _ isRead
    obtain ⟨target, _, rfl⟩ := isRead
    simp [Save.attributes]
  · intro node save within isRead
    obtain ⟨attributes, merged, rfl⟩ := isRead
    intro value member
    obtain ⟨inner, isInner, isValue⟩ := List.mem_flatMap.mp member
    have fits := yields_table (yields_table (yields_value depth)) node attributes within merged
    exact fits inner isInner value isValue

/-- The attributes of an action are three levels below it. -/
theorem yields_action :
    actionCodec.Yields (depth + 3) fun action =>
      ∀ value ∈ action.attributes, value.Fits Json.Number.IsReadable depth := by
  -- Only one of the twelve fields has to do with attributes.
  have other {α : Type} {codec : Codec α} {name : String} {get : Action → α}
      {set : α → Action → Action} (same : ∀ value action, (set value action).save = action.save) :
      (field name codec get set).Keeps (depth + 2) fun action =>
        ∀ value ∈ action.attributes, value.Fits Json.Number.IsReadable depth := by
    refine field_keeps_of_independent fun value action fit => ?_
    rw [Action.attributes, same]
    exact fit
  refine yields_record (by simp [Action.attributes, Action.blank]) ?_
  simp only [actionFields, List.forall_mem_cons]
  refine ⟨other fun _ _ => rfl, other fun _ _ => rfl, other fun _ _ => rfl, other fun _ _ => rfl,
    other fun _ _ => rfl, ?save, other fun _ _ => rfl, other fun _ _ => rfl, other fun _ _ => rfl,
    other fun _ _ => rfl, other fun _ _ => rfl, other fun _ _ => rfl, by simp⟩
  refine field_keeps (yields_optional (yields_save depth)) fun saved action fit _ => ?_
  cases saved with
  | none =>
      simp [Action.attributes]
  | some save =>
      exact fit save rfl

/-- The attributes of a controller are five levels below it. -/
theorem yields_controller :
    controllerCodec.Yields (depth + 5) fun controller =>
      ∀ value ∈ controller.attributes, value.Fits Json.Number.IsReadable depth := by
  refine yields_record (by simp [Controller.attributes, Controller.blank]) ?_
  simp only [List.forall_mem_cons]
  refine ⟨field_keeps_of_independent fun _ _ fit => fit,
    field_keeps_of_independent fun _ _ fit => fit,
    field_keeps_of_independent fun _ _ fit => fit, ?actions, by simp⟩
  have actions := yields_table (yields_optional (yields_action depth))
  refine field_keeps (yields_defaulted (by simp) actions) fun read controller fit _ => ?_
  intro value member
  obtain ⟨entry, isEntry, isValue⟩ := List.mem_flatMap.mp member
  cases entry with
  | none =>
      simp at isValue
  | some action =>
      exact fit (some action) isEntry action rfl value isValue

/-- The attributes of the HTTP section are seven levels below it. -/
theorem yields_http :
    httpCodec.Yields (depth + 7) fun http =>
      ∀ value ∈ http.attributes, value.Fits Json.Number.IsReadable depth := by
  refine yields_record (by simp [Http.attributes, Http.blank]) ?_
  simp only [List.forall_mem_cons]
  refine ⟨field_keeps_of_independent fun _ _ fit => fit,
    field_keeps_of_independent fun _ _ fit => fit, ?controllers, by simp⟩
  have controllers := yields_table (yields_controller depth)
  refine field_keeps (yields_defaulted (by simp) controllers) fun read http fit _ => ?_
  intro value member
  obtain ⟨controller, isController, isValue⟩ := List.mem_flatMap.mp member
  exact fit controller isController value isValue

/-- The attributes of a document are eight levels below it. -/
theorem yields_document :
    codec.Yields (depth + 8) fun document =>
      ∀ value ∈ document.http.attributes, value.Fits Json.Number.IsReadable depth := by
  refine yields_record (by simp [blank, Http.attributes, Http.blank]) ?_
  simp only [List.forall_mem_cons]
  refine ⟨field_keeps_of_independent fun _ _ fit => fit, ?http,
    field_keeps_of_independent fun _ _ fit => fit, by simp⟩
  have onBlank : ∀ value ∈ Http.blank.attributes,
      value.Fits Json.Number.IsReadable depth := by
    simp [Http.attributes, Http.blank]
  exact field_keeps (yields_defaulted onBlank (yields_http depth)) fun read document fit _ => fit

end Read

/-- Any document is read of what is written of it if the attributes in it keep their numbers exact
and leave room for the containers around them. -/
theorem ofJson_write_of_fits
    {document : Document}
    (fit : ∀ value ∈ document.http.attributes, value.Fits Json.Number.IsExact 119) :
    ofJson (codec.write document).line = .ok document ∧
      ofJson (codec.write document).page = .ok document := by
  obtain ⟨fits, restored⟩ := (roundTrips_document 119 fit).toRestores
  rw [ofJson, ofJson, Json.readTree_line fits, Json.readTree_page fits]
  simp only [Tree.read, restored]
  exact ⟨rfl, rfl⟩

/-- A document that is read from JSON is read again of what is written of it, on one line or over
several, unless a floating-point number stands in a saved attribute. -/
theorem ofJson_write
    {text : String}
    {document : Document}
    (read : ofJson text = .ok document)
    (noReal : ∀ value ∈ document.http.attributes, ¬value.HasReal) :
    ofJson (codec.write document).line = .ok document ∧
      ofJson (codec.write document).page = .ok document := by
  simp only [ofJson, Tree.read, bind_eq_ok_iff, pure_eq_ok_iff] at read
  obtain ⟨found, isRead, _, _, rfl⟩ := read
  -- An attribute that was read stood inside eight containers, as many as are written around it.
  have within : (Json.readTree text).root.Within (119 + 8) := Json.within_readTree text
  have readable := yields_document 119 _ _ within isRead
  exact ofJson_write_of_fits fun value member =>
    (readable value member).exact (noReal value member)

/-- A text in which an action saves a post with its tags, all else being left out. -/
def taggingText : String :=
  "\x7b\"http\": \x7b\"controllers\": \x7b\"Post\": \x7b\"actions\": \x7b\"store\": " ++
    "\x7b\"save\": \x7b\"post\": \x7b\"tags\": [1, null]\x7d\x7d\x7d\x7d\x7d\x7d\x7d\x7d"

/-- The document of that text. -/
def taggingDocument : Document :=
  let post : Table Json.Value := .ofList [("tags", .array [.number (.integer 1), .null])]
  let store := { Action.blank with save := some (.merge (.ofList [("post", post)])) }
  let controller := { Controller.blank with actions := .ofList [("store", some store)] }
  { blank with http := { Http.blank with controllers := .ofList [("Post", controller)] } }

theorem ofJson_write_taggingDocument :
    ofJson taggingText = .ok taggingDocument ∧
      (∀ value ∈ taggingDocument.http.attributes, ¬value.HasReal) ∧
      ofJson (codec.write taggingDocument).line = .ok taggingDocument ∧
      ofJson (codec.write taggingDocument).page = .ok taggingDocument := by
  have read : ofJson taggingText = .ok taggingDocument := by
    decide +kernel
  have noReal : ∀ value ∈ taggingDocument.http.attributes, ¬value.HasReal := by
    intro value member hasReal
    obtain rfl := List.mem_singleton.mp member
    cases hasReal with
    | array isItem inner =>
        simp only [List.mem_cons, List.not_mem_nil, or_false] at isItem
        rcases isItem with rfl | rfl <;> cases inner
  exact ⟨read, noReal, ofJson_write read noReal⟩

end Document

end Blueprint
