import Mathlib.Logic.Relation
import Blueprint.Proofs.Longhand

namespace Blueprint

/-!
# Ways to write the same

Each rule rewrites one place of a document from a short way of writing into a long one. Documents
that are joined by rules, used in both directions and in any number, have one longhand, and so they
resolve alike, those that fail included.
-/

open Resolution

namespace Document

/-- One place of a model is written in another way. -/
inductive Model.Rewrites
    (key : String) :
    Model →
    Model →
    Prop where
  | primary {model : Model} :
      model.primary = some (.toggle true) →
      Rewrites key model { model with primary := none }
  | events {model : Model} {events : List String} :
      model.events = some (.list events) →
      Rewrites key model
        { model with
          events := some (.map (Table.ofList
            (events.map fun event =>
              (event, Context.classOf key ++ Naming.upperFirst event)))) }
  | timestamps {model : Model} :
      model.timestamps = some (.toggle true) →
      Rewrites key model { model with timestamps := none }
  | timestampColumns {model : Model} :
      model.timestamps = some (.columns ⟨none, none⟩) →
      Rewrites key model { model with timestamps := none }
  | softDeletes {model : Model} :
      model.softDeletes = some (.toggle true) →
      Rewrites key model { model with softDeletes := some (.column "deleted_at") }
  | noSoftDeletes {model : Model} :
      model.softDeletes = some (.toggle false) →
      Rewrites key model { model with softDeletes := none }

/-- One place of resource options is written in another way. -/
inductive ResourceOptions.Rewrites :
    ResourceOptions →
    ResourceOptions →
    Prop where
  | models {options : ResourceOptions} {text : String} :
      options.models = some (.line text) →
      Rewrites options { options with models := some (.list (piecesOf text)) }
  | only {options : ResourceOptions} {text : String} :
      options.only = some (.line text) →
      Rewrites options { options with only := some (.list (piecesOf text)) }
  | except {options : ResourceOptions} {text : String} :
      options.except = some (.line text) →
      Rewrites options { options with except := some (.list (piecesOf text)) }

/-- The rules of one field are written in another way. -/
inductive RulesRewrite :
    Table Rules →
    Table Rules →
    Prop where
  | rules {fields : Table Rules} {field text : String} :
      fields.get? field = some (.line text) →
      RulesRewrite fields (fields.insert field (.list (cutAt '|' text)))

/-- One place of an action is written in another way. -/
inductive Action.Rewrites :
    Action →
    Action →
    Prop where
  | authorize {action : Action} :
      action.authorize = some (.toggle true) →
      Rewrites action { action with authorize := none }
  | validate {action : Action} {fields others : Table Rules} :
      action.validate = some (.fields fields) →
      RulesRewrite fields others →
      Rewrites action { action with validate := some (.fields others) }
  | models {action : Action} {text : String} :
      action.models = some (.line text) →
      Rewrites action { action with models := some (.list (piecesOf text)) }
  | fire {action : Action} {line : String} :
      action.fire = some (.one line) →
      Rewrites action { action with fire := some (.many [line]) }
  | notify {action : Action} {line : String} :
      action.notify = some (.one line) →
      Rewrites action { action with notify := some (.many [line]) }
  | flash {action : Action} {line : String} :
      action.flash = some (.one line) →
      Rewrites action { action with flash := some (.many [line]) }

/-- One place of a controller is written in another way. -/
inductive Controller.Rewrites :
    Controller →
    Controller →
    Prop where
  | resource {controller : Controller} :
      controller.resource = some (.toggle true) →
      Rewrites controller { controller with resource := some (.block .blank) }
  | noResource {controller : Controller} :
      controller.resource = some (.toggle false) →
      Rewrites controller { controller with resource := none }
  | resourceOptions {controller : Controller} {options others : ResourceOptions} :
      controller.resource = some (.block options) →
      options.Rewrites others →
      Rewrites controller { controller with resource := some (.block others) }
  | named {controller : Controller} {name : String} :
      controller.actions.get? name = some none →
      Rewrites controller
        { controller with actions := controller.actions.insert name (some .blank) }
  | action {controller : Controller} {name : String} {action other : Action} :
      controller.actions.get? name = some (some action) →
      action.Rewrites other →
      Rewrites controller
        { controller with actions := controller.actions.insert name (some other) }

/-- One place of a form is written in another way. -/
inductive Form.Rewrites :
    Form →
    Form →
    Prop where
  | authorize {form : Form} :
      form.authorize = some (.toggle true) →
      Rewrites form { form with authorize := none }
  | rules {form : Form} {others : Table Rules} :
      RulesRewrite form.rules others →
      Rewrites form { form with rules := others }

/-- A policy is written in another way. -/
inductive Policy.Rewrites :
    Option Policy →
    Option Policy →
    Prop where
  | named :
      Rewrites none (some (.toggle true))
  | all :
      Rewrites (some (.toggle true)) (some (.actions (.list Auth.policyActions)))
  | actions (text : String) :
      Rewrites (some (.actions (.line text))) (some (.actions (.list (piecesOf text))))

/-- One place of a document is written in another way. -/
inductive Rewrites
    (document : Document) :
    Document →
    Prop where
  | model {key : String} {model other : Model} :
      document.database.models.get? key = some model →
      model.Rewrites key other →
      Rewrites document
        { document with
          database :=
            { document.database with models := document.database.models.insert key other } }
  | middleware {name : String} :
      document.http.middleware.get? name = some none →
      Rewrites document
        { document with
          http :=
            { document.http with
              middleware := document.http.middleware.insert name (some .blank) } }
  | controller {key : String} {controller other : Controller} :
      document.http.controllers.get? key = some controller →
      controller.Rewrites other →
      Rewrites document
        { document with
          http :=
            { document.http with
              controllers := document.http.controllers.insert key other } }
  | policy {key : String} {policy other : Option Policy} :
      document.auth.policies.get? key = some policy →
      Policy.Rewrites policy other →
      Rewrites document
        { document with
          auth := { document.auth with policies := document.auth.policies.insert key other } }
  | namedForm {name : String} :
      document.auth.forms.get? name = some none →
      Rewrites document
        { document with
          auth := { document.auth with forms := document.auth.forms.insert name (some .blank) } }
  | form {name : String} {form other : Form} :
      document.auth.forms.get? name = some (some form) →
      form.Rewrites other →
      Rewrites document
        { document with
          auth := { document.auth with forms := document.auth.forms.insert name (some other) } }

/-! What is rewritten stays the same in longhand. -/

/-- A rewritten model has the same longhand. -/
theorem Model.Rewrites.longhand_eq
    {key : String}
    {model other : Model}
    (rewrites : model.Rewrites key other) :
    other.longhand key = model.longhand key := by
  cases rewrites with
  | primary switched =>
      simp [Model.longhand, Primary.longhand, switched]
  | events listed =>
      simp [Model.longhand, Events.longhand, eventHandlers, listed]
  | timestamps switched =>
      simp [Model.longhand, Timestamps.longhand, switched]
  | timestampColumns given =>
      simp [Model.longhand, Timestamps.longhand, given]
  | softDeletes switched =>
      simp [Model.longhand, SoftDeletes.longhand, switched, Schema.usualSoftDeleteColumn]
  | noSoftDeletes switched =>
      simp [Model.longhand, SoftDeletes.longhand, switched]

theorem ResourceOptions.Rewrites.longhand_eq
    {options other : ResourceOptions}
    (rewrites : options.Rewrites other) :
    other.longhand = options.longhand := by
  cases rewrites with
  | models written =>
      simp [ResourceOptions.longhand, Words.longhand, written]
  | only written =>
      simp [ResourceOptions.longhand, Words.longhand, written]
  | except written =>
      simp [ResourceOptions.longhand, Words.longhand, written]

theorem RulesRewrite.longhand_eq
    {fields others : Table Rules}
    (rewrites : RulesRewrite fields others) :
    others.map (fun _ => Rules.longhand) = fields.map fun _ => Rules.longhand := by
  cases rewrites with
  | rules written =>
      exact Table.map_insert_of_get? written rfl

theorem Action.Rewrites.longhand_eq
    {action other : Action}
    (rewrites : action.Rewrites other) :
    other.longhand = action.longhand := by
  cases rewrites with
  | authorize switched =>
      simp [Action.longhand, Authorize.longhand, switched]
  | validate given rules =>
      simp [Action.longhand, Validate.longhand, given, rules.longhand_eq]
  | models written =>
      simp [Action.longhand, Models.longhand, written]
  | fire written =>
      simp [Action.longhand, Lines.longhand, written]
  | notify written =>
      simp [Action.longhand, Lines.longhand, written]
  | flash written =>
      simp [Action.longhand, Lines.longhand, written]

theorem Controller.Rewrites.longhand_eq
    {controller other : Controller}
    (rewrites : controller.Rewrites other) :
    other.longhand = controller.longhand := by
  have describe {name : String} {former action : Option Action}
      (present : controller.actions.get? name = some former)
      (same : (action.getD .blank).longhand = (former.getD .blank).longhand) :
      Controller.longhand { controller with actions := controller.actions.insert name action } =
        controller.longhand := by
    simp only [Controller.longhand]
    rw [Table.map_insert_of_get? present (congrArg some same)]
  cases rewrites with
  | resource switched =>
      simp [Controller.longhand, Resource.longhand, switched, Resolution.resourceOptions]
  | noResource switched =>
      simp [Controller.longhand, Resource.longhand, switched, Resolution.resourceOptions]
  | resourceOptions given options =>
      simp [Controller.longhand, Resource.longhand, given, Resolution.resourceOptions,
        options.longhand_eq]
  | named given =>
      exact describe given rfl
  | action given rewritten =>
      exact describe given rewritten.longhand_eq

theorem Form.Rewrites.longhand_eq
    {form other : Form}
    (rewrites : form.Rewrites other) :
    other.longhand = form.longhand := by
  cases rewrites with
  | authorize switched =>
      simp [Form.longhand, Authorize.longhand, switched]
  | rules rewritten =>
      simp [Form.longhand, rewritten.longhand_eq]

theorem Policy.Rewrites.longhand_eq
    {policy other : Option Policy}
    (rewrites : Policy.Rewrites policy other) :
    Policy.longhand other = Policy.longhand policy := by
  cases rewrites with
  | named =>
      rfl
  | all =>
      rfl
  | actions text =>
      rfl

/-- A document has the same longhand after one rewrite anywhere in it. -/
theorem Rewrites.longhand_eq
    {document other : Document}
    (rewrites : document.Rewrites other) :
    other.longhand = document.longhand := by
  cases rewrites with
  | model given rewritten =>
      simp only [longhand]
      rw [Table.map_insert_of_get? given rewritten.longhand_eq]
  | @middleware name given =>
      have described :
          (document.http.middleware.insert name (some .blank)).map
              (fun _ middleware => some (middleware.getD .blank)) =
            document.http.middleware.map fun _ middleware => some (middleware.getD .blank) :=
        Table.map_insert_of_get? given rfl
      simp only [longhand, described]
  | controller given rewritten =>
      simp only [longhand]
      rw [Table.map_insert_of_get? given rewritten.longhand_eq]
  | policy given rewritten =>
      simp only [longhand]
      rw [Table.map_insert_of_get? given (congrArg some rewritten.longhand_eq)]
  | @namedForm name given =>
      have described :
          (document.auth.forms.insert name (some .blank)).map
              (fun _ form => some (form.getD .blank).longhand) =
            document.auth.forms.map fun _ form => some (form.getD .blank).longhand :=
        Table.map_insert_of_get? given rfl
      simp only [longhand, described]
  | form given rewritten =>
      simp only [longhand]
      rw [Table.map_insert_of_get? given (congrArg some rewritten.longhand_eq)]

/-- Documents that can be rewritten into each other have one longhand. -/
theorem longhand_eq_of_rewrites
    {document other : Document}
    (joined : Relation.EqvGen Rewrites document other) :
    document.longhand = other.longhand := by
  induction joined with
  | rel first second rewrites =>
      exact rewrites.longhand_eq.symm
  | refl document =>
      rfl
  | symm first second _ inductionHypothesis =>
      exact inductionHypothesis.symm
  | trans first second third _ _ firstHypothesis secondHypothesis =>
      exact firstHypothesis.trans secondHypothesis

end Document

/-- However many places of a document are written in another way, short or long, it resolves to the
same plan or fails with the same error. -/
theorem resolve_eq_of_rewrites
    {document other : Document}
    (joined : Relation.EqvGen Document.Rewrites document other) :
    resolve document = resolve other := by
  calc
    resolve document = resolve document.longhand := (resolve_longhand document).symm
    _ = resolve other.longhand := by rw [Document.longhand_eq_of_rewrites joined]
    _ = resolve other := resolve_longhand other

/-- Posts with events and soft deletes and a policy, in whatever words. -/
def observedDocument
    (events : Document.Events)
    (softDeletes : Document.SoftDeletes)
    (policy : Option Document.Policy) :
    Document where
  database :=
    { Document.Database.blank with
      models := Table.ofList
        [("Post",
          { Document.Model.blank with
            columns := some (Table.ofList [("id", .line "id")])
            events := some events
            softDeletes := some softDeletes })] }
  http := .blank
  auth := { Document.Auth.blank with policies := Table.ofList [("Post", policy)] }

/-- An event that is named twice, a switch and a policy that is named only, each written out. -/
theorem resolve_eq_of_rewrites_observedDocument :
    resolve (observedDocument (.list ["created", "created"]) (.toggle true) none) =
      resolve
        (observedDocument (.map (Table.ofList [("created", "PostCreated")]))
          (.column "deleted_at")
          (some (.toggle true))) := by
  have handlers :
      Table.ofList [("created", "PostCreated")] =
        Table.ofList (["created", "created"].map fun event =>
          (event, Context.classOf "Post" ++ Naming.upperFirst event)) := by
    decide +kernel
  rw [handlers]
  apply resolve_eq_of_rewrites
  apply Relation.EqvGen.trans _
    (observedDocument (.list ["created", "created"]) (.column "deleted_at") none)
  · exact .rel _ _ (@Document.Rewrites.model _ "Post" _ _ rfl (.softDeletes rfl))
  · apply Relation.EqvGen.trans _
      (observedDocument (.list ["created", "created"]) (.column "deleted_at") (some (.toggle true)))
    · exact .rel _ _ (@Document.Rewrites.policy _ "Post" _ _ rfl .named)
    · exact .rel _ _ (@Document.Rewrites.model _ "Post" _ _ rfl (.events rfl))

end Blueprint
