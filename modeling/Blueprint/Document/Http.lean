import Blueprint.Document.Phrase

namespace Blueprint.Document

/-!
# The HTTP section

Middleware and controllers with their actions. Most of an action is directives: lines that say
what the action authorizes, validates, reads, saves and answers with.
-/

/-- A declared middleware. -/
structure Middleware where
  className : Option String
  terminable : Bool
  deriving Repr, DecidableEq

/-- A middleware with every field left out. -/
def Middleware.blank : Middleware :=
  ⟨none, false⟩

/-- How middleware is written. -/
def middlewareCodec : Codec Middleware :=
  Codec.record .blank
    [Codec.field "name" (.optional .text) (·.className)
       fun value middleware => { middleware with className := value },
     Codec.field "terminable" (.defaulted false .truth) (·.terminable)
       fun value middleware => { middleware with terminable := value }]

/-- The options of a resource controller. -/
structure ResourceOptions where
  models : Option Words
  json : Bool
  api : Bool
  only : Option Words
  except : Option Words
  deriving Repr, DecidableEq

/-- Resource options with every field left out. -/
def ResourceOptions.blank : ResourceOptions :=
  ⟨none, false, false, none, none⟩

/-- How resource options are written. -/
def resourceOptionsCodec : Codec ResourceOptions :=
  Codec.record .blank
    [Codec.field "models" (.optional wordsCodec) (·.models)
       fun value options => { options with models := value },
     Codec.field "json" (.defaulted false .truth) (·.json)
       fun value options => { options with json := value },
     Codec.field "api" (.defaulted false .truth) (·.api)
       fun value options => { options with api := value },
     Codec.field "only" (.optional wordsCodec) (·.only)
       fun value options => { options with only := value },
     Codec.field "except" (.optional wordsCodec) (·.except)
       fun value options => { options with except := value }]

/-- Whether a controller is a resource, or which one. -/
inductive Resource where
  | toggle (enabled : Bool)
  | block (options : ResourceOptions)
  deriving Repr, DecidableEq

/-- How resources are written. -/
def resourceCodec : Codec Resource :=
  Codec.choice .resource
    [Codec.reader Codec.truth Resource.toggle, Codec.reader resourceOptionsCodec Resource.block]
    fun
      | .toggle enabled => Codec.truth.write enabled
      | .block options => resourceOptionsCodec.write options

/-- Whether something is authorized, or by which line. -/
inductive Authorize where
  | toggle (enabled : Bool)
  | line (text : String)
  deriving Repr, DecidableEq

/-- How authorization is written. -/
def authorizeCodec : Codec Authorize :=
  Codec.choice .authorize
    [Codec.reader Codec.truth Authorize.toggle, Codec.reader Codec.text Authorize.line]
    fun
      | .toggle enabled => Codec.truth.write enabled
      | .line text => Codec.text.write text

/-- A validator class, or rules for each field. -/
inductive Validate where
  | delegated (className : String)
  | fields (rules : Table Rules)
  deriving Repr, DecidableEq

/-- How validation is written. -/
def validateCodec : Codec Validate :=
  Codec.choice .validate
    [Codec.reader Codec.text Validate.delegated,
     Codec.reader (Codec.table rulesCodec) Validate.fields]
    fun
      | .delegated className => Codec.text.write className
      | .fields rules => (Codec.table rulesCodec).write rules

/-- What an action saves: a model or variable, or a variable with attributes to merge. -/
inductive Save where
  | target (text : String)
  | merge (attributes : Table (Table Json.Value))
  deriving Repr, DecidableEq

/-- How saving is written. -/
def saveCodec : Codec Save :=
  Codec.choice .save
    [Codec.reader Codec.text Save.target,
     Codec.reader (Codec.table (Codec.table Codec.value)) Save.merge]
    fun
      | .target text => Codec.text.write text
      | .merge attributes => (Codec.table (Codec.table Codec.value)).write attributes

/-- A declared action. -/
structure Action where
  route : Option String
  authorize : Option Authorize
  validate : Option Validate
  models : Option Models
  queries : Table String
  save : Option Save
  delete : Option String
  fire : Option Lines
  notify : Option Lines
  flash : Option Lines
  redirect : Option String
  view : Option String
  deriving Repr, DecidableEq

/-- An action with every field left out. -/
def Action.blank : Action where
  route := none
  authorize := none
  validate := none
  models := none
  queries := ∅
  save := none
  delete := none
  fire := none
  notify := none
  flash := none
  redirect := none
  view := none

/-- The fields of an action. -/
def actionFields : List (Codec.Field Action) :=
  [Codec.field "route" (.optional .text) (·.route)
     fun value action => { action with route := value },
   Codec.field "authorize" (.optional authorizeCodec) (·.authorize)
     fun value action => { action with authorize := value },
   Codec.field "validate" (.optional validateCodec) (·.validate)
     fun value action => { action with validate := value },
   Codec.field "models" (.optional modelsCodec) (·.models)
     fun value action => { action with models := value },
   Codec.field "queries" (.defaulted ∅ (.table .text)) (·.queries)
     fun value action => { action with queries := value },
   Codec.field "save" (.optional saveCodec) (·.save)
     fun value action => { action with save := value },
   Codec.field "delete" (.optional .text) (·.delete)
     fun value action => { action with delete := value },
   Codec.field "fire" (.optional linesCodec) (·.fire)
     fun value action => { action with fire := value },
   Codec.field "notify" (.optional linesCodec) (·.notify)
     fun value action => { action with notify := value },
   Codec.field "flash" (.optional linesCodec) (·.flash)
     fun value action => { action with flash := value },
   Codec.field "redirect" (.optional .text) (·.redirect)
     fun value action => { action with redirect := value },
   Codec.field "view" (.optional .text) (·.view)
     fun value action => { action with view := value }]

/-- How actions are written. -/
def actionCodec : Codec Action :=
  Codec.record .blank actionFields

/-- A declared controller. An action may be named without being described. -/
structure Controller where
  invoke : Bool
  resource : Option Resource
  middleware : List String
  actions : Table (Option Action)
  deriving Repr, DecidableEq

/-- A controller with every field left out. -/
def Controller.blank : Controller :=
  ⟨false, none, [], ∅⟩

/-- How controllers are written. -/
def controllerCodec : Codec Controller :=
  Codec.record .blank
    [Codec.field "invoke" (.defaulted false .truth) (·.invoke)
       fun value controller => { controller with invoke := value },
     Codec.field "resource" (.optional resourceCodec) (·.resource)
       fun value controller => { controller with resource := value },
     Codec.field "middleware" (.defaulted [] (.list .text)) (·.middleware)
       fun value controller => { controller with middleware := value },
     Codec.field "actions" (.defaulted ∅ (.table (.optional actionCodec))) (·.actions)
       fun value controller => { controller with actions := value }]

/-- The HTTP section. -/
structure Http where
  space : Option String
  middleware : Table (Option Middleware)
  controllers : Table Controller
  deriving Repr, DecidableEq

/-- An HTTP section with every field left out. -/
def Http.blank : Http :=
  ⟨none, ∅, ∅⟩

/-- How the HTTP section is written. -/
def httpCodec : Codec Http :=
  Codec.record .blank
    [Codec.field "namespace" (.optional .text) (·.space)
       fun value http => { http with space := value },
     Codec.field "middleware" (.defaulted ∅ (.table (.optional middlewareCodec))) (·.middleware)
       fun value http => { http with middleware := value },
     Codec.field "controllers" (.defaulted ∅ (.table controllerCodec)) (·.controllers)
       fun value http => { http with controllers := value }]

end Blueprint.Document
