import Blueprint.Resolution.Context

namespace Blueprint.Resolution

/-!
# Directives

The lines of an action, each resolved against the entities and the variables in scope: bound
models, route, authorization, validation, queries, saving and answers.
-/

open Http

/-- The suffix of controller keys and classes. -/
def controllerSuffix : String := "Controller"

/-- A text without an ending, if it has it. -/
def withoutSuffix
    (text ending : String) :
    String :=
  if ending.toList.isSuffixOf text.toList then
    String.ofList (text.toList.take (text.toList.length - ending.toList.length))
  else
    text

/-- The key of a controller without its suffix. -/
def routeBase
    (key : String) :
    String :=
  withoutSuffix key controllerSuffix

/-- The model and the column of a token `Model` or `Model:column`. -/
def splitToken
    (token : String) :
    String × Option String :=
  match Text.cutFirst? ':' token.toList with
  | some (model, column) => (String.ofList model, some (String.ofList column))
  | none => (token, none)

/-- Bind one model; a binding column must be a column of the entity. -/
def bindModel
    (context : Context)
    (owner : String)
    (entry : Document.ModelEntry) :
    Except ResolveError Binding :=
  let (model, declared) := splitToken entry.token
  match context.entity model owner with
  | .error cause => .error cause
  | .ok entity =>
      let binding : Binding :=
        ⟨entity.key, entry.variableName.getD (Naming.camel entity.className),
          declared.or entity.routeBinding⟩
      match binding.column with
      | none => .ok binding
      | some column =>
          if entity.columns.contains column then
            .ok binding
          else
            .error (.missing .column column (owner ++ ".models." ++ entity.key))

/-- Bind models in order; empty tokens are passed over. -/
def bindModels
    (context : Context)
    (owner : String)
    (models : Document.Models) :
    Except ResolveError (List Binding) :=
  collect (bindModel context owner) (models.entries.filter fun entry => !entry.token.isEmpty)

/-- The usual name of a route. -/
def usualRouteName
    (controller action : String) :
    String :=
  let base := Naming.delimited "." (routeBase controller)
  if action = invokeAction then base else base ++ "." ++ action

/-- The written parts of a route: verbs, path, and a name if one is given. -/
structure RouteLine where
  verbs : List Char
  path : List Char
  name : Option (List Char)
  deriving Repr, DecidableEq

/-- Whether a character may stand among the verbs of a route. -/
def isVerbLetter
    (letter : Char) :
    Bool :=
  letter.isAlpha || letter == '|'

/-- The parts of a trimmed line `verbs:path [name]`. -/
def RouteLine.ofText?
    (text : List Char) :
    Option RouteLine :=
  match Text.cutFirst? ':' text with
  | none => none
  | some (verbs, after) =>
      if verbs.isEmpty || !verbs.all isVerbLetter || after.head?.all Text.isBlank then
        none
      else
        match Text.pieces after with
        | [path] => some ⟨verbs, path, none⟩
        | [path, name] => some ⟨verbs, path, some name⟩
        | _ => none

/-- The verb of a word between bars. -/
def verbOf
    (owner : String)
    (word : List Char) :
    Except ResolveError Verb :=
  match Verb.ofWord? (String.ofList word) with
  | some verb => .ok verb
  | none => .error (.missing .verb (String.ofList word) (owner ++ ".route"))

/-- The route that a line declares. -/
def declaredRoute
    (controller action owner line : String) :
    Except ResolveError Route :=
  match RouteLine.ofText? (Text.trimBoth Text.isBlank line.toList) with
  | none => Document.refuse owner (.routeShape line)
  | some parts =>
      let words := (Text.cut (· == '|') parts.verbs).filter fun word => !word.isEmpty
      match collect (verbOf owner) words with
      | .error cause => .error cause
      | .ok verbs =>
          let name :=
            match parts.name with
            | some name => String.ofList name
            | none => usualRouteName controller action
          .ok ⟨verbs, String.ofList parts.path, name, false⟩

/-- A path with a slash at its end. -/
def slashed
    (path : String) :
    String :=
  if path.toList.getLast? = some '/' then path else path ++ "/"

/-- The path of a controller and an action with the models that it binds: the first as a
parameter, the others below directories. -/
def guessedPath
    (controller action : String)
    (models : List Binding) :
    String :=
  let base := Naming.delimited "/" (routeBase controller) ++ "/" ++ actionSegment action
  match models with
  | [] => base
  | first :: others =>
      others.foldl (fun path model => slashed path ++ model.directoryParameter)
        (slashed base ++ first.parameter)

/-- The route of an action that declares none. -/
def guessedRoute
    (controller action : String)
    (models : List Binding) :
    Route where
  verbs := Verb.forAction action
  path := guessedPath controller action models
  name := usualRouteName controller action
  guessed := true

/-- Read the words after an ability: a class may come first, all else are parameters. -/
def abilityWord
    (context : Context)
    (owner : String)
    (found : Option String × List String)
    (word : String) :
    Except ResolveError (Option String × List String) :=
  if found.1.isNone && found.2.isEmpty && Naming.startsUpper word then
    (context.entityKey word (owner ++ ".authorize")).map fun key => (some key, found.2)
  else
    .ok (found.1, found.2 ++ [word])

/-- What an action authorizes: its own name unless a line says otherwise. -/
def authorizeOf
    (context : Context)
    (action owner : String)
    (models : List Binding) :
    Option Document.Authorize →
    Except ResolveError Authorize
  | some (.toggle false) => .ok .disabled
  | some (.line line) =>
      match piecesOf line with
      | [] => Document.refuse owner .emptyAuthorize
      | ability :: words =>
          (accumulate (abilityWord context owner) (none, []) words).map
            fun found => .ability ability found.1 found.2
  | some (.toggle true) => .ok (.ability action none (models.map (·.variableName)))
  | none => .ok (.ability action none (models.map (·.variableName)))

/-- The rules of every field as methods. -/
def fieldMethods
    (rules : Table Document.Rules) :
    Table (List Method) :=
  rules.map fun _ fieldRules => fieldRules.toList.map Method.ofBuilder

/-- What an action validates. -/
def validationOf
    (owner : String) :
    Document.Validate →
    Except ResolveError Validation
  | .delegated text =>
      if Naming.startsUpper text then
        .ok (.delegated (trimmed text))
      else
        Document.refuse owner (.validateShape text)
  | .fields rules => .ok (.inline (fieldMethods rules))

/-- What a query starts from: an entity, or a variable in scope. -/
def querySource
    (context : Context)
    (scope : List String)
    (owner head : String) :
    Except ResolveError QuerySource :=
  if Naming.startsUpper head then
    (context.entityKey head owner).map QuerySource.entity
  else if head ∈ scope then
    .ok (.result head)
  else
    .error (.missing .variableName head owner)

/-- The query of a line. -/
def queryOf
    (context : Context)
    (scope : List String)
    (owner : String)
    (entry : String × String) :
    Except ResolveError Query :=
  let queryOwner := owner ++ ".queries." ++ entry.1
  match piecesOf entry.2 with
  | [] => Document.refuse queryOwner .emptyQuery
  | head :: calls =>
      (querySource context scope queryOwner head).map fun source =>
        ⟨entry.1, source, calls.map Method.ofDirective⟩

/-- Queries in order; each may read the results of those before it. -/
def queriesOf
    (context : Context)
    (models : List Binding)
    (owner : String)
    (queries : Table String) :
    Except ResolveError (List Query) :=
  accumulate
    (fun done entry =>
      let scope := models.map (·.variableName) ++ done.map (·.variableName)
      (queryOf context scope owner entry).map fun query => done ++ [query])
    [] queries.entries

/-- What an action saves. -/
def saveOf
    (context : Context)
    (owner : String)
    (fromFormRequest : Bool) :
    Document.Save →
    Except ResolveError Save
  | .target text =>
      if Naming.startsUpper text then
        (context.entity (trimmed text) (owner ++ ".save")).map fun entity =>
          ⟨Naming.camel entity.className, some entity.key, ∅, fromFormRequest⟩
      else
        .ok ⟨trimmed text, none, ∅, fromFormRequest⟩
  | .merge attributes =>
      match attributes.entries with
      | [(variableName, values)] => .ok ⟨variableName, none, values, fromFormRequest⟩
      | _ => Document.refuse (owner ++ ".save") .saveShape

/-- Check that the variable to delete is in scope. -/
def checkDelete
    (scope : List String)
    (owner : String) :
    Option String →
    Except ResolveError Unit
  | none => .ok ()
  | some variableName =>
      if variableName ∈ scope then
        .ok ()
      else
        .error (.missing .variableName variableName (owner ++ ".delete"))

/-- The calls of directive lines; blank lines are none. -/
def callsOf
    (lines : Option Document.Lines) :
    List Call :=
  ((lines.map Document.Lines.toList).getD []).filterMap Call.ofLine?

/-- Where an action sends the caller. -/
def redirectOf
    (owner line : String) :
    Except ResolveError Redirect :=
  match piecesOf line with
  | [] => Document.refuse owner .emptyRedirect
  | target :: arguments =>
      if target = "back" then
        .ok .back
      else if target.toList.head? = some '/' then
        .ok (.url target)
      else
        .ok (.route target (arguments.map Argument.ofDirective))

/-- The page that an action shows. -/
def viewOf
    (owner line : String) :
    Except ResolveError View :=
  match piecesOf line with
  | [] => Document.refuse owner .emptyView
  | name :: variableNames => .ok ⟨name, variableNames⟩

/-- Resolve a part that may be absent. -/
def whenPresent
    {α β : Type}
    (step : α → Except ResolveError β) :
    Option α →
    Except ResolveError (Option β)
  | none => .ok none
  | some value => (step value).map some

end Blueprint.Resolution
