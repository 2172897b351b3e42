import Blueprint.Yaml.Token

namespace Blueprint.Yaml

/-!
# YAML events

The events of a text say what its documents hold in the order of the text: scalars, the start and
the end of lists and maps, and aliases. They are found by a machine with a stack: on top stands
what the grammar expects next, below it what is expected after that.

Where a key, a value or an entry is left out, an empty plain scalar stands for it.
-/

/-- What happens next in a document. An alias names its anchor by its `link`. -/
inductive Event (link : Type) where
  | reference (target : link)
  | scalar (anchor : Option String) (style : Style) (tag : Option String) (text : String)
  | openList (anchor tag : Option String)
  | closeList
  | openMap (anchor tag : Option String)
  | closeMap
  deriving Repr

/-- The event of a scalar that is left out. -/
def Event.omitted
    {link : Type} :
    Event link :=
  .scalar none .plain none ""

/-- What the grammar expects. -/
inductive Expected where
  /-- A node at the root of a document. -/
  | root
  /-- A node or the end of a document that was opened by a mark. -/
  | content
  /-- An entry of a block sequence; an `indentless` one stands in a map with its dashes under the
  key and has no end of its own. -/
  | blockItem (indentless : Bool)
  | blockKey
  | blockValue
  | flowItem (isFirst : Bool)
  /-- The key of a pair in a flow sequence. -/
  | pairKey
  | pairValue
  | pairEnd
  | flowKey (isFirst : Bool)
  /-- The value of an entry of a flow map; a `lone` key has none. -/
  | flowValue (lone : Bool)
  deriving Repr, DecidableEq

/-- The expansions of the handles of tags. -/
abbrev Handles : Type :=
  List (List Char × List Char)

/-- The handles that need no directive. -/
def Handles.standard : Handles :=
  [(['!'], ['!']), (['!', '!'], "tag:yaml.org,2002:".toList)]

/-- The tag that a handle and a suffix stand for. -/
def Handles.tag?
    (handles : Handles)
    (handle suffix : List Char) :
    Option String :=
  if handle.isEmpty then
    some (String.ofList suffix)
  else
    (handles.lookup handle).map fun expansion => String.ofList (expansion ++ suffix)

/-- The anchor and the tag of a node, and the tokens after them. -/
structure Properties where
  anchor : Option String
  tag : Option String
  rest : List Token
  deriving Repr

/-- The properties at the start of tokens, in either order. -/
def Properties.ofTokens?
    (handles : Handles) :
    List Token →
    Option Properties
  | .anchor name :: .tag handle suffix :: rest =>
      (handles.tag? handle suffix).map fun tag => ⟨some (String.ofList name), some tag, rest⟩
  | .tag handle suffix :: .anchor name :: rest =>
      (handles.tag? handle suffix).map fun tag => ⟨some (String.ofList name), some tag, rest⟩
  | .anchor name :: rest => some ⟨some (String.ofList name), none, rest⟩
  | .tag handle suffix :: rest =>
      (handles.tag? handle suffix).map fun tag => ⟨none, some tag, rest⟩
  | rest => some ⟨none, none, rest⟩

/-- An event with what is expected after it and the tokens that are left. -/
structure Step where
  event : Event String
  stack : List Expected
  rest : List Token
  deriving Repr

/-- The tag of a scalar; the mark alone says only that the scalar has no other tag. -/
def scalarTag
    (tag : Option String) :
    Option String :=
  tag.filter (· != "!")

/-- Whether a token opens an entry of a block sequence. -/
def isBlockEntry
    (tokens : List Token) :
    Bool :=
  tokens.head? == some .blockEntry

/-- The step at which a node starts. Block collections may be ruled out, and so may sequences
without indentation. -/
def nodeStep?
    (handles : Handles)
    (allowBlock allowIndentless : Bool)
    (stack : List Expected) :
    List Token →
    Option Step
  | .reference name :: rest => some ⟨.reference (String.ofList name), stack, rest⟩
  | tokens => do
      let found ← Properties.ofTokens? handles tokens
      if allowIndentless && isBlockEntry found.rest then
        some ⟨.openList found.anchor found.tag, .blockItem true :: stack, found.rest⟩
      else
        match found.rest with
        | .scalar style text :: rest =>
            some ⟨.scalar found.anchor style (scalarTag found.tag) (String.ofList text), stack, rest⟩
        | .flowSequenceStart :: rest =>
            some ⟨.openList found.anchor found.tag, .flowItem true :: stack, rest⟩
        | .flowMappingStart :: rest =>
            some ⟨.openMap found.anchor found.tag, .flowKey true :: stack, rest⟩
        | token :: rest =>
            if allowBlock && token == .blockSequenceStart then
              some ⟨.openList found.anchor found.tag, .blockItem false :: stack, rest⟩
            else if allowBlock && token == .blockMappingStart then
              some ⟨.openMap found.anchor found.tag, .blockKey :: stack, rest⟩
            else if found.anchor.isSome || found.tag.isSome then
              some ⟨.scalar found.anchor .plain found.tag "", stack, token :: rest⟩
            else
              none
        | [] => none

/-- The step at which a node starts, or an omitted one where one of some tokens follows instead. -/
def nodeUnless?
    (handles : Handles)
    (allowBlock allowIndentless : Bool)
    (ends : List Token)
    (stack : List Expected)
    (tokens : List Token) :
    Option Step :=
  match tokens with
  | [] => none
  | token :: _ =>
      if ends.contains token then some ⟨.omitted, stack, tokens⟩
      else nodeStep? handles allowBlock allowIndentless stack tokens

/-- Whether a token stands outside of documents. -/
def isOutside :
    Token →
    Bool
  | .version .. => true
  | .tagDirective .. => true
  | .documentStart => true
  | .documentEnd => true
  | .streamEnd => true
  | _ => false

/-- The tokens after the comma that parts the items of a flow collection; the first item has
none, and none is needed before the end. -/
def afterComma?
    (isFirst : Bool)
    (closing : Token) :
    List Token →
    Option (List Token)
  | [] => none
  | token :: rest =>
      if isFirst || token == closing then some (token :: rest)
      else if token == .flowEntry then some rest
      else none

/-- The step in a flow sequence. -/
def flowItemStep?
    (handles : Handles)
    (isFirst : Bool)
    (stack : List Expected)
    (tokens : List Token) :
    Option Step := do
  match ← afterComma? isFirst .flowSequenceEnd tokens with
  | .flowSequenceEnd :: rest => some ⟨.closeList, stack, rest⟩
  | .key :: rest => some ⟨.openMap none none, .pairKey :: .flowItem false :: stack, rest⟩
  | rest => nodeStep? handles false false (.flowItem false :: stack) rest

/-- The step in a flow map where a key is expected. -/
def flowKeyStep?
    (handles : Handles)
    (isFirst : Bool)
    (stack : List Expected)
    (tokens : List Token) :
    Option Step := do
  match ← afterComma? isFirst .flowMappingEnd tokens with
  | .flowMappingEnd :: rest => some ⟨.closeMap, stack, rest⟩
  | .key :: rest =>
      nodeUnless? handles false false [.value, .flowEntry, .flowMappingEnd]
        (.flowValue false :: stack) rest
  | rest => nodeStep? handles false false (.flowValue true :: stack) rest

/-- The step at which a value may follow its mark. -/
def valueStep?
    (handles : Handles)
    (inBlock : Bool)
    (ends : List Token)
    (stack : List Expected) :
    List Token →
    Option Step
  | .value :: rest => nodeUnless? handles inBlock inBlock ends stack rest
  | token :: rest => some ⟨.omitted, stack, token :: rest⟩
  | [] => none

/-- The step from the top of the stack, if the tokens go on as expected. -/
def step?
    (handles : Handles)
    (expected : Expected)
    (stack : List Expected)
    (tokens : List Token) :
    Option Step :=
  match expected, tokens with
  | .root, tokens => nodeStep? handles true false stack tokens
  | .content, token :: rest =>
      if isOutside token then some ⟨.omitted, stack, token :: rest⟩
      else nodeStep? handles true false stack (token :: rest)
  | .blockItem false, .blockEntry :: rest =>
      nodeUnless? handles true false [.blockEntry, .blockEnd] (.blockItem false :: stack) rest
  | .blockItem false, .blockEnd :: rest => some ⟨.closeList, stack, rest⟩
  | .blockItem true, .blockEntry :: rest =>
      nodeUnless? handles true false [.blockEntry, .key, .value, .blockEnd]
        (.blockItem true :: stack) rest
  | .blockItem true, token :: rest => some ⟨.closeList, stack, token :: rest⟩
  | .blockKey, .key :: rest =>
      nodeUnless? handles true true [.key, .value, .blockEnd] (.blockValue :: stack) rest
  | .blockKey, .blockEnd :: rest => some ⟨.closeMap, stack, rest⟩
  | .blockValue, tokens =>
      valueStep? handles true [.key, .value, .blockEnd] (.blockKey :: stack) tokens
  | .flowItem isFirst, tokens => flowItemStep? handles isFirst stack tokens
  | .pairKey, token :: rest =>
      if [Token.value, .flowEntry, .flowSequenceEnd].contains token then
        some ⟨.omitted, .pairValue :: stack, rest⟩
      else
        nodeStep? handles false false (.pairValue :: stack) (token :: rest)
  | .pairValue, tokens =>
      valueStep? handles false [.flowEntry, .flowSequenceEnd] (.pairEnd :: stack) tokens
  | .pairEnd, token :: rest => some ⟨.closeMap, stack, token :: rest⟩
  | .flowKey isFirst, tokens => flowKeyStep? handles isFirst stack tokens
  | .flowValue true, token :: rest => some ⟨.omitted, .flowKey false :: stack, token :: rest⟩
  | .flowValue false, tokens =>
      valueStep? handles false [.flowEntry, .flowMappingEnd] (.flowKey false :: stack) tokens
  | _, _ => none

/-- Events, and the tokens after them unless they go wrong there. -/
structure Run where
  events : List (Event String)
  rest : Option (List Token)
  deriving Repr

/-- The events of a document up to its end. -/
def run
    (handles : Handles) :
    Nat →
    List Expected →
    List Token →
    Run
  | 0, _, _ => ⟨[], none⟩
  | _ + 1, [], tokens => ⟨[], some tokens⟩
  | rounds + 1, expected :: stack, tokens =>
      match step? handles expected stack tokens with
      | none => ⟨[], none⟩
      | some step =>
          let later := run handles rounds step.stack step.rest
          ⟨step.event :: later.events, later.rest⟩

/-- The handles that the directives at the start of tokens leave, and the tokens after them. There
is one version at most, of the two that are known, and one expansion at most for a handle. -/
def readDirectives?
    (versionSeen : Bool)
    (handles : Handles) :
    List Token →
    Option (Handles × List Token)
  | .version major minor :: rest =>
      if versionSeen || major != 1 || (minor != 1 && minor != 2) then none
      else readDirectives? true handles rest
  | .tagDirective handle expansion :: rest =>
      if (handles.lookup handle).isSome then none
      else readDirectives? versionSeen (handles ++ [(handle, expansion)]) rest
  | rest => some (handles ++ Handles.standard, rest)

/-- A document that is about to start: the handles of its tags, what is expected and the tokens. -/
structure Opening where
  handles : Handles
  expected : Expected
  rest : List Token
  deriving Repr

/-- A document that starts with a mark, perhaps after directives. -/
def markedOpening?
    (tokens : List Token) :
    Option Opening := do
  let (handles, marked) ← readDirectives? false [] tokens
  match marked with
  | .documentStart :: rest => some ⟨handles, .content, rest⟩
  | _ => none

/-- The first document of a text, unless it goes wrong before; the mark may be left out. -/
def firstOpening?
    (tokens : List Token) :
    Option Opening :=
  match tokens with
  | [] => none
  | token :: _ =>
      if isOutside token && token != .documentEnd then markedOpening? tokens
      else some ⟨Handles.standard, .root, tokens⟩

/-- Whether nothing but marks of ends follows a document. -/
def endsHere :
    List Token →
    Bool
  | .documentEnd :: rest => endsHere rest
  | .streamEnd :: _ => true
  | _ => false

/-- The events of the first document of a text, and whether the text holds no more and no less
than that document. -/
structure Passage where
  events : List (Event String)
  isWhole : Bool
  deriving Repr

/-- The first document of a run of tokens. A text without any has no events and is whole. -/
def passageOf
    (tokens : List Token) :
    Passage :=
  if tokens.head? == some .streamEnd then
    ⟨[], true⟩
  else
    match firstOpening? tokens with
    | none => ⟨[], false⟩
    | some opening =>
        let found := run opening.handles (8 * tokens.length + 8) [opening.expected] opening.rest
        ⟨found.events, found.rest.any endsHere⟩

end Blueprint.Yaml
