import Blueprint.Yaml.BlockScalar
import Blueprint.Yaml.FlowScalar
import Blueprint.Yaml.Token

namespace Blueprint.Yaml

/-!
# From text to tokens

Blocks have no closing marks: their indentation opens and closes them, and whether a word is a key
shows only at the colon after it. So a place where a key may have started is kept as a candidate,
and when the colon comes, tokens are put in before those that were scanned since.

A text that goes wrong yields the tokens that stand for certain before that place, and no token
for its end.
-/

/-- A place where a key starts if a colon follows in time. -/
structure Candidate where
  isRequired : Bool
  place : Nat
  index : Nat
  line : Nat
  column : Nat
  deriving Repr

/-- Whether a colon at a cursor would come too late: on another line or too far away. -/
def Candidate.isStale
    (candidate : Candidate)
    (cursor : Cursor) :
    Bool :=
  candidate.line < cursor.line || candidate.index + 1024 < cursor.index

/-- What starts at a place of the text. -/
inductive Start where
  | textEnd
  | directive
  | documentMark (token : Token)
  | flowOpening (token : Token)
  | flowClosing (token : Token)
  | flowEntry
  | blockEntry
  | key
  | value
  | reference
  | anchor
  | tag
  | blockScalar (isLiteral : Bool)
  | singleQuoted
  | doubleQuoted
  | plain
  deriving Repr, DecidableEq

/-- What starts with a character, given the characters after it. -/
def startAt?
    (inFlow : Bool)
    (letter : Char)
    (rest : List Char) :
    Option Start :=
  match letter with
  | '[' => some (.flowOpening .flowSequenceStart)
  | '\x7b' => some (.flowOpening .flowMappingStart)
  | ']' => some (.flowClosing .flowSequenceEnd)
  | '\x7d' => some (.flowClosing .flowMappingEnd)
  | ',' => some .flowEntry
  | '-' => some (if atWordEnd rest then .blockEntry else .plain)
  | '?' => some (if inFlow || atWordEnd rest then .key else .plain)
  | ':' => some (if inFlow || atWordEnd rest then .value else .plain)
  | '*' => some .reference
  | '&' => some .anchor
  | '!' => some .tag
  | '|' => if inFlow then none else some (.blockScalar true)
  | '>' => if inFlow then none else some (.blockScalar false)
  | '\'' => some .singleQuoted
  | '"' => some .doubleQuoted
  | other =>
      if isSpacing other || ['%', '@', Char.ofNat 0x60].contains other then none
      else some .plain

/-- What starts at a cursor; nothing can start with some characters. -/
def startOf?
    (inFlow : Bool)
    (cursor : Cursor) :
    Option Start :=
  match cursor.rest with
  | [] => some .textEnd
  | letter :: rest =>
      if cursor.column == 0 && letter == '%' then
        some .directive
      else if cursor.atDocumentMark then
        some (.documentMark (if letter == '-' then .documentStart else .documentEnd))
      else
        startAt? inFlow letter rest

/-- The state of a scan. The tokens stand last first; indentations and candidates stand for the
innermost block or flow collection and then for those around it. -/
structure Scan where
  cursor : Cursor
  tokens : List Token
  indent : Int
  outerIndents : List Int
  candidate : Option Candidate
  outerCandidates : List (Option Candidate)
  keyAllowed : Bool
  deriving Repr

namespace Scan

/-- The state before a text. -/
def start
    (text : List Char) :
    Scan where
  cursor := Cursor.start text
  tokens := []
  indent := -1
  outerIndents := []
  candidate := none
  outerCandidates := []
  keyAllowed := true

/-- Whether the cursor is inside a flow collection. -/
def inFlow
    (scan : Scan) :
    Bool :=
  !scan.outerCandidates.isEmpty

/-- Add a token at the end, and go on at a place after it. -/
def push
    (scan : Scan)
    (token : Token)
    (after : Cursor) :
    Scan :=
  { scan with tokens := token :: scan.tokens, cursor := after }

/-- Add a token after the first tokens. -/
def insert
    (scan : Scan)
    (place : Nat)
    (token : Token) :
    Scan :=
  let later := scan.tokens.length - place
  { scan with tokens := scan.tokens.take later ++ token :: scan.tokens.drop later }

/-- Say whether a key may start next. -/
def allowKey
    (scan : Scan)
    (isAllowed : Bool) :
    Scan :=
  { scan with keyAllowed := isAllowed }

/-- Give up the candidate, unless a key is required in its place. -/
def dropCandidate
    (scan : Scan) :
    Except Fault Scan :=
  if scan.candidate.any (·.isRequired) then malformed else .ok { scan with candidate := none }

/-- Keep the cursor as a candidate if a key may start there. A key is required where the line has
the indentation of the block. -/
def saveCandidate
    (scan : Scan) :
    Except Fault Scan :=
  if scan.keyAllowed then do
    let dropped ← scan.dropCandidate
    pure { dropped with
      candidate := some
        { isRequired := !scan.inFlow && scan.indent == scan.cursor.column
          place := scan.tokens.length
          index := scan.cursor.index
          line := scan.cursor.line
          column := scan.cursor.column } }
  else
    .ok scan

/-- Give up candidates for which a colon would come too late. -/
def dropStale
    (scan : Scan) :
    Except Fault Scan :=
  let isLate (candidate : Candidate) : Bool := candidate.isStale scan.cursor
  if (scan.candidate :: scan.outerCandidates).any
      fun candidate => candidate.any fun found => isLate found && found.isRequired then
    malformed
  else
    .ok { scan with
      candidate := scan.candidate.filter fun found => !isLate found
      outerCandidates :=
        scan.outerCandidates.map fun candidate => candidate.filter fun found => !isLate found }

/-- How many blocks are indented further than a column, and the indentations that remain. -/
def unwind
    (column : Int)
    (indent : Int) :
    List Int →
    Nat × Int × List Int
  | [] => (0, indent, [])
  | outer :: others =>
      if column < indent then
        let (count, remaining, around) := unwind column outer others
        (count + 1, remaining, around)
      else
        (0, indent, outer :: others)

/-- Close the blocks that are indented further than a column. -/
def closeBlocks
    (scan : Scan)
    (column : Int) :
    Scan :=
  if scan.inFlow then
    scan
  else
    let (count, indent, outerIndents) := unwind column scan.indent scan.outerIndents
    { scan with
      tokens := List.replicate count .blockEnd ++ scan.tokens
      indent := indent
      outerIndents := outerIndents }

/-- Open a block after the first tokens if its column is further in than the block around it. -/
def openBlock
    (scan : Scan)
    (column place : Nat)
    (token : Token) :
    Scan :=
  if !scan.inFlow && scan.indent < column then
    { scan.insert place token with
      indent := column
      outerIndents := scan.indent :: scan.outerIndents }
  else
    scan

/-- Open a block at the cursor, where a key must be allowed unless in a flow collection. -/
def openBlockHere
    (scan : Scan)
    (token : Token) :
    Except Fault Scan :=
  if scan.inFlow then .ok scan
  else if scan.keyAllowed then
    .ok (scan.openBlock scan.cursor.column scan.tokens.length token)
  else malformed

/-- Pass over spaces, comments and line breaks. Tabs count as spaces where they cannot be taken
for indentation; after a line break a key may start. -/
def skipBlanks
    (scan : Scan) :
    Nat →
    Scan
  | 0 => scan
  | rounds + 1 =>
      let afterMark :=
        if scan.cursor.column == 0 && scan.cursor.rest.head? == some byteOrderMark then
          scan.cursor.skip 1
        else
          scan.cursor
      let tabsCount := scan.inFlow || !scan.keyAllowed
      let place :=
        (afterMark.skipWhile fun letter => letter == ' ' || (tabsCount && letter == '\t')).skipComment
      if goesOn isBreak place.rest then
        skipBlanks
          { scan with
            cursor := place.skipBreak
            keyAllowed := scan.keyAllowed || !scan.inFlow }
          rounds
      else
        { scan with cursor := place }

/-- Scan the end of the text, which ends every block. -/
def endText
    (scan : Scan) :
    Except Fault Scan := do
  let place := if scan.cursor.column == 0 then scan.cursor else scan.cursor.nextLine 0
  let closed ← ({ scan with cursor := place }.closeBlocks (-1)).dropCandidate
  pure ((closed.allowKey false).push .streamEnd place)

/-- Scan what stands outside of documents, given its token and the place after it. -/
def markDocument
    (scan : Scan)
    (token : Token)
    (after : Cursor) :
    Except Fault Scan := do
  let closed ← (scan.closeBlocks (-1)).dropCandidate
  pure ((closed.allowKey false).push token after)

/-- Open a flow collection. -/
def openFlow
    (scan : Scan)
    (token : Token) :
    Except Fault Scan := do
  let saved ← scan.saveCandidate
  let opened :=
    { saved with
      candidate := none
      outerCandidates := saved.candidate :: saved.outerCandidates
      keyAllowed := true }
  pure (opened.push token (scan.cursor.skip 1))

/-- Close a flow collection. -/
def closeFlow
    (scan : Scan)
    (token : Token) :
    Except Fault Scan := do
  let dropped ← scan.dropCandidate
  let closed :=
    match dropped.outerCandidates with
    | [] => dropped
    | outer :: others => { dropped with candidate := outer, outerCandidates := others }
  pure ((closed.allowKey false).push token (scan.cursor.skip 1))

/-- Scan a mark before an entry of a block sequence. -/
def enterBlock
    (scan : Scan) :
    Except Fault Scan := do
  let opened ← scan.openBlockHere .blockSequenceStart
  let dropped ← opened.dropCandidate
  pure ((dropped.allowKey true).push .blockEntry (scan.cursor.skip 1))

/-- Scan a mark before a key. -/
def markKey
    (scan : Scan) :
    Except Fault Scan := do
  let opened ← scan.openBlockHere .blockMappingStart
  let dropped ← opened.dropCandidate
  pure ((dropped.allowKey (!scan.inFlow)).push .key (scan.cursor.skip 1))

/-- Scan a colon, which makes the candidate a key if there is one. -/
def markValue
    (scan : Scan) :
    Except Fault Scan :=
  match scan.candidate with
  | some candidate =>
      let marked :=
        ((scan.insert candidate.place .key).openBlock candidate.column candidate.place
          .blockMappingStart).allowKey false
      .ok ({ marked with candidate := none }.push .value (scan.cursor.skip 1))
  | none => do
      let opened ← scan.openBlockHere .blockMappingStart
      pure ((opened.allowKey (!scan.inFlow)).push .value (scan.cursor.skip 1))

/-- Scan something that may be a key, given how its token is scanned. -/
def pushNode
    (scan : Scan)
    (scanned : Except Fault (Token × Cursor)) :
    Except Fault Scan := do
  let saved ← scan.saveCandidate
  let (token, after) ← scanned
  pure ((saved.allowKey false).push token after)

/-- Scan a plain scalar. A key may follow if the scalar was ended by a line break. -/
def pushPlain
    (scan : Scan) :
    Except Fault Scan := do
  let saved ← scan.saveCandidate
  let scalar ←
    scanPlain scan.inFlow (scan.indent + 1) [] Gap.none scan.cursor scan.cursor.bound
  pure ((saved.allowKey scalar.broken).push (.scalar .plain scalar.text) scalar.cursor)

/-- Scan a block scalar after its mark. -/
def pushBlock
    (scan : Scan)
    (isLiteral : Bool) :
    Except Fault Scan := do
  let dropped ← scan.dropCandidate
  let (text, after) ← scanBlock isLiteral scan.indent (scan.cursor.skip 1)
  let style := if isLiteral then Style.literal else Style.quoted
  pure ((dropped.allowKey true).push (.scalar style text) after)

/-- Scan what starts at the cursor. -/
def fetch
    (scan : Scan)
    (start : Start) :
    Except Fault Scan :=
  let next := scan.cursor.skip 1
  match start with
  | .textEnd => scan.endText
  | .directive => do
      let (token, after) ← scanDirective scan.cursor
      scan.markDocument token after
  | .documentMark token => scan.markDocument token (scan.cursor.skip 3)
  | .flowOpening token => scan.openFlow token
  | .flowClosing token => scan.closeFlow token
  | .flowEntry => do
      let dropped ← scan.dropCandidate
      pure ((dropped.allowKey true).push .flowEntry next)
  | .blockEntry => scan.enterBlock
  | .key => scan.markKey
  | .value => scan.markValue
  | .reference => scan.pushNode ((scanAnchor next).map fun found => (.reference found.1, found.2))
  | .anchor => scan.pushNode ((scanAnchor next).map fun found => (.anchor found.1, found.2))
  | .tag => scan.pushNode (scanTag scan.inFlow scan.cursor)
  | .blockScalar isLiteral => scan.pushBlock isLiteral
  | .singleQuoted =>
      scan.pushNode
        ((scanSingle [] next next.bound).map fun found => (.scalar .quoted found.1, found.2))
  | .doubleQuoted =>
      scan.pushNode
        ((scanDouble [] next next.bound).map fun found => (.scalar .quoted found.1, found.2))
  | .plain => scan.pushPlain

/-- Scan the next token together with those that have to stand before it. -/
def round
    (scan : Scan) :
    Except Fault Scan := do
  let placed ← (scan.skipBlanks scan.cursor.bound).dropStale
  let ready := placed.closeBlocks placed.cursor.column
  match startOf? ready.inFlow ready.cursor with
  | none => malformed
  | some start => do
      let fetched ← ready.fetch start
      fetched.dropStale

/-- The tokens before which no further token can be put in. -/
def certain
    (scan : Scan) :
    List Token :=
  let places := (scan.candidate :: scan.outerCandidates).filterMap fun candidate =>
    candidate.map (·.place)
  scan.tokens.reverse.take (places.foldl min scan.tokens.length)

/-- Whether the end of the text has been scanned. -/
def isDone
    (scan : Scan) :
    Bool :=
  scan.tokens.head? == some .streamEnd

/-- The tokens of the rest of the text. -/
def finish
    (scan : Scan) :
    Nat →
    List Token
  | 0 => scan.certain
  | rounds + 1 =>
      match scan.round with
      | .error _ => scan.certain
      | .ok next => if next.isDone then next.tokens.reverse else next.finish rounds

end Scan

/-- The text after the mark at its start, if it has one. -/
def dropMark :
    List Char →
    List Char
  | letter :: rest => if letter == byteOrderMark then rest else letter :: rest
  | [] => []

/-- The tokens of a text; a text with a character that is not allowed has none. -/
def tokens
    (text : List Char) :
    List Token :=
  let body := dropMark text
  if body.all isAllowed then
    (Scan.start body).finish (body.length + 1)
  else
    []

end Blueprint.Yaml
