import Blueprint.Yaml.Cursor

namespace Blueprint.Yaml

/-!
# Block scalars

A block scalar is a head of indicators and then lines that are indented alike. A literal one
keeps its line breaks, a folded one joins lines that do not start with a space.
-/

/-- What becomes of the line breaks at the end of a block scalar. -/
inductive Chomping where
  | strip
  | clip
  | keep
  deriving Repr, DecidableEq

/-- The chomping that a character asks for. -/
def Chomping.ofMark? :
    Char →
    Option Chomping
  | '+' => some .keep
  | '-' => some .strip
  | _ => none

/-- The indicators at the head of a block scalar. -/
structure BlockHead where
  chomping : Chomping
  indentation : Option Nat
  deriving Repr

/-- Scan an indentation indicator, which must not be zero. -/
def scanIndentation
    (cursor : Cursor) :
    Except Fault (Option Nat × Cursor) :=
  match cursor.rest with
  | letter :: _ =>
      if letter == '0' then malformed
      else if letter.isDigit then .ok (some (letter.toNat - 0x30), cursor.skip 1)
      else .ok (none, cursor)
  | [] => .ok (none, cursor)

/-- Scan a chomping indicator. -/
def scanChomping
    (cursor : Cursor) :
    Option Chomping × Cursor :=
  match cursor.rest.head?.bind Chomping.ofMark? with
  | some chomping => (some chomping, cursor.skip 1)
  | none => (none, cursor)

/-- Scan the indicators after the mark of a block scalar, in either order, and the rest of their
line. -/
def scanBlockHead
    (cursor : Cursor) :
    Except Fault (BlockHead × Cursor) := do
  let (firstChomping, afterFirst) := scanChomping cursor
  let (indentation, afterIndentation) ← scanIndentation afterFirst
  let (chomping, afterIndicators) :=
    match firstChomping, indentation with
    | none, some _ => scanChomping afterIndentation
    | _, _ => (firstChomping, afterIndentation)
  let lineEnd := (afterIndicators.skipWhile isSpacing).skipComment
  if atLineEnd lineEnd.rest then
    pure (⟨chomping.getD .clip, indentation⟩, lineEnd.skipBreak)
  else
    malformed

/-- The line breaks before a line with content, its column, and the widest indentation seen. -/
structure LeadingBreaks where
  breaks : List Char
  widest : Nat
  cursor : Cursor
  deriving Repr

/-- Scan indentation and empty lines. A tab in the place of indentation is refused. -/
def scanBreaks
    (indent : Option Nat)
    (breaks : List Char)
    (widest : Nat)
    (cursor : Cursor) :
    Nat →
    Except Fault LeadingBreaks
  | 0 => .ok ⟨breaks, widest, cursor⟩
  | rounds + 1 =>
      let isBefore (column : Nat) : Bool := indent.all fun indent => column < indent
      let limit := (indent.map fun indent => indent - cursor.column).getD cursor.rest.length
      let spaces := (cursor.rest.take limit).takeWhile (· == ' ')
      let place := cursor.skip spaces.length
      let wider := max widest place.column
      if isBefore place.column && goesOn (· == '\t') place.rest then
        malformed
      else if goesOn isBreak place.rest then
        let (lineBreak, next) := place.takeBreak
        scanBreaks indent (breaks ++ lineBreak) wider next rounds
      else
        .ok ⟨breaks, wider, place⟩

/-- The text of a block scalar so far: its lines, the break after the last, and whether that line
started with a space. -/
structure BlockText where
  text : List Char
  lastBreak : List Char
  laterBreaks : List Char
  startedBlank : Bool
  deriving Repr

/-- The text with the line breaks before one more line. -/
def BlockText.joined
    (block : BlockText)
    (isLiteral startsBlank : Bool) :
    List Char :=
  if !isLiteral && block.lastBreak.head? == some '\n' && !block.startedBlank && !startsBlank then
    block.text ++ (if block.laterBreaks.isEmpty then [' '] else []) ++ block.laterBreaks
  else
    block.text ++ block.lastBreak ++ block.laterBreaks

/-- Scan the lines of a block scalar that are indented by `indent`. -/
def scanBlockLines
    (isLiteral : Bool)
    (indent : Nat)
    (block : BlockText)
    (cursor : Cursor) :
    Nat →
    Except Fault (BlockText × Cursor)
  | 0 => .ok (block, cursor)
  | rounds + 1 =>
      if cursor.column == indent && !cursor.rest.isEmpty then do
        let startsBlank := goesOn isSpacing cursor.rest
        let (line, lineEnd) := cursor.take fun letter => !isBreak letter
        let (lineBreak, next) := lineEnd.takeBreak
        let leading ← scanBreaks (some indent) [] 0 next next.bound
        scanBlockLines isLiteral indent
          ⟨block.joined isLiteral startsBlank ++ line, lineBreak, leading.breaks, startsBlank⟩
          leading.cursor rounds
      else
        .ok (block, cursor)

/-- The text of a block scalar with the line breaks at its end. -/
def BlockText.chomped
    (block : BlockText)
    (chomping : Chomping) :
    List Char :=
  match chomping with
  | .strip => block.text
  | .clip => block.text ++ block.lastBreak
  | .keep => block.text ++ block.lastBreak ++ block.laterBreaks

/-- Scan a block scalar after its mark, inside a block of the given indentation. -/
def scanBlock
    (isLiteral : Bool)
    (outer : Int)
    (cursor : Cursor) :
    Except Fault (List Char × Cursor) := do
  let (head, start) ← scanBlockHead cursor
  let given := head.indentation.map fun width => (max outer 0).toNat + width
  let leading ← scanBreaks given [] 0 start start.bound
  let indent := given.getD (max (max leading.widest (outer + 1).toNat) 1)
  let (block, place) ←
    scanBlockLines isLiteral indent ⟨[], [], leading.breaks, false⟩ leading.cursor
      leading.cursor.bound
  pure (block.chomped head.chomping, place)

end Blueprint.Yaml
