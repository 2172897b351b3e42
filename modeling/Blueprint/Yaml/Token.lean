import Blueprint.Node
import Blueprint.Text.Digits
import Blueprint.Yaml.Cursor

namespace Blueprint.Yaml

/-!
# YAML tokens

The tokens of a YAML text, and the scanning of those that are names: anchors, tags and
directives.
-/

/-- A token. -/
inductive Token where
  | streamEnd
  | version (major minor : Nat)
  | tagDirective (handle expansion : List Char)
  | documentStart
  | documentEnd
  | blockSequenceStart
  | blockMappingStart
  | blockEnd
  | flowSequenceStart
  | flowSequenceEnd
  | flowMappingStart
  | flowMappingEnd
  | blockEntry
  | flowEntry
  | key
  | value
  | reference (name : List Char)
  | anchor (name : List Char)
  | tag (handle suffix : List Char)
  | scalar (style : Style) (text : List Char)
  deriving Repr, DecidableEq

/-- The characters besides blanks that may follow the name of an anchor. -/
def endsAnchor
    (letter : Char) :
    Bool :=
  ['?', ':', ',', ']', '\x7d', '%', '@', Char.ofNat 0x60].contains letter

/-- Scan the name after the mark of an anchor or alias. -/
def scanAnchor
    (cursor : Cursor) :
    Except Fault (List Char × Cursor) :=
  let (name, after) := cursor.take isNameLetter
  if name.isEmpty || !(atWordEnd after.rest || goesOn endsAnchor after.rest) then
    malformed
  else
    .ok (name, after)

/-- Whether a character may stand in a tag; the last three only between angle brackets. -/
def isTagLetter
    (isVerbatim : Bool)
    (letter : Char) :
    Bool :=
  isNameLetter letter ||
    [';', '/', '?', ':', '@', '&', '=', '+', '$', '.', '!', '~', '*', '\'', '(', ')', '%'].contains
      letter ||
    (isVerbatim && [',', '[', ']'].contains letter)

/-- The number of bytes in the character that starts with a byte. -/
def byteWidth?
    (byte : Nat) :
    Option Nat :=
  if byte < 0x80 then some 1
  else if 0xC0 ≤ byte && byte < 0xE0 then some 2
  else if 0xE0 ≤ byte && byte < 0xF0 then some 3
  else if 0xF0 ≤ byte && byte < 0xF8 then some 4
  else none

/-- The code of a character given by the bytes after its first, each in hexadecimal digits. -/
def scanContinuation
    (code : Nat) :
    Nat →
    List Char →
    Except Fault (Nat × List Char)
  | 0, text => .ok (code, text)
  | count + 1, '%' :: high :: low :: rest =>
      match Digits.valueIn? 16 [high, low] with
      | some byte =>
          if 0x80 ≤ byte && byte < 0xC0 then
            scanContinuation (code * 0x40 + (byte - 0x80)) count rest
          else
            malformed
      | none => malformed
  | _ + 1, _ => malformed

/-- Scan one character given by bytes in hexadecimal digits. -/
def scanEscapedByte
    (text : List Char) :
    Except Fault (Char × List Char) :=
  match text with
  | '%' :: high :: low :: rest =>
      match Digits.valueIn? 16 [high, low] with
      | some byte =>
          match byteWidth? byte with
          | some width => do
              let lead := if width = 1 then byte else byte % Nat.pow 2 (7 - width)
              let (code, after) ← scanContinuation lead (width - 1) rest
              pure (Char.ofNat code, after)
          | none => malformed
      | none => malformed
  | _ => malformed

/-- Scan the characters of a tag. -/
def scanTagText
    (isVerbatim : Bool)
    (taken : List Char)
    (cursor : Cursor) :
    Nat →
    Except Fault (List Char × Cursor)
  | 0 => .ok (taken, cursor)
  | rounds + 1 =>
      match cursor.rest with
      | '%' :: _ => do
          let (letter, rest) ← scanEscapedByte cursor.rest
          scanTagText isVerbatim (taken ++ [letter])
            (cursor.skip (cursor.rest.length - rest.length)) rounds
      | letter :: _ =>
          if isTagLetter isVerbatim letter then
            scanTagText isVerbatim (taken ++ [letter]) (cursor.skip 1) rounds
          else
            .ok (taken, cursor)
      | [] => .ok (taken, cursor)

/-- Scan the handle of a tag: a mark, a name, and a second mark if there is one. -/
def scanHandle
    (cursor : Cursor) :
    Except Fault (List Char × Cursor) :=
  if cursor.rest.head? = some '!' then
    let (name, after) := (cursor.skip 1).take isNameLetter
    if after.rest.head? = some '!' then
      .ok ('!' :: (name ++ ['!']), after.skip 1)
    else
      .ok ('!' :: name, after)
  else
    malformed

/-- Whether a handle has a mark at both ends. -/
def isFullHandle
    (handle : List Char) :
    Bool :=
  2 ≤ handle.length && handle.getLast? == some '!'

/-- Scan a tag. -/
def scanTag
    (inFlow : Bool)
    (cursor : Cursor) :
    Except Fault (Token × Cursor) := do
  let (token, after) ←
    match cursor.rest with
    | '!' :: '<' :: _ => do
        let start := cursor.skip 2
        let (text, close) ← scanTagText true [] start start.bound
        if text.isEmpty || close.rest.head? != some '>' then
          malformed
        else
          pure (Token.tag [] text, close.skip 1)
    | _ => do
        let (handle, start) ← scanHandle cursor
        if isFullHandle handle then
          let (text, after) ← scanTagText false [] start start.bound
          if text.isEmpty then malformed else pure (Token.tag handle text, after)
        else
          let (text, after) ← scanTagText false (handle.drop 1) start start.bound
          if text.isEmpty then
            pure (Token.tag [] ['!'], after)
          else
            pure (Token.tag ['!'] text, after)
  if atWordEnd after.rest || (inFlow && goesOn (· == ',') after.rest) then
    pure (token, after)
  else
    malformed

/-- Scan a part of a version number, which has nine digits at most. -/
def scanVersionPart
    (cursor : Cursor) :
    Except Fault (Nat × Cursor) :=
  let (digits, after) := cursor.take Char.isDigit
  if digits.isEmpty || 9 < digits.length then malformed else .ok (Digits.value digits, after)

/-- Scan a version number after the name of its directive. -/
def scanVersion
    (cursor : Cursor) :
    Except Fault (Token × Cursor) := do
  let (major, point) ← scanVersionPart (cursor.skipWhile isSpacing)
  if point.rest.head? = some '.' then
    let (minor, after) ← scanVersionPart (point.skip 1)
    pure (.version major minor, after)
  else
    malformed

/-- Scan a handle and its expansion after the name of their directive. -/
def scanTagDirective
    (cursor : Cursor) :
    Except Fault (Token × Cursor) := do
  let (handle, afterHandle) ← scanHandle (cursor.skipWhile isSpacing)
  if (handle == ['!'] || isFullHandle handle) && goesOn isSpacing afterHandle.rest then
    let start := afterHandle.skipWhile isSpacing
    let (expansion, after) ← scanTagText true [] start start.bound
    if expansion.isEmpty || !atWordEnd after.rest then
      malformed
    else
      pure (.tagDirective handle expansion, after)
  else
    malformed

/-- Scan a directive and the rest of its line. -/
def scanDirective
    (cursor : Cursor) :
    Except Fault (Token × Cursor) := do
  let (name, afterName) := (cursor.skip 1).take isNameLetter
  if !atWordEnd afterName.rest then
    malformed
  else
    let (token, after) ←
      if name = ['Y', 'A', 'M', 'L'] then scanVersion afterName
      else if name = ['T', 'A', 'G'] then scanTagDirective afterName
      else malformed
    let lineEnd := (after.skipWhile isSpacing).skipComment
    if atLineEnd lineEnd.rest then
      pure (token, lineEnd.skipBreak)
    else
      malformed

end Blueprint.Yaml
