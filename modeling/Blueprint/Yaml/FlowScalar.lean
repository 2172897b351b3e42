import Blueprint.Text.Digits
import Blueprint.Yaml.Cursor

namespace Blueprint.Yaml

/-!
# Plain and quoted scalars

Scalars on one line or several. Where lines are joined, one line break becomes a space and
further ones stay as line breaks; spaces around line breaks are dropped.
-/

/-- Spaces and line breaks inside a scalar. -/
structure Gap where
  spaces : List Char
  firstBreak : List Char
  laterBreaks : List Char
  broken : Bool
  deriving Repr

namespace Gap

/-- No space and no line break. -/
def none : Gap :=
  ⟨[], [], [], false⟩

/-- The gap after a line break that was escaped. -/
def escaped : Gap :=
  ⟨[], [], [], true⟩

/-- The text that stands for the gap. -/
def text
    (gap : Gap) :
    List Char :=
  if !gap.broken then gap.spaces
  else if gap.firstBreak.head? = some '\n' then
    if gap.laterBreaks.isEmpty then [' '] else gap.laterBreaks
  else gap.firstBreak ++ gap.laterBreaks

/-- The gap with one more line break. -/
def addBreak
    (gap : Gap)
    (lineBreak : List Char) :
    Gap :=
  if gap.broken then
    { gap with laterBreaks := gap.laterBreaks ++ lineBreak }
  else
    { gap with spaces := [], firstBreak := lineBreak, broken := true }

end Gap

/-- Scan spaces and line breaks. A tab that stands for indentation below `indent` is refused. -/
def scanGap
    (indent : Int)
    (gap : Gap)
    (cursor : Cursor) :
    Nat →
    Except Fault (Gap × Cursor)
  | 0 => .ok (gap, cursor)
  | rounds + 1 =>
      match cursor.rest with
      | [] => .ok (gap, cursor)
      | letter :: _ =>
          if isSpacing letter then
            if gap.broken && cursor.column < indent && letter == '\t' then
              malformed
            else if gap.broken then
              scanGap indent gap (cursor.skip 1) rounds
            else
              scanGap indent { gap with spaces := gap.spaces ++ [letter] } (cursor.skip 1) rounds
          else if isBreak letter then
            let (lineBreak, next) := cursor.takeBreak
            scanGap indent (gap.addBreak lineBreak) next rounds
          else
            .ok (gap, cursor)

/-- The marks that enclose or part the items of flow collections. -/
def isFlowMark
    (letter : Char) :
    Bool :=
  letter == ',' || letter == '[' || letter == ']' || letter == '\x7b' || letter == '\x7d'

/-- The characters of a plain scalar up to a space, a line break or what ends it. -/
def plainRun
    (inFlow : Bool) :
    List Char →
    Except Fault (List Char)
  | [] => .ok []
  | letter :: rest =>
      if isSpacing letter || isBreak letter then
        .ok []
      else if inFlow && letter == ':' &&
          goesOn (fun next => isFlowMark next || next == '?') rest then
        malformed
      else if (letter == ':' && atWordEnd rest) || (inFlow && isFlowMark letter) then
        .ok []
      else
        (plainRun inFlow rest).map (letter :: ·)

/-- A scanned scalar: its text, the place after it, and whether a line break was passed since its
last character. -/
structure PlainScalar where
  text : List Char
  cursor : Cursor
  broken : Bool
  deriving Repr

/-- Scan the rest of a plain scalar, whose lines must be indented by `indent` in block context. -/
def scanPlain
    (inFlow : Bool)
    (indent : Int)
    (text : List Char)
    (gap : Gap)
    (cursor : Cursor) :
    Nat →
    Except Fault PlainScalar
  | 0 => .ok ⟨text, cursor, gap.broken⟩
  | rounds + 1 => do
      if cursor.atDocumentMark || cursor.rest.head? == some '#' then
        pure ⟨text, cursor, gap.broken⟩
      else
        let run ← plainRun inFlow cursor.rest
        let longer := if run.isEmpty then text else text ++ gap.text ++ run
        let remaining := if run.isEmpty then gap else Gap.none
        let after := cursor.skip run.length
        if goesOn (fun letter => isSpacing letter || isBreak letter) after.rest then
          let (next, place) ← scanGap indent remaining after after.bound
          if !inFlow && place.column < indent then
            pure ⟨longer, place, next.broken⟩
          else
            scanPlain inFlow indent longer next place rounds
        else
          pure ⟨longer, after, remaining.broken⟩

/-- Scan the rest of a single-quoted run of characters without spaces and line breaks. -/
def singleRun :
    List Char →
    List Char × Nat
  | '\'' :: '\'' :: rest =>
      let (text, count) := singleRun rest
      ('\'' :: text, count + 2)
  | letter :: rest =>
      if letter == '\'' || isSpacing letter || isBreak letter then
        ([], 0)
      else
        let (text, count) := singleRun rest
        (letter :: text, count + 1)
  | [] => ([], 0)

/-- Scan the rest of a single-quoted scalar. -/
def scanSingle
    (text : List Char)
    (cursor : Cursor) :
    Nat →
    Except Fault (List Char × Cursor)
  | 0 => malformed
  | rounds + 1 => do
      if cursor.atDocumentMark || cursor.rest.isEmpty then
        malformed
      else
        let (run, count) := singleRun cursor.rest
        let after := cursor.skip count
        if after.rest.head? = some '\'' then
          pure (text ++ run, after.skip 1)
        else
          let (gap, place) ← scanGap (-1) Gap.none after after.bound
          scanSingle (text ++ run ++ gap.text) place rounds

/-- The character of a one-letter escape. -/
def escapedLetter? :
    Char →
    Option Char
  | '0' => some (Char.ofNat 0)
  | 'a' => some (Char.ofNat 7)
  | 'b' => some (Char.ofNat 8)
  | 't' => some '\t'
  | '\t' => some '\t'
  | 'n' => some '\n'
  | 'v' => some (Char.ofNat 0xB)
  | 'f' => some (Char.ofNat 0xC)
  | 'r' => some '\r'
  | 'e' => some (Char.ofNat 0x1B)
  | ' ' => some ' '
  | '"' => some '"'
  | '/' => some '/'
  | '\\' => some '\\'
  | 'N' => some (Char.ofNat 0x85)
  | '_' => some (Char.ofNat 0xA0)
  | 'L' => some (Char.ofNat 0x2028)
  | 'P' => some (Char.ofNat 0x2029)
  | _ => none

/-- The number of hexadecimal digits that follow the letter of an escape. -/
def escapeLength? :
    Char →
    Option Nat
  | 'x' => some 2
  | 'u' => some 4
  | 'U' => some 8
  | _ => none

/-- The character of a code given in hexadecimal digits; surrogates are none. -/
def charOfHex?
    (digits : List Char) :
    Option Char :=
  match Digits.valueIn? 16 digits with
  | some code =>
      if code < 0x110000 && !(0xD800 ≤ code && code < 0xE000) then some (Char.ofNat code) else none
  | none => none

/-- What stands inside double quotes where plain characters end. -/
inductive DoubleQuotedPart where
  | letter (letter : Char) (length : Nat)
  | escapedBreak
  | gapOrEnd

/-- Whether a character stands for itself inside double quotes. -/
def isDoubleQuotedLetter
    (letter : Char) :
    Bool :=
  !(letter == '"' || letter == '\\' || isSpacing letter || isBreak letter)

/-- Scan an escape inside double quotes, if there is one. -/
def doubleQuotedPart :
    List Char →
    Except Fault DoubleQuotedPart
  | ['\\'] => malformed
  | '\\' :: next :: rest =>
      if isBreak next then
        .ok .escapedBreak
      else
        match escapedLetter? next, escapeLength? next with
        | some letter, _ => .ok (.letter letter 2)
        | none, some length =>
            if length ≤ rest.length then
              match charOfHex? (rest.take length) with
              | some letter => .ok (.letter letter (length + 2))
              | none => malformed
            else
              malformed
        | none, none => malformed
  | _ => .ok .gapOrEnd

/-- Scan the rest of a double-quoted scalar. -/
def scanDouble
    (text : List Char)
    (cursor : Cursor) :
    Nat →
    Except Fault (List Char × Cursor)
  | 0 => malformed
  | rounds + 1 => do
      if cursor.atDocumentMark || cursor.rest.isEmpty then
        malformed
      else
        let (run, next) := cursor.take isDoubleQuotedLetter
        match ← doubleQuotedPart next.rest with
        | .letter letter length =>
            scanDouble (text ++ run ++ [letter]) (next.skip length) rounds
        | .escapedBreak => do
            let after := (next.skip 1).skipBreak
            let (gap, place) ← scanGap (-1) Gap.escaped after after.bound
            scanDouble (text ++ run ++ gap.text) place rounds
        | .gapOrEnd =>
            if next.rest.head? = some '"' then
              pure (text ++ run, next.skip 1)
            else do
              let (gap, place) ← scanGap (-1) Gap.none next next.bound
              scanDouble (text ++ run ++ gap.text) place rounds

end Blueprint.Yaml
