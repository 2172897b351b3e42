import Blueprint.Text.CaseTable

namespace Blueprint.Letter

/-!
# Letter case

Capital and small forms of a character, each a list because some letters have no single one
(`ß` is written `SS`), and the small form of a whole text, in which a capital sigma at the end of
a word becomes the final sigma.
-/

/-- Whether some run of the table holds the character. -/
def onRuns
    (runs : List Run)
    (letter : Char) :
    Bool :=
  runs.any fun run => run.holds letter.toNat

/-- Capital letters, by the `Uppercase` property. -/
def isUpper
    (letter : Char) :
    Bool :=
  if letter.toNat < 0x80 then
    letter.isUpper
  else
    onRuns uppercaseRuns letter

/-- The form of a character that a table of sequences and a table of shifts give, else itself. -/
def formIn
    (sequences : List (Nat × List Nat))
    (shifts : List Shift)
    (letter : Char) :
    List Char :=
  match shifts.findSome? fun shift => shift.apply? letter.toNat with
  | some code => [Char.ofNat code]
  | none =>
      match sequences.lookup letter.toNat with
      | some codes => codes.map Char.ofNat
      | none => [letter]

/-- The capital form of a character. -/
def upper
    (letter : Char) :
    List Char :=
  if letter.toNat < 0x80 then
    [letter.toUpper]
  else
    formIn capitalSequences capitalShifts letter

/-- The small form of a character on its own. -/
def lower
    (letter : Char) :
    List Char :=
  if letter.toNat < 0x80 then
    [letter.toLower]
  else
    formIn smallSequences smallShifts letter

/-- Whether the first character that is not case-ignorable is a cased letter. -/
def meetsCased
    (text : List Char) :
    Bool :=
  match text.dropWhile (onRuns ignorableRuns) with
  | [] => false
  | letter :: _ => onRuns casedRuns letter

/-- The small form of a sigma: final where a cased letter stands before it and none after it. -/
def lowerSigma
    (reversedBefore after : List Char) :
    Char :=
  if meetsCased reversedBefore && !meetsCased after then 'ς' else 'σ'

/-- The small form of the rest of a text, given reversed what stands before it. -/
def lowerFrom
    (reversedBefore : List Char) :
    List Char →
    List Char
  | [] => []
  | letter :: rest =>
      (if letter = 'Σ' then [lowerSigma reversedBefore rest] else lower letter) ++
        lowerFrom (letter :: reversedBefore) rest

/-- The small form of a whole text. -/
def lowerText
    (text : List Char) :
    List Char :=
  lowerFrom [] text

end Blueprint.Letter
