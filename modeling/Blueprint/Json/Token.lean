import Blueprint.Json.Numeral
import Blueprint.Json.Quoted

namespace Blueprint.Json

/-!
# JSON tokens

A text is cut into marks, quoted texts and other scalars. The scalars are trees already, with
their own faults in them; after a fault there are no further tokens, since no reader goes on.
-/

/-- A mark, a quoted text or another scalar; `stray` is a character that starts no token. -/
inductive Token where
  | openList
  | closeList
  | openMap
  | closeMap
  | comma
  | colon
  | text (node : Node)
  | scalar (node : Node)
  | stray
  deriving Repr

/-- The characters that may stand between tokens. -/
def isSpace
    (letter : Char) :
    Bool :=
  letter == ' ' || letter == '\n' || letter == '\t' || letter == '\r'

/-- The token of a mark. -/
def markOf? :
    Char →
    Option Token
  | '[' => some .openList
  | ']' => some .closeList
  | '\x7b' => some .openMap
  | '\x7d' => some .closeMap
  | ',' => some .comma
  | ':' => some .colon
  | _ => none

/-- The three words that are values, each under its first letter. -/
def wordOf? :
    Char →
    Option (List Char × Node)
  | 'n' => some (['u', 'l', 'l'], .null)
  | 't' => some (['r', 'u', 'e'], .bool true)
  | 'f' => some (['a', 'l', 's', 'e'], .bool false)
  | _ => none

/-- What follows an expected run of letters. -/
def expectLetters :
    List Char →
    List Char →
    Except Fault (List Char)
  | [], text => .ok text
  | _ :: _, [] => .error .ended
  | expected :: others, letter :: rest =>
      if expected = letter then expectLetters others rest else .error .malformed

/-- An expected run of letters is taken off the front. -/
theorem length_expectLetters
    {expected text rest : List Char}
    (accepted : expectLetters expected text = .ok rest) :
    rest.length ≤ text.length := by
  fun_induction expectLetters expected text <;> simp_all
  omega

/-- The tokens of a text up to its first fault. -/
def tokens :
    List Char →
    List Token
  | [] => []
  | letter :: rest =>
      if isSpace letter then
        tokens rest
      else if letter = '"' then
        .text (scanText rest).node :: tokens (scanText rest).rest
      else if letter = '-' then
        .scalar (scanUnsigned true rest).1 :: tokens (scanUnsigned true rest).2
      else if digit : letter.isDigit then
        have _shorter := length_rest_scanUnsigned_digit false digit rest
        .scalar (scanUnsigned false (letter :: rest)).1 ::
          tokens (scanUnsigned false (letter :: rest)).2
      else
        match markOf? letter with
        | some mark => mark :: tokens rest
        | none =>
            match wordOf? letter with
            | some (expected, node) =>
                match accepted : expectLetters expected rest with
                | .ok later =>
                    have _shorter := length_expectLetters accepted
                    .scalar node :: tokens later
                | .error cause => [.scalar (.fault cause)]
            | none => [.stray]
termination_by text => text.length
decreasing_by
  all_goals simp only [List.length_cons]
  · omega
  · exact Nat.lt_succ_of_le (length_rest_scanText rest)
  · exact Nat.lt_succ_of_le (length_rest_scanUnsigned true rest)
  · omega
  · omega
  · omega

end Blueprint.Json
