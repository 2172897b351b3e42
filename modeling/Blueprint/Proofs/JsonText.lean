import Mathlib.Tactic.IntervalCases
import Blueprint.Json.Printer
import Blueprint.Json.Token
import Blueprint.Table

namespace Blueprint

/-!
# Printed values and their tokens

Whether a value is printed on one line or over several, its text is cut into the same tokens: the
marks of its containers, its texts and its other scalars, in order. This holds of every value
without floating-point numbers whose integers stay exact; what follows the text must not go on
with its last numeral.
-/

/-! Digits. -/

namespace Digits

/-- The mark of a digit is one. -/
theorem isDigit_mark
    {digit : Nat}
    (small : digit < 10) :
    (mark digit).isDigit = true := by
  interval_cases digit <;> rfl

/-- The mark of a digit stands for that digit. -/
theorem valueOfMark_mark
    {digit : Nat}
    (small : digit < 10) :
    valueOfMark (mark digit) = digit := by
  interval_cases digit <;> rfl

/-- A number below ten is written by one mark. -/
theorem numeral_of_lt
    {number : Nat}
    (small : number < 10) :
    numeral number = [mark number] := by
  rw [numeral, if_pos small]

/-- A number from ten on is written by the numeral of its tenth and one mark more. -/
theorem numeral_of_le
    {number : Nat}
    (large : 10 ≤ number) :
    numeral number = numeral (number / 10) ++ [mark (number % 10)] := by
  rw [numeral, if_neg (by omega)]

/-- Every number is written by something. -/
theorem numeral_ne_nil
    (number : Nat) :
    numeral number ≠ [] := by
  by_cases small : number < 10
  · simp [numeral_of_lt small]
  · simp [numeral_of_le (Nat.le_of_not_lt small)]

/-- A number is written by digits only. -/
theorem isDigit_of_mem_numeral
    {number : Nat}
    {letter : Char}
    (member : letter ∈ numeral number) :
    letter.isDigit = true := by
  induction number using Nat.strongRecOn with
  | ind number inductionHypothesis =>
      by_cases small : number < 10
      · rw [numeral_of_lt small, List.mem_singleton] at member
        exact member ▸ isDigit_mark small
      · rw [numeral_of_le (by omega), List.mem_append, List.mem_singleton] at member
        rcases member with isHigh | isLast
        · exact inductionHypothesis (number / 10) (by omega) isHigh
        · exact isLast ▸ isDigit_mark (by omega)

/-- The numeral of a number has that number for its value. -/
theorem value_numeral
    (number : Nat) :
    value (numeral number) = number := by
  induction number using Nat.strongRecOn with
  | ind number inductionHypothesis =>
      by_cases small : number < 10
      · rw [numeral_of_lt small]
        simp [value, valueFrom, valueOfMark_mark small]
      · have high := inductionHypothesis (number / 10) (by omega)
        have low : valueOfMark (mark (number % 10)) = number % 10 := valueOfMark_mark (by omega)
        rw [numeral_of_le (by omega), value, valueFrom, List.foldl_append]
        simp only [value, valueFrom] at high
        simp only [high, List.foldl_cons, List.foldl_nil, low]
        omega

/-- Only the numeral of zero starts with a zero. -/
theorem numeral_zero_cons
    {number : Nat}
    {rest : List Char}
    (starts : numeral number = '0' :: rest) :
    rest = [] := by
  induction number using Nat.strongRecOn generalizing rest with
  | ind number inductionHypothesis =>
      by_cases small : number < 10
      · rw [numeral_of_lt small] at starts
        exact (List.cons.inj starts).2.symm
      · have high := value_numeral (number / 10)
        rw [numeral_of_le (by omega)] at starts
        cases digits : numeral (number / 10) with
        | nil =>
            rw [digits] at high
            simp only [value, valueFrom, List.foldl_nil] at high
            omega
        | cons first others =>
            rw [digits, List.cons_append, List.cons.injEq] at starts
            obtain ⟨isZero, _⟩ := starts
            subst isZero
            have isLast := inductionHypothesis (number / 10) (by omega) digits
            rw [digits, isLast] at high
            have noValue : value ['0'] = 0 := rfl
            omega

end Digits

namespace Json

/-! Integers. -/

/-- A text that does not go on with a numeral. -/
def EndsNumeral :
    List Char →
    Prop
  | [] => True
  | letter :: _ => letter.isDigit = false ∧ letter ≠ '.' ∧ letter ≠ 'e' ∧ letter ≠ 'E'

/-- A number that is kept exact: an integer of 64 bits, with sign or without. -/
def Number.IsExact :
    Number →
    Prop
  | .integer value => -0x8000000000000000 ≤ value ∧ value < 0x10000000000000000
  | .real _ => False

/-- Where a numeral ends there are no decimals to be read. -/
theorem scanDecimals_of_endsNumeral
    {numeral : Numeral}
    {rest : List Char}
    (ends : EndsNumeral rest) :
    scanDecimals numeral rest = (numeral.node, rest) := by
  cases rest with
  | nil =>
      rfl
  | cons letter later =>
      obtain ⟨_, noPoint, noMark, noOtherMark⟩ := ends
      have noDecimals : scanDecimals numeral (letter :: later) =
          scanExponent numeral (letter :: later) := by
        rw [scanDecimals]
        intro rest starts
        exact noPoint (List.cons.inj starts).1
      have noExponent : ¬(letter = 'e' ∨ letter = 'E') := by
        simp [noMark, noOtherMark]
      rw [noDecimals]
      exact if_neg noExponent

/-- The digits in front of the end of a numeral are those of its number. -/
theorem takeWhile_numeral
    (number : Nat)
    {rest : List Char}
    (ends : EndsNumeral rest) :
    (Digits.numeral number ++ rest).takeWhile Char.isDigit = Digits.numeral number := by
  have noMore : rest.takeWhile Char.isDigit = [] := by
    cases rest with
    | nil =>
        rfl
    | cons letter later =>
        simp [ends.1]
  rw [List.takeWhile_append_of_pos fun _ => Digits.isDigit_of_mem_numeral, noMore,
    List.append_nil]

/-- After the digits of a number the text goes on where its numeral ends. -/
theorem dropWhile_numeral
    (number : Nat)
    {rest : List Char}
    (ends : EndsNumeral rest) :
    (Digits.numeral number ++ rest).dropWhile Char.isDigit = rest := by
  have split :=
    @List.takeWhile_append_dropWhile _ Char.isDigit (Digits.numeral number ++ rest)
  rw [takeWhile_numeral number ends] at split
  exact List.append_cancel_left split

/-- A number without decimals is read in full, though never past its end. -/
theorem scanUnsigned_numeral
    (negative : Bool)
    (number : Nat)
    {rest : List Char}
    (ends : EndsNumeral rest) :
    scanUnsigned negative (Digits.numeral number ++ rest) =
      ((⟨negative, Digits.numeral number, none, none⟩ : Numeral).node, rest) := by
  rw [scanUnsigned, takeWhile_numeral number ends, dropWhile_numeral number ends]
  split
  · next isEmpty =>
    exact absurd isEmpty (Digits.numeral_ne_nil number)
  · next isPadded =>
    exact absurd (Digits.numeral_zero_cons isPadded) (by simp)
  · exact scanDecimals_of_endsNumeral ends

/-- The node of a whole numeral that stays exact. -/
theorem node_of_integer
    {negative : Bool}
    {number : Nat}
    {value : Int}
    (kept : integer? negative (Digits.numeral number) = some value) :
    (⟨negative, Digits.numeral number, none, none⟩ : Numeral).node = .number (.integer value) := by
  simp [Numeral.node, Numeral.number?, kept]

/-! Quoted text. -/

/-- The unit that is scanned of a character as it was written inside quotes. -/
def unitOf
    (letter : Char) :
    TextUnit :=
  if letter.toNat < 0x20 ∧ letter ∉ ['\n', '\r', '\t', '\x08', '\x0c'] then
    .code letter.toNat
  else
    .letter letter

/-- A control character is read from the four digits by which it is escaped. -/
theorem codeUnit?_control
    {code : Nat}
    (control : code < 0x20) :
    codeUnit? '0' '0' (hexDigit (code / 16)) (hexDigit (code % 16)) = some code := by
  interval_cases code <;> rfl

/-- An escaped character is read as one unit, whatever stands after it. -/
theorem scanText_escape
    (letter : Char)
    (rest : List Char) :
    scanText (escape letter ++ rest) = (scanText rest).push (unitOf letter) := by
  unfold escape
  split
  · rfl
  · rfl
  · rfl
  · rfl
  · rfl
  · rfl
  · rfl
  · next noQuote noSlash _ _ _ _ _ =>
    by_cases control : letter.toNat < 0x20
    · simp only [control, ↓reduceIte, List.cons_append, List.nil_append]
      rw [scanText, codeUnit?_control control]
      simp_all [unitOf]
    · simp only [control, ↓reduceIte, List.cons_append, List.nil_append]
      have plain : unitOf letter = .letter letter := by
        simp [unitOf, control]
      rw [plain, scanText]
      · rw [if_neg control]
      all_goals simp_all

/-- A quoted text is read up to its own closing mark. -/
theorem scanText_quoted
    (text rest : List Char) :
    scanText (text.flatMap escape ++ '"' :: rest) = ⟨text.map unitOf, none, rest⟩ := by
  induction text with
  | nil =>
      rfl
  | cons letter later inductionHypothesis =>
      rw [List.flatMap_cons, List.append_assoc, scanText_escape, inductionHypothesis]
      rfl

/-- The units of written characters are those characters again. -/
theorem charactersOf_units
    (text : List Char) :
    charactersOf none (text.map unitOf) = .ok text := by
  induction text with
  | nil =>
      rfl
  | cons letter rest inductionHypothesis =>
      by_cases control :
          letter.toNat < 0x20 ∧ letter ∉ ['\n', '\r', '\t', '\x08', '\x0c']
      · have small := control.1
        have noFollowing : isFollowing letter.toNat = false := by
          simp only [isFollowing, Bool.and_eq_false_imp, decide_eq_true_eq]
          omega
        have noLeading : isLeading letter.toNat = false := by
          simp only [isLeading, Bool.and_eq_false_imp, decide_eq_true_eq]
          omega
        have unit : unitOf letter = .code letter.toNat := if_pos control
        rw [List.map_cons, unit, charactersOf.eq_def]
        simp [noFollowing, noLeading, inductionHypothesis, Except.map]
      · have unit : unitOf letter = .letter letter := if_neg control
        rw [List.map_cons, unit, charactersOf.eq_def]
        simp [inductionHypothesis, Except.map]

/-! Tokens. -/

/-- A quoted text is one token. -/
theorem tokens_quoted
    (text : String)
    (rest : List Char) :
    tokens (quoted text ++ rest) = .text (.string text) :: tokens rest := by
  have starts :
      quoted text ++ rest = '"' :: (text.toList.flatMap escape ++ '"' :: rest) := by
    simp [quoted]
  have scanned := scanText_quoted text.toList rest
  have node : (scanText (text.toList.flatMap escape ++ '"' :: rest)).node = .string text := by
    rw [scanned, ScannedText.node, charactersOf_units]
    simp
  rw [starts, tokens, if_neg (by decide), if_pos rfl, node, scanned]

/-- A digit starts neither a text nor a negative number, and is not skipped. -/
theorem starts_of_isDigit
    {letter : Char}
    (isDigit : letter.isDigit = true) :
    isSpace letter = false ∧ letter ≠ '"' ∧ letter ≠ '-' := by
  refine ⟨Bool.eq_false_iff.mpr fun isSpace => ?_, ?_, ?_⟩
  · simp only [Json.isSpace, Bool.or_eq_true, beq_iff_eq] at isSpace
    rcases isSpace with ((rfl | rfl) | rfl) | rfl <;> simp at isDigit
  · rintro rfl
    simp at isDigit
  · rintro rfl
    simp at isDigit

/-- An integer in range is one token, as long as its numeral ends there. -/
theorem tokens_integerText
    {value : Int}
    (isExact : (Number.integer value).IsExact)
    {rest : List Char}
    (ends : EndsNumeral rest) :
    tokens (integerText value ++ rest) = .scalar (.number (.integer value)) :: tokens rest := by
  obtain ⟨atLeast, below⟩ := isExact
  by_cases isNegative : value < 0
  · have kept : integer? true (Digits.numeral value.natAbs) = some value := by
      have negated : -(value.natAbs : Int) = value := by omega
      simp only [integer?, ↓reduceIte, Digits.value_numeral, negated, ite_eq_left_iff]
      omega
    rw [integerText, if_pos isNegative, List.cons_append, tokens, if_neg (by decide),
      if_neg (by decide), if_pos rfl, scanUnsigned_numeral true value.natAbs ends,
      node_of_integer kept]
  · have kept : integer? false (Digits.numeral value.natAbs) = some value := by
      have same : (value.natAbs : Int) = value := by omega
      have small : value.natAbs < wordBound := by
        simp only [wordBound]
        omega
      simp [integer?, Digits.value_numeral, small, same]
    rw [integerText, if_neg isNegative]
    have scanned := scanUnsigned_numeral false value.natAbs ends
    rw [node_of_integer kept] at scanned
    cases digits : Digits.numeral value.natAbs with
    | nil =>
        exact absurd digits (Digits.numeral_ne_nil _)
    | cons first others =>
        have member : first ∈ Digits.numeral value.natAbs := by simp [digits]
        have isDigit := Digits.isDigit_of_mem_numeral member
        obtain ⟨noSpace, noQuote, noSign⟩ := starts_of_isDigit isDigit
        rw [digits, List.cons_append] at scanned
        rw [List.cons_append, tokens]
        simp [noSpace, noQuote, noSign, isDigit, scanned]

/-- The letters of an expected word are found at its start. -/
theorem expectLetters_append
    (expected rest : List Char) :
    expectLetters expected (expected ++ rest) = .ok rest := by
  induction expected with
  | nil =>
      rfl
  | cons first others inductionHypothesis =>
      simp [expectLetters, inductionHypothesis]

/-- Each of the three words is one token. -/
theorem tokens_word
    {letter : Char}
    {expected : List Char}
    {node : Node}
    (isWord : wordOf? letter = some (expected, node))
    (rest : List Char) :
    tokens (letter :: (expected ++ rest)) = .scalar node :: tokens rest := by
  have starts :
      isSpace letter = false ∧ letter ≠ '"' ∧ letter ≠ '-' ∧ letter.isDigit = false ∧
        markOf? letter = none := by
    unfold wordOf? at isWord
    split at isWord
    · decide
    · decide
    · decide
    · cases isWord
  obtain ⟨noSpace, noQuote, noSign, noDigit, noMark⟩ := starts
  rw [tokens]
  simp only [noSpace, noQuote, noSign, noDigit, noMark, isWord, Bool.false_eq_true, ↓reduceIte,
    ↓reduceDIte]
  split
  · next later accepted =>
    rw [expectLetters_append] at accepted
    cases accepted
    rfl
  · next cause accepted =>
    rw [expectLetters_append] at accepted
    cases accepted

/-- Each bracket, comma and colon is a token of its own. -/
theorem tokens_mark
    {letter : Char}
    {mark : Token}
    (isMark : markOf? letter = some mark)
    (rest : List Char) :
    tokens (letter :: rest) = mark :: tokens rest := by
  have starts :
      isSpace letter = false ∧ letter ≠ '"' ∧ letter ≠ '-' ∧ letter.isDigit = false := by
    unfold markOf? at isMark
    split at isMark
    · decide
    · decide
    · decide
    · decide
    · decide
    · decide
    · cases isMark
  obtain ⟨noSpace, noQuote, noSign, noDigit⟩ := starts
  rw [tokens]
  simp only [noSpace, noQuote, noSign, noDigit, isMark, Bool.false_eq_true, ↓reduceIte,
    ↓reduceDIte]

/-- Spaces between tokens are skipped. -/
theorem tokens_spaces
    {spaces : List Char}
    (blank : ∀ letter ∈ spaces, isSpace letter = true)
    (rest : List Char) :
    tokens (spaces ++ rest) = tokens rest := by
  induction spaces with
  | nil =>
      rfl
  | cons letter later inductionHypothesis =>
      rw [List.cons_append, tokens, if_pos (blank letter (by simp))]
      exact inductionHypothesis fun other member => blank other (by simp [member])

/-! Values. -/

/-- The values whose numbers are allowed, whose objects have no name twice, and whose arrays and
objects nest no deeper than a depth. -/
inductive Value.Fits
    (allowed : Number → Prop) :
    Nat →
    Value →
    Prop where
  | null (depth : Nat) : Fits allowed depth .null
  | bool (depth : Nat) (value : Bool) : Fits allowed depth (.bool value)
  | number (depth : Nat) {value : Number} : allowed value → Fits allowed depth (.number value)
  | string (depth : Nat) (text : String) : Fits allowed depth (.string text)
  | array {depth : Nat} {items : List Value} :
      (∀ item ∈ items, Fits allowed depth item) →
      Fits allowed (depth + 1) (.array items)
  | object {depth : Nat} {members : List (String × Value)} :
      (Entries.names members).Nodup →
      (∀ member ∈ members, Fits allowed depth member.2) →
      Fits allowed (depth + 1) (.object members)

/-- Somewhere in a value stands a floating-point number. -/
inductive Value.HasReal :
    Value →
    Prop where
  | number (bits : UInt64) : HasReal (.number (.real bits))
  | array {items : List Value} {item : Value} :
      item ∈ items →
      HasReal item →
      HasReal (.array items)
  | object {members : List (String × Value)} {member : String × Value} :
      member ∈ members →
      HasReal member.2 →
      HasReal (.object members)

namespace Value

@[simp] theorem not_hasReal_null : ¬null.HasReal :=
  nofun

@[simp] theorem not_hasReal_bool
    (value : Bool) :
    ¬(bool value).HasReal :=
  nofun

@[simp] theorem not_hasReal_integer
    (value : Int) :
    ¬(number (.integer value)).HasReal :=
  nofun

@[simp] theorem not_hasReal_string
    (text : String) :
    ¬(string text).HasReal :=
  nofun

/-- An array holds a floating-point number if one of its items does. -/
@[simp] theorem hasReal_array_iff
    {items : List Value} :
    (array items).HasReal ↔ ∃ item ∈ items, item.HasReal := by
  constructor
  · rintro ⟨⟩
    exact ⟨_, ‹_›, ‹_›⟩
  · rintro ⟨item, member, hasReal⟩
    exact .array member hasReal

/-- An object holds a floating-point number if one of its members does. -/
@[simp] theorem hasReal_object_iff
    {members : List (String × Value)} :
    (object members).HasReal ↔ ∃ member ∈ members, member.2.HasReal := by
  constructor
  · rintro ⟨⟩
    exact ⟨_, ‹_›, ‹_›⟩
  · rintro ⟨member, isMember, hasReal⟩
    exact .object isMember hasReal

end Value

namespace Value

mutual

/-- The tokens of a value, however it is printed. -/
def asTokens :
    Value →
    List Token
  | null => [.scalar .null]
  | bool value => [.scalar (.bool value)]
  | number value => [.scalar (.number value)]
  | string text => [.text (.string text)]
  | array items => .openList :: (itemTokens items ++ [.closeList])
  | object members => .openMap :: (memberTokens members ++ [.closeMap])

/-- The tokens of the items of an array. -/
def itemTokens :
    List Value →
    List Token
  | [] => []
  | [item] => item.asTokens
  | item :: next :: rest => item.asTokens ++ .comma :: itemTokens (next :: rest)

/-- The tokens of the members of an object. -/
def memberTokens :
    List (String × Value) →
    List Token
  | [] => []
  | [(name, value)] => .text (.string name) :: .colon :: value.asTokens
  | (name, value) :: next :: rest =>
      .text (.string name) :: .colon :: (value.asTokens ++ .comma :: memberTokens (next :: rest))

end

end Value

/-! What is printed with commas between. -/

/-- A numeral ends before every bracket, comma and colon. -/
theorem endsNumeral_mark
    {letter : Char}
    {mark : Token}
    (isMark : markOf? letter = some mark)
    (rest : List Char) :
    EndsNumeral (letter :: rest) := by
  unfold markOf? at isMark
  split at isMark
  all_goals simp_all [EndsNumeral]

/-- Parts that are cut into tokens one by one are cut so with commas between them. -/
theorem tokens_intercalate
    {α : Type}
    {text : α → List Char}
    {cut : α → List Token}
    {items : List α}
    (each :
      ∀ item ∈ items,
        ∀ rest, EndsNumeral rest → tokens (text item ++ rest) = cut item ++ tokens rest)
    {rest : List Char}
    (ends : EndsNumeral rest) :
    tokens (List.intercalate [','] (items.map text) ++ rest) =
      List.intercalate [.comma] (items.map cut) ++ tokens rest := by
  induction items with
  | nil =>
      rfl
  | cons item others inductionHypothesis =>
      have later := inductionHypothesis fun other member => each other (by simp [member])
      cases others with
      | nil =>
          simpa [List.intercalate] using each item (by simp) rest ends
      | cons next others =>
          have first := each item (by simp)
            (',' :: (List.intercalate [','] ((next :: others).map text) ++ rest))
            (endsNumeral_mark rfl _)
          simp only [List.map_cons, List.intercalate_cons_cons, List.append_assoc,
            List.cons_append, List.nil_append] at first later ⊢
          rw [first, tokens_mark rfl, later]

/-- A list that is joined by its recursion, with a mark between two items, is an intercalation. -/
theorem eq_intercalate_map
    {α β : Type}
    {join : List α → List β}
    {part : α → List β}
    {mark : β}
    (ofNil : join [] = [])
    (ofOne : ∀ item, join [item] = part item)
    (ofMore :
      ∀ item next rest, join (item :: next :: rest) = part item ++ mark :: join (next :: rest))
    (items : List α) :
    join items = List.intercalate [mark] (items.map part) := by
  induction items with
  | nil =>
      exact ofNil
  | cons item others inductionHypothesis =>
      cases others with
      | nil =>
          simp [ofOne, List.intercalate]
      | cons next others =>
          simp [ofMore, List.intercalate_cons_cons, inductionHypothesis]

namespace Value

/-- The items of an array are printed with commas between them. -/
theorem compactItems_eq
    (items : List Value) :
    compactItems items = List.intercalate [','] (items.map compact) :=
  eq_intercalate_map rfl (fun _ => rfl) (fun _ _ _ => rfl) items

/-- The members of an object are printed with commas between them. -/
theorem compactMembers_eq
    (members : List (String × Value)) :
    compactMembers members =
      List.intercalate [',']
        (members.map fun member => quoted member.1 ++ ':' :: member.2.compact) := by
  apply eq_intercalate_map rfl
  · intro member
    rfl
  · intro member next rest
    simp [compactMembers]

/-- On a page every item stands on a line of its own. -/
theorem indentedItems_eq
    (indentation : Nat)
    (items : List Value) :
    indentedItems indentation items =
      List.intercalate [',']
        (items.map fun item => lineAt indentation ++ item.indented indentation) :=
  eq_intercalate_map rfl (fun _ => rfl) (fun _ _ _ => rfl) items

/-- On a page every member stands on a line of its own. -/
theorem indentedMembers_eq
    (indentation : Nat)
    (members : List (String × Value)) :
    indentedMembers indentation members =
      List.intercalate [',']
        (members.map fun member =>
          lineAt indentation ++
            (quoted member.1 ++ ':' :: ' ' :: member.2.indented indentation)) := by
  apply eq_intercalate_map rfl
  · intro member
    simp [indentedMembers]
  · intro member next rest
    simp [indentedMembers]

/-- The tokens of an array have commas between those of its items. -/
theorem itemTokens_eq
    (items : List Value) :
    itemTokens items = List.intercalate [.comma] (items.map asTokens) :=
  eq_intercalate_map rfl (fun _ => rfl) (fun _ _ _ => rfl) items

/-- The tokens of an object have commas between those of its members. -/
theorem memberTokens_eq
    (members : List (String × Value)) :
    memberTokens members =
      List.intercalate [.comma]
        (members.map fun member => .text (.string member.1) :: .colon :: member.2.asTokens) :=
  eq_intercalate_map rfl (fun _ => rfl) (fun _ _ _ => rfl) members

end Value

/-- A member is cut into its name, a colon and the tokens of its value. -/
theorem tokens_member
    {name : String}
    {value : Value}
    {text rest : List Char}
    (inner : tokens (text ++ rest) = value.asTokens ++ tokens rest) :
    tokens ((quoted name ++ ':' :: text) ++ rest) =
      (.text (.string name) :: .colon :: value.asTokens) ++ tokens rest := by
  rw [List.append_assoc, List.cons_append, tokens_quoted, tokens_mark rfl, inner]
  rfl

/-- The text of a value on one line is cut into the tokens of the value. -/
theorem tokens_compact
    {depth : Nat}
    {value : Value}
    (fits : value.Fits Number.IsExact depth)
    {rest : List Char}
    (ends : EndsNumeral rest) :
    tokens (value.compact ++ rest) = value.asTokens ++ tokens rest := by
  induction fits generalizing rest with
  | null depth =>
      exact tokens_word rfl rest
  | bool depth value =>
      cases value with
      | false =>
          exact tokens_word rfl rest
      | true =>
          exact tokens_word rfl rest
  | @number depth value allowed =>
      cases value with
      | integer value =>
          exact tokens_integerText allowed ends
      | real bits =>
          exact allowed.elim
  | string depth text =>
      exact tokens_quoted text rest
  | @array depth items _ inductionHypothesis =>
      have closes : EndsNumeral (']' :: rest) := endsNumeral_mark rfl rest
      have inner := tokens_intercalate (fun item member _ => inductionHypothesis item member) closes
      simp only [Value.compact, Value.asTokens, Value.compactItems_eq, Value.itemTokens_eq,
        List.cons_append, List.append_assoc, List.nil_append]
      rw [tokens_mark rfl, inner, tokens_mark rfl]
  | @object depth members _ _ inductionHypothesis =>
      have closes : EndsNumeral ('\x7d' :: rest) := endsNumeral_mark rfl rest
      have each (member : String × Value) (isMember : member ∈ members) (rest : List Char)
          (ends : EndsNumeral rest) :
          tokens ((quoted member.1 ++ ':' :: member.2.compact) ++ rest) =
            (.text (.string member.1) :: .colon :: member.2.asTokens) ++ tokens rest :=
        tokens_member (inductionHypothesis member isMember ends)
      have inner := tokens_intercalate each closes
      simp only [Value.compact, Value.asTokens, Value.compactMembers_eq, Value.memberTokens_eq,
        List.cons_append, List.append_assoc, List.nil_append] at inner ⊢
      rw [tokens_mark rfl, inner, tokens_mark rfl]

theorem tokens_space
    (rest : List Char) :
    tokens (' ' :: rest) = tokens rest :=
  tokens_spaces (by simp [isSpace] : ∀ letter ∈ [' '], isSpace letter = true) rest

/-- A new line with its indentation is skipped. -/
theorem tokens_lineAt
    (indentation : Nat)
    (rest : List Char) :
    tokens (Value.lineAt indentation ++ rest) = tokens rest := by
  apply tokens_spaces
  intro letter member
  rcases List.mem_cons.mp member with isBreak | isSpace
  · rw [isBreak]
    rfl
  · rw [List.eq_of_mem_replicate isSpace]
    rfl

/-- A numeral ends before a new line. -/
theorem endsNumeral_lineAt
    (indentation : Nat)
    (rest : List Char) :
    EndsNumeral (Value.lineAt indentation ++ rest) := by
  simp [Value.lineAt, EndsNumeral]

/-- The text of a value over several lines is cut into the tokens of the value. -/
theorem tokens_indented
    {depth : Nat}
    {value : Value}
    (fits : value.Fits Number.IsExact depth)
    (indentation : Nat)
    {rest : List Char}
    (ends : EndsNumeral rest) :
    tokens (value.indented indentation ++ rest) = value.asTokens ++ tokens rest := by
  induction fits generalizing indentation rest with
  | null depth =>
      exact tokens_compact (.null depth) ends
  | bool depth value =>
      exact tokens_compact (.bool depth value) ends
  | number depth allowed =>
      exact tokens_compact (.number depth allowed) ends
  | string depth text =>
      exact tokens_compact (.string depth text) ends
  | @array depth items fits inductionHypothesis =>
      cases items with
      | nil =>
          exact tokens_compact (.array fits) ends
      | cons first others =>
          have each (item : Value) (member : item ∈ first :: others) (rest : List Char)
              (ends : EndsNumeral rest) :
              tokens ((Value.lineAt (indentation + 1) ++ item.indented (indentation + 1)) ++ rest) =
                item.asTokens ++ tokens rest := by
            rw [List.append_assoc, tokens_lineAt]
            exact inductionHypothesis item member (indentation + 1) ends
          have inner :=
            tokens_intercalate each (endsNumeral_lineAt indentation (']' :: rest))
          simp only [Value.indented, Value.asTokens, Value.indentedItems_eq, Value.itemTokens_eq,
            List.cons_append, List.append_assoc, List.nil_append] at inner ⊢
          rw [tokens_mark rfl, inner, tokens_lineAt, tokens_mark rfl]
  | @object depth members distinct fits inductionHypothesis =>
      cases members with
      | nil =>
          exact tokens_compact (.object distinct fits) ends
      | cons first others =>
          have each (member : String × Value) (isMember : member ∈ first :: others)
              (rest : List Char) (ends : EndsNumeral rest) :
              tokens
                  ((Value.lineAt (indentation + 1) ++
                    (quoted member.1 ++ ':' :: ' ' :: member.2.indented (indentation + 1))) ++
                    rest) =
                (.text (.string member.1) :: .colon :: member.2.asTokens) ++ tokens rest := by
            have value := inductionHypothesis member isMember (indentation + 1) ends
            rw [List.append_assoc, tokens_lineAt]
            exact tokens_member ((tokens_space _).trans value)
          have inner :=
            tokens_intercalate each (endsNumeral_lineAt indentation ('\x7d' :: rest))
          simp only [Value.indented, Value.asTokens, Value.indentedMembers_eq,
            Value.memberTokens_eq, List.cons_append, List.append_assoc, List.nil_append] at inner ⊢
          rw [tokens_mark rfl, inner, tokens_lineAt, tokens_mark rfl]

end Json

end Blueprint
