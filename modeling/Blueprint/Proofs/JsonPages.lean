import Blueprint.Proofs.JsonText

namespace Blueprint

/-!
# Values and their pages

Two values without floating-point numbers that print the same page are the same value. The first
character of a text tells the kind of the value, and where the text ends can be seen from what
follows: a text in quotes ends at a quote, a numeral before a character that is no digit, and a
container where no comma goes on with it. So a text is followed through both values at once, with
any rest after either.
-/

namespace Json

variable {α : Type}

/-- The text of an item tells it from the others of a family and shows where it ends, unless what
follows goes on with a numeral. -/
def Delimits
    (text : α → List Char)
    (family : α → Prop)
    (item : α) :
    Prop :=
  ∀ other rest otherRest,
    family other →
    EndsNumeral rest →
    EndsNumeral otherRest →
    text item ++ rest = text other ++ otherRest →
    item = other ∧ rest = otherRest

/-! Scalars. -/

/-- A numeral shows where it ends, whatever follows it. -/
theorem delimits_numeral
    (number : Nat) :
    Delimits Digits.numeral (fun _ => True) number := by
  intro other rest otherRest _ ends otherEnds same
  have digits := congrArg (List.takeWhile Char.isDigit) same
  have after := congrArg (List.dropWhile Char.isDigit) same
  rw [takeWhile_numeral number ends, takeWhile_numeral other otherEnds] at digits
  rw [dropWhile_numeral number ends, dropWhile_numeral other otherEnds] at after
  refine ⟨?_, after⟩
  rw [← Digits.value_numeral number, digits, Digits.value_numeral]

/-- Only the text of a negative integer starts with a sign. -/
theorem head?_integerText_eq_sign_iff
    (value : Int)
    (rest : List Char) :
    (integerText value ++ rest).head? = some '-' ↔ value < 0 := by
  by_cases isNegative : value < 0
  · simp [integerText, isNegative]
  · rw [integerText, if_neg isNegative]
    cases digits : Digits.numeral value.natAbs with
    | nil =>
        exact absurd digits (Digits.numeral_ne_nil _)
    | cons first others =>
        have isDigit := Digits.isDigit_of_mem_numeral (digits ▸ List.mem_cons_self)
        simp [isNegative, (starts_of_isDigit isDigit).2.2]

/-- An integer shows its sign, its digits and where it ends. -/
theorem delimits_integerText
    (value : Int) :
    Delimits integerText (fun _ => True) value := by
  intro other rest otherRest _ ends otherEnds same
  have signs : value < 0 ↔ other < 0 := by
    rw [← head?_integerText_eq_sign_iff value rest, same, head?_integerText_eq_sign_iff]
  have digits :
      Digits.numeral value.natAbs ++ rest = Digits.numeral other.natAbs ++ otherRest := by
    by_cases isNegative : value < 0
    · rw [integerText, integerText, if_pos isNegative, if_pos (signs.mp isNegative)] at same
      exact (List.cons.inj same).2
    · rw [integerText, integerText, if_neg isNegative, if_neg (signs.not.mp isNegative)] at same
      exact same
  obtain ⟨sameSize, after⟩ :=
    delimits_numeral value.natAbs other.natAbs rest otherRest trivial ends otherEnds digits
  exact ⟨by omega, after⟩

/-- A quoted text shows where it ends. -/
theorem quoted_append_inj
    {text other : String}
    {rest otherRest : List Char}
    (same : quoted text ++ rest = quoted other ++ otherRest) :
    text = other ∧ rest = otherRest := by
  simp only [quoted, List.cons_append, List.append_assoc, List.nil_append, List.cons.injEq,
    true_and] at same
  -- What is scanned up to the closing quote is the same, so are the units and what follows them.
  have scanned := congrArg scanText same
  rw [scanText_quoted, scanText_quoted, ScannedText.mk.injEq] at scanned
  obtain ⟨sameUnits, -, after⟩ := scanned
  have characters := charactersOf_units text.toList
  rw [sameUnits, charactersOf_units, Except.ok.injEq] at characters
  exact ⟨String.toList_inj.mp characters.symm, after⟩

/-- The two truth values start with different letters. -/
theorem boolText_append_inj
    {value other : Bool}
    {rest otherRest : List Char}
    (same : boolText value ++ rest = boolText other ++ otherRest) :
    value = other ∧ rest = otherRest := by
  cases value <;> cases other <;> simp_all [boolText]

/-! Containers. -/

/-- What goes on behind a part: a comma and the parts that follow it, or the end if none do. -/
def following
    (last : List Char) :
    List (List Char) →
    List Char
  | [] => last
  | parts => ',' :: (List.intercalate [','] parts ++ last)

/-- Parts with commas between them are the first one and what follows it. -/
theorem intercalate_cons_append
    (part : List Char)
    (parts : List (List Char))
    (last : List Char) :
    List.intercalate [','] (part :: parts) ++ last = part ++ following last parts := by
  cases parts with
  | nil =>
      simp [following]
  | cons next rest =>
      simp [following, List.intercalate_cons_cons]

/-- A numeral ends before whatever follows a part. -/
theorem endsNumeral_following
    {last : List Char}
    (ends : EndsNumeral last)
    (parts : List (List Char)) :
    EndsNumeral (following last parts) := by
  cases parts with
  | nil =>
      exact ends
  | cons part rest =>
      exact endsNumeral_mark rfl _

/-- Parts before a last line are told from others one by one: a comma says that a part follows, a
line break that none does. -/
theorem following_inj
    {text : α → List Char}
    {family : α → Prop}
    {depth : Nat}
    {items others : List α}
    (each : ∀ item ∈ items, Delimits text family item)
    (related : ∀ other ∈ others, family other)
    {rest otherRest : List Char}
    (same :
      following (Value.lineAt depth ++ rest) (items.map text) =
        following (Value.lineAt depth ++ otherRest) (others.map text)) :
    items = others ∧ rest = otherRest := by
  induction items generalizing others with
  | nil =>
      cases others with
      | nil =>
          exact ⟨rfl, List.append_cancel_left same⟩
      | cons other others =>
          simp [following, Value.lineAt] at same
  | cons item items inductionHypothesis =>
      cases others with
      | nil =>
          simp [following, Value.lineAt] at same
      | cons other others =>
          obtain ⟨delimits, laterDelimit⟩ := List.forall_mem_cons.mp each
          obtain ⟨isRelated, laterRelated⟩ := List.forall_mem_cons.mp related
          simp only [List.map_cons, following, List.cons.injEq, true_and,
            intercalate_cons_append] at same
          have closes := endsNumeral_following (endsNumeral_lineAt depth rest) (items.map text)
          have otherCloses :=
            endsNumeral_following (endsNumeral_lineAt depth otherRest) (others.map text)
          obtain ⟨sameItem, after⟩ := delimits other _ _ isRelated closes otherCloses same
          obtain ⟨sameItems, afterAll⟩ := inductionHypothesis laterDelimit laterRelated after
          exact ⟨by rw [sameItem, sameItems], afterAll⟩

/-- Parts on lines of their own, one deeper than the two marks around them; no parts take no
line. -/
def block
    (depth : Nat)
    (opening closing : Char) :
    List (List Char) →
    List Char
  | [] => [opening, closing]
  | parts =>
      opening ::
        (List.intercalate [','] (parts.map (Value.lineAt (depth + 1) ++ ·)) ++
          Value.lineAt depth ++ [closing])

/-- A line shows where its item ends as the item does. -/
theorem Delimits.onLine
    {text : α → List Char}
    {family : α → Prop}
    {item : α}
    (delimits : Delimits text family item)
    (depth : Nat) :
    Delimits (fun item => Value.lineAt depth ++ text item) family item := by
  intro other rest otherRest related ends otherEnds same
  rw [List.append_assoc, List.append_assoc] at same
  exact delimits other rest otherRest related ends otherEnds (List.append_cancel_left same)

/-- A block is told from others by its parts; an empty one closes where others break the line. -/
theorem block_append_inj
    {text : α → List Char}
    {family : α → Prop}
    {depth : Nat}
    {opening closing : Char}
    {items others : List α}
    (noBreak : closing ≠ '\n')
    (each : ∀ item ∈ items, Delimits text family item)
    (related : ∀ other ∈ others, family other)
    {rest otherRest : List Char}
    (same :
      block depth opening closing (items.map text) ++ rest =
        block depth opening closing (others.map text) ++ otherRest) :
    items = others ∧ rest = otherRest := by
  have onLines := fun item member => (each item member).onLine (depth + 1)
  cases items with
  | nil =>
      cases others with
      | nil =>
          exact ⟨rfl, by simpa [block] using same⟩
      | cons other others =>
          simp [block, intercalate_cons_append, Value.lineAt, noBreak] at same
  | cons item items =>
      cases others with
      | nil =>
          simp [block, intercalate_cons_append, Value.lineAt, noBreak.symm] at same
      | cons other others =>
          have sameParts :
              following (Value.lineAt depth ++ (closing :: rest))
                  ((item :: items).map fun item => Value.lineAt (depth + 1) ++ text item) =
                following (Value.lineAt depth ++ (closing :: otherRest))
                  ((other :: others).map fun item => Value.lineAt (depth + 1) ++ text item) := by
            simpa [block, following, Function.comp_def] using same
          obtain ⟨sameItems, after⟩ := following_inj onLines related sameParts
          exact ⟨sameItems, (List.cons.inj after).2⟩

/-- A member of an object as it stands on its line. -/
def memberText
    (depth : Nat)
    (member : String × Value) :
    List Char :=
  quoted member.1 ++ ':' :: ' ' :: member.2.indented depth

theorem indented_array
    (depth : Nat)
    (items : List Value) :
    (Value.array items).indented depth =
      block depth '[' ']' (items.map (Value.indented (depth + 1))) := by
  cases items with
  | nil =>
      rfl
  | cons item rest =>
      simp [Value.indented, Value.indentedItems_eq, block, Function.comp_def]

theorem indented_object
    (depth : Nat)
    (members : List (String × Value)) :
    (Value.object members).indented depth =
      block depth '\x7b' '\x7d' (members.map (memberText (depth + 1))) := by
  cases members with
  | nil =>
      rfl
  | cons member rest =>
      simp [Value.indented, Value.indentedMembers_eq, block, memberText, Function.comp_def]

/-- A member shows where it ends as its value does. -/
theorem delimits_memberText
    {depth : Nat}
    {member : String × Value}
    {family : Value → Prop}
    (delimits : Delimits (Value.indented depth) family member.2) :
    Delimits (memberText depth) (fun other => family other.2) member := by
  intro other rest otherRest related ends otherEnds same
  simp only [memberText, List.append_assoc, List.cons_append] at same
  obtain ⟨sameName, after⟩ := quoted_append_inj same
  simp only [List.cons.injEq, true_and] at after
  obtain ⟨sameValue, afterValue⟩ := delimits other.2 _ _ related ends otherEnds after
  exact ⟨Prod.ext sameName sameValue, afterValue⟩

/-! Values. -/

/-- The kind of the values whose texts start with a character. -/
def kindOfMark :
    Char →
    Kind
  | 'n' => .null
  | 't' => .boolean
  | 'f' => .boolean
  | '"' => .string
  | '[' => .array
  | '\x7b' => .object
  | _ => .number

theorem kindOfMark_of_isDigit
    {letter : Char}
    (isDigit : letter.isDigit = true) :
    kindOfMark letter = .number := by
  unfold kindOfMark
  split <;> simp_all

theorem exists_mark_of_block
    (depth : Nat)
    (opening closing : Char)
    (parts : List (List Char)) :
    ∃ later, block depth opening closing parts = opening :: later := by
  cases parts <;> exact ⟨_, rfl⟩

/-- The first character of the text of a value tells its kind. -/
theorem exists_mark_of_indented
    {value : Value}
    (noReal : ¬value.HasReal)
    (depth : Nat) :
    ∃ mark later, value.indented depth = mark :: later ∧ kindOfMark mark = value.kind := by
  cases value with
  | null | string _ =>
      exact ⟨_, _, rfl, rfl⟩
  | bool value =>
      cases value <;> exact ⟨_, _, rfl, rfl⟩
  | number number =>
      cases number with
      | real bits =>
          exact absurd (.number bits) noReal
      | integer value =>
          by_cases isNegative : value < 0
          · exact ⟨'-', Digits.numeral value.natAbs, if_pos isNegative, rfl⟩
          · have unsigned : (Value.number (.integer value)).indented depth =
                Digits.numeral value.natAbs := if_neg isNegative
            cases digits : Digits.numeral value.natAbs with
            | nil =>
                exact absurd digits (Digits.numeral_ne_nil _)
            | cons first others =>
                have isDigit := Digits.isDigit_of_mem_numeral (digits ▸ List.mem_cons_self)
                exact ⟨first, others, unsigned.trans digits, kindOfMark_of_isDigit isDigit⟩
  | array items =>
      obtain ⟨later, split⟩ := exists_mark_of_block depth '[' ']' (items.map (Value.indented _))
      exact ⟨'[', later, (indented_array depth items).trans split, rfl⟩
  | object members =>
      obtain ⟨later, split⟩ :=
        exists_mark_of_block depth '\x7b' '\x7d' (members.map (memberText _))
      exact ⟨'\x7b', later, (indented_object depth members).trans split, rfl⟩

/-- The first character of a printed value tells its kind. -/
theorem kind_eq_of_indented_append
    {value other : Value}
    (noReal : ¬value.HasReal)
    (noOtherReal : ¬other.HasReal)
    {depth : Nat}
    {rest otherRest : List Char}
    (same : value.indented depth ++ rest = other.indented depth ++ otherRest) :
    value.kind = other.kind := by
  obtain ⟨mark, later, split, kind⟩ := exists_mark_of_indented noReal depth
  obtain ⟨otherMark, otherLater, otherSplit, otherKind⟩ :=
    exists_mark_of_indented noOtherReal depth
  rw [split, otherSplit, List.cons_append, List.cons_append, List.cons.injEq] at same
  rw [← kind, ← otherKind, same.1]

/-- Induction over a value: each item of an array and each value of an object comes before the
container. -/
@[elab_as_elim] theorem Value.nestedInduction
    {motive : Value → Prop}
    (null : motive .null)
    (bool : ∀ value, motive (.bool value))
    (number : ∀ value, motive (.number value))
    (string : ∀ text, motive (.string text))
    (array : ∀ items, (∀ item ∈ items, motive item) → motive (.array items))
    (object : ∀ members, (∀ member ∈ members, motive member.2) → motive (.object members)) :
    (value : Value) →
    motive value
  | .null => null
  | .bool value => bool value
  | .number value => number value
  | .string text => string text
  | .array items =>
      array items fun item _ => nestedInduction null bool number string array object item
  | .object members =>
      object members fun member _ =>
        nestedInduction null bool number string array object member.2
termination_by value => sizeOf value
decreasing_by
  · have := List.sizeOf_lt_of_mem ‹item ∈ items›
    simp only [Value.array.sizeOf_spec]
    omega
  · have := List.sizeOf_lt_of_mem ‹member ∈ members›
    obtain ⟨name, value⟩ := member
    simp only [Prod.mk.sizeOf_spec] at this
    simp only [Value.object.sizeOf_spec]
    omega

/-- Among the values without floating-point numbers, the text of a value over several lines tells
which value it is and where it ends. -/
theorem delimits_indented
    {value : Value}
    (noReal : ¬value.HasReal)
    (depth : Nat) :
    Delimits (Value.indented depth) (fun other => ¬other.HasReal) value := by
  -- Items are one level deeper than their container. In every case the other value is of the same
  -- kind by its first character, so only that kind is followed further.
  induction value using Value.nestedInduction generalizing depth with
  | null =>
      intro other rest otherRest noOtherReal _ _ same
      have kind := kind_eq_of_indented_append noReal noOtherReal same
      cases other with
      | null =>
          exact ⟨rfl, List.append_cancel_left same⟩
      | _ =>
          cases kind
  | bool value =>
      intro other rest otherRest noOtherReal _ _ same
      have kind := kind_eq_of_indented_append noReal noOtherReal same
      cases other with
      | bool other =>
          obtain ⟨sameValue, after⟩ := boolText_append_inj same
          exact ⟨by rw [sameValue], after⟩
      | _ =>
          cases kind
  | number number =>
      intro other rest otherRest noOtherReal ends otherEnds same
      have kind := kind_eq_of_indented_append noReal noOtherReal same
      cases other with
      | number otherNumber =>
          cases number with
          | real bits =>
              exact absurd (.number bits) noReal
          | integer value =>
              cases otherNumber with
              | real bits =>
                  exact absurd (.number bits) noOtherReal
              | integer other =>
                  obtain ⟨sameValue, after⟩ :=
                    delimits_integerText value other rest otherRest trivial ends otherEnds same
                  exact ⟨by rw [sameValue], after⟩
      | _ =>
          cases kind
  | string text =>
      intro other rest otherRest noOtherReal _ _ same
      have kind := kind_eq_of_indented_append noReal noOtherReal same
      cases other with
      | string other =>
          obtain ⟨sameText, after⟩ := quoted_append_inj same
          exact ⟨by rw [sameText], after⟩
      | _ =>
          cases kind
  | array items inductionHypothesis =>
      intro other rest otherRest noOtherReal _ _ same
      have kind := kind_eq_of_indented_append noReal noOtherReal same
      cases other with
      | array others =>
          simp only [Value.hasReal_array_iff, not_exists, not_and] at noReal noOtherReal
          have each (item : Value) (member : item ∈ items) :=
            inductionHypothesis item member (noReal item member) (depth + 1)
          rw [indented_array, indented_array] at same
          obtain ⟨sameItems, after⟩ := block_append_inj (by decide) each noOtherReal same
          exact ⟨by rw [sameItems], after⟩
      | _ =>
          cases kind
  | object members inductionHypothesis =>
      intro other rest otherRest noOtherReal _ _ same
      have kind := kind_eq_of_indented_append noReal noOtherReal same
      cases other with
      | object others =>
          simp only [Value.hasReal_object_iff, not_exists, not_and] at noReal noOtherReal
          have each (member : String × Value) (isMember : member ∈ members) :=
            delimits_memberText
              (inductionHypothesis member isMember (noReal member isMember) (depth + 1))
          rw [indented_object, indented_object] at same
          obtain ⟨sameMembers, after⟩ := block_append_inj (by decide) each noOtherReal same
          exact ⟨by rw [sameMembers], after⟩
      | _ =>
          cases kind

/-- Values without floating-point numbers that print the same page are equal. -/
theorem Value.eq_of_page
    {value other : Value}
    (noReal : ¬value.HasReal)
    (noOtherReal : ¬other.HasReal)
    (same : value.page = other.page) :
    value = other := by
  have sameText : value.indented 0 ++ [] = other.indented 0 ++ [] := by
    simpa [Value.page, String.ofList_inj] using same
  exact (delimits_indented noReal 0 other [] [] noOtherReal trivial trivial sameText).1

end Json

end Blueprint
