import Blueprint.Json.Reader
import Blueprint.Node.Reading
import Blueprint.Proofs.JsonText

namespace Blueprint

/-!
# Printed values and their trees

The tokens of a value lead the machine from any open containers to the tree of the value, as long
as not too many containers are open. So a printed value is read as its own tree, and nothing
follows it.
-/

namespace Json

/-- A token with which a value starts. -/
def Token.Starts :
    Token →
    Prop
  | .openList | .openMap | .text _ | .scalar _ => True
  | _ => False

/-- A value may stand where an array might have ended. -/
theorem step_firstItem_of_starts
    {token : Token}
    (starts : token.Starts)
    (frames : List Frame) :
    step (.firstItem frames) token = step (.value (.item [] :: frames)) token := by
  cases token with
  | openList | openMap | text _ | scalar _ =>
      rfl
  | closeList | closeMap | comma | colon | stray =>
      exact starts.elim

/-- The tokens of a value start with one that starts a value. -/
theorem exists_starts_of_asTokens
    (value : Value) :
    ∃ token later, value.asTokens = token :: later ∧ token.Starts := by
  cases value with
  | null | bool _ | number _ | string _ | array _ | object _ =>
      exact ⟨_, _, rfl, trivial⟩

theorem exists_starts_of_itemTokens
    (item : Value)
    (rest : List Value) :
    ∃ token later, Value.itemTokens (item :: rest) = token :: later ∧ token.Starts := by
  obtain ⟨token, later, split, starts⟩ := exists_starts_of_asTokens item
  cases rest with
  | nil =>
      exact ⟨token, later, split, starts⟩
  | cons next others =>
      exact ⟨token, later ++ .comma :: Value.itemTokens (next :: others),
        by rw [Value.itemTokens, split, List.cons_append], starts⟩

/-- The tokens of a value put its tree in the place of the next value. -/
def LeadsToTree
    (depth : Nat)
    (value : Value) :
    Prop :=
  ∀ frames : List Frame,
    frames.length + depth ≤ depthLimit →
    value.asTokens.foldl step (.value frames) = complete (Node.ofValue value) frames

/-- The tokens of items lead to the trees of the items. -/
theorem foldl_itemTokens
    {depth : Nat}
    {items : List Value}
    (each : ∀ item ∈ items, LeadsToTree depth item)
    (notEmpty : items ≠ [])
    {frames : List Frame}
    (shallow : frames.length + depth < depthLimit)
    (before : List Node) :
    (Value.itemTokens items).foldl step (.value (.item before :: frames)) =
      .afterItem frames ((Node.ofItems items).reverse ++ before) := by
  induction items generalizing before with
  | nil =>
      exact absurd rfl notEmpty
  | cons item others inductionHypothesis =>
      have first := each item (by simp) (.item before :: frames)
        (by simp only [List.length_cons]; omega)
      cases others with
      | nil =>
          rw [Value.itemTokens, first]
          rfl
      | cons next others =>
          have later := inductionHypothesis (fun other member => each other (by simp [member]))
            (by simp) (Node.ofValue item :: before)
          rw [Value.itemTokens, List.foldl_append, first, List.foldl_cons]
          simpa [Node.ofItems, complete, step] using later

/-- The tokens of members lead to the trees of the members. -/
theorem foldl_memberTokens
    {depth : Nat}
    {members : List (String × Value)}
    (each : ∀ member ∈ members, LeadsToTree depth member.2)
    (notEmpty : members ≠ [])
    {frames : List Frame}
    (shallow : frames.length + depth < depthLimit)
    (before : List (Node × Node)) :
    (Value.memberTokens members).foldl step (.nextKey frames before) =
      .afterEntry frames ((Node.ofMembers members).reverse ++ before) := by
  induction members generalizing before with
  | nil =>
      exact absurd rfl notEmpty
  | cons member others inductionHypothesis =>
      obtain ⟨name, value⟩ := member
      have first := each (name, value) (by simp) (.entry before (.string name) :: frames)
        (by simp only [List.length_cons]; omega)
      cases others with
      | nil =>
          rw [Value.memberTokens, List.foldl_cons, List.foldl_cons]
          exact first
      | cons next others =>
          have later := inductionHypothesis (fun other isOther => each other (by simp [isOther]))
            (by simp) ((.string name, Node.ofValue value) :: before)
          rw [Value.memberTokens, List.foldl_cons, List.foldl_cons, List.foldl_append]
          have opened :
              step (step (.nextKey frames before) (.text (.string name))) .colon =
                .value (.entry before (.string name) :: frames) := rfl
          rw [opened, first, List.foldl_cons]
          simpa [Node.ofMembers, complete, step] using later

/-- A container that is not too deep stands in the tree unguarded. -/
theorem shielded_of_shallow
    {frames : List Frame}
    (shallow : frames.length < depthLimit)
    (container : Node) :
    shielded frames container = container := by
  have isShallow : isShallow frames = true := by
    simp only [isShallow, List.isEmpty_iff, List.drop_eq_nil_iff]
    omega
  rw [shielded, if_pos isShallow]

/-- The tokens of a value lead to its tree. -/
theorem foldl_asTokens
    {allowed : Number → Prop}
    {depth : Nat}
    {value : Value}
    (fits : value.Fits allowed depth) :
    LeadsToTree depth value := by
  induction fits with
  | null | bool | number | string =>
      intro frames _
      rfl
  | @array depth items _ inductionHypothesis =>
      intro frames shallow
      have inside : frames.length + depth < depthLimit := by omega
      have list (reversed : List Node) :
          listOf frames reversed none = .list reversed.reverse none .settled :=
        shielded_of_shallow (by omega) _
      cases items with
      | nil =>
          exact congrArg (complete · frames) (list [])
      | cons item others =>
          obtain ⟨token, later, split, starts⟩ := exists_starts_of_itemTokens item others
          have inner := foldl_itemTokens inductionHypothesis (by simp) inside []
          rw [split, List.foldl_cons, ← step_firstItem_of_starts starts] at inner
          have opened : step (.value frames) .openList = .firstItem frames := rfl
          rw [Value.asTokens, split, List.foldl_cons, opened, List.cons_append, List.foldl_cons,
            List.foldl_append, inner]
          simp [step, list, Node.ofValue]
  | @object depth members _ _ inductionHypothesis =>
      intro frames shallow
      have inside : frames.length + depth < depthLimit := by omega
      have map (reversed : List (Node × Node)) :
          mapOf frames reversed none = .map reversed.reverse none .settled :=
        shielded_of_shallow (by omega) _
      cases members with
      | nil =>
          exact congrArg (complete · frames) (map [])
      | cons member others =>
          have inner := foldl_memberTokens inductionHypothesis (by simp) inside []
          have started :
              (Value.memberTokens (member :: others)).foldl step (.firstKey frames) =
                (Value.memberTokens (member :: others)).foldl step (.nextKey frames []) := by
            cases others <;> rfl
          have opened : step (.value frames) .openMap = .firstKey frames := rfl
          rw [Value.asTokens, List.foldl_cons, opened, List.foldl_append, started, inner]
          simp [step, map, Node.ofValue]

/-- The tokens of a value alone make its tree, with nothing after it. -/
theorem treeOf_asTokens
    {allowed : Number → Prop}
    {value : Value}
    (fits : value.Fits allowed depthLimit) :
    treeOf value.asTokens = ⟨Node.ofValue value, none⟩ := by
  have led := foldl_asTokens fits [] (by simp)
  rw [treeOf, led]
  rfl

/-- A value printed on one line is read as its tree. -/
theorem readTree_line
    {value : Value}
    (fits : value.Fits Number.IsExact depthLimit) :
    readTree value.line = ⟨Node.ofValue value, none⟩ := by
  have ends : EndsNumeral [] := trivial
  have cut : tokens value.compact = value.asTokens := by
    simpa [tokens] using tokens_compact fits ends
  rw [readTree, Value.line, String.toList_ofList, cut, treeOf_asTokens fits]

/-- A value printed over several lines is read as its tree. -/
theorem readTree_page
    {value : Value}
    (fits : value.Fits Number.IsExact depthLimit) :
    readTree value.page = ⟨Node.ofValue value, none⟩ := by
  have ends : EndsNumeral [] := trivial
  have cut : tokens (value.indented 0) = value.asTokens := by
    simpa [tokens] using tokens_indented fits 0 ends
  rw [readTree, Value.page, String.toList_ofList, cut, treeOf_asTokens fits]

end Json

end Blueprint
