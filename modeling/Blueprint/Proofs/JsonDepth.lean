import Blueprint.Proofs.JsonTree
import Blueprint.Proofs.Steps
import Blueprint.Proofs.Table

namespace Blueprint

/-!
# What a text can hold

In the tree of a JSON text every integer stays exact, and no container that can be read is deeper
than the limit: what stands deeper is guarded. The machine keeps this with every token. So the
values that are read of such a tree, or of what it is settled to, fit the depth that is left.
-/

/-- A number as it may stand in a text: an integer only if it stays exact. -/
def Json.Number.IsReadable :
    Json.Number →
    Prop
  | .integer value => (Json.Number.integer value).IsExact
  | .real _ => True

/-- The containers that can be read in a tree nest no deeper than a depth, and its numbers are such
as stand in a text. -/
inductive Node.Within :
    Nat →
    Node →
    Prop where
  | fault (depth : Nat) (cause : Fault) : Within depth (.fault cause)
  | guarded (depth : Nat) (cause : Fault) (skipped : Node) : Within depth (.guarded cause skipped)
  | null (depth : Nat) : Within depth .null
  | bool (depth : Nat) (value : Bool) : Within depth (.bool value)
  | number (depth : Nat) {value : Json.Number} : value.IsReadable → Within depth (.number value)
  | string (depth : Nat) (text : String) : Within depth (.string text)
  | list {depth : Nat} {items : List Node} (tail : Option Fault) (standing : Standing) :
      (∀ item ∈ items, Within depth item) →
      Within (depth + 1) (.list items tail standing)
  | map {depth : Nat} {entries : List (Node × Node)} (tail : Option Fault) (standing : Standing) :
      (∀ entry ∈ entries, Within depth entry.2) →
      Within (depth + 1) (.map entries tail standing)

namespace Json

/-! The trees of scalars. -/

/-- An integer that is kept as one is in range. -/
theorem isExact_of_integer?
    {negative : Bool}
    {whole : List Char}
    {value : Int}
    (kept : integer? negative whole = some value) :
    (Number.integer value).IsExact := by
  cases negative with
  | true =>
      simp only [integer?, ↓reduceIte, Option.ite_none_right_eq_some, Option.some.injEq] at kept
      obtain ⟨⟨positive, bounded⟩, same⟩ := kept
      simp only [Number.IsExact]
      omega
  | false =>
      simp only [integer?, Bool.false_eq_true, ↓reduceIte, Option.ite_none_right_eq_some,
        Option.some.injEq] at kept
      obtain ⟨bounded, same⟩ := kept
      simp only [Number.IsExact, wordBound] at bounded ⊢
      omega

/-- A numeral that denotes a number denotes one that can be read. -/
theorem isReadable_of_number?
    {numeral : Numeral}
    {value : Number}
    (denotes : numeral.number? = some value) :
    value.IsReadable := by
  cases value with
  | real bits =>
      trivial
  | integer value =>
      unfold Numeral.number? at denotes
      dsimp only at denotes
      split at denotes
      · split at denotes
        · next kept =>
          cases denotes
          exact isExact_of_integer? kept
        · simp at denotes
      · simp at denotes

theorem within_numeral
    (numeral : Numeral)
    (depth : Nat) :
    numeral.node.Within depth := by
  unfold Numeral.node
  split
  · next denotes =>
    exact .number depth (isReadable_of_number? denotes)
  · exact .guarded depth _ _

theorem within_brokenOff
    (text : List Char)
    (depth : Nat) :
    (brokenOff text).Within depth := by
  cases text with
  | nil =>
      exact .guarded depth _ _
  | cons letter rest =>
      exact .fault depth _

theorem within_scanExponent
    (numeral : Numeral)
    (text : List Char)
    (depth : Nat) :
    (scanExponent numeral text).1.Within depth := by
  unfold scanExponent
  split
  · split
    · dsimp only
      split
      · exact within_brokenOff _ depth
      · exact within_numeral _ depth
    · exact within_numeral numeral depth
  · exact within_numeral numeral depth

theorem within_scanDecimals
    (numeral : Numeral)
    (text : List Char)
    (depth : Nat) :
    (scanDecimals numeral text).1.Within depth := by
  unfold scanDecimals
  split
  · split
    · exact within_brokenOff _ depth
    · exact within_scanExponent _ _ depth
  · exact within_scanExponent numeral _ depth

theorem within_scanUnsigned
    (negative : Bool)
    (text : List Char)
    (depth : Nat) :
    (scanUnsigned negative text).1.Within depth := by
  unfold scanUnsigned
  split
  · exact within_brokenOff text depth
  · exact .fault depth _
  · exact within_scanDecimals _ _ depth

/-- A text has no depth. -/
theorem within_scannedText
    (scanned : ScannedText)
    (depth : Nat) :
    scanned.node.Within depth := by
  unfold ScannedText.node
  split
  · exact .string depth _
  · split
    · exact .guarded depth _ _
    · split
      · exact .fault depth _
      · exact .guarded depth _ _

/-- The trees in a token stand at any depth. -/
def Token.Within :
    Token →
    Prop
  | .text node | .scalar node => ∀ depth, node.Within depth
  | _ => True

theorem within_of_markOf?
    {letter : Char}
    {mark : Token}
    (isMark : markOf? letter = some mark) :
    mark.Within := by
  unfold markOf? at isMark
  split at isMark <;> cases isMark <;> trivial

theorem within_of_wordOf?
    {letter : Char}
    {expected : List Char}
    {node : Node}
    (isWord : wordOf? letter = some (expected, node)) :
    (Token.scalar node).Within := by
  unfold wordOf? at isWord
  split at isWord <;> cases isWord
  · exact Node.Within.null
  · exact fun depth => .bool depth true
  · exact fun depth => .bool depth false

/-- No token of a text brings depth along. -/
theorem within_of_mem_tokens
    {text : List Char}
    {token : Token}
    (member : token ∈ tokens text) :
    token.Within := by
  fun_induction tokens text with
  | case1 =>
      cases member
  | case2 letter rest isSpace inductionHypothesis =>
      exact inductionHypothesis member
  | case3 rest noSpace inductionHypothesis =>
      rcases List.mem_cons.mp member with rfl | later
      · exact within_scannedText _
      · exact inductionHypothesis later
  | case4 rest noSpace noQuote inductionHypothesis =>
      rcases List.mem_cons.mp member with rfl | later
      · exact within_scanUnsigned true rest
      · exact inductionHypothesis later
  | case5 letter rest noSpace noQuote noSign isDigit shorter inductionHypothesis =>
      rcases List.mem_cons.mp member with rfl | later
      · exact within_scanUnsigned false _
      · exact inductionHypothesis later
  | case6 letter rest noSpace noQuote noSign noDigit mark isMark inductionHypothesis =>
      rcases List.mem_cons.mp member with rfl | later
      · exact within_of_markOf? isMark
      · exact inductionHypothesis later
  | case7 letter rest noSpace noQuote noSign noDigit noMark expected node isWord after accepted
      shorter inductionHypothesis =>
      rcases List.mem_cons.mp member with rfl | later
      · exact within_of_wordOf? isWord
      · exact inductionHypothesis later
  | case8 =>
      cases List.mem_singleton.mp member
      exact fun depth => .fault depth _
  | case9 =>
      cases List.mem_singleton.mp member
      trivial

/-! The machine. -/

/-- The trees that wait in open containers leave room for those that are around them. -/
def FramesWithin :
    List Frame →
    Prop
  | [] => True
  | .item before :: frames =>
      (∀ item ∈ before, item.Within (depthLimit - 1 - frames.length)) ∧ FramesWithin frames
  | .entry before _ :: frames =>
      (∀ entry ∈ before, entry.2.Within (depthLimit - 1 - frames.length)) ∧ FramesWithin frames

/-- All trees in a state leave room for the containers around them. -/
def StateWithin :
    State →
    Prop
  | .value frames | .firstItem frames | .firstKey frames => FramesWithin frames
  | .afterItem frames items =>
      FramesWithin frames ∧ ∀ item ∈ items, item.Within (depthLimit - 1 - frames.length)
  | .nextKey frames entries | .colon frames entries _ | .afterEntry frames entries =>
      FramesWithin frames ∧ ∀ entry ∈ entries, entry.2.Within (depthLimit - 1 - frames.length)
  | .finished root => root.Within depthLimit
  | .stopped tree => tree.root.Within depthLimit

/-- A container that is too deep is guarded, so its depth does not count. -/
theorem within_shielded
    {frames : List Frame}
    {container : Node}
    (within : container.Within (depthLimit - 1 - frames.length + 1)) :
    (shielded frames container).Within (depthLimit - frames.length) := by
  unfold shielded
  split
  · next shallow =>
    simp only [isShallow, List.isEmpty_iff, List.drop_eq_nil_iff] at shallow
    have room : depthLimit - 1 - frames.length + 1 = depthLimit - frames.length := by
      simp only [depthLimit] at shallow ⊢
      omega
    exact room ▸ within
  · exact .guarded _ _ _

theorem within_listOf
    {frames : List Frame}
    {items : List Node}
    (within : ∀ item ∈ items, item.Within (depthLimit - 1 - frames.length))
    (tail : Option Fault) :
    (listOf frames items tail).Within (depthLimit - frames.length) :=
  within_shielded (.list tail .settled fun item member => within item (List.mem_reverse.mp member))

theorem within_mapOf
    {frames : List Frame}
    {entries : List (Node × Node)}
    (within : ∀ entry ∈ entries, entry.2.Within (depthLimit - 1 - frames.length))
    (tail : Option Fault) :
    (mapOf frames entries tail).Within (depthLimit - frames.length) :=
  within_shielded (.map tail .settled fun entry member => within entry (List.mem_reverse.mp member))

/-- One more open container takes one from the room that is left. -/
theorem room_cons
    {frames : List Frame}
    {frame : Frame} :
    depthLimit - (frame :: frames).length = depthLimit - 1 - frames.length := by
  simp only [List.length_cons]
  omega

/-- A node that fits its place completes a state that fits. -/
theorem stateWithin_complete
    {frames : List Frame}
    (framesWithin : FramesWithin frames)
    {node : Node}
    (within : node.Within (depthLimit - frames.length)) :
    StateWithin (complete node frames) := by
  match frames with
  | [] =>
      exact within
  | .item before :: frames =>
      rw [room_cons] at within
      refine ⟨framesWithin.2, fun item member => ?_⟩
      rcases List.mem_cons.mp member with rfl | isBefore
      · exact within
      · exact framesWithin.1 item isBefore
  | .entry before key :: frames =>
      rw [room_cons] at within
      refine ⟨framesWithin.2, fun entry member => ?_⟩
      rcases List.mem_cons.mp member with rfl | isBefore
      · exact within
      · exact framesWithin.1 entry isBefore

/-- Frames around a node that fits make a tree that fits. -/
theorem within_plug
    {frames : List Frame}
    (framesWithin : FramesWithin frames)
    {node : Node}
    (within : node.Within (depthLimit - frames.length)) :
    (plug node frames).Within depthLimit := by
  induction frames generalizing node with
  | nil =>
      exact within
  | cons frame frames inductionHypothesis =>
      rw [room_cons] at within
      cases frame with
      | item before =>
          refine inductionHypothesis framesWithin.2 (within_listOf (fun item member => ?_) none)
          rcases List.mem_cons.mp member with rfl | isBefore
          · exact within
          · exact framesWithin.1 item isBefore
      | entry before key =>
          refine inductionHypothesis framesWithin.2 (within_mapOf (fun entry member => ?_) none)
          rcases List.mem_cons.mp member with rfl | isBefore
          · exact within
          · exact framesWithin.1 entry isBefore

/-- Where a text breaks off, what there is of its tree fits. -/
theorem within_conclude
    {state : State}
    (within : StateWithin state)
    (cause : Fault) :
    (conclude cause state).root.Within depthLimit := by
  cases state with
  | value frames =>
      exact within_plug within (.fault _ cause)
  | firstItem frames =>
      exact within_plug within (within_listOf (by simp) _)
  | afterItem frames items =>
      exact within_plug within.1 (within_listOf within.2 _)
  | firstKey frames =>
      exact within_plug within (within_mapOf (by simp) _)
  | nextKey frames entries =>
      exact within_plug within.1 (within_mapOf within.2 _)
  | colon frames entries key =>
      refine within_plug within.1 (within_mapOf (fun entry member => ?_) none)
      rcases List.mem_cons.mp member with rfl | isBefore
      · exact .fault _ cause
      · exact within.2 entry isBefore
  | afterEntry frames entries =>
      exact within_plug within.1 (within_mapOf within.2 _)
  | finished root =>
      exact within
  | stopped tree =>
      exact within

/-- A value that starts in a state that fits leads to one that fits. -/
theorem stateWithin_startValue
    {state : State}
    (stateWithin : StateWithin state)
    {frames : List Frame}
    (framesWithin : FramesWithin frames)
    {token : Token}
    (within : token.Within) :
    StateWithin (startValue state frames token) := by
  cases token with
  | openList | openMap =>
      exact framesWithin
  | text node | scalar node =>
      exact stateWithin_complete framesWithin (within _)
  | closeList | closeMap | comma | colon | stray =>
      exact within_conclude stateWithin .malformed

/-- Every token keeps the room. -/
theorem stateWithin_step
    {state : State}
    (stateWithin : StateWithin state)
    {token : Token}
    (within : token.Within) :
    StateWithin (step state token) := by
  unfold step
  split
  · exact stateWithin_startValue stateWithin stateWithin within
  · exact stateWithin_complete stateWithin (within_listOf (by simp) none)
  · next frames _ =>
    have opened : FramesWithin (.item [] :: frames) := ⟨by simp, stateWithin⟩
    exact stateWithin_startValue stateWithin opened within
  · exact ⟨stateWithin.2, stateWithin.1⟩
  · exact stateWithin_complete stateWithin.1 (within_listOf stateWithin.2 none)
  · exact stateWithin_complete stateWithin (within_mapOf (by simp) none)
  · exact ⟨stateWithin, by simp⟩
  · exact stateWithin
  · exact ⟨stateWithin.2, stateWithin.1⟩
  · exact stateWithin
  · exact stateWithin_complete stateWithin.1 (within_mapOf stateWithin.2 none)
  · exact stateWithin
  · exact within_conclude stateWithin .malformed

/-- So the machine keeps the room over any list of tokens. -/
theorem stateWithin_foldl
    {tokens : List Token}
    (each : ∀ token ∈ tokens, token.Within)
    {state : State}
    (within : StateWithin state) :
    StateWithin (tokens.foldl step state) := by
  induction tokens generalizing state with
  | nil =>
      exact within
  | cons token later inductionHypothesis =>
      have stepped := stateWithin_step within (each token (by simp))
      exact inductionHypothesis (fun other member => each other (by simp [member])) stepped

/-- The tree of a text holds nothing deeper than the limit that can be read. -/
theorem within_readTree
    (text : String) :
    (readTree text).root.Within depthLimit := by
  have start : StateWithin (.value []) := trivial
  have final : StateWithin ((tokens text.toList).foldl step (.value [])) :=
    stateWithin_foldl (fun _ => within_of_mem_tokens) start
  unfold readTree treeOf
  split
  · next root finished =>
    rw [finished] at final
    exact final
  · exact within_conclude final .ended

end Json

/-! Values and settled trees. -/

namespace Node

/-- Read an entry of a map after the members that stand already. -/
def valueEntry
    (members : List (String × Json.Value))
    (entry : Node × Node) :
    Except Fault (List (String × Json.Value)) := do
  let name ← entry.1.text
  let member ← entry.2.value
  pure (Entries.insert name member members)

/-- Settle an entry of a map. -/
def settleEntry
    (entry : Node × Node) :
    Except Fault (Node × Node) := do
  let key ← entry.1.settle
  let value ← entry.2.settle
  pure (key, value)

theorem valueItems_eq
    (items : List Node) :
    valueItems items = collect value items := by
  induction items with
  | nil =>
      rfl
  | cons item rest inductionHypothesis =>
      rw [collect_cons, ← inductionHypothesis, valueItems]

theorem settleItems_eq
    (items : List Node) :
    settleItems items = collect settle items := by
  induction items with
  | nil =>
      rfl
  | cons item rest inductionHypothesis =>
      rw [collect_cons, ← inductionHypothesis, settleItems]

theorem valueEntries_eq
    (members : List (String × Json.Value))
    (entries : List (Node × Node)) :
    valueEntries members entries = accumulate valueEntry members entries := by
  induction entries generalizing members with
  | nil =>
      rfl
  | cons entry rest inductionHypothesis =>
      simp only [accumulate_cons, ← inductionHypothesis, valueEntries, valueEntry, bind_assoc,
        pure_bind]

theorem settleEntries_eq
    (entries : List (Node × Node)) :
    settleEntries entries = collect settleEntry entries := by
  induction entries with
  | nil =>
      rfl
  | cons entry rest inductionHypothesis =>
      simp only [collect_cons, ← inductionHypothesis, settleEntries, settleEntry, bind_assoc,
        pure_bind]

/-- The members that are read have distinct names, and each is read of some entry. -/
theorem valueEntries_invariant
    {holds : Json.Value → Prop}
    {entries : List (Node × Node)}
    {members : List (String × Json.Value)}
    (each : ∀ entry ∈ entries, ∀ value, entry.2.value = .ok value → holds value)
    (read : valueEntries [] entries = .ok members) :
    (Entries.names members).Nodup ∧ ∀ member ∈ members, holds member.2 := by
  rw [valueEntries_eq] at read
  apply accumulate_invariant
    (fun members => (Entries.names members).Nodup ∧ ∀ member ∈ members, holds member.2) ?_ ?_ read
  · exact ⟨List.nodup_nil, by simp⟩
  intro former entry next isEntry held stepped
  simp only [valueEntry, bind_eq_ok_iff, pure_eq_ok_iff] at stepped
  obtain ⟨name, _, value, isValue, rfl⟩ := stepped
  refine ⟨Entries.nodup_names_insert held.1, fun member isMember => ?_⟩
  rcases Entries.mem_of_mem_insert isMember with rfl | stood
  · exact each entry isEntry value isValue
  · exact held.2 member stood

/-- A value fits the depth of the tree that it is read of. -/
theorem fits_of_value
    {depth : Nat}
    {node : Node}
    (within : node.Within depth)
    {value : Json.Value}
    (read : node.value = .ok value) :
    value.Fits Json.Number.IsReadable depth := by
  induction within generalizing value with
  | fault | guarded =>
      simp [Node.value] at read
  | null depth =>
      simp only [Node.value, Except.ok.injEq] at read
      exact read ▸ .null depth
  | bool depth truth =>
      simp only [Node.value, Except.ok.injEq] at read
      exact read ▸ .bool depth truth
  | @number depth number readable =>
      cases number with
      | integer integer =>
          simp only [Node.value, scalarValue, Except.ok.injEq] at read
          exact read ▸ .number depth readable
      | real bits =>
          simp only [Node.value, scalarValue, Except.ok.injEq] at read
          split at read
          · exact read ▸ .number depth readable
          · exact read ▸ .null depth
  | string depth text =>
      simp only [Node.value, Except.ok.injEq] at read
      exact read ▸ .string depth text
  | @list depth items tail standing _ inductionHypothesis =>
      cases standing with
      | labelled =>
          simp [Node.value, mismatch] at read
      | settled | written =>
          simp only [Node.value, bind_eq_ok_iff, pure_eq_ok_iff] at read
          obtain ⟨values, isItems, _, _, rfl⟩ := read
          refine .array fun value member => ?_
          rw [valueItems_eq] at isItems
          obtain ⟨item, isItem, isValue⟩ := exists_of_mem_collect isItems member
          exact inductionHypothesis item isItem isValue
  | @map depth entries tail standing _ inductionHypothesis =>
      cases standing with
      | labelled =>
          simp [Node.value, mismatch] at read
      | settled | written =>
          simp only [Node.value, bind_eq_ok_iff, pure_eq_ok_iff] at read
          obtain ⟨members, isMembers, _, _, rfl⟩ := read
          obtain ⟨distinct, fits⟩ :=
            valueEntries_invariant (fun entry isEntry value => inductionHypothesis entry isEntry)
              isMembers
          exact .object distinct fits

/-- Settling a tree keeps its depth. -/
theorem within_of_settle
    {depth : Nat}
    {node settled : Node}
    (within : node.Within depth)
    (read : node.settle = .ok settled) :
    settled.Within depth := by
  induction within generalizing settled with
  | fault | guarded =>
      simp [Node.settle] at read
  | null depth =>
      simp only [Node.settle, Except.ok.injEq] at read
      exact read ▸ .null depth
  | bool depth truth =>
      simp only [Node.settle, Except.ok.injEq] at read
      exact read ▸ .bool depth truth
  | number depth readable =>
      simp only [Node.settle, Except.ok.injEq] at read
      exact read ▸ .number depth readable
  | string depth text =>
      simp only [Node.settle, Except.ok.injEq] at read
      exact read ▸ .string depth text
  | @list depth items tail standing _ inductionHypothesis =>
      cases standing with
      | labelled =>
          simp [Node.settle, mismatch] at read
      | settled | written =>
          simp only [Node.settle, bind_eq_ok_iff, pure_eq_ok_iff] at read
          obtain ⟨settledItems, isItems, _, _, rfl⟩ := read
          rw [settleItems_eq] at isItems
          refine .list none .settled fun node member => ?_
          obtain ⟨item, isItem, isSettled⟩ := exists_of_mem_collect isItems member
          exact inductionHypothesis item isItem isSettled
  | @map depth entries tail standing _ inductionHypothesis =>
      cases standing with
      | labelled =>
          simp [Node.settle, mismatch] at read
      | settled | written =>
          simp only [Node.settle, bind_eq_ok_iff, pure_eq_ok_iff] at read
          obtain ⟨settledEntries, isEntries, _, _, rfl⟩ := read
          rw [settleEntries_eq] at isEntries
          refine .map none .settled fun entry member => ?_
          obtain ⟨former, isFormer, isSettled⟩ := exists_of_mem_collect isEntries member
          simp only [settleEntry, bind_eq_ok_iff, pure_eq_ok_iff] at isSettled
          obtain ⟨_, _, value, isValue, rfl⟩ := isSettled
          exact inductionHypothesis former isFormer isValue

end Node

end Blueprint
