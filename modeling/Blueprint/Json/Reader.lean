import Blueprint.Json.Token

namespace Blueprint.Json

/-!
# Reading JSON text

Tokens are put together into a tree by a machine whose state is the token that may come next and
the containers that are still open. Every state can be concluded into a tree with a fault where
the text stops, so reading never fails: the fault waits in the tree for whoever reads it.
-/

/-- An open container with a place for the next value. -/
inductive Frame where
  | item (before : List Node)
  | entry (before : List (Node × Node)) (key : Node)
  deriving Repr

/-- What may come next. Items and entries stand in reverse while their container is open. -/
inductive State where
  | value (frames : List Frame)
  | firstItem (frames : List Frame)
  | afterItem (frames : List Frame) (items : List Node)
  | firstKey (frames : List Frame)
  | nextKey (frames : List Frame) (entries : List (Node × Node))
  | colon (frames : List Frame) (entries : List (Node × Node)) (key : Node)
  | afterEntry (frames : List Frame) (entries : List (Node × Node))
  | finished (root : Node)
  | stopped (tree : Tree)
  deriving Repr

/-- How many containers a reader of the text follows into one another. -/
def depthLimit : Nat := 127

/-- Whether another container may be followed inside the open ones. -/
def isShallow
    (frames : List Frame) :
    Bool :=
  (frames.drop (depthLimit - 1)).isEmpty

/-- A container inside the open ones; too deep a one can only be skipped. -/
def shielded
    (frames : List Frame)
    (container : Node) :
    Node :=
  if isShallow frames then container else .guarded .malformed container

/-- The state after a value has been put in its place. -/
def complete
    (node : Node) :
    List Frame →
    State
  | [] => .finished node
  | .item before :: frames => .afterItem frames (node :: before)
  | .entry before key :: frames => .afterEntry frames ((key, node) :: before)

/-- A list of reversed items. -/
def listOf
    (frames : List Frame)
    (items : List Node)
    (tail : Option Fault) :
    Node :=
  shielded frames (.list items.reverse tail .settled)

/-- A map of reversed entries. -/
def mapOf
    (frames : List Frame)
    (entries : List (Node × Node))
    (tail : Option Fault) :
    Node :=
  shielded frames (.map entries.reverse tail .settled)

/-- The tree in which a value is the last thing of all open containers. -/
def plug
    (node : Node) :
    List Frame →
    Node
  | [] => node
  | .item before :: frames => plug (listOf frames (node :: before) none) frames
  | .entry before key :: frames => plug (mapOf frames ((key, node) :: before) none) frames

/-- The tree of a state in which the text goes wrong. -/
def conclude
    (cause : Fault) :
    State →
    Tree
  | .value frames => ⟨plug (.fault cause) frames, none⟩
  | .firstItem frames => ⟨plug (listOf frames [] (some cause)) frames, none⟩
  | .afterItem frames items => ⟨plug (listOf frames items (some cause)) frames, none⟩
  | .firstKey frames => ⟨plug (mapOf frames [] (some cause)) frames, none⟩
  | .nextKey frames entries => ⟨plug (mapOf frames entries (some cause)) frames, none⟩
  | .colon frames entries key =>
      ⟨plug (mapOf frames ((key, .fault cause) :: entries) none) frames, none⟩
  | .afterEntry frames entries => ⟨plug (mapOf frames entries (some cause)) frames, none⟩
  | .finished root => ⟨root, some cause⟩
  | .stopped tree => tree

/-- The state after a token at which a value may start. -/
def startValue
    (state : State)
    (frames : List Frame) :
    Token →
    State
  | .openList => .firstItem frames
  | .openMap => .firstKey frames
  | .text node => complete node frames
  | .scalar node => complete node frames
  | _ => .stopped (conclude .malformed state)

/-- The state after a token. -/
def step :
    State →
    Token →
    State
  | .value frames, token => startValue (.value frames) frames token
  | .firstItem frames, .closeList => complete (listOf frames [] none) frames
  | .firstItem frames, token => startValue (.firstItem frames) (.item [] :: frames) token
  | .afterItem frames items, .comma => .value (.item items :: frames)
  | .afterItem frames items, .closeList => complete (listOf frames items none) frames
  | .firstKey frames, .closeMap => complete (mapOf frames [] none) frames
  | .firstKey frames, .text key => .colon frames [] key
  | .nextKey frames entries, .text key => .colon frames entries key
  | .colon frames entries key, .colon => .value (.entry entries key :: frames)
  | .afterEntry frames entries, .comma => .nextKey frames entries
  | .afterEntry frames entries, .closeMap => complete (mapOf frames entries none) frames
  | .stopped tree, _ => .stopped tree
  | state, _ => .stopped (conclude .malformed state)

/-- The tree of a run of tokens that ends with the text. -/
def treeOf
    (tokens : List Token) :
    Tree :=
  match tokens.foldl step (.value []) with
  | .finished root => ⟨root, none⟩
  | state => conclude .ended state

/-- The tree of a text. -/
def readTree
    (text : String) :
    Tree :=
  treeOf (tokens text.toList)

end Blueprint.Json
