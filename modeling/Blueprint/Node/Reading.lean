import Blueprint.Node.Scalar
import Blueprint.Table

namespace Blueprint.Node

/-!
# Reading document trees

What a reader may ask of a tree: a text, a truth value, a number, any value at all, or nothing,
when the place is to be skipped. Every reader goes through the tree in the order of the text and
stops at the first fault. How far it goes is known before there is a tree.
-/

/-- Anything but the shape that was asked for. -/
def mismatch {α : Type} : Except Fault α :=
  .error (.mismatch .shape)

/-- The fault of a reader that finds another kind of value than it asks for. A scalar has to be
well formed before its kind counts; a container is refused at its start. -/
def refusal :
    Node →
    Fault
  | fault cause => cause
  | guarded _ (list ..) => .mismatch .shape
  | guarded _ (map ..) => .mismatch .shape
  | guarded cause _ => cause
  | _ => .mismatch .shape

/-- The fault at the end of a container, if there is one. -/
def ending :
    Option Fault →
    Except Fault Unit
  | none => .ok ()
  | some cause => .error cause

/-- Read a text; a written scalar is taken as it stands. -/
def text :
    Node →
    Except Fault String
  | string text => .ok text
  | written _ _ text => .ok text
  | node => .error node.refusal

/-- Whether a written scalar may be read as more than a text: a plain one, or a literal block with
the tag asked for. -/
def isOpen
    (style : Style)
    (tag : Option String)
    (asked : String) :
    Bool :=
  match style with
  | .plain => true
  | .literal => tag == some asked
  | .quoted => false

/-- Read a truth value. -/
def truth :
    Node →
    Except Fault Bool
  | bool value => .ok value
  | written style tag text =>
      match Scalar.truth? text with
      | some value => if isOpen style tag Scalar.truthTag then .ok value else mismatch
      | none => mismatch
  | node => .error node.refusal

/-- A number of 32 bits without sign. -/
def wordOf
    (value : Int) :
    Except Fault UInt32 :=
  if 0 ≤ value ∧ value < 0x100000000 then .ok (UInt32.ofNat value.toNat) else mismatch

/-- Read a number of 32 bits without sign. -/
def word :
    Node →
    Except Fault UInt32
  | number (.integer value) => wordOf value
  | written style tag text =>
      match Scalar.natural? text.toList with
      | some value => if isOpen style tag Scalar.integerTag then wordOf value else mismatch
      | none => mismatch
  | node => .error node.refusal

/-- Whether a tree stands for an absent value. -/
def isAbsent :
    Node →
    Except Fault Bool
  | null => .ok true
  | written .plain none text => .ok (text.isEmpty || Scalar.isNullWord text)
  | written .plain (some tag) text =>
      if tag = Scalar.nullTag then
        if Scalar.isNullWord text then .ok true else mismatch
      else
        .ok false
  | _ => .ok false

/-- Whether a tree stands for a container without content: a plain scalar without text. -/
def isVoid :
    Node →
    Bool
  | written .plain _ text => text.isEmpty
  | _ => false

mutual

/-- Pass over a tree; only faults of the text itself count. -/
def skip :
    Node →
    Except Fault Unit
  | fault cause => .error cause
  | guarded _ skipped => skipped.skip
  | list items tail _ => do
      skipItems items
      ending tail
  | map entries tail _ => do
      skipEntries entries
      ending tail
  | _ => .ok ()

/-- Pass over the items of a list. -/
def skipItems :
    List Node →
    Except Fault Unit
  | [] => .ok ()
  | item :: rest => do
      item.skip
      skipItems rest

/-- Pass over the entries of a map. -/
def skipEntries :
    List (Node × Node) →
    Except Fault Unit
  | [] => .ok ()
  | (key, value) :: rest => do
      key.skip
      value.skip
      skipEntries rest

end

mutual

/-- Settle what every scalar of a tree denotes, so that shapes can be tried on it in turn. -/
def settle :
    Node →
    Except Fault Node
  | fault cause => .error cause
  | guarded cause _ => .error cause
  | null => .ok null
  | bool value => .ok (bool value)
  | number value => .ok (number value)
  | string text => .ok (string text)
  | written style tag text => Scalar.settled style tag text
  | list _ _ .labelled => mismatch
  | map _ _ .labelled => mismatch
  | list items tail _ => do
      let settled ← settleItems items
      ending tail
      pure (list settled none .settled)
  | map entries tail _ => do
      let settled ← settleEntries entries
      ending tail
      pure (map settled none .settled)

/-- Settle the items of a list. -/
def settleItems :
    List Node →
    Except Fault (List Node)
  | [] => .ok []
  | item :: rest => do
      let first ← item.settle
      let others ← settleItems rest
      pure (first :: others)

/-- Settle the entries of a map. -/
def settleEntries :
    List (Node × Node) →
    Except Fault (List (Node × Node))
  | [] => .ok []
  | (key, value) :: rest => do
      let settledKey ← key.settle
      let settledValue ← value.settle
      let others ← settleEntries rest
      pure ((settledKey, settledValue) :: others)

end

/-- The value of a settled scalar. An infinity or a number that is none has no JSON form. -/
def scalarValue :
    Node →
    Json.Value
  | bool value => .bool value
  | number (.integer value) => .number (.integer value)
  | number (.real bits) => if Decimal.isFinite bits then .number (.real bits) else .null
  | string text => .string text
  | _ => .null

mutual

/-- Read any value. A name given twice keeps its first place and its last value. -/
def value :
    Node →
    Except Fault Json.Value
  | fault cause => .error cause
  | guarded cause _ => .error cause
  | written style tag text => (Scalar.settled style tag text).map scalarValue
  | list _ _ .labelled => mismatch
  | map _ _ .labelled => mismatch
  | list items tail _ => do
      let values ← valueItems items
      ending tail
      pure (.array values)
  | map entries tail _ => do
      let members ← valueEntries [] entries
      ending tail
      pure (.object members)
  | null => .ok .null
  | bool value => .ok (.bool value)
  | number value => .ok (scalarValue (number value))
  | string text => .ok (.string text)

/-- Read the items of a list. -/
def valueItems :
    List Node →
    Except Fault (List Json.Value)
  | [] => .ok []
  | item :: rest => do
      let first ← item.value
      let others ← valueItems rest
      pure (first :: others)

/-- Read the entries of a map after the members that stand already. -/
def valueEntries
    (members : List (String × Json.Value)) :
    List (Node × Node) →
    Except Fault (List (String × Json.Value))
  | [] => .ok members
  | (key, value) :: rest => do
      let name ← key.text
      let member ← value.value
      valueEntries (Entries.insert name member members) rest

end

mutual

/-- The tree of a value. -/
def ofValue :
    Json.Value →
    Node
  | .null => null
  | .bool value => bool value
  | .number value => number value
  | .string text => string text
  | .array items => list (ofItems items) none .settled
  | .object members => map (ofMembers members) none .settled

/-- The trees of the items of an array. -/
def ofItems :
    List Json.Value →
    List Node
  | [] => []
  | item :: rest => ofValue item :: ofItems rest

/-- The trees of the members of an object. -/
def ofMembers :
    List (String × Json.Value) →
    List (Node × Node)
  | [] => []
  | (name, value) :: rest => (string name, ofValue value) :: ofMembers rest

end

/-- How far a reader goes into a tree: into all of it, into every item and value alike, or into the
values under the names it knows only. -/
inductive Scope where
  | whole
  | each (part : Scope)
  | named (parts : List (String × Scope))

/-- How far a reader goes into the items of a list. -/
def Scope.item :
    Scope →
    Scope
  | each part => part
  | _ => whole

/-- How far a reader goes into the value under a key, unless it passes over it. -/
def Scope.entry?
    (scope : Scope)
    (key : Node) :
    Option Scope :=
  match scope with
  | whole => some whole
  | each part => some part
  | named parts => key.text.toOption.bind fun name => Entries.get? name parts

end Blueprint.Node
