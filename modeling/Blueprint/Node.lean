import Blueprint.Fault

namespace Blueprint

/-!
# Document trees

A tree is what a text says before anyone has asked for a shape. Faults of the text stand in the
tree at the places where a reader meets them, so that reading a tree in order reports the first
fault of the text, whether of form or of shape.

A written scalar keeps its text: whoever reads it decides what it is. A reader that asks for a
text takes it as it is, a reader that takes any value first settles what the text denotes.
-/

/-- How a scalar was written. -/
inductive Style where
  | plain
  | literal
  | quoted
  deriving Repr, DecidableEq

/-- What is known of a list or a map besides its content. -/
inductive Standing where
  /-- It is a list or a map to every reader. -/
  | settled
  /-- Its reader decides what it is; a list stands for no record then. -/
  | written
  /-- It was written with a tag of its own, which no reader of arbitrary values accepts. -/
  | labelled
  deriving Repr, DecidableEq

/-- A tree of values and faults. -/
inductive Node where
  /-- The text goes wrong here. -/
  | fault (cause : Fault)
  /-- Reading the value fails, skipping it goes on with `skipped`. -/
  | guarded (cause : Fault) (skipped : Node)
  | null
  | bool (value : Bool)
  | number (value : Json.Number)
  | string (text : String)
  /-- A scalar whose reader decides what it is. -/
  | written (style : Style) (tag : Option String) (text : String)
  /-- Items, then the fault in place of the end if there is one. -/
  | list (items : List Node) (tail : Option Fault) (standing : Standing)
  /-- Entries, then the fault in place of the end if there is one. -/
  | map (entries : List (Node × Node)) (tail : Option Fault) (standing : Standing)
  deriving Repr, Inhabited

/-- A tree with the fault that follows it in the text, if there is one. -/
structure Tree where
  root : Node
  trailing : Option Fault
  deriving Repr, Inhabited

end Blueprint
