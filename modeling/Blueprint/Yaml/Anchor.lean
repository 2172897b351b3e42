import Blueprint.Table
import Blueprint.Yaml.Event

namespace Blueprint.Yaml

/-!
# Anchors

An alias stands for the node with its anchor. Anchors are numbered by how many names there were
before them, and a number leads to the node that took it last: when a name is used again, its new
number may be taken by the next new name.
-/

/-- The number of every name so far, and the places of the nodes that took the numbers, last first. -/
structure Anchors where
  numbers : Table Nat
  places : List (Nat × Nat)
  deriving Repr

namespace Anchors

/-- No anchors. -/
def none : Anchors :=
  ⟨Table.empty, []⟩

/-- The anchors after the node at a place, which may have one. -/
def register
    (anchors : Anchors)
    (anchor : Option String)
    (place : Nat) :
    Anchors :=
  match anchor with
  | .none => anchors
  | some name =>
      let number := anchors.numbers.size
      ⟨anchors.numbers.insert name number, (number, place) :: anchors.places⟩

/-- The place of the node that took a number last. -/
def place?
    (anchors : Anchors)
    (number : Nat) :
    Option Nat :=
  anchors.places.lookup number

end Anchors

/-- Events whose aliases lead to numbers, up to an alias without anchor. -/
structure Linked where
  events : List (Event Nat)
  anchors : Anchors
  isWhole : Bool
  deriving Repr

/-- The linked events with one more event before them. -/
def Linked.prepend
    (event : Event Nat)
    (linked : Linked) :
    Linked :=
  { linked with events := event :: linked.events }

/-- Link the events that start at a place. -/
def link
    (anchors : Anchors)
    (place : Nat) :
    List (Event String) →
    Linked
  | [] => ⟨[], anchors, true⟩
  | .reference name :: rest =>
      match anchors.numbers.get? name with
      | some number => (link anchors (place + 1) rest).prepend (.reference number)
      | none => ⟨[], anchors, false⟩
  | .scalar anchor style tag text :: rest =>
      (link (anchors.register anchor place) (place + 1) rest).prepend
        (.scalar .none style tag text)
  | .openList anchor tag :: rest =>
      (link (anchors.register anchor place) (place + 1) rest).prepend (.openList .none tag)
  | .openMap anchor tag :: rest =>
      (link (anchors.register anchor place) (place + 1) rest).prepend (.openMap .none tag)
  | .closeList :: rest => (link anchors (place + 1) rest).prepend .closeList
  | .closeMap :: rest => (link anchors (place + 1) rest).prepend .closeMap

end Blueprint.Yaml
