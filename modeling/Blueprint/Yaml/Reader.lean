import Blueprint.Node.Reading
import Blueprint.Yaml.Anchor
import Blueprint.Yaml.Scan

namespace Blueprint.Yaml

/-!
# Reading YAML text

The events of a text are put together into a tree. Where the events stop, a fault stands in the
tree. An alias is replaced by what stands at its anchor; since an anchor may be around its own
alias, there are limits on how deep and how often aliases are followed. None is followed where the
reader of the tree does not look: it costs nothing there and is skipped like anything else.
-/

/-- How many containers a reader of the text follows into one another. -/
def depthLimit : Nat := 128

/-- How often aliases are followed for every event of the text. -/
def jumpsPerEvent : Nat := 100

/-- What no reader can read and every reader can skip. -/
def barred : Node :=
  .guarded .malformed .null

/-- A container inside the given number of others; too deep a one can only be skipped. -/
def shielded
    (outer : Nat)
    (container : Node) :
    Node :=
  if outer < depthLimit then container else .guarded .malformed container

/-- What a tag says of a list or a map. -/
def standingOf
    (tag : Option String) :
    Standing :=
  if tag.any fun name => name.startsWith "!" then .labelled else .written

/-- A part of a tree, the events after it, and how many aliases may still be followed. -/
structure Composed (α : Type) where
  part : α
  rest : List (Event Nat)
  jumps : Nat
  deriving Repr

/-- A composed part after a change. -/
def Composed.map
    {α β : Type}
    (composed : Composed α)
    (change : α → β) :
    Composed β :=
  { composed with part := change composed.part }

/-- A sequence of parts, and the fault in place of its end if there is one. -/
abbrev Parts (α : Type) : Type :=
  List α × Option Fault

/-- A sequence with one more part before the others. -/
def Parts.prepend
    {α : Type}
    (part : α)
    (parts : Parts α) :
    Parts α :=
  (part :: parts.1, parts.2)

mutual

/-- Compose the node at the start of events, inside the given number of containers. -/
def composeNode
    (target : Nat → List (Event Nat))
    (scope : Node.Scope)
    (outer jumps : Nat)
    (events : List (Event Nat)) :
    Nat →
    Composed Node
  | 0 => ⟨barred, events, jumps⟩
  | rounds + 1 =>
      match events with
      | .scalar _ style tag text :: rest => ⟨.written style tag text, rest, jumps⟩
      | .openList _ tag :: rest =>
          (composeItems target scope.item (outer + 1) jumps rest rounds).map fun parts =>
            shielded outer (.list parts.1 parts.2 (standingOf tag))
      | .openMap _ tag :: rest =>
          (composeEntries target scope (outer + 1) jumps rest rounds).map fun parts =>
            shielded outer (.map parts.1 parts.2 (standingOf tag))
      | .reference number :: rest =>
          if jumps = 0 || depthLimit < outer then
            ⟨barred, rest, jumps⟩
          else
            let composed := composeNode target scope outer (jumps - 1) (target number) rounds
            ⟨composed.part, rest, composed.jumps⟩
      | .closeList :: rest => ⟨.fault .malformed, rest, jumps⟩
      | .closeMap :: rest => ⟨.fault .malformed, rest, jumps⟩
      | [] => ⟨.fault .malformed, [], jumps⟩

/-- Compose the items of a list. -/
def composeItems
    (target : Nat → List (Event Nat))
    (scope : Node.Scope)
    (outer jumps : Nat)
    (events : List (Event Nat)) :
    Nat →
    Composed (Parts Node)
  | 0 => ⟨([], some .malformed), events, jumps⟩
  | rounds + 1 =>
      match events with
      | [] => ⟨([], some .malformed), [], jumps⟩
      | .closeList :: rest => ⟨([], none), rest, jumps⟩
      | _ =>
          let item := composeNode target scope outer jumps events rounds
          (composeItems target scope outer item.jumps item.rest rounds).map
            (Parts.prepend item.part)

/-- Compose the entries of a map. -/
def composeEntries
    (target : Nat → List (Event Nat))
    (scope : Node.Scope)
    (outer jumps : Nat)
    (events : List (Event Nat)) :
    Nat →
    Composed (Parts (Node × Node))
  | 0 => ⟨([], some .malformed), events, jumps⟩
  | rounds + 1 =>
      match events with
      | [] => ⟨([], some .malformed), [], jumps⟩
      | .closeMap :: rest => ⟨([], none), rest, jumps⟩
      | _ =>
          let key := composeNode target .whole outer jumps events rounds
          let value :=
            match scope.entry? key.part with
            | some inner => composeNode target inner outer key.jumps key.rest rounds
            | none =>
                -- Without jumps every alias is barred, and what is barred can be skipped.
                { composeNode target .whole outer 0 key.rest rounds with jumps := key.jumps }
          (composeEntries target scope outer value.jumps value.rest rounds).map
            (Parts.prepend (key.part, value.part))

end

/-- The tree of linked events for a reader. Without any event it is an omitted scalar. -/
def treeOf
    (scope : Node.Scope)
    (linked : Linked)
    (isWhole : Bool) :
    Tree :=
  let events := linked.events
  let target (number : Nat) : List (Event Nat) :=
    events.drop ((linked.anchors.place? number).getD events.length)
  let rounds := (depthLimit + 2) * (events.length + 2)
  let sound := linked.isWhole && isWhole
  if events.isEmpty && sound then
    ⟨.written .plain none "", none⟩
  else
    ⟨(composeNode target scope 0 (jumpsPerEvent * events.length) events rounds).part,
      if sound then none else some .malformed⟩

/-- The tree of a text for a reader. -/
def readTree
    (scope : Node.Scope)
    (text : String) :
    Tree :=
  let passage := passageOf (tokens text.toList)
  treeOf scope (link Anchors.none 0 passage.events) passage.isWhole

end Blueprint.Yaml
