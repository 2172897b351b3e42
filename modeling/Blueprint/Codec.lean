import Blueprint.Node.Reading

namespace Blueprint

/-!
# Codecs

A codec says how a kind of value is read from a document tree, how far the tree is looked into, and
how the value is written as JSON. Codecs of records, tables, lists and choices are put together from
those of their parts, so that what is written and what is read stay side by side. Every part of a
record may be left out, and a null counts as left out.
-/

/-- How values of a type are read and written, and how far their reader goes into a tree. -/
structure Codec (α : Type) where
  read : Node → Except Fault α
  write : α → Json.Value
  scope : Node.Scope := .whole

namespace Codec

variable {α ρ : Type}

/-- Texts. -/
def text : Codec String where
  read := Node.text
  write := Json.Value.string

/-- Truth values. -/
def truth : Codec Bool where
  read := Node.truth
  write := Json.Value.bool

/-- Numbers of 32 bits without sign. -/
def word : Codec UInt32 where
  read := Node.word
  write number := .number (.integer number.toNat)

/-- Any values. -/
def value : Codec Json.Value where
  read := Node.value
  write := id

/-- Values that may be absent. -/
def optional
    (codec : Codec α) :
    Codec (Option α) where
  read node := do
    if ← node.isAbsent then
      pure none
    else
      let value ← codec.read node
      pure (some value)
  write
    | none => .null
    | some value => codec.write value
  scope := codec.scope

/-- Values with a default that stands for an absent one. -/
def defaulted
    (default : α)
    (codec : Codec α) :
    Codec α where
  read node := do
    let value ← codec.optional.read node
    pure (value.getD default)
  write := codec.write
  scope := codec.scope

/-- Read the items of a list in order. -/
def readItems
    (read : Node → Except Fault α) :
    List Node →
    Except Fault (List α)
  | [] => .ok []
  | item :: rest => do
      let first ← read item
      let others ← readItems read rest
      pure (first :: others)

/-- Lists. -/
def list
    (codec : Codec α) :
    Codec (List α) where
  read node :=
    match node with
    | .list items tail _ => do
        let values ← readItems codec.read items
        Node.ending tail
        pure values
    | node => if node.isVoid then .ok [] else .error node.refusal
  write values := .array (values.map codec.write)
  scope := .each codec.scope

/-- Read the entries of a map into a table that stands already. -/
def readEntries
    (read : Node → Except Fault α)
    (table : Table α) :
    List (Node × Node) →
    Except Fault (Table α)
  | [] => .ok table
  | (key, node) :: rest => do
      let name ← key.text
      let value ← read node
      readEntries read (table.insert name value) rest

/-- Tables with names of the author's choice. -/
def table
    (codec : Codec α) :
    Codec (Table α) where
  read node :=
    match node with
    | .map entries tail _ => do
        let values ← readEntries codec.read Table.empty entries
        Node.ending tail
        pure values
    | node => if node.isVoid then .ok Table.empty else .error node.refusal
  write values := .object (values.entries.map fun entry => (entry.1, codec.write entry.2))
  scope := .each codec.scope

/-- A field of a record: its name, how its value is read into the record, how it is written, and
how far its reader goes into a tree. -/
structure Field (ρ : Type) where
  name : String
  read : Node → ρ → Except Fault ρ
  write : ρ → Json.Value
  scope : Node.Scope

/-- The field that holds values of a codec. -/
def field
    (name : String)
    (codec : Codec α)
    (get : ρ → α)
    (set : α → ρ → ρ) :
    Field ρ where
  name := name
  read node record := do
    let value ← codec.read node
    pure (set value record)
  write record := codec.write (get record)
  scope := codec.scope

/-- The field that a key names: by its name or, where keys may be numbers, by its place. -/
def fieldAt
    (fields : List (Field ρ)) :
    Node →
    Except Fault (Option (Field ρ))
  | .number (.integer place) =>
      if 0 ≤ place then .ok fields[place.toNat]? else Node.mismatch
  | key => do
      let name ← key.text
      pure (fields.find? fun field => field.name == name)

/-- Read the entries of a map as fields of a record. A field may be given once; entries under
other names are passed over. -/
def readFields
    (fields : List (Field ρ))
    (seen : List String)
    (record : ρ) :
    List (Node × Node) →
    Except Fault ρ
  | [] => .ok record
  | (key, node) :: rest => do
      match ← fieldAt fields key with
      | none => do
          node.skip
          readFields fields seen record rest
      | some field =>
          if seen.contains field.name then
            Node.mismatch
          else
            let changed ← field.read node record
            readFields fields (field.name :: seen) changed rest

/-- Read the items of a list as the fields of a record in their order. -/
def readPlaces
    (record : ρ) :
    List (Field ρ) →
    List Node →
    Option Fault →
    Except Fault ρ
  | [], [], tail => do
      Node.ending tail
      pure record
  | [], _ :: _, _ => .error .malformed
  | _ :: _, [], tail => do
      Node.ending tail
      pure record
  | field :: fields, item :: items, tail => do
      let changed ← field.read item record
      readPlaces changed fields items tail

/-- Read a map of fields over a record in which every field is left out. -/
def readBlock
    (blank : ρ)
    (fields : List (Field ρ)) :
    Node →
    Except Fault ρ
  | .map entries tail _ => do
      let record ← readFields fields [] blank entries
      Node.ending tail
      pure record
  | node => if node.isVoid then .ok blank else .error node.refusal

/-- Read a record, as a map of its fields or as a settled list of their values. -/
def readRecord
    (blank : ρ)
    (fields : List (Field ρ)) :
    Node →
    Except Fault ρ
  | .list items tail .settled => readPlaces blank fields items tail
  | node => readBlock blank fields node

/-- The fields of a record as the members of an object. -/
def writeRecord
    (fields : List (Field ρ))
    (record : ρ) :
    Json.Value :=
  .object (fields.map fun field => (field.name, field.write record))

/-- Records. -/
def record
    (blank : ρ)
    (fields : List (Field ρ)) :
    Codec ρ where
  read := readRecord blank fields
  write := writeRecord fields
  scope := .named (fields.map fun field => (field.name, field.scope))

/-- The value of the first reader that accepts a tree. -/
def firstOf?
    (readers : List (Node → Except Fault α))
    (node : Node) :
    Option α :=
  readers.findSome? fun read => (read node).toOption

/-- Values of several shapes, tried in order on a tree that is settled first. -/
def choice
    (place : Choice)
    (readers : List (Node → Except Fault α))
    (write : α → Json.Value) :
    Codec α where
  read node := do
    let settled ← node.settle
    match firstOf? readers settled with
    | some value => pure value
    | none => .error (.mismatch (.choice place))
  write := write

/-- A reader followed by a change of what it reads. -/
def reader
    {β : Type}
    (codec : Codec α)
    (change : α → β)
    (node : Node) :
    Except Fault β :=
  (codec.read node).map change

end Codec

end Blueprint
