import Blueprint.Document.Phrase

namespace Blueprint.Document

/-!
# The database section

Models with their columns and options, and explicit tables. A column is a builder line or, in an
object of its own, the line of a relation.
-/

/-- A column: a builder line, or the line of a relation if one is given. -/
inductive Column where
  | line (text : String)
  | relation (line : Option String)
  deriving Repr, DecidableEq

/-- A column from any value. -/
def Column.ofValue :
    Json.Value →
    Except Fault Column
  | .string text => .ok (.line text)
  | .object members =>
      match Entries.get? "relation" members with
      | some (.string declared) => .ok (.relation (some declared))
      | none => .ok (.relation none)
      | some .null => .ok (.relation none)
      | some other => .error (.mismatch (.relation other.kind))
  | other => .error (.mismatch (.column other.kind))

/-- How columns are written: any value is read and then judged. -/
def columnCodec : Codec Column where
  read node := do
    let value ← node.value
    Column.ofValue value
  write
    | .line text => .string text
    | .relation line => .object [("relation", (Codec.optional Codec.text).write line)]

/-- Columns under their names. -/
abbrev Columns := Table Column

/-- How columns are written. -/
def columnsCodec : Codec Columns :=
  Codec.table columnCodec

/-- An explicit primary key. -/
structure PrimaryBlock where
  column : Option String
  keyType : Option String
  incrementing : Option Bool
  deriving Repr, DecidableEq

/-- A primary block with every field left out. -/
def PrimaryBlock.blank : PrimaryBlock :=
  ⟨none, none, none⟩

/-- How explicit primary keys are written. -/
def primaryBlockCodec : Codec PrimaryBlock :=
  Codec.record .blank
    [Codec.field "column" (.optional .text) (·.column)
       fun value block => { block with column := value },
     Codec.field "type" (.optional .text) (·.keyType)
       fun value block => { block with keyType := value },
     Codec.field "incrementing" (.optional .truth) (·.incrementing)
       fun value block => { block with incrementing := value }]

/-- Whether there is a primary key, or which one. -/
inductive Primary where
  | toggle (enabled : Bool)
  | block (block : PrimaryBlock)
  deriving Repr, DecidableEq

/-- How primary keys are written. -/
def primaryCodec : Codec Primary :=
  Codec.choice .primary
    [Codec.reader Codec.truth Primary.toggle, Codec.reader primaryBlockCodec Primary.block]
    fun
      | .toggle enabled => Codec.truth.write enabled
      | .block block => primaryBlockCodec.write block

/-- Observed events, with handlers named after them or given. -/
inductive Events where
  | list (events : List String)
  | map (handlers : Table String)
  deriving Repr, DecidableEq

/-- How events are written. -/
def eventsCodec : Codec Events :=
  Codec.choice .events
    [Codec.reader (Codec.list Codec.text) Events.list,
     Codec.reader (Codec.table Codec.text) Events.map]
    fun
      | .list events => (Codec.list Codec.text).write events
      | .map handlers => (Codec.table Codec.text).write handlers

/-- The columns that hold creation and change times. -/
structure TimestampColumns where
  createdAt : Option String
  updatedAt : Option String
  deriving Repr, DecidableEq

/-- The fields of timestamp columns. -/
def timestampFields : List (Codec.Field TimestampColumns) :=
  [Codec.field "created_at" (.optional .text) (·.createdAt)
     fun value columns => { columns with createdAt := value },
   Codec.field "updated_at" (.optional .text) (·.updatedAt)
     fun value columns => { columns with updatedAt := value }]

/-- Whether there are timestamps, or in which columns. -/
inductive Timestamps where
  | toggle (enabled : Bool)
  | columns (columns : TimestampColumns)
  deriving Repr, DecidableEq

/-- How timestamps are written: the columns as a map only. -/
def timestampsCodec : Codec Timestamps :=
  Codec.choice .timestamps
    [Codec.reader Codec.truth Timestamps.toggle,
     fun node => (Codec.readBlock ⟨none, none⟩ timestampFields node).map Timestamps.columns]
    fun
      | .toggle enabled => Codec.truth.write enabled
      | .columns columns => Codec.writeRecord timestampFields columns

/-- Whether deletion only marks a row, or in which column. -/
inductive SoftDeletes where
  | toggle (enabled : Bool)
  | column (name : String)
  deriving Repr, DecidableEq

/-- How soft deletes are written. -/
def softDeletesCodec : Codec SoftDeletes :=
  Codec.choice .softDeletes
    [Codec.reader Codec.truth SoftDeletes.toggle, Codec.reader Codec.text SoftDeletes.column]
    fun
      | .toggle enabled => Codec.truth.write enabled
      | .column name => Codec.text.write name

/-- A declared model. -/
structure Model where
  columns : Option Columns
  primary : Option Primary
  table : Option String
  modelType : Option String
  perPage : Option UInt32
  fillable : List String
  scopes : List String
  events : Option Events
  route : Option String
  json : Bool
  repository : Bool
  factory : Option Bool
  timestamps : Option Timestamps
  softDeletes : Option SoftDeletes
  deriving Repr, DecidableEq

/-- A model with every field left out. -/
def Model.blank : Model where
  columns := none
  primary := none
  table := none
  modelType := none
  perPage := none
  fillable := []
  scopes := []
  events := none
  route := none
  json := false
  repository := false
  factory := none
  timestamps := none
  softDeletes := none

/-- The fields of a model. -/
def modelFields : List (Codec.Field Model) :=
  [Codec.field "columns" (.optional columnsCodec) (·.columns)
     fun value model => { model with columns := value },
   Codec.field "primary" (.optional primaryCodec) (·.primary)
     fun value model => { model with primary := value },
   Codec.field "table" (.optional .text) (·.table)
     fun value model => { model with table := value },
   Codec.field "type" (.optional .text) (·.modelType)
     fun value model => { model with modelType := value },
   Codec.field "perPage" (.optional .word) (·.perPage)
     fun value model => { model with perPage := value },
   Codec.field "fillable" (.defaulted [] (.list .text)) (·.fillable)
     fun value model => { model with fillable := value },
   Codec.field "scopes" (.defaulted [] (.list .text)) (·.scopes)
     fun value model => { model with scopes := value },
   Codec.field "events" (.optional eventsCodec) (·.events)
     fun value model => { model with events := value },
   Codec.field "route" (.optional .text) (·.route)
     fun value model => { model with route := value },
   Codec.field "json" (.defaulted false .truth) (·.json)
     fun value model => { model with json := value },
   Codec.field "repository" (.defaulted false .truth) (·.repository)
     fun value model => { model with repository := value },
   Codec.field "factory" (.optional .truth) (·.factory)
     fun value model => { model with factory := value },
   Codec.field "timestamps" (.optional timestampsCodec) (·.timestamps)
     fun value model => { model with timestamps := value },
   Codec.field "softDeletes" (.optional softDeletesCodec) (·.softDeletes)
     fun value model => { model with softDeletes := value }]

/-- How models are written. -/
def modelCodec : Codec Model :=
  Codec.record .blank modelFields

/-- The database section. -/
structure Database where
  space : Option String
  models : Table Model
  migrations : Table Columns
  deriving Repr, DecidableEq

/-- A database section with every field left out. -/
def Database.blank : Database :=
  ⟨none, ∅, ∅⟩

/-- How the database section is written. -/
def databaseCodec : Codec Database :=
  Codec.record .blank
    [Codec.field "namespace" (.optional .text) (·.space)
       fun value database => { database with space := value },
     Codec.field "models" (.defaulted ∅ (.table modelCodec)) (·.models)
       fun value database => { database with models := value },
     Codec.field "migrations" (.defaulted ∅ (.table columnsCodec)) (·.migrations)
       fun value database => { database with migrations := value }]

end Blueprint.Document
