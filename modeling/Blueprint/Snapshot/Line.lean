import Blueprint.Json.Value
import Blueprint.Line.Method
import Blueprint.Table

namespace Blueprint.Snapshot

/-!
# Snapshots of parts

A snapshot shows a resolved value as JSON: fields in the order of their declaration, absent parts
as null, entries of tables in their order.
-/

open Json

/-- A text. -/
def text
    (value : String) :
    Value :=
  .string value

/-- A part that may be absent. -/
def maybe
    {α : Type}
    (render : α → Value) :
    Option α →
    Value
  | none => .null
  | some value => render value

/-- A list. -/
def items
    {α : Type}
    (render : α → Value)
    (values : List α) :
    Value :=
  .array (values.map render)

/-- A list of texts. -/
def texts
    (values : List String) :
    Value :=
  items text values

/-- A table. -/
def entries
    {α : Type}
    (render : α → Value)
    (table : Table α) :
    Value :=
  .object (table.entries.map fun entry => (entry.1, render entry.2))

/-- An argument of a call. -/
def argument :
    Argument →
    Value
  | .literal value => .object [("literal", text value)]
  | .reference name property =>
      .object [("variable", .object [("name", text name), ("property", maybe text property)])]

/-- A method. -/
def method
    (value : Method) :
    Value :=
  .object [("name", text value.name), ("arguments", items argument value.arguments)]

/-- A call. -/
def call
    (value : Call) :
    Value :=
  .object [("target", text value.target), ("arguments", items argument value.arguments)]

end Blueprint.Snapshot
