import Blueprint.Line.Method
import Blueprint.Schema.ColumnType

namespace Blueprint.Schema

/-!
# Columns and indexes

A column is read from a builder line: the first call is its type, the others are modifiers. Some
modifiers declare an index on the column.
-/

/-- A column of a table. -/
structure Column where
  name : String
  columnType : String
  /-- The arguments of the type itself, such as a length. -/
  typeArguments : List Argument
  methods : List Method
  /-- The relation of the owning entity for which the column was added. -/
  relation : Option String
  deriving Repr, DecidableEq

namespace Column

/-- The column of a parsed line; there is none on an empty line. -/
def ofMethods?
    (name : String) :
    List Method →
    Option Column
  | [] => none
  | typeCall :: modifiers => some ⟨name, typeCall.name, typeCall.arguments, modifiers, none⟩

/-- The column added for a relation. -/
def forRelation
    (name columnType relation : String) :
    Column :=
  ⟨name, columnType, [], [], some relation⟩

/-- Whether the column numbers its rows. -/
def isIdentity
    (column : Column) :
    Bool :=
  Schema.isIdentity column.columnType

/-- The kind of value that a program sees in the column. -/
def valueType
    (column : Column) :
    ValueType :=
  ValueType.ofWord column.columnType

/-- The cast applied when the column is read. -/
def castType?
    (column : Column) :
    Option CastType :=
  CastType.ofWord? column.columnType

/-- Whether the column holds dates or times. -/
def isDate
    (column : Column) :
    Bool :=
  dateWords.contains column.columnType

/-- Whether a modifier of the given name is there. -/
def hasMethod
    (column : Column)
    (name : String) :
    Bool :=
  column.methods.any fun method => method.name == name

end Column

/-- The kinds of indexes. -/
inductive IndexKind where
  | primary
  | unique
  | index
  | fulltext
  | spatialIndex
  deriving Repr, DecidableEq

/-- The kind of index that a modifier declares. -/
def IndexKind.ofWord? :
    String →
    Option IndexKind
  | "primary" => some .primary
  | "unique" => some .unique
  | "index" => some .index
  | "fulltext" => some .fulltext
  | "spatialIndex" => some .spatialIndex
  | _ => none

/-- An index on columns, with a name if one was given. -/
structure Index where
  kind : IndexKind
  columns : List String
  name : Option String
  deriving Repr, DecidableEq

/-- The index that a modifier declares on a column. -/
def Index.ofMethod?
    (column : String)
    (method : Method) :
    Option Index :=
  (IndexKind.ofWord? method.name).map fun kind => ⟨kind, [column], method.firstLiteral?⟩

/-- The indexes that the modifiers of columns declare, in order. -/
def Index.ofColumns
    (columns : List Column) :
    List Index :=
  columns.flatMap fun column => column.methods.filterMap (Index.ofMethod? column.name)

end Blueprint.Schema
