namespace Blueprint.Schema

/-!
# Column types

A column type is a word. Some words number their rows by themselves and so make a primary key;
a column that refers to such a key has a plain integer type. Words also decide the value that a
program sees and the cast that makes it.
-/

/-- The words that number rows, each with the plain type of a column that refers to it. -/
def identityStorage : List (String × String) :=
  [("id", "unsignedBigInteger"),
   ("increments", "unsignedInteger"),
   ("integerIncrements", "unsignedInteger"),
   ("tinyIncrements", "unsignedTinyInteger"),
   ("smallIncrements", "unsignedSmallInteger"),
   ("mediumIncrements", "unsignedMediumInteger"),
   ("bigIncrements", "unsignedBigInteger")]

/-- Whether a word numbers rows. -/
def isIdentity
    (word : String) :
    Bool :=
  (identityStorage.lookup word).isSome

/-- The type of a column that refers to a key of the given type. -/
def storageType
    (word : String) :
    String :=
  (identityStorage.lookup word).getD word

/-- The words for integers. -/
def integerWords : List String :=
  ["integer", "tinyInteger", "smallInteger", "mediumInteger", "bigInteger", "unsignedInteger",
   "unsignedTinyInteger", "unsignedSmallInteger", "unsignedMediumInteger", "unsignedBigInteger"]

/-- The words for numbers with a fraction. -/
def floatWords : List String :=
  ["decimal", "double", "float", "point", "unsignedDecimal"]

/-- The words for truth values. -/
def boolWords : List String :=
  ["bool", "boolean"]

/-- The words for structured values. -/
def arrayWords : List String :=
  ["json", "jsonb"]

/-- The words for dates and times. -/
def dateWords : List String :=
  ["date", "dateTime", "dateTimeTz", "time", "timeTz", "timestamp", "timestampTz", "year"]

/-- The kind of value that a program sees in a column. -/
inductive ValueType where
  | int
  | float
  | bool
  | array
  | dateTime
  | string
  deriving Repr, DecidableEq

/-- The kind of value in a column of a type; unknown types hold texts. -/
def ValueType.ofWord
    (word : String) :
    ValueType :=
  if isIdentity word || integerWords.contains word then .int
  else if floatWords.contains word then .float
  else if boolWords.contains word then .bool
  else if arrayWords.contains word then .array
  else if dateWords.contains word then .dateTime
  else .string

/-- The cast applied when a column is read. -/
inductive CastType where
  | integer
  | float
  | bool
  | array
  deriving Repr, DecidableEq

/-- The cast that makes a kind of value, if it needs one. -/
def CastType.ofValueType? :
    ValueType →
    Option CastType
  | .int => some .integer
  | .float => some .float
  | .bool => some .bool
  | .array => some .array
  | .dateTime => none
  | .string => none

/-- The cast of a column of a type. -/
def CastType.ofWord?
    (word : String) :
    Option CastType :=
  ofValueType? (ValueType.ofWord word)

end Blueprint.Schema
