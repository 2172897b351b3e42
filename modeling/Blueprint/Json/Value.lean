namespace Blueprint.Json

/-!
# JSON values

A value keeps its integers exact and its other numbers as 64-bit patterns. The members of an
object stand in the order in which they were written.
-/

/-- An integer, or the bits of a finite floating-point number. -/
inductive Number where
  | integer (value : Int)
  | real (bits : UInt64)
  deriving Repr, DecidableEq

/-- A JSON value. -/
inductive Value where
  | null
  | bool (value : Bool)
  | number (value : Number)
  | string (text : String)
  | array (items : List Value)
  | object (members : List (String × Value))
  deriving Repr, Inhabited

namespace Value

mutual

/-- Decide whether two values are equal. -/
def decideEq :
    (first second : Value) →
    Decidable (first = second)
  | null, null => isTrue rfl
  | bool first, bool second =>
      if same : first = second then isTrue (by rw [same]) else isFalse (by simpa using same)
  | number first, number second =>
      if same : first = second then isTrue (by rw [same]) else isFalse (by simpa using same)
  | string first, string second =>
      if same : first = second then isTrue (by rw [same]) else isFalse (by simpa using same)
  | array first, array second =>
      match decideItems first second with
      | isTrue same => isTrue (by rw [same])
      | isFalse differ => isFalse (by simpa using differ)
  | object first, object second =>
      match decideMembers first second with
      | isTrue same => isTrue (by rw [same])
      | isFalse differ => isFalse (by simpa using differ)
  | null, bool _ | null, number _ | null, string _ | null, array _ | null, object _
  | bool _, null | bool _, number _ | bool _, string _ | bool _, array _ | bool _, object _
  | number _, null | number _, bool _ | number _, string _ | number _, array _
  | number _, object _
  | string _, null | string _, bool _ | string _, number _ | string _, array _
  | string _, object _
  | array _, null | array _, bool _ | array _, number _ | array _, string _ | array _, object _
  | object _, null | object _, bool _ | object _, number _ | object _, string _
  | object _, array _ => isFalse (by simp)

/-- Decide whether two lists of values are equal. -/
def decideItems :
    (first second : List Value) →
    Decidable (first = second)
  | [], [] => isTrue rfl
  | [], _ :: _ => isFalse (by simp)
  | _ :: _, [] => isFalse (by simp)
  | first :: firstRest, second :: secondRest =>
      match decideEq first second with
      | isFalse differ => isFalse (by simp [differ])
      | isTrue same =>
          match decideItems firstRest secondRest with
          | isTrue restSame => isTrue (by rw [same, restSame])
          | isFalse differ => isFalse (by simp [differ])

/-- Decide whether two lists of members are equal. -/
def decideMembers :
    (first second : List (String × Value)) →
    Decidable (first = second)
  | [], [] => isTrue rfl
  | [], _ :: _ => isFalse (by simp)
  | _ :: _, [] => isFalse (by simp)
  | (firstName, first) :: firstRest, (secondName, second) :: secondRest =>
      if named : firstName = secondName then
        match decideEq first second with
        | isFalse differ => isFalse (by simp [differ])
        | isTrue same =>
            match decideMembers firstRest secondRest with
            | isTrue restSame => isTrue (by rw [named, same, restSame])
            | isFalse differ => isFalse (by simp [differ])
      else
        isFalse (by simp [named])

end

instance : DecidableEq Value :=
  decideEq

end Value

/-- The kinds of values, as messages name them. -/
inductive Kind where
  | null
  | boolean
  | number
  | string
  | array
  | object
  deriving Repr, DecidableEq

/-- The word for a kind. -/
def Kind.word :
    Kind →
    String
  | null => "null"
  | boolean => "boolean"
  | number => "number"
  | string => "string"
  | array => "array"
  | object => "object"

/-- The kind of a value. -/
def Value.kind :
    Value →
    Kind
  | null => .null
  | bool _ => .boolean
  | number _ => .number
  | string _ => .string
  | array _ => .array
  | object _ => .object

end Blueprint.Json
