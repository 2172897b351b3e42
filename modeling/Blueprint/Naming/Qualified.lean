import Blueprint.Text.Blank

namespace Blueprint.Naming

/-!
# Qualified names

A key such as `Admin\User` names a class inside a namespace; the last backslash parts the two.
-/

/-- The character between the segments of a qualified name. -/
def segmentMark : Char := '\\'

/-- The last segment of a qualified name: `Admin\User` has `User`. -/
def basename
    (key : String) :
    String :=
  match Text.cutLast? segmentMark key.toList with
  | some (_, last) => String.ofList last
  | none => key

/-- What stands before the last segment, unless it is empty: `Admin\User` has `Admin`. -/
def qualifier?
    (key : String) :
    Option String :=
  match Text.cutLast? segmentMark key.toList with
  | some ([], _) => none
  | some (before, _) => some (String.ofList before)
  | none => none

/-- The namespace of a key inside a base namespace. -/
def namespaceOf
    (base key : String) :
    String :=
  match qualifier? key with
  | some qualifier =>
      String.ofList (Text.trimEnd (· == segmentMark) base.toList) ++ "\\" ++ qualifier
  | none => base

/-- A class name qualified by its namespace, without backslashes around the namespace. -/
def qualify
    (space className : String) :
    String :=
  String.ofList (Text.trimBoth (· == segmentMark) space.toList) ++ "\\" ++ className

end Blueprint.Naming
