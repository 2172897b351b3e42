import Blueprint.Table

namespace Blueprint

/-!
# File trees

A file tree is a file with its bytes or a directory of named trees. A path is followed from the
root one name at a time: through directories only, back out of one at two dots, and nowhere at one
dot or at no name. So a path that ends in a slash leads to a directory or nowhere. The empty path
leads nowhere, not to the root, and no path has a zero character in it.
-/

/-- A file or a directory. -/
inductive FileTree where
  | file (content : List UInt8)
  | directory (entries : List (String × FileTree))
  deriving Inhabited

/-- Why there is no text at a path. -/
inductive AccessFailure where
  | missing
  | notDirectory
  | isDirectory
  | notText
  | zeroInPath
  deriving Repr, DecidableEq

/-- What messages say of an access that failed. -/
def AccessFailure.message :
    AccessFailure →
    String
  | missing => "No such file or directory (os error 2)"
  | notDirectory => "Not a directory (os error 20)"
  | isDirectory => "Is a directory (os error 21)"
  | notText => "stream did not contain valid UTF-8"
  | zeroInPath => "file name contained an unexpected NUL byte"

/-- The names in a path, some of which may be empty. -/
def namesFrom
    (current : List Char) :
    List Char →
    List String
  | [] => [String.ofList current]
  | letter :: rest =>
      if letter = '/' then String.ofList current :: namesFrom [] rest
      else namesFrom (current ++ [letter]) rest

/-- The names in a path. -/
def namesOf
    (path : String) :
    List String :=
  namesFrom [] path.toList

namespace FileTree

/-- A directory without entries. -/
def empty : FileTree :=
  directory []

/-- The entries of a directory; a file has none. -/
def entries :
    FileTree →
    List (String × FileTree)
  | file _ => []
  | directory entries => entries

/-- Follow names from a tree with the directories around it. -/
def follow
    (around : List FileTree)
    (here : FileTree) :
    List String →
    Except AccessFailure FileTree
  | [] => .ok here
  | name :: rest =>
      match here with
      | file _ => .error .notDirectory
      | directory entries =>
          if name = "" ∨ name = "." then
            follow around here rest
          else if name = ".." then
            match around with
            | [] => follow [] here rest
            | outer :: others => follow others outer rest
          else
            match Entries.get? name entries with
            | none => .error .missing
            | some inner => follow (here :: around) inner rest

/-- What stands at a path. -/
def at?
    (tree : FileTree)
    (path : String) :
    Except AccessFailure FileTree :=
  if path = "" then
    .error .missing
  else if '\x00' ∈ path.toList then
    .error .zeroInPath
  else
    follow [] tree (namesOf path)

/-- Whether a directory stands at a path. -/
def isDirectory
    (tree : FileTree)
    (path : String) :
    Bool :=
  match tree.at? path with
  | .ok (directory _) => true
  | _ => false

/-- Whether a file stands at a path. -/
def isFile
    (tree : FileTree)
    (path : String) :
    Bool :=
  match tree.at? path with
  | .ok (file _) => true
  | _ => false

/-- The text of the file at a path. -/
def text
    (tree : FileTree)
    (path : String) :
    Except AccessFailure String := do
  match ← tree.at? path with
  | directory _ => .error .isDirectory
  | file content =>
      match String.fromUTF8? ⟨content.toArray⟩ with
      | some text => pure text
      | none => .error .notText

/-- Change what stands at a path, with directories on the way to it. What does not stand yet is
changed from an empty directory. -/
def change
    (update : FileTree → FileTree) :
    List String →
    FileTree →
    FileTree
  | [], tree => update tree
  | name :: rest, tree =>
      let inner := (Entries.get? name tree.entries).getD empty
      directory (Entries.insert name (change update rest inner) tree.entries)

/-- Write a file. -/
def write
    (tree : FileTree)
    (path : String)
    (content : List UInt8) :
    FileTree :=
  change (fun _ => file content) (namesOf path) tree

/-- Make a directory. -/
def makeDirectory
    (tree : FileTree)
    (path : String) :
    FileTree :=
  change (fun here => directory here.entries) (namesOf path) tree

end FileTree

end Blueprint
