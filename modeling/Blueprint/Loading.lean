import Blueprint.Document
import Blueprint.FileTree

namespace Blueprint

/-!
# Loading documents

A document is loaded from one file, whose extension says how it is written, or from a directory
with a file for every section. A section is taken from the first of its possible files and from no
other, also when that file is blank or wrong.
-/

/-- Why no document was loaded from a path. -/
inductive LoadError where
  | access (path : String) (reason : AccessFailure)
  | notDirectory (path : String)
  | unknownFormat (path : String)
  | json (cause : Fault)
  | yaml (cause : Fault)
  deriving Repr, DecidableEq

/-- What an error says of itself; a fault of a text may say nothing. -/
def LoadError.message? :
    LoadError →
    Option String
  | access path reason => some ("config load: " ++ path ++ ": " ++ reason.message)
  | notDirectory path => some ("config load: " ++ path ++ " is not a directory")
  | unknownFormat path =>
      some ("config load: " ++ path ++ ": expected a directory or a .json, .yml or .yaml file")
  | json cause => cause.message?
  | yaml cause => cause.message?

/-- A section of a document and the names of its possible files, without extensions. -/
structure Section (α : Type) where
  stems : List String
  blank : α
  codec : Codec α

namespace Section

/-- The section of models and tables. -/
def database : Section Document.Database :=
  ⟨["database", "db", "models"], .blank, Document.databaseCodec⟩

/-- The section of controllers. -/
def http : Section Document.Http :=
  ⟨["http", "controllers"], .blank, Document.httpCodec⟩

/-- The section of gates, policies and forms. -/
def auth : Section Document.Auth :=
  ⟨["auth", "authentication", "authorization"], .blank, Document.authCodec⟩

variable {α : Type}

/-- The names of the possible files in the order in which they are tried. -/
def candidates
    (part : Section α) :
    List String :=
  part.stems.flatMap fun stem => ["yml", "yaml"].map fun extension => stem ++ "." ++ extension

end Section

namespace Loading

variable {α : Type}

/-- The path of a name in a directory; after the empty path it is the name alone. -/
def inDirectory
    (directory name : String) :
    String :=
  if directory = "" ∨ directory.endsWith "/" then directory ++ name
  else directory ++ "/" ++ name

/-- The last name of a path, unless it leads back out of a directory. -/
def fileName?
    (path : String) :
    Option String :=
  ((namesOf path).filter fun name => name != "" && name != ".").getLast?.filter (· != "..")

/-- What follows the last dot of a name; a dot at the start counts for none. -/
def extension?
    (name : String) :
    Option String :=
  let letters := name.toList.reverse
  let after := letters.takeWhile (· != '.')
  match letters.drop after.length with
  | _ :: _ :: _ => some (String.ofList after.reverse)
  | _ => none

/-- The text of the file at a path. -/
def text
    (tree : FileTree)
    (path : String) :
    Except LoadError String :=
  (tree.text path).mapError (LoadError.access path)

/-- The file that a section is taken from. -/
def chosen?
    (tree : FileTree)
    (directory : String)
    (part : Section α) :
    Option String :=
  (part.candidates.map (inDirectory directory)).find? tree.isFile

/-- Load a section from a directory; without a file for it, it is blank. -/
def readSection
    (tree : FileTree)
    (directory : String)
    (part : Section α) :
    Except LoadError α :=
  match chosen? tree directory part with
  | none => .ok part.blank
  | some path => do
      let content ← text tree path
      (Yaml.read part.codec part.blank content).mapError LoadError.yaml

end Loading

namespace Document

/-- Load a document from a directory with a file for every section. -/
def ofDirectory
    (tree : FileTree)
    (path : String) :
    Except LoadError Document :=
  if tree.isDirectory path then do
    let database ← Loading.readSection tree path .database
    let http ← Loading.readSection tree path .http
    let auth ← Loading.readSection tree path .auth
    pure ⟨database, http, auth⟩
  else
    .error (.notDirectory path)

/-- Load a document from a file, which is read before its extension counts. -/
def ofFile
    (tree : FileTree)
    (path : String) :
    Except LoadError Document := do
  let content ← Loading.text tree path
  match (Loading.fileName? path).bind Loading.extension? with
  | some "json" => (ofJson content).mapError LoadError.json
  | some "yml" => (ofYaml content).mapError LoadError.yaml
  | some "yaml" => (ofYaml content).mapError LoadError.yaml
  | _ => .error (.unknownFormat path)

/-- Load a document from a directory or a file. -/
def load
    (tree : FileTree)
    (path : String) :
    Except LoadError Document :=
  if tree.isDirectory path then ofDirectory tree path else ofFile tree path

end Document

end Blueprint
