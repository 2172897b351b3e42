import Blueprint.Document.Auth
import Blueprint.Document.Database
import Blueprint.Json.Reader
import Blueprint.Text.Blank
import Blueprint.Yaml.Reader

namespace Blueprint

/-!
# Documents

A document describes an application in three sections, each of which may be left out. It is read
from JSON or from YAML text; the tree of either text is read by the same codec.
-/

/-- A whole document. -/
structure Document where
  database : Document.Database
  http : Document.Http
  auth : Document.Auth
  deriving Repr, DecidableEq

namespace Document

/-- A document with every section left out. -/
def blank : Document :=
  ⟨.blank, .blank, .blank⟩

/-- How documents are written. -/
def codec : Codec Document :=
  Codec.record .blank
    [Codec.field "database" (.defaulted .blank databaseCodec) (·.database)
       fun value document => { document with database := value },
     Codec.field "http" (.defaulted .blank httpCodec) (·.http)
       fun value document => { document with http := value },
     Codec.field "auth" (.defaulted .blank authCodec) (·.auth)
       fun value document => { document with auth := value }]

end Document

/-- Read a tree by a codec, and then the fault after it if there is one. -/
def Tree.read
    {α : Type}
    (tree : Tree)
    (codec : Codec α) :
    Except Fault α := do
  let value ← codec.read tree.root
  Node.ending tree.trailing
  pure value

/-- Read a value from YAML text by a codec; a blank text is the blank value. -/
def Yaml.read
    {α : Type}
    (codec : Codec α)
    (blank : α)
    (text : String) :
    Except Fault α :=
  if isBlankText text then .ok blank else (Yaml.readTree codec.scope text).read codec

namespace Document

/-- Read a document from JSON text. -/
def ofJson
    (text : String) :
    Except Fault Document :=
  (Json.readTree text).read codec

/-- Read a document from YAML text. -/
def ofYaml
    (text : String) :
    Except Fault Document :=
  Yaml.read codec blank text

end Document

end Blueprint
