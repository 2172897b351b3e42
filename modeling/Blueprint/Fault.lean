import Blueprint.Json.Value

namespace Blueprint

/-!
# Faults of a document text

A text is read from its start, and the first fault met decides the answer: the text ends too
soon, it is malformed, or it is well formed so far but says something of another shape than the
document has there.
-/

/-- The places of a document that are written in one of several shapes. -/
inductive Choice where
  | primary
  | events
  | timestamps
  | softDeletes
  | words
  | lines
  | rules
  | resource
  | authorize
  | validate
  | models
  | save
  | policy
  deriving Repr, DecidableEq

/-- The word by which messages name a choice. -/
def Choice.word :
    Choice →
    String
  | primary => "PrimaryConfig"
  | events => "EventsConfig"
  | timestamps => "TimestampsConfig"
  | softDeletes => "SoftDeletesConfig"
  | words => "Words"
  | lines => "Lines"
  | rules => "RulesConfig"
  | resource => "ResourceConfig"
  | authorize => "AuthorizeConfig"
  | validate => "ValidateConfig"
  | models => "ModelsConfig"
  | save => "SaveConfig"
  | policy => "PolicyConfig"

/-- What has the wrong shape. -/
inductive Mismatch where
  /-- A value of another kind, a number out of range or a field given twice. -/
  | shape
  /-- A column that is neither a line nor an object. -/
  | column (found : Json.Kind)
  /-- A relation of a column that is no line. -/
  | relation (found : Json.Kind)
  /-- A value that fits no shape of a choice. -/
  | choice (place : Choice)
  deriving Repr, DecidableEq

/-- What a mismatch says of itself; a plain wrong shape says nothing. -/
def Mismatch.message? :
    Mismatch →
    Option String
  | shape => none
  | column found =>
      some ("column must be a string line or \x7b \"relation\": \"...\" \x7d; got " ++ found.word)
  | relation found => some ("relation must be a string line; got " ++ found.word)
  | choice place => some ("data did not match any variant of untagged enum " ++ place.word)

/-- The first fault of a text. -/
inductive Fault where
  | ended
  | malformed
  | mismatch (reason : Mismatch)
  deriving Repr, DecidableEq

/-- What a fault says of itself beyond its kind. -/
def Fault.message? :
    Fault →
    Option String
  | mismatch reason => reason.message?
  | _ => none

end Blueprint
