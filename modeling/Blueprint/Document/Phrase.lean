import Blueprint.Codec
import Blueprint.Text.Blank

namespace Blueprint.Document

/-!
# Phrases

The small lists of a document may be written as one line or as a list: words, directive lines,
validation rules and bound models. Each kind says how its line is taken apart.
-/

/-- Words on one line or in a list. -/
inductive Words where
  | line (text : String)
  | list (words : List String)
  deriving Repr, DecidableEq

/-- The words: those of the line, or the trimmed items that are not blank. -/
def Words.toList :
    Words →
    List String
  | line text => piecesOf text
  | list words => (words.map trimmed).filter fun word => !word.isEmpty

/-- How words are written. -/
def wordsCodec : Codec Words :=
  Codec.choice .words
    [Codec.reader Codec.text Words.line, Codec.reader (Codec.list Codec.text) Words.list]
    fun
      | .line text => Codec.text.write text
      | .list words => (Codec.list Codec.text).write words

/-- One directive line or a list of them. -/
inductive Lines where
  | one (line : String)
  | many (lines : List String)
  deriving Repr, DecidableEq

/-- The lines, as they stand. -/
def Lines.toList :
    Lines →
    List String
  | one line => [line]
  | many lines => lines

/-- How directive lines are written. -/
def linesCodec : Codec Lines :=
  Codec.choice .lines
    [Codec.reader Codec.text Lines.one, Codec.reader (Codec.list Codec.text) Lines.many]
    fun
      | .one line => Codec.text.write line
      | .many lines => (Codec.list Codec.text).write lines

/-- Validation rules on one line, between bars, or in a list. -/
inductive Rules where
  | line (text : String)
  | list (rules : List String)
  deriving Repr, DecidableEq

/-- The rules as written, before they are trimmed. -/
def Rules.raw :
    Rules →
    List String
  | line text => cutAt '|' text
  | list rules => rules

/-- The trimmed rules that are not blank. -/
def Rules.toList
    (rules : Rules) :
    List String :=
  (rules.raw.map trimmed).filter fun rule => !rule.isEmpty

/-- How rules are written. -/
def rulesCodec : Codec Rules :=
  Codec.choice .rules
    [Codec.reader Codec.text Rules.line, Codec.reader (Codec.list Codec.text) Rules.list]
    fun
      | .line text => Codec.text.write text
      | .list rules => (Codec.list Codec.text).write rules

/-- Bound models on one line, in a list, or each under the name of its variable. -/
inductive Models where
  | line (text : String)
  | list (tokens : List String)
  | named (tokens : Table String)
  deriving Repr, DecidableEq

/-- A bound model: its variable if one is named, and `Model` or `Model:column`. -/
structure ModelEntry where
  variableName : Option String
  token : String
  deriving Repr, DecidableEq

/-- The bound models in order. -/
def Models.entries :
    Models →
    List ModelEntry
  | line text => (piecesOf text).map fun token => ⟨none, token⟩
  | list tokens => tokens.map fun token => ⟨none, trimmed token⟩
  | named tokens => tokens.entries.map fun entry => ⟨some entry.1, trimmed entry.2⟩

/-- How bound models are written. -/
def modelsCodec : Codec Models :=
  Codec.choice .models
    [Codec.reader Codec.text Models.line,
     Codec.reader (Codec.list Codec.text) Models.list,
     Codec.reader (Codec.table Codec.text) Models.named]
    fun
      | .line text => Codec.text.write text
      | .list tokens => (Codec.list Codec.text).write tokens
      | .named tokens => (Codec.table Codec.text).write tokens

end Blueprint.Document
