import Blueprint.Naming.Words

namespace Blueprint.Naming

/-!
# Plurals

The English plural of a word, by a short list of irregular and uncountable words and three rules
for endings. The capital at the head of a word is kept.
-/

/-- Words with a plural of their own. -/
def irregular : List (String × String) :=
  [("person", "people"), ("man", "men"), ("woman", "women"), ("child", "children"),
   ("mouse", "mice"), ("goose", "geese"), ("foot", "feet"), ("tooth", "teeth"), ("ox", "oxen")]

/-- Words that are their own plural. -/
def uncountable : List String :=
  ["data", "equipment", "fish", "information", "metadata", "money", "news", "series", "sheep",
   "species"]

/-- Whether a word ends like `status`, `box`, `quiz`, `church` or `dish`. -/
def endsInHiss
    (word : List Char) :
    Bool :=
  match word.reverse with
  | 's' :: _ => true
  | 'x' :: _ => true
  | 'z' :: _ => true
  | 'h' :: 'c' :: _ => true
  | 'h' :: 's' :: _ => true
  | _ => false

/-- Whether a word ends in a `y` after a character that is no vowel. -/
def endsInConsonantY
    (word : List Char) :
    Bool :=
  match word.reverse with
  | 'y' :: before :: _ => !(['a', 'e', 'i', 'o', 'u'].contains before)
  | _ => false

/-- The plural of a word that is neither irregular nor uncountable. -/
def regularPlural
    (word : List Char) :
    List Char :=
  if endsInHiss (Letter.lowerText word) then
    word ++ ['e', 's']
  else if endsInConsonantY (Letter.lowerText word) then
    word.dropLast ++ ['i', 'e', 's']
  else
    word ++ ['s']

/-- The plural of a single word, as characters. -/
def pluralize
    (word : List Char) :
    List Char :=
  let small := String.ofList (Letter.lowerText word)
  if uncountable.contains small then
    word
  else
    match irregular.lookup small with
    | some form =>
        match word with
        | [] => form.toList
        | letter :: _ => if Letter.isUpper letter then capitalize form.toList else form.toList
    | none => regularPlural word

/-- Apply a change to the last element of a list. -/
def changeLast
    {α : Type}
    (change : α → α) :
    List α →
    List α
  | [] => []
  | [last] => [change last]
  | first :: second :: rest => first :: changeLast change (second :: rest)

/-- The plural of a single word: `Category` is `Categories`. -/
def plural
    (word : String) :
    String :=
  String.ofList (pluralize word.toList)

/-- The studly form with its last word in the plural: `BlogPost` is `BlogPosts`. -/
def pluralStudly
    (name : String) :
    String :=
  String.ofList (changeLast pluralize ((split name.toList).map capitalize)).flatten

end Blueprint.Naming
