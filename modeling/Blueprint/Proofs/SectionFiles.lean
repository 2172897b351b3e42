import Mathlib.Data.List.Find
import Blueprint.Loading
import Blueprint.Proofs.Steps

namespace Blueprint

/-!
# Section files

What stands in a directory decides what is loaded from it, and little of that counts: a section is
taken from the first of its possible names under which there is a file. A name under which there is
a directory is passed over as if there were nothing; a first file that is blank, or wrong, or no
text is not. So two trees load alike when they have files under the same possible names and the
same contents in the files that come first.
-/

open Loading

/-- A file with this content stands in a directory under a name. -/
def HasFile
    (entries : List (String × FileTree))
    (name : String)
    (content : List UInt8) :
    Prop :=
  Entries.get? name entries = some (.file content)

/-- No file stands in a directory under a name, though a directory may. -/
def LacksFile
    (entries : List (String × FileTree))
    (name : String) :
    Prop :=
  ∀ content, ¬HasFile entries name content

/-- The first file under one of the stems, whose own order counts before that of the extensions. -/
inductive FirstFile
    (entries : List (String × FileTree)) :
    List String →
    String →
    List UInt8 →
    Prop
  | yml
      (stem : String)
      (rest : List String)
      (content : List UInt8)
      (isFile : HasFile entries (stem ++ ".yml") content) :
      FirstFile entries (stem :: rest) (stem ++ ".yml") content
  | yaml
      (stem : String)
      (rest : List String)
      (content : List UInt8)
      (noYml : LacksFile entries (stem ++ ".yml"))
      (isFile : HasFile entries (stem ++ ".yaml") content) :
      FirstFile entries (stem :: rest) (stem ++ ".yaml") content
  | later
      (stem : String)
      (rest : List String)
      (name : String)
      (content : List UInt8)
      (noYml : LacksFile entries (stem ++ ".yml"))
      (noYaml : LacksFile entries (stem ++ ".yaml"))
      (first : FirstFile entries rest name content) :
      FirstFile entries (stem :: rest) name content

/-- There is no file under any of the stems. -/
def NoFile
    (entries : List (String × FileTree))
    (stems : List String) :
    Prop :=
  ∀ stem ∈ stems, LacksFile entries (stem ++ ".yml") ∧ LacksFile entries (stem ++ ".yaml")

/-- What a section is, by the entries of the directory that it is loaded from. -/
inductive Section.Gives
    {α : Type}
    (part : Section α)
    (directory : String)
    (entries : List (String × FileTree)) :
    Except LoadError α →
    Prop
  | absent
      (noFile : NoFile entries part.stems) :
      part.Gives directory entries (.ok part.blank)
  | unreadable
      (name : String)
      (content : List UInt8)
      (first : FirstFile entries part.stems name content)
      (notText : String.fromUTF8? ⟨content.toArray⟩ = none) :
      part.Gives directory entries (.error (.access (inDirectory directory name) .notText))
  | blank
      (name : String)
      (content : List UInt8)
      (text : String)
      (first : FirstFile entries part.stems name content)
      (isText : String.fromUTF8? ⟨content.toArray⟩ = some text)
      (isBlank : isBlankText text = true) :
      part.Gives directory entries (.ok part.blank)
  | parsed
      (name : String)
      (content : List UInt8)
      (text : String)
      (first : FirstFile entries part.stems name content)
      (isText : String.fromUTF8? ⟨content.toArray⟩ = some text)
      (notBlank : isBlankText text = false) :
      part.Gives directory entries
        (((Yaml.readTree part.codec.scope text).read part.codec).mapError .yaml)

/-- What a document is, by the entries of the directory that it is loaded from: its three sections,
or the error of the first section that has one. -/
inductive Document.Gives
    (directory : String)
    (entries : List (String × FileTree)) :
    Except LoadError Document →
    Prop
  | whole
      (database : Document.Database)
      (http : Document.Http)
      (auth : Document.Auth)
      (givesDatabase : Section.database.Gives directory entries (.ok database))
      (givesHttp : Section.http.Gives directory entries (.ok http))
      (givesAuth : Section.auth.Gives directory entries (.ok auth)) :
      Document.Gives directory entries (.ok ⟨database, http, auth⟩)
  | databaseFails
      (cause : LoadError)
      (fails : Section.database.Gives directory entries (.error cause)) :
      Document.Gives directory entries (.error cause)
  | httpFails
      (database : Document.Database)
      (cause : LoadError)
      (givesDatabase : Section.database.Gives directory entries (.ok database))
      (fails : Section.http.Gives directory entries (.error cause)) :
      Document.Gives directory entries (.error cause)
  | authFails
      (database : Document.Database)
      (http : Document.Http)
      (cause : LoadError)
      (givesDatabase : Section.database.Gives directory entries (.ok database))
      (givesHttp : Section.http.Gives directory entries (.ok http))
      (fails : Section.auth.Gives directory entries (.error cause)) :
      Document.Gives directory entries (.error cause)

/-- Two directories have files under the same names of a section, and the same content in the first
of them. -/
structure SameFiles
    (stems : List String)
    (entries others : List (String × FileTree)) :
    Prop where
  lacksYml_iff :
    ∀ stem ∈ stems, LacksFile entries (stem ++ ".yml") ↔ LacksFile others (stem ++ ".yml")
  lacksYaml_iff :
    ∀ stem ∈ stems, LacksFile entries (stem ++ ".yaml") ↔ LacksFile others (stem ++ ".yaml")
  hasFirst :
    ∀ name content, FirstFile entries stems name content → HasFile others name content

/-- Two directories are alike in all that counts for a document. -/
structure SameSections
    (entries others : List (String × FileTree)) :
    Prop where
  database : SameFiles Section.database.stems entries others
  http : SameFiles Section.http.stems entries others
  auth : SameFiles Section.auth.stems entries others

/-! Paths of names in a directory. -/

/-- A slash ends one name and starts another. -/
theorem namesFrom_append_slash
    (current before after : List Char) :
    namesFrom current (before ++ '/' :: after) =
      namesFrom current before ++ namesFrom [] after := by
  induction before generalizing current with
  | nil =>
      simp [namesFrom]
  | cons letter rest inductionHypothesis =>
      rw [List.cons_append, namesFrom, namesFrom]
      split
      · rw [inductionHypothesis, List.cons_append]
      · exact inductionHypothesis _

/-- Without a slash there is one name. -/
theorem namesFrom_of_notMem
    {current text : List Char}
    (single : '/' ∉ text) :
    namesFrom current text = [String.ofList (current ++ text)] := by
  induction text generalizing current with
  | nil =>
      simp [namesFrom]
  | cons letter rest inductionHypothesis =>
      simp only [List.mem_cons, not_or] at single
      rw [namesFrom, if_neg fun isSlash => single.1 isSlash.symm, inductionHypothesis single.2]
      simp

/-- The path of a name in a directory has the names of the directory before that name, except for
the empty one after a slash at the end. -/
theorem exists_namesOf_inDirectory
    {directory : String}
    (notEmpty : directory ≠ "")
    {name : String}
    (single : '/' ∉ name.toList) :
    ∃ before after,
      namesOf directory = before ++ after ∧
        (after = [] ∨ after = [""]) ∧ namesOf (inDirectory directory name) = before ++ [name] := by
  have nameOnly : namesFrom [] name.toList = [name] := by
    simp [namesFrom_of_notMem single]
  unfold inDirectory
  split
  · next ends =>
    have slashed := ends.resolve_left notEmpty
    obtain ⟨before, shape⟩ : "/".toList <:+ directory.toSlice.copy.toList :=
      String.Slice.endsWith_string_iff.mp slashed
    have shape : directory.toList = before ++ '/' :: [] := by
      simpa using shape.symm
    refine ⟨namesFrom [] before, [""], ?_, .inr rfl, ?_⟩
    · simp [namesOf, shape, namesFrom_append_slash, namesFrom]
    · simp [namesOf, shape, namesFrom_append_slash, nameOnly]
  · refine ⟨namesOf directory, [], by simp, .inl rfl, ?_⟩
    simp [namesOf, namesFrom_append_slash, nameOnly]

/-- The path of a name in a directory has the letters of both, and perhaps a slash. -/
theorem mem_inDirectory
    {directory name : String}
    {letter : Char}
    (member : letter ∈ (inDirectory directory name).toList) :
    letter ∈ directory.toList ∨ letter = '/' ∨ letter ∈ name.toList := by
  unfold inDirectory at member
  split at member
  · rw [String.toList_append, List.mem_append] at member
    exact member.imp_right .inr
  · simpa [or_assoc] using member

namespace FileTree

/-- Where names lead decides where they lead together with further names. -/
theorem exists_follow_append
    (around : List FileTree)
    (here : FileTree)
    (names : List String) :
    ∃ place : Except AccessFailure (List FileTree × FileTree),
      ∀ further,
        follow around here (names ++ further) =
          match place with
          | .error reason => .error reason
          | .ok (outer, inner) => follow outer inner further := by
  induction names generalizing around here with
  | nil =>
      exact ⟨.ok (around, here), fun _ => rfl⟩
  | cons name rest inductionHypothesis =>
      cases here with
      | file content =>
          exact ⟨.error .notDirectory, fun _ => rfl⟩
      | directory entries =>
          simp only [List.cons_append, follow]
          split
          · exact inductionHypothesis around _
          · split
            · cases around with
              | nil =>
                  exact inductionHypothesis [] _
              | cons outer others =>
                  exact inductionHypothesis others outer
            · cases Entries.get? name entries with
              | none =>
                  exact ⟨.error .missing, fun _ => rfl⟩
              | some inner =>
                  exact inductionHypothesis _ inner

/-- A path that leads anywhere leads there by its names. -/
theorem follow_of_at?
    {tree : FileTree}
    {path : String}
    {inner : FileTree}
    (found : tree.at? path = .ok inner) :
    path ≠ "" ∧ '\x00' ∉ path.toList ∧ follow [] tree (namesOf path) = .ok inner := by
  unfold at? at found
  split at found
  · cases found
  · next notEmpty =>
    split at found
    · cases found
    · next noZero =>
      exact ⟨notEmpty, noZero, found⟩

/-- A name that leads to an entry of a directory. -/
structure IsEntryName
    (name : String) :
    Prop where
  single : '/' ∉ name.toList
  noZero : '\x00' ∉ name.toList
  ne_empty : name ≠ ""
  ne_here : name ≠ "."
  ne_back : name ≠ ".."

/-- Where the path of an entry leads is settled by its names. -/
theorem at?_inDirectory_eq_follow
    {tree : FileTree}
    {path : String}
    (noZero : '\x00' ∉ path.toList)
    {name : String}
    (isEntryName : IsEntryName name) :
    tree.at? (inDirectory path name) = follow [] tree (namesOf (inDirectory path name)) := by
  have notEmpty : inDirectory path name ≠ "" := by
    unfold inDirectory
    split <;> simp [isEntryName.ne_empty]
  have noZeroInside : '\x00' ∉ (inDirectory path name).toList := by
    intro member
    rcases mem_inDirectory member with inPath | isSlash | inName
    · exact noZero inPath
    · exact absurd isSlash (by decide)
    · exact isEntryName.noZero inName
  rw [at?, if_neg notEmpty, if_neg noZeroInside]

/-- From a directory the name of an entry leads to that entry. -/
theorem follow_entry
    (around : List FileTree)
    (entries : List (String × FileTree))
    {name : String}
    (isEntryName : IsEntryName name) :
    follow around (.directory entries) [name] =
      match Entries.get? name entries with
      | none => .error .missing
      | some inner => .ok inner := by
  have stays : ¬(name = "" ∨ name = ".") :=
    fun steps => steps.elim isEntryName.ne_empty isEntryName.ne_here
  cases found : Entries.get? name entries <;>
    simp only [follow, if_neg stays, if_neg isEntryName.ne_back, found]

/-- The path of a name in a directory leads to the entry of that name. -/
theorem at?_inDirectory
    {tree : FileTree}
    {path : String}
    {entries : List (String × FileTree)}
    (found : tree.at? path = .ok (.directory entries))
    {name : String}
    (isEntryName : IsEntryName name) :
    tree.at? (inDirectory path name) =
      match Entries.get? name entries with
      | none => .error .missing
      | some inner => .ok inner := by
  obtain ⟨notEmpty, noZero, found⟩ := follow_of_at? found
  obtain ⟨before, after, names, isEnd, namesInside⟩ :=
    exists_namesOf_inDirectory notEmpty isEntryName.single
  obtain ⟨place, leads⟩ := exists_follow_append [] tree before
  rw [names, leads] at found
  rw [at?_inDirectory_eq_follow noZero isEntryName, namesInside, leads]
  cases place with
  | error reason =>
      cases found
  | ok reached =>
      obtain ⟨outer, inner⟩ := reached
      -- The empty name after a slash stays where it is, so the directory is reached before it.
      have isInner : inner = .directory entries := by
        rcases isEnd with rfl | rfl
        · exact Except.ok.inj found
        · cases inner with
          | file content =>
              cases found
          | directory others =>
              exact Except.ok.inj found
      rw [isInner]
      exact follow_entry outer entries isEntryName

end FileTree

/-! The file that a section is taken from. -/

/-- Whether a file stands in a directory under a name. -/
def holdsFile
    (entries : List (String × FileTree))
    (name : String) :
    Bool :=
  match Entries.get? name entries with
  | some (.file _) => true
  | _ => false

variable {entries others : List (String × FileTree)}

/-- No file has a name exactly when the test for one fails. -/
theorem lacksFile_iff
    {name : String} :
    LacksFile entries name ↔ holdsFile entries name = false := by
  unfold LacksFile HasFile holdsFile
  cases Entries.get? name entries with
  | none =>
      simp
  | some tree =>
      cases tree <;> simp

theorem HasFile.holdsFile
    {name : String}
    {content : List UInt8}
    (hasFile : HasFile entries name content) :
    holdsFile entries name = true := by
  unfold HasFile at hasFile
  simp [Blueprint.holdsFile, hasFile]

theorem exists_hasFile
    {name : String}
    (holds : holdsFile entries name = true) :
    ∃ content, HasFile entries name content := by
  by_contra none
  have lacks : LacksFile entries name := fun content hasFile => none ⟨content, hasFile⟩
  simp [lacksFile_iff.mp lacks] at holds

/-- The first file is one of the directory. -/
theorem FirstFile.hasFile
    {stems : List String}
    {name : String}
    {content : List UInt8}
    (first : FirstFile entries stems name content) :
    HasFile entries name content := by
  induction first with
  | yml _ _ _ isFile =>
      exact isFile
  | yaml _ _ _ _ isFile =>
      exact isFile
  | later _ _ _ _ _ _ _ inductionHypothesis =>
      exact inductionHypothesis

/-- The possible names of a section under one stem. -/
def namesOfStem
    (stem : String) :
    List String :=
  [stem ++ ".yml", stem ++ ".yaml"]

/-- The possible names of a section are those of its stems, stem after stem. -/
theorem candidates_eq
    {α : Type}
    (part : Section α) :
    part.candidates = part.stems.flatMap namesOfStem := by
  simp only [Section.candidates, List.map_cons, List.map_nil, String.append_assoc]
  rfl

example :
    Section.auth.candidates =
      ["auth.yml", "auth.yaml", "authentication.yml", "authentication.yaml",
        "authorization.yml", "authorization.yaml"] := by
  decide

/-- The first of the possible names under which there is a file is that of the first file. -/
theorem firstFile_iff
    {stems : List String}
    {name : String}
    {content : List UInt8} :
    FirstFile entries stems name content ↔
      (stems.flatMap namesOfStem).find? (holdsFile entries) = some name ∧
        HasFile entries name content := by
  constructor
  · intro first
    refine ⟨?_, first.hasFile⟩
    induction first with
    | yml stem rest content isFile =>
        simp [namesOfStem, isFile.holdsFile]
    | yaml stem rest content noYml isFile =>
        simp [namesOfStem, isFile.holdsFile, lacksFile_iff.mp noYml]
    | later stem rest name content noYml noYaml first inductionHypothesis =>
        simp [namesOfStem, lacksFile_iff.mp noYml, lacksFile_iff.mp noYaml, inductionHypothesis]
  · rintro ⟨found, isFile⟩
    induction stems with
    | nil =>
        simp at found
    | cons stem rest inductionHypothesis =>
        rw [List.flatMap_cons, namesOfStem, List.cons_append, List.cons_append,
          List.nil_append] at found
        cases yml : holdsFile entries (stem ++ ".yml") with
        | true =>
            rw [List.find?_cons_of_pos yml] at found
            cases found
            exact .yml stem rest content isFile
        | false =>
            have noYml := lacksFile_iff.mpr yml
            rw [List.find?_cons_of_neg (by simp [yml])] at found
            cases yaml : holdsFile entries (stem ++ ".yaml") with
            | true =>
                rw [List.find?_cons_of_pos yaml] at found
                cases found
                exact .yaml stem rest content noYml isFile
            | false =>
                have noYaml := lacksFile_iff.mpr yaml
                rw [List.find?_cons_of_neg (by simp [yaml])] at found
                exact .later stem rest name content noYml noYaml (inductionHypothesis found)

theorem noFile_iff
    {stems : List String} :
    NoFile entries stems ↔ (stems.flatMap namesOfStem).find? (holdsFile entries) = none := by
  simp [NoFile, namesOfStem, lacksFile_iff, or_imp, forall_and]

/-- The stems of a section are names without slashes and without zero characters. -/
def Section.IsPlain
    {α : Type}
    (part : Section α) :
    Prop :=
  ∀ stem ∈ part.stems, ∀ letter ∈ stem.toList, letter ≠ '/' ∧ letter ≠ '\x00'

/-- A plain stem with a plain ending is the name of an entry. -/
theorem isEntryName_append
    {stem ending : String}
    (stemPlain : ∀ letter ∈ stem.toList, letter ≠ '/' ∧ letter ≠ '\x00')
    (endingPlain : ∀ letter ∈ ending.toList, letter ≠ '/' ∧ letter ≠ '\x00')
    (long : 2 < ending.length) :
    FileTree.IsEntryName (stem ++ ending) := by
  have longer : 2 < (stem ++ ending).length := by
    rw [String.length_append]
    omega
  have plain : ∀ letter ∈ (stem ++ ending).toList, letter ≠ '/' ∧ letter ≠ '\x00' := by
    intro letter member
    rw [String.toList_append, List.mem_append] at member
    exact member.elim (stemPlain letter) (endingPlain letter)
  refine ⟨fun member => (plain _ member).1 rfl, fun member => (plain _ member).2 rfl, ?_, ?_, ?_⟩
  all_goals
    intro same
    rw [same] at longer
    exact absurd longer (by decide)

variable {α : Type} {part : Section α}

/-- Every possible name of a section is the name of an entry. -/
theorem isEntryName_of_mem_candidates
    (plain : part.IsPlain)
    {name : String}
    (member : name ∈ part.stems.flatMap namesOfStem) :
    FileTree.IsEntryName name := by
  obtain ⟨stem, isStem, ofStem⟩ := List.mem_flatMap.mp member
  simp only [namesOfStem, List.mem_cons, List.not_mem_nil, or_false] at ofStem
  rcases ofStem with rfl | rfl <;>
    exact isEntryName_append (plain stem isStem) (by simp) (by decide)

variable {tree : FileTree} {path : String}

/-- The path of an entry leads to a file exactly when the entry is one. -/
theorem isFile_inDirectory
    (found : tree.at? path = .ok (.directory entries))
    {name : String}
    (isEntryName : FileTree.IsEntryName name) :
    tree.isFile (inDirectory path name) = holdsFile entries name := by
  rw [FileTree.isFile, FileTree.at?_inDirectory found isEntryName, holdsFile]
  cases Entries.get? name entries with
  | none =>
      rfl
  | some inner =>
      cases inner <;> rfl

/-- What is read at the path of a file is its content, if that is text. -/
theorem text_inDirectory
    (found : tree.at? path = .ok (.directory entries))
    {name : String}
    (isEntryName : FileTree.IsEntryName name)
    {content : List UInt8}
    (isFile : HasFile entries name content) :
    text tree (inDirectory path name) =
      match String.fromUTF8? ⟨content.toArray⟩ with
      | some text => .ok text
      | none => .error (.access (inDirectory path name) .notText) := by
  have leads : tree.at? (inDirectory path name) = .ok (.file content) := by
    rw [FileTree.at?_inDirectory found isEntryName, isFile]
  rw [text, FileTree.text, leads]
  simp only [bind, Except.bind]
  cases String.fromUTF8? ⟨content.toArray⟩ <;> rfl

/-- The chosen path is that of the first possible name under which there is a file. -/
theorem chosen?_eq
    (plain : part.IsPlain)
    (found : tree.at? path = .ok (.directory entries)) :
    chosen? tree path part =
      ((part.stems.flatMap namesOfStem).find? (holdsFile entries)).map (inDirectory path) := by
  rw [chosen?, candidates_eq, List.find?_map]
  congr 1
  apply List.find?_congr
  intro name member
  exact isFile_inDirectory found (isEntryName_of_mem_candidates plain member)

/-! What a section and a document are. -/

/-- Without a file a section is blank. -/
theorem readSection_of_noFile
    (plain : part.IsPlain)
    (found : tree.at? path = .ok (.directory entries))
    (noFile : NoFile entries part.stems) :
    readSection tree path part = .ok part.blank := by
  rw [readSection, chosen?_eq plain found, noFile_iff.mp noFile]
  rfl

/-- A section is taken from its first file and from no other. -/
theorem readSection_of_firstFile
    (plain : part.IsPlain)
    (found : tree.at? path = .ok (.directory entries))
    {name : String}
    {content : List UInt8}
    (first : FirstFile entries part.stems name content) :
    readSection tree path part =
      match String.fromUTF8? ⟨content.toArray⟩ with
      | some text => (Yaml.read part.codec part.blank text).mapError .yaml
      | none => .error (.access (inDirectory path name) .notText) := by
  obtain ⟨isFirst, isFile⟩ := firstFile_iff.mp first
  have isEntryName := isEntryName_of_mem_candidates plain (List.mem_of_find?_eq_some isFirst)
  rw [readSection, chosen?_eq plain found, isFirst]
  simp only [Option.map_some, text_inDirectory found isEntryName isFile]
  cases String.fromUTF8? ⟨content.toArray⟩ <;> rfl

/-- What the entries give is what is read. -/
theorem readSection_of_gives
    (plain : part.IsPlain)
    (found : tree.at? path = .ok (.directory entries))
    {outcome : Except LoadError α}
    (gives : part.Gives path entries outcome) :
    readSection tree path part = outcome := by
  cases gives with
  | absent noFile =>
      exact readSection_of_noFile plain found noFile
  | unreadable name content first notText =>
      rw [readSection_of_firstFile plain found first, notText]
  | blank name content text first isText isBlank =>
      simp [readSection_of_firstFile plain found first, isText, Yaml.read, isBlank, Except.mapError]
  | parsed name content text first isText notBlank =>
      simp [readSection_of_firstFile plain found first, isText, Yaml.read, notBlank]

theorem gives_readSection
    (plain : part.IsPlain)
    (found : tree.at? path = .ok (.directory entries)) :
    part.Gives path entries (readSection tree path part) := by
  cases isFirst : (part.stems.flatMap namesOfStem).find? (holdsFile entries) with
  | none =>
      have noFile := noFile_iff.mpr isFirst
      rw [readSection_of_noFile plain found noFile]
      exact .absent noFile
  | some name =>
      obtain ⟨content, isFile⟩ := exists_hasFile (List.find?_some isFirst)
      have first := firstFile_iff.mpr ⟨isFirst, isFile⟩
      rw [readSection_of_firstFile plain found first]
      cases isText : String.fromUTF8? ⟨content.toArray⟩ with
      | none =>
          exact .unreadable name content first isText
      | some text =>
          cases isBlank : isBlankText text with
          | true =>
              simp only [Yaml.read, isBlank, ↓reduceIte]
              exact .blank name content text first isText isBlank
          | false =>
              simp only [Yaml.read, isBlank, Bool.false_eq_true, ↓reduceIte]
              exact .parsed name content text first isText isBlank

/-- The entries of a directory leave no choice of what a section of it is. -/
theorem Section.gives_iff
    (plain : part.IsPlain)
    (found : tree.at? path = .ok (.directory entries))
    {outcome : Except LoadError α} :
    part.Gives path entries outcome ↔ readSection tree path part = outcome := by
  constructor
  · exact readSection_of_gives plain found
  · rintro rfl
    exact gives_readSection plain found

theorem isPlain_database : Section.database.IsPlain := by
  simp [Section.IsPlain, Section.database]

theorem isPlain_http : Section.http.IsPlain := by
  simp [Section.IsPlain, Section.http]

theorem isPlain_auth : Section.auth.IsPlain := by
  simp [Section.IsPlain, Section.auth]

theorem isDirectory_of_found
    (found : tree.at? path = .ok (.directory entries)) :
    tree.isDirectory path = true := by
  rw [FileTree.isDirectory, found]

/-- The sections of a document are read in order and the first error among them counts. -/
theorem Document.gives_iff
    (found : tree.at? path = .ok (.directory entries))
    {outcome : Except LoadError Document} :
    Document.Gives path entries outcome ↔ Document.ofDirectory tree path = outcome := by
  have database {outcome} :
      Section.database.Gives path entries outcome ↔ readSection tree path .database = outcome :=
    Section.gives_iff isPlain_database found
  have http {outcome} :
      Section.http.Gives path entries outcome ↔ readSection tree path .http = outcome :=
    Section.gives_iff isPlain_http found
  have auth {outcome} :
      Section.auth.Gives path entries outcome ↔ readSection tree path .auth = outcome :=
    Section.gives_iff isPlain_auth found
  rw [Document.ofDirectory, if_pos (isDirectory_of_found found)]
  constructor
  · intro gives
    cases gives with
    | whole _ _ _ givesDatabase givesHttp givesAuth =>
        rw [database.mp givesDatabase, http.mp givesHttp, auth.mp givesAuth]
        rfl
    | databaseFails cause fails =>
        rw [database.mp fails]
        rfl
    | httpFails _ cause givesDatabase fails =>
        rw [database.mp givesDatabase, http.mp fails]
        rfl
    | authFails _ _ cause givesDatabase givesHttp fails =>
        rw [database.mp givesDatabase, http.mp givesHttp, auth.mp fails]
        rfl
  · rintro rfl
    cases isDatabase : readSection tree path .database with
    | error cause =>
        exact .databaseFails cause (database.mpr isDatabase)
    | ok databasePart =>
        cases isHttp : readSection tree path .http with
        | error cause =>
            exact .httpFails _ cause (database.mpr isDatabase) (http.mpr isHttp)
        | ok httpPart =>
            cases isAuth : readSection tree path .auth with
            | error cause =>
                exact .authFails _ _ cause (database.mpr isDatabase) (http.mpr isHttp)
                  (auth.mpr isAuth)
            | ok authPart =>
                exact .whole _ _ _ (database.mpr isDatabase) (http.mpr isHttp) (auth.mpr isAuth)

/-! Directories that are alike. -/

theorem SameFiles.holdsFile_eq
    {stems : List String}
    (same : SameFiles stems entries others)
    {name : String}
    (member : name ∈ stems.flatMap namesOfStem) :
    holdsFile others name = holdsFile entries name := by
  obtain ⟨stem, isStem, ofStem⟩ := List.mem_flatMap.mp member
  simp only [namesOfStem, List.mem_cons, List.not_mem_nil, or_false] at ofStem
  have lacks : LacksFile entries name ↔ LacksFile others name := by
    rcases ofStem with rfl | rfl
    · exact same.lacksYml_iff stem isStem
    · exact same.lacksYaml_iff stem isStem
  rw [lacksFile_iff, lacksFile_iff, ← Bool.not_eq_true, ← Bool.not_eq_true, not_iff_not,
    ← Bool.eq_iff_iff] at lacks
  exact lacks.symm

/-- Directories that are alike have the same first file. -/
theorem SameFiles.firstFile
    {stems : List String}
    (same : SameFiles stems entries others)
    {name : String}
    {content : List UInt8}
    (first : FirstFile entries stems name content) :
    FirstFile others stems name content := by
  refine firstFile_iff.mpr ⟨?_, same.hasFirst name content first⟩
  rw [List.find?_congr fun _ member => same.holdsFile_eq member]
  exact (firstFile_iff.mp first).1

theorem SameFiles.noFile
    {stems : List String}
    (same : SameFiles stems entries others)
    (noFile : NoFile entries stems) :
    NoFile others stems := by
  intro stem isStem
  obtain ⟨noYml, noYaml⟩ := noFile stem isStem
  exact ⟨(same.lacksYml_iff stem isStem).mp noYml, (same.lacksYaml_iff stem isStem).mp noYaml⟩

theorem SameFiles.gives
    (same : SameFiles part.stems entries others)
    {outcome : Except LoadError α}
    (gives : part.Gives path entries outcome) :
    part.Gives path others outcome := by
  cases gives with
  | absent noFile =>
      exact .absent (same.noFile noFile)
  | unreadable name content first notText =>
      exact .unreadable name content (same.firstFile first) notText
  | blank name content text first isText isBlank =>
      exact .blank name content text (same.firstFile first) isText isBlank
  | parsed name content text first isText notBlank =>
      exact .parsed name content text (same.firstFile first) isText notBlank

/-- Directories that are alike in every section give the same document. -/
theorem SameSections.gives
    (same : SameSections entries others)
    {outcome : Except LoadError Document}
    (gives : Document.Gives path entries outcome) :
    Document.Gives path others outcome := by
  cases gives with
  | whole database http auth givesDatabase givesHttp givesAuth =>
      exact .whole database http auth (same.database.gives givesDatabase)
        (same.http.gives givesHttp) (same.auth.gives givesAuth)
  | databaseFails cause fails =>
      exact .databaseFails cause (same.database.gives fails)
  | httpFails database cause givesDatabase fails =>
      exact .httpFails database cause (same.database.gives givesDatabase) (same.http.gives fails)
  | authFails database http cause givesDatabase givesHttp fails =>
      exact .authFails database http cause (same.database.gives givesDatabase)
        (same.http.gives givesHttp) (same.auth.gives fails)

/-- A path that leads to a directory is loaded as one. -/
theorem load_eq_ofDirectory
    (found : tree.at? path = .ok (.directory entries)) :
    Document.load tree path = Document.ofDirectory tree path := by
  rw [Document.load, if_pos (isDirectory_of_found found)]

/-- The entries of a directory decide what is loaded from it, and of those only the files under the
possible names of sections: under which of them there is one, and what the first of each section
holds. -/
theorem load_by_firstFiles
    (tree : FileTree)
    (path : String)
    (entries : List (String × FileTree))
    (found : tree.at? path = .ok (.directory entries)) :
    (∀ outcome, Document.ofDirectory tree path = outcome ↔ Document.Gives path entries outcome) ∧
      Document.load tree path = Document.ofDirectory tree path ∧
        ∀ other others,
          other.at? path = .ok (.directory others) →
          SameSections entries others →
          Document.ofDirectory other path = Document.ofDirectory tree path ∧
            Document.load other path = Document.load tree path := by
  refine ⟨fun outcome => (Document.gives_iff found).symm, load_eq_ofDirectory found, ?_⟩
  intro other others otherFound same
  have gives : Document.Gives path entries (Document.ofDirectory tree path) :=
    (Document.gives_iff found).mpr rfl
  have sameDocument : Document.ofDirectory other path = Document.ofDirectory tree path :=
    (Document.gives_iff otherFound).mp (same.gives gives)
  refine ⟨sameDocument, ?_⟩
  rw [load_eq_ofDirectory found, load_eq_ofDirectory otherFound, sameDocument]

/-- Two directories are alike in a section when they have files under the same possible names and
the same entry under the first of them. -/
theorem sameFiles_of_find?
    {stems : List String}
    (alike : ∀ name ∈ stems.flatMap namesOfStem, holdsFile others name = holdsFile entries name)
    (kept :
      ∀ name,
        (stems.flatMap namesOfStem).find? (holdsFile entries) = some name →
        Entries.get? name others = Entries.get? name entries) :
    SameFiles stems entries others where
  lacksYml_iff stem isStem := by
    have member : stem ++ ".yml" ∈ stems.flatMap namesOfStem :=
      List.mem_flatMap.mpr ⟨stem, isStem, by simp [namesOfStem]⟩
    rw [lacksFile_iff, lacksFile_iff, alike _ member]
  lacksYaml_iff stem isStem := by
    have member : stem ++ ".yaml" ∈ stems.flatMap namesOfStem :=
      List.mem_flatMap.mpr ⟨stem, isStem, by simp [namesOfStem]⟩
    rw [lacksFile_iff, lacksFile_iff, alike _ member]
  hasFirst name content first := by
    obtain ⟨isFirst, isFile⟩ := firstFile_iff.mp first
    rw [HasFile, kept name isFirst]
    exact isFile

/-- A directory with one model, a blank http section and other entries. Beside the model stands a
list that is an item of itself, which no reader looks into. -/
def tagSettings
    (unread : List (String × FileTree)) :
    List (String × FileTree) :=
  let notes := "notes: &notes [*notes, *notes]\n"
  let models := "models: \x7bTag: \x7bcolumns: \x7bid: id\x7d\x7d\x7d"
  ("db.yaml", .file (notes ++ models).toUTF8.data.toList) ::
    ("http.yml", .file " ".toUTF8.data.toList) :: unread

/-- Other entries under possible names: a directory and a file that is wrong but not the first. -/
def wrongModels : List (String × FileTree) :=
  [("database.yml", .directory []), ("models.yml", .file "models: [".toUTF8.data.toList)]

/-- Other entries of which none counts either. -/
def blankModels : List (String × FileTree) :=
  [("models.yml", .file []), ("auth.yml", .directory []), ("notes", .file [0xFF])]

/-- A wrong file that is not the first of its section changes nothing, nor does a directory under a
possible name. -/
theorem load_by_firstFiles_tagSettings :
    let tree := FileTree.directory [("config", .directory (tagSettings wrongModels))]
    let other := FileTree.directory [("config", .directory (tagSettings blankModels))]
    tree.at? "config" = .ok (.directory (tagSettings wrongModels)) ∧
      other.at? "config" = .ok (.directory (tagSettings blankModels)) ∧
      SameSections (tagSettings wrongModels) (tagSettings blankModels) ∧
      Document.load other "config" = Document.ofDirectory tree "config" ∧
      (Document.load tree "config").map (·.database.models.keys) = .ok ["Tag"] := by
  intro tree other
  have found : tree.at? "config" = .ok (.directory (tagSettings wrongModels)) := rfl
  have otherFound : other.at? "config" = .ok (.directory (tagSettings blankModels)) := rfl
  have same : SameSections (tagSettings wrongModels) (tagSettings blankModels) := by
    constructor
    · refine sameFiles_of_find? (by decide +kernel) fun name isFirst => ?_
      have first : (Section.database.stems.flatMap namesOfStem).find?
          (holdsFile (tagSettings wrongModels)) = some "db.yaml" := by decide +kernel
      cases isFirst.symm.trans first
      rfl
    · refine sameFiles_of_find? (by decide +kernel) fun name isFirst => ?_
      have first : (Section.http.stems.flatMap namesOfStem).find?
          (holdsFile (tagSettings wrongModels)) = some "http.yml" := by decide +kernel
      cases isFirst.symm.trans first
      rfl
    · refine sameFiles_of_find? (by decide +kernel) fun name isFirst => ?_
      have first : (Section.auth.stems.flatMap namesOfStem).find?
          (holdsFile (tagSettings wrongModels)) = none := by decide +kernel
      cases isFirst.symm.trans first
  obtain ⟨_, loads, alike⟩ := load_by_firstFiles tree "config" _ found
  have sameLoad := (alike other _ otherFound same).2
  exact ⟨found, otherFound, same, sameLoad.trans loads, by decide +kernel⟩

end Blueprint
