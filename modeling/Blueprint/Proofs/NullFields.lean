import Blueprint.Document
import Blueprint.Proofs.NullMembers

namespace Blueprint

/-!
# Null fields of documents

A field of a document that is null is a field that is left out: any null members of the records of
a document may be left out of its text, in any part of it, and the same document is read, or the
same fault is met.
-/

open Json

namespace Document

/-! Where the records of a document stand. -/

/-- A relation among columns. -/
def columnLayout : Layout :=
  .record [("relation", .free)]

/-- An explicit primary key. -/
def primaryLayout : Layout :=
  .record [("column", .free), ("type", .free), ("incrementing", .free)]

/-- The columns of timestamps. -/
def timestampsLayout : Layout :=
  .record [("created_at", .free), ("updated_at", .free)]

/-- A model. -/
def modelLayout : Layout :=
  .record
    [("columns", .table columnLayout), ("primary", primaryLayout), ("table", .free),
     ("type", .free), ("perPage", .free), ("fillable", .free), ("scopes", .free),
     ("events", .free), ("route", .free), ("json", .free), ("repository", .free),
     ("factory", .free), ("timestamps", timestampsLayout), ("softDeletes", .free)]

/-- The database section. -/
def databaseLayout : Layout :=
  .record
    [("namespace", .free), ("models", .table modelLayout),
     ("migrations", .table (.table columnLayout))]

/-- A middleware. -/
def middlewareLayout : Layout :=
  .record [("name", .free), ("terminable", .free)]

/-- The options of a resource controller. -/
def resourceLayout : Layout :=
  .record
    [("models", .free), ("json", .free), ("api", .free), ("only", .free), ("except", .free)]

/-- An action. -/
def actionLayout : Layout :=
  .record
    [("route", .free), ("authorize", .free), ("validate", .free), ("models", .free),
     ("queries", .free), ("save", .free), ("delete", .free), ("fire", .free), ("notify", .free),
     ("flash", .free), ("redirect", .free), ("view", .free)]

/-- A controller. -/
def controllerLayout : Layout :=
  .record
    [("invoke", .free), ("resource", resourceLayout), ("middleware", .free),
     ("actions", .table actionLayout)]

/-- The HTTP section. -/
def httpLayout : Layout :=
  .record
    [("namespace", .free), ("middleware", .table middlewareLayout),
     ("controllers", .table controllerLayout)]

/-- A form request. -/
def formLayout : Layout :=
  .record [("authorize", .free), ("rules", .free)]

/-- The authorization section. -/
def authLayout : Layout :=
  .record [("gates", .free), ("policies", .free), ("forms", .table formLayout)]

/-- A whole document. -/
def layout : Layout :=
  .record [("database", databaseLayout), ("http", httpLayout), ("auth", authLayout)]

/-! Columns. -/

/-- Two lists of members are alike but for a null under one name. -/
structure AlikeBut
    (name : String)
    (members others : List (String × Value)) :
    Prop where
  null : Entries.get? name members = some .null
  absent : Entries.get? name others = none
  same : ∀ other, other ≠ name → Entries.get? other members = Entries.get? other others

/-- Members that are alike but for a name stay so when another name is written to both. -/
theorem AlikeBut.insert
    {name : String}
    {members others : List (String × Value)}
    (alike : AlikeBut name members others)
    {other : String}
    (different : other ≠ name)
    (value : Value) :
    AlikeBut name (Entries.insert other value members) (Entries.insert other value others) where
  null := by rw [Entries.get?_insert, if_neg different, alike.null]
  absent := by rw [Entries.get?_insert, if_neg different, alike.absent]
  same asked isOther := by rw [Entries.get?_insert, Entries.get?_insert, alike.same asked isOther]

/-- A column is judged by the relation in it, which may as well be left out as be null. -/
theorem AlikeBut.ofValue_eq
    {name : String}
    {members others : List (String × Value)}
    (alike : AlikeBut name members others) :
    Column.ofValue (.object members) = Column.ofValue (.object others) := by
  by_cases isRelation : name = "relation"
  · subst isRelation
    simp only [Column.ofValue, alike.null, alike.absent]
  · simp only [Column.ofValue, alike.same "relation" (Ne.symm isRelation)]

/-- The column of members that are read after others. -/
def columnAfter
    (members : List (String × Value))
    (rest : List (String × Value)) :
    Except Fault Column := do
  let read ← accumulate Node.valueEntry members (Node.ofMembers rest)
  Column.ofValue (.object read)

/-- What is read of a column does not depend on a member that it never asks for. -/
theorem AlikeBut.columnAfter_eq
    {name : String}
    {members others rest : List (String × Value)}
    (alike : AlikeBut name members others)
    (unnamed : name ∉ Entries.names rest) :
    columnAfter members rest = columnAfter others rest := by
  induction rest generalizing members others with
  | nil =>
      exact alike.ofValue_eq
  | cons member rest inductionHypothesis =>
      simp only [Entries.names, List.map_cons, List.mem_cons, not_or] at unnamed
      simp only [columnAfter, Node.ofMembers, accumulate_cons, Node.valueEntry, Node.text]
      cases (Node.ofValue member.2).value with
      | error cause =>
          rfl
      | ok value =>
          exact inductionHypothesis (alike.insert (Ne.symm unnamed.1) value) unnamed.2

/-- A column is read by collecting its members first. -/
theorem read_column
    (members : List (String × Value)) :
    columnCodec.read (Node.ofValue (.object members)) = columnAfter [] members := by
  simp only [columnCodec, Node.ofValue, Node.value, Node.valueEntries_eq, columnAfter, bind_assoc]
  rfl

/-- The members of a column are collected in two parts, one after the other. -/
theorem columnAfter_append
    (members before after : List (String × Value)) :
    columnAfter members (before ++ after) = (do
      let read ← accumulate Node.valueEntry members (Node.ofMembers before)
      columnAfter read after) := by
  simp only [columnAfter, Node.ofMembers_eq, List.map_append, accumulate_append, bind_assoc]

/-- A name that no member has is not among the collected ones. -/
theorem get?_of_valueEntries
    {name : String}
    {members read : List (String × Value)}
    (unnamed : name ∉ Entries.names members)
    (done : accumulate Node.valueEntry [] (Node.ofMembers members) = .ok read) :
    Entries.get? name read = none := by
  refine accumulate_invariant (fun read => Entries.get? name read = none) rfl ?_ done
  intro former entry next isEntry absent stepped
  rw [Node.ofMembers_eq] at isEntry
  obtain ⟨member, isMember, rfl⟩ := List.mem_map.mp isEntry
  have different : member.1 ≠ name := fun same => unnamed (same ▸ List.mem_map_of_mem isMember)
  simp only [Node.valueEntry, bind_eq_ok_iff, pure_eq_ok_iff] at stepped
  obtain ⟨_, named, value, _, rfl⟩ := stepped
  cases named
  rw [Entries.get?_insert, if_neg different, absent]

/-- No part of a column is a record of its own. -/
theorem layout_of_column
    {name : String}
    {layout : Layout}
    (member : (name, layout) ∈ [("relation", Layout.free)]) :
    layout = .free := by
  simpa using congrArg Prod.snd (List.mem_singleton.mp member)

/-- A relation among columns may have a null for its line, as if it had none. -/
theorem ignores_column : Codec.Ignores columnLayout columnCodec.read := by
  intro depth value other fits omits
  cases omits with
  | @here _ before after name =>
      cases fits with
      | object distinct _ =>
          simp only [Entries.names, List.map_append, List.map_cons, List.nodup_append,
            List.nodup_cons] at distinct
          obtain ⟨_, ⟨notAfter, _⟩, apart⟩ := distinct
          have notBefore : name ∉ Entries.names before :=
            fun present => apart name present name (by simp) rfl
          rw [read_column, read_column, columnAfter_append, columnAfter_append]
          cases done : accumulate Node.valueEntry [] (Node.ofMembers before) with
          | error cause =>
              rfl
          | ok read =>
              have absent := get?_of_valueEntries notBefore done
              have alike : AlikeBut name (Entries.insert name .null read) read := {
                null := by rw [Entries.get?_insert, if_pos rfl]
                absent := absent
                same := fun other different => by
                  rw [Entries.get?_insert, if_neg (Ne.symm different)] }
              exact alike.columnAfter_eq notAfter
  | field known omits =>
      have member := (Entries.get?_eq_some_iff (by simp [Entries.names])).mp known
      exact nomatch layout_of_column member ▸ omits
  | place known omits =>
      exact nomatch layout_of_column (List.mem_of_getElem? known) ▸ omits

/-! Records. -/

open Codec

/-- The parts of a primary key may be null. -/
theorem ignores_primaryBlock : Ignores primaryLayout primaryBlockCodec.read := by
  refine ignores_record ⟨?_, ?_⟩
  · exact .cons (follows_free rfl) <| .cons (follows_free rfl) <| .cons (follows_free rfl) <| .nil
  · simp only [List.pairwise_cons, List.forall_mem_cons]
    and_intros <;> first | exact apart_field fun _ _ _ => rfl | simp

/-- The choice between a switch and a block of a primary key is not turned by a null. -/
theorem ignores_primary : Ignores primaryLayout primaryCodec.read := by
  refine ignores_choice ?_
  simp only [List.forall_mem_cons]
  exact ⟨ignores_reader Primary.toggle (ignores_truth _),
    ignores_reader Primary.block ignores_primaryBlock, by simp⟩

/-- Columns of timestamps may be null, in a block of them only. -/
theorem ignores_timestamps : Ignores timestampsLayout timestampsCodec.read := by
  have leavable :
      Leavable ⟨none, none⟩ timestampFields [("created_at", .free), ("updated_at", .free)] := by
    refine ⟨.cons (follows_free rfl) <| .cons (follows_free rfl) <| .nil, ?_⟩
    simp only [timestampFields, List.pairwise_cons, List.forall_mem_cons]
    and_intros <;> first | exact apart_field fun _ _ _ => rfl | simp
  refine ignores_choice ?_
  simp only [List.forall_mem_cons]
  refine ⟨ignores_reader Timestamps.toggle (ignores_truth _), ?_, by simp⟩
  intro depth value other fits omits
  exact congrArg (Except.map Timestamps.columns)
    (ignores_readBlock leavable depth value other fits omits)

/-- Columns ignore nulls one by one, since a table has no optional names. -/
theorem ignores_columns : Ignores (.table columnLayout) columnsCodec.read :=
  ignores_table ignores_column

/-- Every field of a model may be null, and so may what stands in its columns and blocks. -/
theorem ignores_model : Ignores modelLayout modelCodec.read := by
  refine ignores_record ⟨?_, ?_⟩
  · exact .cons (follows_field (ignores_optional ignores_columns) rfl) <|
      .cons (follows_field (ignores_optional ignores_primary) rfl) <|
      .cons (follows_free rfl) <| .cons (follows_free rfl) <| .cons (follows_free rfl) <|
      .cons (follows_free rfl) <| .cons (follows_free rfl) <| .cons (follows_free rfl) <|
      .cons (follows_free rfl) <| .cons (follows_free rfl) <| .cons (follows_free rfl) <|
      .cons (follows_free rfl) <|
      .cons (follows_field (ignores_optional ignores_timestamps) rfl) <|
      .cons (follows_free rfl) <| .nil
  · simp only [modelFields, List.pairwise_cons, List.forall_mem_cons]
    and_intros <;> first | exact apart_field fun _ _ _ => rfl | simp

/-- The models and migrations of a database may be null as a whole and in every model. -/
theorem ignores_database : Ignores databaseLayout databaseCodec.read := by
  refine ignores_record ⟨?_, ?_⟩
  · exact .cons (follows_free rfl) <|
      .cons (follows_field (ignores_defaulted ∅ (ignores_table ignores_model)) rfl) <|
      .cons (follows_field (ignores_defaulted ∅ (ignores_table ignores_columns)) rfl) <| .nil
  · simp only [List.pairwise_cons, List.forall_mem_cons]
    and_intros <;> first | exact apart_field fun _ _ _ => rfl | simp

/-- Fields of middleware may be null. -/
theorem ignores_middleware : Ignores middlewareLayout middlewareCodec.read := by
  refine ignores_record ⟨?_, ?_⟩
  · exact .cons (follows_free rfl) <| .cons (follows_free rfl) <| .nil
  · simp only [List.pairwise_cons, List.forall_mem_cons]
    and_intros <;> first | exact apart_field fun _ _ _ => rfl | simp

/-- Options of a resource may be null. -/
theorem ignores_resourceOptions : Ignores resourceLayout resourceOptionsCodec.read := by
  refine ignores_record ⟨?_, ?_⟩
  · exact .cons (follows_free rfl) <| .cons (follows_free rfl) <| .cons (follows_free rfl) <|
      .cons (follows_free rfl) <| .cons (follows_free rfl) <| .nil
  · simp only [List.pairwise_cons, List.forall_mem_cons]
    and_intros <;> first | exact apart_field fun _ _ _ => rfl | simp

/-- The choice between a switch and the options of a resource is not turned by a null. -/
theorem ignores_resource : Ignores resourceLayout resourceCodec.read := by
  refine ignores_choice ?_
  simp only [List.forall_mem_cons]
  exact ⟨ignores_reader Resource.toggle (ignores_truth _),
    ignores_reader Resource.block ignores_resourceOptions, by simp⟩

/-- Every field of an action may be null; what it merges is kept as it is. -/
theorem ignores_action : Ignores actionLayout actionCodec.read := by
  refine ignores_record ⟨?_, ?_⟩
  · exact .cons (follows_free rfl) <| .cons (follows_free rfl) <| .cons (follows_free rfl) <|
      .cons (follows_free rfl) <| .cons (follows_free rfl) <| .cons (follows_free rfl) <|
      .cons (follows_free rfl) <| .cons (follows_free rfl) <| .cons (follows_free rfl) <|
      .cons (follows_free rfl) <| .cons (follows_free rfl) <| .cons (follows_free rfl) <| .nil
  · simp only [actionFields, List.pairwise_cons, List.forall_mem_cons]
    and_intros <;> first | exact apart_field fun _ _ _ => rfl | simp

/-- Fields of a controller may be null, and so may its actions and their fields. -/
theorem ignores_controller : Ignores controllerLayout controllerCodec.read := by
  have actions := ignores_table (ignores_optional ignores_action)
  refine ignores_record ⟨?_, ?_⟩
  · exact .cons (follows_free rfl) <|
      .cons (follows_field (ignores_optional ignores_resource) rfl) <|
      .cons (follows_free rfl) <|
      .cons (follows_field (ignores_defaulted ∅ actions) rfl) <| .nil
  · simp only [List.pairwise_cons, List.forall_mem_cons]
    and_intros <;> first | exact apart_field fun _ _ _ => rfl | simp

/-- Parts of the HTTP section may be null, and fields in all of them. -/
theorem ignores_http : Ignores httpLayout httpCodec.read := by
  have middleware := ignores_table (ignores_optional ignores_middleware)
  have controllers := ignores_table ignores_controller
  refine ignores_record ⟨?_, ?_⟩
  · exact .cons (follows_free rfl) <|
      .cons (follows_field (ignores_defaulted ∅ middleware) rfl) <|
      .cons (follows_field (ignores_defaulted ∅ controllers) rfl) <| .nil
  · simp only [List.pairwise_cons, List.forall_mem_cons]
    and_intros <;> first | exact apart_field fun _ _ _ => rfl | simp

/-- Fields of a form may be null. -/
theorem ignores_form : Ignores formLayout formCodec.read := by
  refine ignores_record ⟨?_, ?_⟩
  · exact .cons (follows_free rfl) <| .cons (follows_free rfl) <| .nil
  · simp only [List.pairwise_cons, List.forall_mem_cons]
    and_intros <;> first | exact apart_field fun _ _ _ => rfl | simp

/-- Parts of the authorization section may be null, and fields in all of them. -/
theorem ignores_auth : Ignores authLayout authCodec.read := by
  have forms := ignores_table (ignores_optional ignores_form)
  refine ignores_record ⟨?_, ?_⟩
  · exact .cons (follows_free rfl) <| .cons (follows_free rfl) <|
      .cons (follows_field (ignores_defaulted ∅ forms) rfl) <| .nil
  · simp only [List.pairwise_cons, List.forall_mem_cons]
    and_intros <;> first | exact apart_field fun _ _ _ => rfl | simp

/-- A null in any record of a document may be left out. -/
theorem ignores_document : Ignores layout codec.read := by
  refine ignores_record ⟨?_, ?_⟩
  · exact .cons (follows_field (ignores_defaulted .blank ignores_database) rfl) <|
      .cons (follows_field (ignores_defaulted .blank ignores_http) rfl) <|
      .cons (follows_field (ignores_defaulted .blank ignores_auth) rfl) <| .nil
  · simp only [List.pairwise_cons, List.forall_mem_cons]
    and_intros <;> first | exact apart_field fun _ _ _ => rfl | simp

/-- A document is read alike, or not read for the same fault, with and without null members of its
records, unless a name is given twice. -/
theorem ofJson_eq_of_omits
    {value other : Value}
    {depth : Nat}
    {text otherText : String}
    (fits : value.Fits (fun _ => True) depth)
    (omits : Omits layout value other)
    (spells : Spells text value)
    (otherSpells : Spells otherText other) :
    ofJson text = ofJson otherText := by
  unfold Spells at spells otherSpells
  rw [ofJson, ofJson, spells, otherSpells]
  simp only [Tree.read, ignores_document.read_eq fits omits]

/-- A document of a single model with an explicit primary key, and other sections. -/
def keyedValue
    (key sections : List (String × Value)) :
    Value :=
  .object
    (("database",
        .object [("models", .object [("Post", .object [("primary", .object key)])])]) ::
      sections)

/-- The text of such a document with a null type of the key and a null section. -/
def keyedText : String :=
  "\x7b\"database\": \x7b\"models\": \x7b\"Post\": \x7b\"primary\": " ++
    "\x7b\"column\": \"id\", \"type\": null\x7d\x7d\x7d\x7d, \"http\": null\x7d"

theorem ofJson_keyedText :
    Omits layout (keyedValue [("column", .string "id"), ("type", .null)] [("http", .null)])
        (keyedValue [("column", .string "id")] []) ∧
      ofJson keyedText = ofJson (keyedValue [("column", .string "id")] []).line := by
  have fits :
      (keyedValue [("column", .string "id"), ("type", .null)] [("http", .null)]).Fits
        (fun _ => True) 5 := by
    refine .object (by decide) (List.forall_mem_cons.mpr ⟨?_, by simpa using .null 4⟩)
    refine .object (by decide) (List.forall_mem_singleton.mpr ?_)
    refine .object (by decide) (List.forall_mem_singleton.mpr ?_)
    refine .object (by decide) (List.forall_mem_singleton.mpr ?_)
    refine .object (by decide) (List.forall_mem_cons.mpr ⟨.string 0 "id", by simpa using .null 0⟩)
  have withoutType :
      OmitsOne layout (keyedValue [("column", .string "id"), ("type", .null)] [("http", .null)])
        (keyedValue [("column", .string "id")] [("http", .null)]) := by
    refine @OmitsOne.field _ databaseLayout [] _ _ _ _ rfl ?_
    refine @OmitsOne.field _ (.table modelLayout) [] _ _ _ _ rfl ?_
    refine @OmitsOne.entry modelLayout [] _ _ _ _ ?_
    refine @OmitsOne.field _ primaryLayout [] _ _ _ _ rfl ?_
    exact @OmitsOne.here _ [("column", .string "id")] _ _
  have withoutHttp :
      OmitsOne layout (keyedValue [("column", .string "id")] [("http", .null)])
        (keyedValue [("column", .string "id")] []) :=
    @OmitsOne.here _ [_] _ _
  have omits := Relation.ReflTransGen.tail (.single withoutType) withoutHttp
  have spells :
      Spells keyedText
        (keyedValue [("column", .string "id"), ("type", .null)] [("http", .null)]) := by
    with_unfolding_all rfl
  have otherSpells :
      Spells (keyedValue [("column", .string "id")] []).line
        (keyedValue [("column", .string "id")] []) := by
    with_unfolding_all rfl
  exact ⟨omits, ofJson_eq_of_omits fits omits spells otherSpells⟩

end Document

end Blueprint
