import Mathlib.Data.List.Pairwise
import Mathlib.Logic.Relation
import Blueprint.Proofs.Codecs

namespace Blueprint

/-!
# Null members

A null stands for a field that is left out, so a record is read alike with and without its null
members. Which objects of a value are records is told by a layout. Leaving out one null member
changes nothing of what a codec reads: this is shown once for every way of putting codecs together.
For records it needs that a field of null leaves a blank record as it is, and that reading one
field does not touch another.
-/

namespace Json

/-- Where the records of a value stand: in the fields of records by name, and in all values of a
table. -/
inductive Layout where
  | free
  | record (fields : List (String × Layout))
  | table (values : Layout)

/-- A value with one null member of one record left out. -/
inductive OmitsOne :
    Layout →
    Value →
    Value →
    Prop where
  | here
      {fields : List (String × Layout)}
      {before after : List (String × Value)}
      {name : String} :
      OmitsOne (.record fields) (.object (before ++ (name, .null) :: after))
        (.object (before ++ after))
  | field
      {fields : List (String × Layout)}
      {layout : Layout}
      {before after : List (String × Value)}
      {name : String}
      {value other : Value}
      (known : Entries.get? name fields = some layout)
      (omits : OmitsOne layout value other) :
      OmitsOne (.record fields) (.object (before ++ (name, value) :: after))
        (.object (before ++ (name, other) :: after))
  | place
      {fields : List (String × Layout)}
      {layout : Layout}
      {before after : List Value}
      {name : String}
      {value other : Value}
      (known : fields[before.length]? = some (name, layout))
      (omits : OmitsOne layout value other) :
      OmitsOne (.record fields) (.array (before ++ value :: after))
        (.array (before ++ other :: after))
  | entry
      {layout : Layout}
      {before after : List (String × Value)}
      {name : String}
      {value other : Value}
      (omits : OmitsOne layout value other) :
      OmitsOne (.table layout) (.object (before ++ (name, value) :: after))
        (.object (before ++ (name, other) :: after))

/-- A value with any null members of its records left out. -/
def Omits
    (layout : Layout) :
    Value →
    Value →
    Prop :=
  Relation.ReflTransGen (OmitsOne layout)

/-- A text says a value, and nothing after it. What is nested too deep is said by no text. -/
def Spells
    (text : String)
    (value : Value) :
    Prop :=
  readTree text = ⟨Node.ofValue value, none⟩

/-- A value stays free of names given twice, and as deep, when a member is left out. -/
theorem OmitsOne.fits
    {allowed : Number → Prop}
    {layout : Layout}
    {value other : Value}
    (omits : OmitsOne layout value other)
    {depth : Nat}
    (fits : value.Fits allowed depth) :
    other.Fits allowed depth := by
  induction omits generalizing depth with
  | here =>
      cases fits with
      | object distinct each =>
          refine .object (distinct.sublist ?_) fun member isMember => each member ?_
          · exact (List.Sublist.append_left (List.sublist_cons_self _ _) _).map Prod.fst
          · rcases List.mem_append.mp isMember with isBefore | isAfter
            · simp [isBefore]
            · simp [isAfter]
  | field known omits inductionHypothesis | entry omits inductionHypothesis =>
      cases fits with
      | object distinct each =>
          refine .object (by simpa [Entries.names] using distinct) fun member isMember => ?_
          simp only [List.mem_append, List.mem_cons] at isMember
          rcases isMember with isBefore | rfl | isAfter
          · exact each member (by simp [isBefore])
          · exact inductionHypothesis (each _ (List.mem_append_right _ List.mem_cons_self))
          · exact each member (by simp [isAfter])
  | place known omits inductionHypothesis =>
      cases fits with
      | array each =>
          refine .array fun item isItem => ?_
          simp only [List.mem_append, List.mem_cons] at isItem
          rcases isItem with isBefore | rfl | isAfter
          · exact each item (by simp [isBefore])
          · exact inductionHypothesis (each _ (List.mem_append_right _ List.mem_cons_self))
          · exact each item (by simp [isAfter])

/-- Members are left out of objects, in objects and in arrays, and these stay what they are. -/
theorem OmitsOne.containers
    {layout : Layout}
    {value other : Value}
    (omits : OmitsOne layout value other) :
    (∃ members others, value = .object members ∧ other = .object others) ∨
      ∃ items others, value = .array items ∧ other = .array others := by
  cases omits with
  | here | field _ _ | entry _ =>
      exact .inl ⟨_, _, rfl, rfl⟩
  | place _ _ =>
      exact .inr ⟨_, _, rfl, rfl⟩

end Json

open Json

namespace Node

theorem skipItems_ofItems
    {items : List Value}
    (each : ∀ item ∈ items, (ofValue item).skip = .ok ()) :
    skipItems (ofItems items) = .ok () := by
  induction items with
  | nil =>
      rfl
  | cons item rest inductionHypothesis =>
      simp only [ofItems, skipItems, each item (by simp)]
      exact inductionHypothesis fun other isOther => each other (by simp [isOther])

theorem skipEntries_ofMembers
    {members : List (String × Value)}
    (each : ∀ member ∈ members, (ofValue member.2).skip = .ok ()) :
    skipEntries (ofMembers members) = .ok () := by
  induction members with
  | nil =>
      rfl
  | cons member rest inductionHypothesis =>
      simp only [ofMembers, skipEntries, skip, each member (by simp)]
      exact inductionHypothesis fun other isOther => each other (by simp [isOther])

/-- There is no fault in the tree of a value. -/
theorem skip_ofValue
    {allowed : Number → Prop}
    {depth : Nat}
    {value : Value}
    (fits : value.Fits allowed depth) :
    (ofValue value).skip = .ok () := by
  induction fits with
  | null | bool | number | string =>
      rfl
  | array _ inductionHypothesis =>
      simp only [ofValue, skip, skipItems_ofItems inductionHypothesis]
      rfl
  | object _ _ inductionHypothesis =>
      simp only [ofValue, skip, skipEntries_ofMembers inductionHypothesis]
      rfl

end Node

namespace Codec

variable {α β ρ : Type}

/-- What a reader reads of a value does not change when a null member of a record is left out. -/
def Ignores
    (layout : Layout)
    (read : Node → Except Fault α) :
    Prop :=
  ∀ depth value other,
    value.Fits (fun _ => True) depth →
    OmitsOne layout value other →
    read (Node.ofValue value) = read (Node.ofValue other)

/-- Nothing can be left out of a value that is no record and holds none. -/
theorem ignores_free
    (read : Node → Except Fault α) :
    Ignores .free read :=
  fun _ _ _ _ omits => nomatch omits

/-- A reader that refuses all containers ignores what is left out of them. -/
theorem ignores_of_refuses
    {layout : Layout}
    {read : Node → Except Fault α}
    (lists : ∀ items, read (.list items none .settled) = Node.mismatch)
    (maps : ∀ entries, read (.map entries none .settled) = Node.mismatch) :
    Ignores layout read := by
  intro depth value other _ omits
  rcases omits.containers with ⟨members, others, rfl, rfl⟩ | ⟨items, others, rfl, rfl⟩
  · rw [Node.ofValue, Node.ofValue, maps, maps]
  · rw [Node.ofValue, Node.ofValue, lists, lists]

theorem ignores_truth
    (layout : Layout) :
    Ignores layout truth.read :=
  ignores_of_refuses (fun _ => rfl) fun _ => rfl

theorem ignores_optional
    {layout : Layout}
    {codec : Codec α}
    (ignores : Ignores layout codec.read) :
    Ignores layout codec.optional.read := by
  intro depth value other fits omits
  have same := ignores depth value other fits omits
  rcases omits.containers with ⟨members, others, rfl, rfl⟩ | ⟨items, others, rfl, rfl⟩
  · simp only [optional, Node.isAbsent_ofValue (by simp : Value.object _ ≠ .null), same]
  · simp only [optional, Node.isAbsent_ofValue (by simp : Value.array _ ≠ .null), same]

theorem ignores_defaulted
    {layout : Layout}
    {codec : Codec α}
    (default : α)
    (ignores : Ignores layout codec.read) :
    Ignores layout (codec.defaulted default).read := by
  intro depth value other fits omits
  simp only [defaulted, ignores_optional ignores depth value other fits omits]

theorem ignores_reader
    {layout : Layout}
    {codec : Codec α}
    (change : α → β)
    (ignores : Ignores layout codec.read) :
    Ignores layout (reader codec change) := by
  intro depth value other fits omits
  simp only [reader, ignores depth value other fits omits]

theorem readEntries_congr
    {read : Node → Except Fault α}
    {before after : List (String × Value)}
    {name : String}
    {value other : Value}
    (same : read (Node.ofValue value) = read (Node.ofValue other))
    (former : Table α) :
    readEntries read former (Node.ofMembers (before ++ (name, value) :: after)) =
      readEntries read former (Node.ofMembers (before ++ (name, other) :: after)) := by
  induction before generalizing former with
  | nil =>
      simp only [List.nil_append, Node.ofMembers, readEntries, same]
  | cons member rest inductionHypothesis =>
      simp only [List.cons_append, Node.ofMembers, readEntries, inductionHypothesis]

theorem ignores_table
    {layout : Layout}
    {codec : Codec α}
    (ignores : Ignores layout codec.read) :
    Ignores (.table layout) codec.table.read := by
  intro depth value other fits omits
  cases omits with
  | entry omits =>
      cases fits with
      | object _ each =>
          have same := ignores _ _ _ (each _ (List.mem_append_right _ List.mem_cons_self)) omits
          simp only [table, Node.ofValue, readEntries_congr same]

theorem firstOf?_congr
    {readers : List (Node → Except Fault α)}
    {node other : Node}
    (each : ∀ read ∈ readers, read node = read other) :
    firstOf? readers node = firstOf? readers other := by
  unfold firstOf?
  induction readers with
  | nil =>
      rfl
  | cons read rest inductionHypothesis =>
      have later := inductionHypothesis fun other isOther => each other (by simp [isOther])
      rw [List.findSome?_cons, List.findSome?_cons, each read (by simp), later]

/-- A choice ignores what all its shapes ignore. -/
theorem ignores_choice
    {layout : Layout}
    {place : Choice}
    {readers : List (Node → Except Fault α)}
    {write : α → Json.Value}
    (each : ∀ read ∈ readers, Ignores layout read) :
    Ignores layout (choice place readers write).read := by
  intro depth value other fits omits
  have same : firstOf? readers (Node.ofValue value) = firstOf? readers (Node.ofValue other) :=
    firstOf?_congr fun read isReader => each read isReader depth value other fits omits
  rw [read_choice_of_settled (Node.settle_ofValue fits),
    read_choice_of_settled (Node.settle_ofValue (omits.fits fits)), same]

/-! Records. -/

/-- Reading one field leaves another as it is where a null would: the other stays blank. -/
def Field.Leaves
    (field other : Field ρ) :
    Prop :=
  ∀ node former next,
    field.read node former = .ok next →
    other.read .null former = .ok former →
    other.read .null next = .ok next

/-- Two fields of a record leave each other as they are. -/
structure Field.Apart
    (field other : Field ρ) :
    Prop where
  leaves : field.Leaves other
  left : other.Leaves field

instance : Std.Symm (@Field.Apart ρ) where
  symm _ _ apart := ⟨apart.left, apart.leaves⟩

theorem leaves_field
    {codec : Codec α}
    {other : Codec β}
    {name otherName : String}
    {get : ρ → α}
    {otherGet : ρ → β}
    {set : α → ρ → ρ}
    {otherSet : β → ρ → ρ}
    (commutes :
      ∀ value otherValue record,
        otherSet otherValue (set value record) = set value (otherSet otherValue record)) :
    (field name codec get set).Leaves (field otherName other otherGet otherSet) := by
  intro node former next read blank
  simp only [field, bind_eq_ok_iff, pure_eq_ok_iff] at read blank ⊢
  obtain ⟨value, _, rfl⟩ := read
  obtain ⟨absent, isAbsent, unchanged⟩ := blank
  exact ⟨absent, isAbsent, by rw [commutes, unchanged]⟩

/-- Fields that are set independently are apart. -/
theorem apart_field
    {codec : Codec α}
    {other : Codec β}
    {name otherName : String}
    {get : ρ → α}
    {otherGet : ρ → β}
    {set : α → ρ → ρ}
    {otherSet : β → ρ → ρ}
    (commutes :
      ∀ value otherValue record,
        otherSet otherValue (set value record) = set value (otherSet otherValue record)) :
    (field name codec get set).Apart (field otherName other otherGet otherSet) :=
  ⟨leaves_field commutes, leaves_field fun value otherValue record =>
    (commutes otherValue value record).symm⟩

/-- A field reads its values by a reader that ignores what is left out by the layout of its name,
and a null leaves it blank. -/
structure Field.Follows
    (blank : ρ)
    (field : Field ρ)
    (named : String × Layout) :
    Prop where
  name_eq : field.name = named.1
  ignores : ∀ record, Ignores named.2 fun node => field.read node record
  idle : field.read .null blank = .ok blank

theorem follows_field
    {blank : ρ}
    {layout : Layout}
    {codec : Codec α}
    {name : String}
    {get : ρ → α}
    {set : α → ρ → ρ}
    (ignores : Ignores layout codec.read)
    (idle : (field name codec get set).read .null blank = .ok blank) :
    (field name codec get set).Follows blank (name, layout) where
  name_eq := rfl
  ignores record depth value other fits omits := by
    simp only [field, ignores depth value other fits omits]
  idle := idle

/-- A field of values that are no records follows the layout under its name. -/
theorem follows_free
    {blank : ρ}
    {codec : Codec α}
    {name : String}
    {get : ρ → α}
    {set : α → ρ → ρ}
    (idle : (field name codec get set).read .null blank = .ok blank) :
    (field name codec get set).Follows blank (name, .free) :=
  follows_field (ignores_free codec.read) idle

/-- The fields of a record follow a layout and are set independently. -/
structure Leavable
    (blank : ρ)
    (fields : List (Field ρ))
    (layouts : List (String × Layout)) :
    Prop where
  follow : List.Forall₂ (Field.Follows blank) fields layouts
  apart : fields.Pairwise Field.Apart

/-- Read a member of an object into a record; one of another name is passed over. -/
def readMember
    (fields : List (Field ρ))
    (record : ρ)
    (member : String × Value) :
    Except Fault ρ :=
  match fields.find? fun field => field.name == member.1 with
  | none => .ok record
  | some field => field.read (Node.ofValue member.2) record

/-- Where no name is given twice, members are read one after the other. -/
theorem readFields_ofMembers
    (fields : List (Field ρ))
    {members : List (String × Value)}
    {depth : Nat}
    (each : ∀ member ∈ members, member.2.Fits (fun _ => True) depth)
    {seen : List String}
    (distinct : (seen ++ Entries.names members).Nodup)
    (record : ρ) :
    readFields fields seen record (Node.ofMembers members) =
      accumulate (readMember fields) record members := by
  induction members generalizing seen record with
  | nil =>
      rfl
  | cons member rest inductionHypothesis =>
      obtain ⟨name, value⟩ := member
      have laterFits : ∀ other ∈ rest, other.2.Fits (fun _ => True) depth :=
        fun other isOther => each other (by simp [isOther])
      have laterDistinct : (name :: seen ++ Entries.names rest).Nodup :=
        List.perm_middle.nodup_iff.mp distinct
      have unseen : name ∉ seen := fun isSeen =>
        List.disjoint_of_nodup_append distinct isSeen (by simp [Entries.names])
      have skipped := Node.skip_ofValue (each (name, value) (by simp))
      rw [accumulate_cons]
      cases found : fields.find? fun field => field.name == name with
      | none =>
          have named : fieldAt fields (.string name) = .ok none := congrArg Except.ok found
          have later := inductionHypothesis laterFits laterDistinct.of_cons record
          simp only [Node.ofMembers, readFields, named, skipped, readMember, found]
          exact later
      | some field =>
          have sameName : field.name = name := by simpa using List.find?_some found
          have named : fieldAt fields (.string name) = .ok (some field) :=
            congrArg Except.ok found
          simp only [Node.ofMembers, readMember, found]
          cases changed : field.read (Node.ofValue value) record with
          | error cause =>
              simp [readFields, named, sameName, unseen, changed, bind, Except.bind]
          | ok next =>
              rw [readFields_cons named (sameName ▸ unseen) changed, sameName]
              exact inductionHypothesis laterFits laterDistinct next

/-- Reading members leaves the fields of other names blank. -/
theorem blank_of_readMembers
    {blank : ρ}
    {fields : List (Field ρ)}
    {layouts : List (String × Layout)}
    (leavable : Leavable blank fields layouts)
    {members : List (String × Value)}
    {record : ρ}
    (done : accumulate (readMember fields) blank members = .ok record)
    {field : Field ρ}
    (isField : field ∈ fields)
    (unnamed : field.name ∉ Entries.names members) :
    field.read .null record = .ok record := by
  obtain ⟨_, _, follows⟩ := exists_of_mem_matched leavable.follow.flip isField
  refine accumulate_invariant (fun record => field.read .null record = .ok record) follows.idle ?_
    done
  intro former member next isMember blank read
  unfold readMember at read
  split at read
  · cases read
    exact blank
  · next other found =>
      have sameName : other.name = member.1 := by simpa using List.find?_some found
      have different : other ≠ field := by
        rintro rfl
        exact unnamed (sameName ▸ List.mem_map_of_mem isMember)
      have apart := leavable.apart.forall (List.mem_of_find?_eq_some found) isField different
      exact apart.leaves _ _ _ read blank

/-- The field of a name reads its values by the layout of that name. -/
theorem ignores_readMember
    {blank : ρ}
    {fields : List (Field ρ)}
    {layouts : List (String × Layout)}
    (follow : List.Forall₂ (Field.Follows blank) fields layouts)
    {name : String}
    {layout : Layout}
    (known : Entries.get? name layouts = some layout)
    {depth : Nat}
    {value other : Value}
    (fits : value.Fits (fun _ => True) depth)
    (omits : OmitsOne layout value other)
    (record : ρ) :
    readMember fields record (name, value) = readMember fields record (name, other) := by
  induction follow with
  | nil =>
      rfl
  | @cons field named fields layouts first _ inductionHypothesis =>
      obtain ⟨sameName, ignores, _⟩ := first
      by_cases isFirst : named.1 = name
      · have isLayout : named.2 = layout := by simpa [Entries.get?, isFirst] using known
        have same := ignores record depth value other fits (isLayout ▸ omits)
        simpa [readMember, sameName, isFirst] using same
      · have later := inductionHypothesis (by simpa [Entries.get?, isFirst] using known)
        simpa [readMember, sameName, isFirst] using later

/-- A null under a name that was not given before changes nothing. -/
theorem readMember_null
    {blank : ρ}
    {fields : List (Field ρ)}
    {layouts : List (String × Layout)}
    (leavable : Leavable blank fields layouts)
    {members : List (String × Value)}
    {record : ρ}
    (done : accumulate (readMember fields) blank members = .ok record)
    {name : String}
    (unnamed : name ∉ Entries.names members) :
    readMember fields record (name, .null) = .ok record := by
  unfold readMember
  cases found : fields.find? fun field => field.name == name with
  | none =>
      rfl
  | some field =>
      have sameName : field.name = name := by simpa using List.find?_some found
      exact blank_of_readMembers leavable done (List.mem_of_find?_eq_some found)
        (sameName ▸ unnamed)

/-- A record that is written as a map is read alike without a null member. -/
theorem readMembers_of_omits
    {blank : ρ}
    {fields : List (Field ρ)}
    {layouts : List (String × Layout)}
    (leavable : Leavable blank fields layouts)
    {depth : Nat}
    {members others : List (String × Value)}
    (distinct : (Entries.names members).Nodup)
    (each : ∀ member ∈ members, member.2.Fits (fun _ => True) depth)
    (omits : OmitsOne (.record layouts) (.object members) (.object others)) :
    accumulate (readMember fields) blank members =
      accumulate (readMember fields) blank others := by
  cases omits with
  | @here _ before after name =>
      rw [accumulate_append, accumulate_append]
      cases done : accumulate (readMember fields) blank before with
      | error cause =>
          rfl
      | ok record =>
          have unnamed : name ∉ Entries.names before := by
            simp only [Entries.names, List.map_append, List.map_cons, List.nodup_append] at distinct
            exact fun present => distinct.2.2 name present name (by simp) rfl
          have unchanged := readMember_null leavable done unnamed
          show accumulate (readMember fields) record ((name, .null) :: after) = _
          rw [accumulate_cons, unchanged]
  | field known omits =>
      have fits := each _ (List.mem_append_right _ List.mem_cons_self)
      simp only [accumulate_append, accumulate_cons,
        ignores_readMember leavable.follow known fits omits]

theorem ignores_block
    {blank : ρ}
    {fields : List (Field ρ)}
    {layouts : List (String × Layout)}
    (leavable : Leavable blank fields layouts)
    {depth : Nat}
    {members others : List (String × Value)}
    (fits : (Value.object members).Fits (fun _ => True) depth)
    (omits : OmitsOne (.record layouts) (.object members) (.object others)) :
    readBlock blank fields (Node.ofValue (.object members)) =
      readBlock blank fields (Node.ofValue (.object others)) := by
  cases fits with
  | object distinct each =>
      cases omits.fits (.object distinct each) with
      | object otherDistinct otherEach =>
          have read := readFields_ofMembers fields each
            (by simpa using distinct : ([] ++ Entries.names members).Nodup) blank
          have otherRead := readFields_ofMembers fields otherEach
            (by simpa using otherDistinct : ([] ++ Entries.names others).Nodup) blank
          rw [readMembers_of_omits leavable distinct each omits] at read
          simp only [Node.ofValue, readBlock, read, otherRead]

/-- A record that is written as a list is read alike without a null member of an item. -/
theorem readPlaces_of_omits
    {blank : ρ}
    {fields : List (Field ρ)}
    {layouts : List (String × Layout)}
    (follow : List.Forall₂ (Field.Follows blank) fields layouts)
    {before after : List Value}
    {name : String}
    {layout : Layout}
    (known : layouts[before.length]? = some (name, layout))
    {depth : Nat}
    {value other : Value}
    (fits : value.Fits (fun _ => True) depth)
    (omits : OmitsOne layout value other)
    (record : ρ)
    (tail : Option Fault) :
    readPlaces record fields (Node.ofItems (before ++ value :: after)) tail =
      readPlaces record fields (Node.ofItems (before ++ other :: after)) tail := by
  induction before generalizing fields layouts record with
  | nil =>
      cases follow with
      | nil =>
          rfl
      | cons first _ =>
          simp only [List.length_nil, List.getElem?_cons_zero, Option.some.injEq] at known
          subst known
          have same := first.ignores record depth value other fits omits
          simp only [List.nil_append, Node.ofItems, readPlaces, same]
  | cons item rest inductionHypothesis =>
      cases follow with
      | nil =>
          rfl
      | cons first later =>
          simp only [List.length_cons, List.getElem?_cons_succ] at known
          simp only [List.cons_append, Node.ofItems, readPlaces, inductionHypothesis later known]

theorem ignores_record
    {blank : ρ}
    {fields : List (Field ρ)}
    {layouts : List (String × Layout)}
    (leavable : Leavable blank fields layouts) :
    Ignores (.record layouts) (record blank fields).read := by
  intro depth value other fits omits
  rcases omits.containers with ⟨members, others, rfl, rfl⟩ | ⟨items, others, rfl, rfl⟩
  · exact ignores_block leavable fits omits
  · cases omits with
    | place known omits =>
        cases fits with
        | array each =>
            exact readPlaces_of_omits leavable.follow known
              (each _ (List.mem_append_right _ List.mem_cons_self)) omits blank none

/-- A block takes no list, so nothing can be left out of one. -/
theorem ignores_readBlock
    {blank : ρ}
    {fields : List (Field ρ)}
    {layouts : List (String × Layout)}
    (leavable : Leavable blank fields layouts) :
    Ignores (.record layouts) (readBlock blank fields) := by
  intro depth value other fits omits
  rcases omits.containers with ⟨members, others, rfl, rfl⟩ | ⟨items, others, rfl, rfl⟩
  · exact ignores_block leavable fits omits
  · rfl

/-- Nor does it change when any null members of records are left out. -/
theorem Ignores.read_eq
    {layout : Layout}
    {read : Node → Except Fault α}
    (ignores : Ignores layout read)
    {depth : Nat}
    {value other : Value}
    (fits : value.Fits (fun _ => True) depth)
    (omits : Omits layout value other) :
    read (Node.ofValue value) = read (Node.ofValue other) := by
  induction omits using Relation.ReflTransGen.head_induction_on with
  | refl =>
      rfl
  | head first _ inductionHypothesis =>
      exact (ignores depth _ _ fits first).trans (inductionHypothesis (first.fits fits))

end Codec

end Blueprint
