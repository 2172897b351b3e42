import Blueprint.Codec
import Blueprint.Proofs.JsonDepth

namespace Blueprint

/-!
# Codecs

Two things are said of codecs. What a codec writes of a value is read by it as that value, if the
values in it that are written as they stand hold no floating-point number. And what a codec reads
of a tree of bounded depth is made of values of bounded depth. Each is shown once for every way of
putting codecs together, so that it holds of a whole document part by part.
-/

/-! The trees of values. -/

namespace Node

theorem ofItems_eq
    (items : List Json.Value) :
    ofItems items = items.map ofValue := by
  induction items with
  | nil =>
      rfl
  | cons item rest inductionHypothesis =>
      rw [ofItems, inductionHypothesis, List.map_cons]

/-- The trees of members are those of each, under their names. -/
theorem ofMembers_eq
    (members : List (String × Json.Value)) :
    ofMembers members = members.map fun member => (.string member.1, ofValue member.2) := by
  induction members with
  | nil =>
      rfl
  | cons member rest inductionHypothesis =>
      rw [ofMembers, inductionHypothesis, List.map_cons]

/-- There is nothing left to settle in the tree of a value. -/
theorem settle_ofValue
    {allowed : Json.Number → Prop}
    {depth : Nat}
    {value : Json.Value}
    (fits : value.Fits allowed depth) :
    (ofValue value).settle = .ok (ofValue value) := by
  induction fits with
  | null | bool | number | string =>
      rfl
  | @array depth items _ inductionHypothesis =>
      have settled : settleItems (ofItems items) = .ok (ofItems items) := by
        rw [settleItems_eq, ofItems_eq, collect_eq_ok_iff, List.forall₂_same]
        simpa using inductionHypothesis
      simp only [ofValue, settle, settled]
      rfl
  | @object depth members _ _ inductionHypothesis =>
      have settled : settleEntries (ofMembers members) = .ok (ofMembers members) := by
        rw [settleEntries_eq, ofMembers_eq, collect_eq_ok_iff, List.forall₂_same]
        intro entry isEntry
        obtain ⟨member, isMember, rfl⟩ := List.mem_map.mp isEntry
        simp only [settleEntry, inductionHypothesis member isMember]
        rfl
      simp only [ofValue, settle, settled]
      rfl

/-- Members that are read back one by one are collected as into a table. -/
theorem valueEntries_ofMembers
    {members : List (String × Json.Value)}
    (each : ∀ member ∈ members, (ofValue member.2).value = .ok member.2)
    (table : Table Json.Value) :
    valueEntries table.entries (ofMembers members) = .ok (table.insertAll members).entries := by
  induction members generalizing table with
  | nil =>
      rfl
  | cons member rest inductionHypothesis =>
      have later := inductionHypothesis (fun other isOther => each other (by simp [isOther]))
        (table.insert member.1 member.2)
      simp only [ofMembers, valueEntries, text, each member (by simp), Table.insertAll_cons]
      exact later

/-- A value without floating-point numbers is read of its tree. -/
theorem value_ofValue
    {depth : Nat}
    {value : Json.Value}
    (fits : value.Fits Json.Number.IsExact depth) :
    (ofValue value).value = .ok value := by
  induction fits with
  | null | bool | string =>
      rfl
  | @number depth number exact =>
      cases number with
      | integer _ =>
          rfl
      | real _ =>
          exact exact.elim
  | @array depth items _ inductionHypothesis =>
      have read : valueItems (ofItems items) = .ok items := by
        rw [valueItems_eq, ofItems_eq, collect_eq_ok_iff, List.forall₂_map_left_iff,
          List.forall₂_same]
        exact inductionHypothesis
      simp only [ofValue, Node.value, read]
      rfl
  | @object depth members distinct _ inductionHypothesis =>
      have read : valueEntries [] (ofMembers members) = .ok members := by
        have inserted := valueEntries_ofMembers inductionHypothesis ∅
        rwa [← Table.ofList_eq_insertAll, Table.entries_ofList distinct] at inserted
      simp only [ofValue, Node.value, read]
      rfl

/-- Only the tree of null stands for an absent value. -/
theorem isAbsent_ofValue
    {value : Json.Value}
    (present : value ≠ .null) :
    (ofValue value).isAbsent = .ok false := by
  cases value with
  | null =>
      exact absurd rfl present
  | bool _ | number _ | string _ | array _ | object _ =>
      rfl

end Node

namespace Codec

variable {α β ρ : Type} {codec : Codec α} {depth : Nat}

/-! What is written is read back. -/

/-- What a codec writes of a value fits a depth, and the codec reads it as that value. -/
structure Restores
    (codec : Codec α)
    (depth : Nat)
    (value : α) :
    Prop where
  fits : (codec.write value).Fits Json.Number.IsExact depth
  restored : codec.read (Node.ofValue (codec.write value)) = .ok value

/-- Besides, what is written is no null, which would stand for an absent value. -/
structure RoundTrips
    (codec : Codec α)
    (depth : Nat)
    (value : α) :
    Prop extends
    codec.Restores depth value where
  present : codec.write value ≠ .null

theorem roundTrips_text
    (depth : Nat)
    (written : String) :
    text.RoundTrips depth written where
  fits := .string depth written
  restored := rfl
  present := nofun

theorem roundTrips_truth
    (depth : Nat)
    (enabled : Bool) :
    truth.RoundTrips depth enabled where
  fits := .bool depth enabled
  restored := rfl
  present := nofun

theorem roundTrips_word
    (depth : Nat)
    (number : UInt32) :
    word.RoundTrips depth number where
  fits := by
    have small := number.toNat_lt
    refine .number depth ?_
    simp only [Json.Number.IsExact]
    omega
  restored := by
    have small := number.toNat_lt
    have inRange : 0 ≤ (number.toNat : Int) ∧ (number.toNat : Int) < 0x100000000 := by omega
    simp only [word, Node.ofValue, Node.word, Node.wordOf, if_pos inRange, Int.toNat_natCast,
      UInt32.ofNat_toNat]
  present := nofun

/-- A value without floating-point numbers is read back, a null among them as a null. -/
theorem restores_value
    {written : Json.Value}
    (fits : written.Fits Json.Number.IsExact depth) :
    value.Restores depth written where
  fits := fits
  restored := Node.value_ofValue fits

/-- An option is restored if its value is read back and never written as null. -/
theorem restores_optional
    {written : Option α}
    (each : ∀ value ∈ written, codec.RoundTrips depth value) :
    codec.optional.Restores depth written := by
  cases written with
  | none =>
      exact ⟨.null depth, rfl⟩
  | some value =>
      have roundTrips := each value rfl
      refine ⟨roundTrips.fits, ?_⟩
      simp only [optional, Node.isAbsent_ofValue roundTrips.present, roundTrips.restored]
      rfl

/-- A value with a default is restored like one without. -/
theorem restores_defaulted
    (default : α)
    {written : α}
    (roundTrips : codec.RoundTrips depth written) :
    (codec.defaulted default).Restores depth written := by
  have present : codec.optional.Restores depth (some written) :=
    restores_optional (by simpa using roundTrips)
  have read : codec.optional.read (Node.ofValue (codec.write written)) = .ok (some written) :=
    present.restored
  refine ⟨roundTrips.fits, ?_⟩
  simp only [defaulted, read]
  rfl

/-- Items are collected in order, up to the first fault. -/
theorem readItems_eq
    (read : Node → Except Fault α)
    (items : List Node) :
    readItems read items = collect read items := by
  induction items with
  | nil =>
      rfl
  | cons item rest inductionHypothesis =>
      rw [collect_cons, ← inductionHypothesis, readItems]

/-- A list is read back if each of its items is restored. -/
theorem roundTrips_list
    {values : List α}
    (each : ∀ value ∈ values, codec.Restores depth value) :
    codec.list.RoundTrips (depth + 1) values where
  fits := by
    refine .array fun item member => ?_
    obtain ⟨value, isValue, rfl⟩ := List.mem_map.mp member
    exact (each value isValue).fits
  restored := by
    have read : readItems codec.read (Node.ofItems (values.map codec.write)) = .ok values := by
      rw [readItems_eq, Node.ofItems_eq, List.map_map, collect_eq_ok_iff,
        List.forall₂_map_left_iff, List.forall₂_same]
      exact fun value isValue => (each value isValue).restored
    simp only [list, Node.ofValue, read]
    rfl
  present := nofun

/-- Entries that are restored one by one are read into the table in order. -/
theorem readEntries_ofMembers
    {entries : List (String × α)}
    (each : ∀ entry ∈ entries, codec.Restores depth entry.2)
    (table : Table α) :
    readEntries codec.read table
        (Node.ofMembers (entries.map fun entry => (entry.1, codec.write entry.2))) =
      .ok (table.insertAll entries) := by
  induction entries generalizing table with
  | nil =>
      rfl
  | cons entry rest inductionHypothesis =>
      have later := inductionHypothesis (fun other isOther => each other (by simp [isOther]))
        (table.insert entry.1 entry.2)
      simp only [List.map_cons, Node.ofMembers, readEntries, Node.text,
        (each entry (by simp)).restored, Table.insertAll_cons]
      exact later

/-- A table is read back if each of its values is restored. -/
theorem roundTrips_table
    {values : Table α}
    (each : ∀ value ∈ values.values, codec.Restores depth value) :
    codec.table.RoundTrips (depth + 1) values := by
  have eachEntry : ∀ entry ∈ values.entries, codec.Restores depth entry.2 :=
    fun entry isEntry => each entry.2 (List.mem_map_of_mem isEntry)
  have fits : (codec.table.write values).Fits Json.Number.IsExact (depth + 1) := by
    refine .object ?_ fun member isMember => ?_
    · simpa [Entries.names, List.map_map, Function.comp_def] using values.distinct
    · obtain ⟨entry, isEntry, rfl⟩ := List.mem_map.mp isMember
      exact (eachEntry entry isEntry).fits
  have read : readEntries codec.read Table.empty
      (Node.ofMembers (values.entries.map fun entry => (entry.1, codec.write entry.2))) =
        .ok values := by
    have inserted := readEntries_ofMembers eachEntry ∅
    rwa [← Table.ofList_eq_insertAll, Table.ofList_entries] at inserted
  refine ⟨⟨fits, ?_⟩, nofun⟩
  simp only [table, Node.ofValue, read]
  rfl

/-- Read one after the other, the fields that are written of a record change one record into
another. -/
inductive FieldsLead
    (depth : Nat)
    (written : ρ) :
    List (Field ρ) →
    ρ →
    ρ →
    Prop where
  | nil (reached : ρ) : FieldsLead depth written [] reached reached
  | cons {α : Type} {codec : Codec α} {get : ρ → α} {set : α → ρ → ρ} {name : String}
      {rest : List (Field ρ)} {former final : ρ} :
      codec.Restores depth (get written) →
      FieldsLead depth written rest (set (get written) former) final →
      FieldsLead depth written (field name codec get set :: rest) former final

/-- What every field writes fits one level below the record. -/
theorem fits_of_fieldsLead
    {written former final : ρ}
    {fields : List (Field ρ)}
    (lead : FieldsLead depth written fields former final) :
    ∀ field ∈ fields, (field.write written).Fits Json.Number.IsExact depth := by
  induction lead with
  | nil =>
      simp
  | cons restores _ inductionHypothesis =>
      exact List.forall_mem_cons.mpr ⟨restores.fits, inductionHypothesis⟩

/-- The name of a field names it. -/
theorem fieldAt_name
    {fields : List (Field ρ)}
    (distinct : (fields.map Field.name).Nodup)
    {field : Field ρ}
    (member : field ∈ fields) :
    fieldAt fields (.string field.name) = .ok (some field) := by
  have found : fields.find? (fun other => other.name == field.name) = some field := by
    induction fields with
    | nil =>
        simp at member
    | cons first rest inductionHypothesis =>
        rw [List.map_cons, List.nodup_cons] at distinct
        rcases List.mem_cons.mp member with rfl | isLater
        · simp
        · have differ : first.name ≠ field.name :=
            fun same => distinct.1 (same ▸ List.mem_map_of_mem isLater)
          rw [List.find?_cons_of_neg (by simpa using differ)]
          exact inductionHypothesis distinct.2 isLater
  exact congrArg Except.ok found

/-- A field that was not given yet is read, and known from then on. -/
theorem readFields_cons
    {fields : List (Field ρ)}
    {field : Field ρ}
    {key node : Node}
    {seen : List String}
    {former next : ρ}
    (named : fieldAt fields key = .ok (some field))
    (unseen : field.name ∉ seen)
    (changed : field.read node former = .ok next)
    (rest : List (Node × Node)) :
    readFields fields seen former ((key, node) :: rest) =
      readFields fields (field.name :: seen) next rest := by
  simp [readFields, named, unseen, changed, bind, Except.bind]

/-- The written fields are found by their names and read in the order of the record. -/
theorem readFields_of_fieldsLead
    {fields all : List (Field ρ)}
    {written former final : ρ}
    (lead : FieldsLead depth written fields former final)
    (distinct : (all.map Field.name).Nodup)
    (known : fields ⊆ all)
    {seen : List String}
    (fresh : (seen ++ fields.map Field.name).Nodup) :
    readFields all seen former
        (Node.ofMembers (fields.map fun field => (field.name, field.write written))) =
      .ok final := by
  -- The fields that are left to read shrink; keys are still looked up among all of them.
  induction lead generalizing seen with
  | nil =>
      rfl
  | @cons _ codec get set name rest former final restores _ inductionHypothesis =>
      have named := fieldAt_name distinct (known List.mem_cons_self)
      have unseen : name ∉ seen :=
        fun isSeen => List.disjoint_of_nodup_append fresh isSeen (by simp [field])
      have freshLater : (name :: seen ++ rest.map Field.name).Nodup :=
        List.perm_middle.nodup_iff.mp fresh
      have later := inductionHypothesis (List.subset_of_cons_subset known) freshLater
      have changed : (field name codec get set).read
          (Node.ofValue (codec.write (get written))) former = .ok (set (get written) former) := by
        simp only [field, restores.restored]
        rfl
      exact (readFields_cons named unseen changed _).trans later

/-- A record is read back as a map of its fields. -/
theorem readBlock_writeRecord
    {fields : List (Field ρ)}
    {blank written : ρ}
    (distinct : (fields.map Field.name).Nodup)
    (lead : FieldsLead depth written fields blank written) :
    readBlock blank fields (Node.ofValue (writeRecord fields written)) = .ok written := by
  have read := readFields_of_fieldsLead lead distinct (List.Subset.refl fields)
    (by simpa using distinct : ([] ++ fields.map Field.name).Nodup)
  simp only [writeRecord, Node.ofValue, readBlock, read]
  rfl

/-- A written record is one level deeper than its fields. -/
theorem fits_writeRecord
    {fields : List (Field ρ)}
    {blank written : ρ}
    (distinct : (fields.map Field.name).Nodup)
    (lead : FieldsLead depth written fields blank written) :
    (writeRecord fields written).Fits Json.Number.IsExact (depth + 1) := by
  refine .object ?_ fun member isMember => ?_
  · simpa [Entries.names, List.map_map, Function.comp_def] using distinct
  · obtain ⟨field, isField, rfl⟩ := List.mem_map.mp isMember
    exact fits_of_fieldsLead lead field isField

/-- A record is read back if its fields lead from the blank record to it. -/
theorem roundTrips_record
    {fields : List (Field ρ)}
    {blank written : ρ}
    (distinct : (fields.map Field.name).Nodup)
    (lead : FieldsLead depth written fields blank written) :
    (record blank fields).RoundTrips (depth + 1) written where
  fits := fits_writeRecord distinct lead
  restored := readBlock_writeRecord distinct lead
  present := nofun

/-- A settled tree is the value of the first shape that takes it. -/
theorem read_choice_of_settled
    {place : Choice}
    {readers : List (Node → Except Fault α)}
    {write : α → Json.Value}
    {node : Node}
    (settled : node.settle = .ok node) :
    (choice place readers write).read node =
      match firstOf? readers node with
      | some value => .ok value
      | none => .error (.mismatch (.choice place)) := by
  simp only [choice]
  rw [settled]
  rfl

/-- A choice is read back if its first shape takes what is written of it. -/
theorem roundTrips_choice_head
    {place : Choice}
    {first : Node → Except Fault α}
    {others : List (Node → Except Fault α)}
    {write : α → Json.Value}
    {written : α}
    (fits : (write written).Fits Json.Number.IsExact depth)
    (present : write written ≠ .null)
    (accepts : first (Node.ofValue (write written)) = .ok written) :
    (choice place (first :: others) write).RoundTrips depth written := by
  have found : firstOf? (first :: others) (Node.ofValue (write written)) = some written := by
    rw [firstOf?, List.findSome?_cons, accepts]
    rfl
  refine ⟨⟨fits, (read_choice_of_settled (Node.settle_ofValue fits)).trans ?_⟩, present⟩
  rw [found]

/-- A choice is read back if its first shape refuses what is written of it and a choice of the
others is read back. -/
theorem roundTrips_choice_tail
    {place : Choice}
    {first : Node → Except Fault α}
    {others : List (Node → Except Fault α)}
    {write : α → Json.Value}
    {written : α}
    {cause : Fault}
    (refuses : first (Node.ofValue (write written)) = .error cause)
    (tail : (choice place others write).RoundTrips depth written) :
    (choice place (first :: others) write).RoundTrips depth written := by
  have passed : firstOf? (first :: others) (Node.ofValue (write written)) =
      firstOf? others (Node.ofValue (write written)) := by
    rw [firstOf?, List.findSome?_cons, refuses]
    rfl
  have settled : (Node.ofValue (write written)).settle = .ok (Node.ofValue (write written)) :=
    Node.settle_ofValue tail.fits
  refine ⟨⟨tail.fits, (read_choice_of_settled settled).trans ?_⟩, tail.present⟩
  rw [passed]
  exact (read_choice_of_settled settled).symm.trans tail.restored

/-- What is written of a shape by its own codec is read back by a choice that asks it first. -/
theorem roundTrips_shape
    {place : Choice}
    {shape : α → β}
    {others : List (Node → Except Fault β)}
    {write : β → Json.Value}
    {written : α}
    (roundTrips : codec.RoundTrips depth written)
    (same : write (shape written) = codec.write written) :
    (choice place (reader codec shape :: others) write).RoundTrips depth (shape written) := by
  apply roundTrips_choice_head
  · exact same ▸ roundTrips.fits
  · exact same ▸ roundTrips.present
  · rw [same, reader, roundTrips.restored]
    rfl

/-! What is read has the depth of its tree. -/

/-- What a codec reads of a tree within a depth has a property. -/
def Yields
    (codec : Codec α)
    (depth : Nat)
    (holds : α → Prop) :
    Prop :=
  ∀ node value, node.Within depth → codec.read node = .ok value → holds value

/-- A value read at some depth has the floating-point numbers of its text and no more depth. -/
theorem yields_value
    (depth : Nat) :
    value.Yields depth fun value => value.Fits Json.Number.IsReadable depth :=
  fun _ _ within read => Node.fits_of_value within read

theorem yields_optional
    {holds : α → Prop}
    (yields : codec.Yields depth holds) :
    codec.optional.Yields depth fun read => ∀ value ∈ read, holds value := by
  intro node read within done value isValue
  simp only [optional, bind_eq_ok_iff] at done
  obtain ⟨absent, _, chosen⟩ := done
  cases absent with
  | true =>
      simp only [↓reduceIte, pure_eq_ok_iff] at chosen
      simp [← chosen] at isValue
  | false =>
      simp only [Bool.false_eq_true, ↓reduceIte, bind_eq_ok_iff, pure_eq_ok_iff] at chosen
      obtain ⟨found, isRead, rfl⟩ := chosen
      cases isValue
      exact yields node _ within isRead

/-- What a codec yields it yields with a default, if the default is such a value. -/
theorem yields_defaulted
    {holds : α → Prop}
    {default : α}
    (onDefault : holds default)
    (yields : codec.Yields depth holds) :
    (codec.defaulted default).Yields depth holds := by
  intro node read within done
  simp only [defaulted, bind_eq_ok_iff, pure_eq_ok_iff] at done
  obtain ⟨found, isRead, rfl⟩ := done
  cases found with
  | none =>
      exact onDefault
  | some value =>
      exact yields_optional yields node (some value) within isRead value rfl

/-- A table whose values have a property gets only values that have it. -/
theorem readEntries_invariant
    {holds : α → Prop}
    {read : Node → Except Fault α}
    {entries : List (Node × Node)}
    (each : ∀ entry ∈ entries, ∀ value, read entry.2 = .ok value → holds value)
    {table final : Table α}
    (start : ∀ value ∈ table.values, holds value)
    (done : readEntries read table entries = .ok final) :
    ∀ value ∈ final.values, holds value := by
  induction entries generalizing table with
  | nil =>
      cases done
      exact start
  | cons entry rest inductionHypothesis =>
      simp only [readEntries, bind_eq_ok_iff] at done
      obtain ⟨name, _, value, isRead, later⟩ := done
      refine inductionHypothesis (fun other isOther => each other (by simp [isOther])) ?_ later
      intro other member
      rcases Table.mem_values_of_insert member with rfl | stood
      · exact each entry (by simp) other isRead
      · exact start other stood

/-- What a codec yields it yields for every value of a table. -/
theorem yields_table
    {holds : α → Prop}
    (yields : codec.Yields depth holds) :
    codec.table.Yields (depth + 1) fun read => ∀ value ∈ read.values, holds value := by
  intro node read within done
  cases within with
  | map tail standing eachWithin =>
      simp only [table, bind_eq_ok_iff, pure_eq_ok_iff] at done
      obtain ⟨values, isRead, _, _, rfl⟩ := done
      refine readEntries_invariant (fun entry isEntry value => ?_) (fun _ member => ?_) isRead
      · exact yields entry.2 value (eachWithin entry isEntry)
      · cases member
  | fault | guarded | null | bool | number | string | list =>
      simp [table, Node.isVoid] at done

/-- What every reader of a choice yields the choice yields. -/
theorem yields_choice
    {holds : α → Prop}
    {place : Choice}
    {readers : List (Node → Except Fault α)}
    {write : α → Json.Value}
    (each : ∀ read ∈ readers, ∀ node value,
      node.Within depth → read node = .ok value → holds value) :
    (choice place readers write).Yields depth holds := by
  intro node value within done
  simp only [choice, bind_eq_ok_iff] at done
  obtain ⟨settled, isSettled, chosen⟩ := done
  have settledWithin := Node.within_of_settle within isSettled
  cases found : firstOf? readers settled with
  | none =>
      simp [found] at chosen
  | some first =>
      simp only [found, pure_eq_ok_iff] at chosen
      subst chosen
      obtain ⟨read, isReader, accepts⟩ := List.exists_of_findSome?_eq_some found
      refine each read isReader settled first settledWithin ?_
      cases result : read settled with
      | error _ =>
          simp [result, Except.toOption] at accepts
      | ok _ =>
          simpa [result, Except.toOption] using accepts

/-- Reading a field of a tree within a depth keeps a property of the record. -/
def Field.Keeps
    (field : Field ρ)
    (depth : Nat)
    (holds : ρ → Prop) :
    Prop :=
  ∀ node former next, node.Within depth → holds former → field.read node former = .ok next →
    holds next

/-- A field keeps what its setter keeps for every value that it can read. -/
theorem field_keeps
    {onValue : α → Prop}
    {holds : ρ → Prop}
    {name : String}
    {get : ρ → α}
    {set : α → ρ → ρ}
    (yields : codec.Yields depth onValue)
    (keeps : ∀ value record, onValue value → holds record → holds (set value record)) :
    (field name codec get set).Keeps depth holds := by
  intro node former next within held done
  simp only [field, bind_eq_ok_iff, pure_eq_ok_iff] at done
  obtain ⟨value, isRead, rfl⟩ := done
  exact keeps value former (yields node value within isRead) held

/-- A field on which a property does not depend keeps it. -/
theorem field_keeps_of_independent
    {holds : ρ → Prop}
    {name : String}
    {get : ρ → α}
    {set : α → ρ → ρ}
    (independent : ∀ value record, holds record → holds (set value record)) :
    (field name codec get set).Keeps depth holds := by
  have anything : codec.Yields depth fun _ => True := fun _ _ _ _ => trivial
  exact field_keeps anything fun value record _ => independent value record

theorem mem_of_fieldAt
    {fields : List (Field ρ)}
    {key : Node}
    {field : Field ρ}
    (found : fieldAt fields key = .ok (some field)) :
    field ∈ fields := by
  have named {name : String}
      (isFound : fields.find? (fun field => field.name == name) = some field) :
      field ∈ fields := List.mem_of_find?_eq_some isFound
  unfold fieldAt at found
  split at found
  · split at found
    · exact List.mem_of_getElem? (Except.ok.inj found)
    · simp [Node.mismatch] at found
  · simp only [bind_eq_ok_iff, pure_eq_ok_iff] at found
    obtain ⟨name, _, isFound⟩ := found
    exact named isFound

/-- What every field keeps a record has after all of its entries. -/
theorem readFields_invariant
    {holds : ρ → Prop}
    {fields : List (Field ρ)}
    (keeps : ∀ field ∈ fields, field.Keeps depth holds)
    {entries : List (Node × Node)}
    (within : ∀ entry ∈ entries, entry.2.Within depth)
    {seen : List String}
    {former final : ρ}
    (held : holds former)
    (done : readFields fields seen former entries = .ok final) :
    holds final := by
  induction entries generalizing seen former with
  | nil =>
      cases done
      exact held
  | cons entry rest inductionHypothesis =>
      have laterWithin : ∀ other ∈ rest, other.2.Within depth :=
        fun other isOther => within other (by simp [isOther])
      simp only [readFields, bind_eq_ok_iff] at done
      obtain ⟨found, isField, going⟩ := done
      cases found with
      | none =>
          simp only [bind_eq_ok_iff] at going
          obtain ⟨_, _, later⟩ := going
          exact inductionHypothesis laterWithin held later
      | some field =>
          dsimp only at going
          split at going
          · simp [Node.mismatch] at going
          · simp only [bind_eq_ok_iff] at going
            obtain ⟨next, changed, later⟩ := going
            have kept := keeps field (mem_of_fieldAt isField) entry.2 former next
              (within entry (by simp)) held changed
            exact inductionHypothesis laterWithin kept later

/-- What every field keeps a record has when it was written as a list. -/
theorem readPlaces_invariant
    {holds : ρ → Prop}
    {fields : List (Field ρ)}
    (keeps : ∀ field ∈ fields, field.Keeps depth holds)
    {items : List Node}
    (within : ∀ item ∈ items, item.Within depth)
    {tail : Option Fault}
    {former final : ρ}
    (held : holds former)
    (done : readPlaces former fields items tail = .ok final) :
    holds final := by
  induction fields generalizing items former with
  | nil =>
      cases items with
      | nil =>
          simp only [readPlaces, bind_eq_ok_iff, pure_eq_ok_iff] at done
          obtain ⟨_, _, rfl⟩ := done
          exact held
      | cons _ _ =>
          simp [readPlaces] at done
  | cons field fields inductionHypothesis =>
      cases items with
      | nil =>
          simp only [readPlaces, bind_eq_ok_iff, pure_eq_ok_iff] at done
          obtain ⟨_, _, rfl⟩ := done
          exact held
      | cons item items =>
          simp only [readPlaces, bind_eq_ok_iff] at done
          obtain ⟨next, changed, later⟩ := done
          have kept := keeps field (by simp) item former next (within item (by simp)) held changed
          exact inductionHypothesis (fun other isOther => keeps other (by simp [isOther]))
            (fun other isOther => within other (by simp [isOther])) kept later

/-- A record has a property that it has when all its fields are left out and that reading any of
them keeps. -/
theorem yields_record
    {holds : ρ → Prop}
    {blank : ρ}
    {fields : List (Field ρ)}
    (onBlank : holds blank)
    (keeps : ∀ field ∈ fields, field.Keeps depth holds) :
    (record blank fields).Yields (depth + 1) holds := by
  intro node read within done
  cases within with
  | map tail standing eachWithin =>
      simp only [record, readRecord, readBlock, bind_eq_ok_iff, pure_eq_ok_iff] at done
      obtain ⟨values, isRead, _, _, rfl⟩ := done
      exact readFields_invariant keeps eachWithin onBlank isRead
  | list tail standing eachWithin =>
      cases standing with
      | settled =>
          exact readPlaces_invariant keeps eachWithin onBlank done
      | written | labelled =>
          simp [record, readRecord, readBlock, Node.isVoid] at done
  | fault | guarded | null | bool | number | string =>
      simp [record, readRecord, readBlock, Node.isVoid] at done

end Codec

end Blueprint
