import Blueprint.Proofs.Codecs

namespace Blueprint.Codec

/-!
# The order of fields

A record is read of a map entry by entry. Where no two fields get in the way of each other, the
entries may stand in any order: two neighbours may be read the other way round, since it only counts
which fields have been seen and not in which order.
-/

variable {α β ρ : Type}

/-- A field may as well be read after another one as before it. -/
def Field.Commutes
    (field other : Field ρ) :
    Prop :=
  ∀ node otherNode former middle final,
    field.read node former = .ok middle →
    other.read otherNode middle = .ok final →
    ∃ turned, other.read otherNode former = .ok turned ∧ field.read node turned = .ok final

theorem commutes_field
    {codec : Codec α}
    {other : Codec β}
    {name otherName : String}
    {get : ρ → α}
    {otherGet : ρ → β}
    {set : α → ρ → ρ}
    {otherSet : β → ρ → ρ}
    (turns :
      ∀ value otherValue record,
        otherSet otherValue (set value record) = set value (otherSet otherValue record)) :
    (field name codec get set).Commutes (field otherName other otherGet otherSet) := by
  intro node otherNode former middle final first second
  simp only [field, bind_eq_ok_iff, pure_eq_ok_iff] at first second ⊢
  obtain ⟨value, isRead, rfl⟩ := first
  obtain ⟨otherValue, otherIsRead, rfl⟩ := second
  exact ⟨_, ⟨otherValue, otherIsRead, rfl⟩, value, isRead, (turns value otherValue former).symm⟩

/-- One entry is read into a record: one of an unknown name is passed over, and one of a field that
has not been seen is read. -/
inductive ReadsEntry
    (fields : List (Field ρ)) :
    List String × ρ →
    Node × Node →
    List String × ρ →
    Prop where
  | skipped
      {seen : List String}
      {record : ρ}
      {key node : Node}
      (isUnknown : fieldAt fields key = .ok none)
      (isSound : node.skip = .ok ()) :
      ReadsEntry fields (seen, record) (key, node) (seen, record)
  | read
      {seen : List String}
      {record next : ρ}
      {key node : Node}
      {field : Field ρ}
      (isField : fieldAt fields key = .ok (some field))
      (unseen : field.name ∉ seen)
      (isRead : field.read node record = .ok next) :
      ReadsEntry fields (seen, record) (key, node) (field.name :: seen, next)

theorem readFields_cons_eq_ok_iff
    {fields : List (Field ρ)}
    {seen : List String}
    {record final : ρ}
    {entry : Node × Node}
    {rest : List (Node × Node)} :
    readFields fields seen record (entry :: rest) = .ok final ↔
      ∃ state, ReadsEntry fields (seen, record) entry state ∧
        readFields fields state.1 state.2 rest = .ok final := by
  obtain ⟨key, node⟩ := entry
  simp only [readFields, bind_eq_ok_iff]
  constructor
  · rintro ⟨found, isFound, isRest⟩
    cases found with
    | none =>
        simp only [bind_eq_ok_iff] at isRest
        obtain ⟨_, isSound, isRest⟩ := isRest
        exact ⟨_, .skipped isFound isSound, isRest⟩
    | some field =>
        by_cases isSeen : field.name ∈ seen
        · simp [isSeen, Node.mismatch] at isRest
        · simp only [List.contains_iff_mem, isSeen, ↓reduceIte, bind_eq_ok_iff] at isRest
          obtain ⟨next, isRead, isRest⟩ := isRest
          exact ⟨_, .read isFound isSeen isRead, isRest⟩
  · rintro ⟨state, reads, isRest⟩
    cases reads with
    | skipped isUnknown isSound =>
        refine ⟨none, isUnknown, ?_⟩
        simp only [bind_eq_ok_iff]
        exact ⟨(), isSound, isRest⟩
    | @read _ _ next _ _ field isField unseen isRead =>
        refine ⟨some field, isField, ?_⟩
        simp only [List.contains_iff_mem, unseen, ↓reduceIte, bind_eq_ok_iff]
        exact ⟨next, isRead, isRest⟩

/-- It only counts which fields have been seen. -/
theorem ReadsEntry.of_perm
    {fields : List (Field ρ)}
    {seen others : List String}
    {record : ρ}
    {entry : Node × Node}
    {state : List String × ρ}
    (perm : seen.Perm others)
    (reads : ReadsEntry fields (seen, record) entry state) :
    ∃ laterSeen,
      state.1.Perm laterSeen ∧
        ReadsEntry fields (others, record) entry (laterSeen, state.2) := by
  cases reads with
  | skipped isUnknown isSound =>
      exact ⟨others, perm, .skipped isUnknown isSound⟩
  | @read _ _ _ _ _ field isField unseen isRead =>
      exact ⟨field.name :: others, perm.cons _,
        .read isField (fun isSeen => unseen (perm.mem_iff.mpr isSeen)) isRead⟩

theorem readFields_of_seen_perm
    {fields : List (Field ρ)}
    {seen others : List String}
    (perm : seen.Perm others)
    {record final : ρ}
    {entries : List (Node × Node)}
    (isRead : readFields fields seen record entries = .ok final) :
    readFields fields others record entries = .ok final := by
  induction entries generalizing seen others record with
  | nil =>
      exact isRead
  | cons entry rest inductionHypothesis =>
      rw [readFields_cons_eq_ok_iff] at isRead ⊢
      obtain ⟨state, reads, isRest⟩ := isRead
      obtain ⟨laterSeen, laterPerm, laterReads⟩ := reads.of_perm perm
      exact ⟨_, laterReads, inductionHypothesis laterPerm isRest⟩

/-- Fields of different names get not in the way of each other. -/
def Independent
    (fields : List (Field ρ)) :
    Prop :=
  ∀ field ∈ fields, ∀ other ∈ fields, field.name ≠ other.name → field.Commutes other

/-- Two entries that are read one after the other may be read the other way round. -/
theorem ReadsEntry.turned
    {fields : List (Field ρ)}
    (independent : Independent fields)
    {state middle final : List String × ρ}
    {first second : Node × Node}
    (readsFirst : ReadsEntry fields state first middle)
    (readsSecond : ReadsEntry fields middle second final) :
    ∃ turned seen,
      final.1.Perm seen ∧
        ReadsEntry fields state second turned ∧
        ReadsEntry fields turned first (seen, final.2) := by
  cases readsFirst with
  | skipped isUnknown isSound =>
      exact ⟨final, final.1, .refl _, readsSecond, .skipped isUnknown isSound⟩
  | @read seen record next key node field isField unseen isRead =>
      cases readsSecond with
      | skipped isUnknown isSound =>
          exact ⟨_, _, .refl _, .skipped isUnknown isSound, .read isField unseen isRead⟩
      | @read _ _ last otherKey otherNode other isOther otherUnseen otherIsRead =>
          rw [List.mem_cons, not_or] at otherUnseen
          obtain ⟨different, otherUnseen⟩ := otherUnseen
          obtain ⟨turned, turnedIsRead, lastIsRead⟩ :=
            independent field (mem_of_fieldAt isField) other (mem_of_fieldAt isOther)
              (Ne.symm different) node otherNode record next last isRead otherIsRead
          have stillUnseen : field.name ∉ other.name :: seen := by
            rw [List.mem_cons, not_or]
            exact ⟨Ne.symm different, unseen⟩
          exact ⟨_, _, .swap _ _ _, .read isOther otherUnseen turnedIsRead,
            .read isField stillUnseen lastIsRead⟩

/-- Entries may be read in any order as fields that get not in the way of each other. -/
theorem readFields_of_perm
    {fields : List (Field ρ)}
    (independent : Independent fields)
    {entries others : List (Node × Node)}
    (perm : entries.Perm others)
    {seen : List String}
    {record final : ρ}
    (isRead : readFields fields seen record entries = .ok final) :
    readFields fields seen record others = .ok final := by
  induction perm generalizing seen record with
  | nil =>
      exact isRead
  | cons entry _ inductionHypothesis =>
      rw [readFields_cons_eq_ok_iff] at isRead ⊢
      obtain ⟨state, reads, isRest⟩ := isRead
      exact ⟨state, reads, inductionHypothesis isRest⟩
  | swap second first rest =>
      simp only [readFields_cons_eq_ok_iff] at isRead ⊢
      obtain ⟨middle, readsFirst, last, readsSecond, isRest⟩ := isRead
      obtain ⟨turned, laterSeen, laterPerm, turnedReads, lastReads⟩ :=
        readsFirst.turned independent readsSecond
      exact ⟨turned, turnedReads, _, lastReads, readFields_of_seen_perm laterPerm isRest⟩
  | trans _ _ firstHypothesis secondHypothesis =>
      exact secondHypothesis (firstHypothesis isRead)

/-- A record is read alike of a map in any order. -/
theorem read_record_of_perm
    {blank : ρ}
    {fields : List (Field ρ)}
    (independent : Independent fields)
    {entries others : List (Node × Node)}
    (perm : entries.Perm others)
    {tail : Option Fault}
    {standing : Standing}
    {value : ρ}
    (isRead : (record blank fields).read (.map entries tail standing) = .ok value) :
    (record blank fields).read (.map others tail standing) = .ok value := by
  simp only [record, readRecord, readBlock, bind_eq_ok_iff, pure_eq_ok_iff] at isRead ⊢
  obtain ⟨_, fieldsRead, ended⟩ := isRead
  exact ⟨_, readFields_of_perm independent perm fieldsRead, ended⟩

end Blueprint.Codec
