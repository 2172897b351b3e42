import Blueprint.Proofs.Linking

namespace Blueprint

/-!
# What relation lines say

The head of a relation line names the kind and the entities; of the modifiers some are read for
what they say and the others are kept as they are. A relation that was read tells its line back:
its kind and entities are those of the head, its methods are the modifiers that were kept, and it
has a pivot entity exactly when a modifier of a pivot kind asks for one.
-/

open Schema

namespace Resolution

/-- The column that the first modifier of that name asks for. -/
def askedColumn?
    (modifiers : List Method) :
    Option String :=
  (modifiers.find? fun modifier => modifier.name == "column").bind Method.firstLiteral?

/-- A relation read from the head and the modifiers of a line. -/
structure ReadFrom
    (context : Context)
    (name owner : String)
    (head : Method)
    (modifiers : List Method)
    (relation : Relation) :
    Prop where
  name_eq : relation.name = name
  kind_named : RelationKind.ofWord? head.name = some relation.kind
  target_found : targetOf context owner relation.kind head.arguments = .ok relation.target
  through_found : throughOf context owner relation.kind head.arguments = .ok relation.through
  unattached : relation.belongingColumn = none
  methods_eq : relation.methods = modifiers.filter (isKept relation.kind)
  pivot_asked :
    relation.usingPivot.isSome ↔
      relation.kind.usesPivot = true ∧ ∃ modifier ∈ modifiers, modifier.name = "using"
  pivot_found :
    ∀ key ∈ relation.usingPivot,
      ∃ modifier ∈ modifiers, pivotOf context owner relation.kind modifier = .ok key

theorem ReadFrom.concat
    {context : Context}
    {name owner : String}
    {head modifier : Method}
    {earlier : List Method}
    {relation changed : Relation}
    (read : ReadFrom context name owner head earlier relation)
    (applied : modify context owner relation modifier = .ok changed) :
    ReadFrom context name owner head (earlier ++ [modifier]) changed := by
  have found (key : String) (isPivot : key ∈ relation.usingPivot) :
      ∃ other ∈ earlier ++ [modifier], pivotOf context owner relation.kind other = .ok key := by
    obtain ⟨other, member, names⟩ := read.pivot_found key isPivot
    exact ⟨other, by simp [member], names⟩
  rcases modify_eq_ok_iff.mp applied with
    ⟨named, rfl⟩ | ⟨named, rfl⟩ | ⟨named, uses, key, isPivot, rfl⟩ | ⟨kept, rfl⟩
  · exact { read with
      methods_eq := by simp [read.methods_eq, isKept, named]
      pivot_asked := by simp [read.pivot_asked, or_and_right, exists_or, named]
      pivot_found := found }
  · exact { read with
      methods_eq := by simp [read.methods_eq, isKept, named]
      pivot_asked := by simp [read.pivot_asked, or_and_right, exists_or, named]
      pivot_found := found }
  · exact { read with
      methods_eq := by simp [read.methods_eq, isKept, named, uses]
      pivot_asked := by simp [uses, named]
      pivot_found := by
        intro other isOther
        rw [Option.mem_some_iff] at isOther
        exact ⟨modifier, by simp, isOther ▸ isPivot⟩ }
  · have unasked : relation.kind.usesPivot = true → modifier.name ≠ "using" :=
      fun uses named => (isKept_iff.mp kept).2.2 ⟨named, uses⟩
    exact { read with
      methods_eq := by simp [read.methods_eq, kept]
      pivot_asked := by
        rw [read.pivot_asked]
        refine and_congr_right fun uses => ?_
        simp [or_and_right, exists_or, unasked uses]
      pivot_found := found }

/-- A relation that was read tells its line back. -/
theorem exists_readFrom_of_relationOf
    {context : Context}
    {name line owner : String}
    {relation : Relation}
    (made : relationOf context name line owner = .ok relation) :
    ∃ head modifiers,
      Method.ofLine line = head :: modifiers ∧
        ReadFrom context name owner head modifiers relation := by
  obtain ⟨head, modifiers, kind, target, through, calls, word, hasTarget, hasThrough, modified⟩ :=
    relationOf_eq_ok_iff.mp made
  refine ⟨head, modifiers, calls, ?_⟩
  refine accumulate_traced (ReadFrom context name owner head) ?_
    (fun earlier former modifier next read applied => read.concat applied) modified
  exact {
    name_eq := rfl
    kind_named := word
    target_found := hasTarget
    through_found := hasThrough
    unattached := rfl
    methods_eq := rfl
    pivot_asked := by simp [unmodified]
    pivot_found := by simp [unmodified] }

namespace ReadFrom

variable {context : Context} {name owner : String} {head : Method} {modifiers : List Method}
variable {relation : Relation}

/-- Only a relation to several classes has no target. -/
theorem kind_of_target_eq_none
    (read : ReadFrom context name owner head modifiers relation)
    (none_named : relation.target = none) :
    relation.kind = .morphTo := by
  rcases targetOf_eq_ok_iff.mp read.target_found with ⟨_, isMorph, _⟩ | ⟨_, _, _, _, _, named⟩
  · exact isMorph
  · simp [none_named] at named

theorem isSome_through
    (read : ReadFrom context name owner head modifiers relation) :
    relation.through.isSome = relation.kind.isThrough := by
  rcases throughOf_eq_ok_iff.mp read.through_found with
    ⟨straight, isNone⟩ | ⟨goes, _, _, _, _, isSome⟩
  · simp [straight, isNone]
  · simp [goes, isSome]

/-- The column that a relation asks for is told by the modifiers of its line. -/
theorem declaredColumn?_eq
    (read : ReadFrom context name owner head modifiers relation) :
    declaredColumn? relation = askedColumn? modifiers := by
  have kept (modifier : Method) :
      decide (isKept relation.kind modifier = true ∧ (modifier.name == "column") = true) =
        (modifier.name == "column") := by
    by_cases named : modifier.name = "column"
    · simp [isKept, named]
    · simp [named]
  rw [declaredColumn?, askedColumn?, read.methods_eq, List.find?_filter]
  simp only [kept]

/-- A join table is made up for a pivot kind unless a modifier names a pivot entity. -/
theorem needsGuessedPivot_iff
    (read : ReadFrom context name owner head modifiers relation) :
    relation.needsGuessedPivot = true ↔
      relation.kind.usesPivot = true ∧ ∀ modifier ∈ modifiers, modifier.name ≠ "using" := by
  rw [Relation.needsGuessedPivot, Bool.and_eq_true, Option.isNone_iff_eq_none,
    ← Option.not_isSome_iff_eq_none, read.pivot_asked]
  constructor
  · rintro ⟨uses, unasked⟩
    exact ⟨uses, fun modifier member named => unasked ⟨uses, modifier, member, named⟩⟩
  · rintro ⟨uses, unasked⟩
    refine ⟨uses, ?_⟩
    rintro ⟨_, modifier, member, named⟩
    exact unasked modifier member named

end ReadFrom

end Resolution

end Blueprint
