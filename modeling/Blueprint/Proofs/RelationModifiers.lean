import Blueprint.Proofs.StandingRelations

namespace Blueprint

/-!
# The modifiers of relation lines

A relation of a document that resolves tells the line of its placeholder back. Its head gives the
kind and the entities. A modifier says that there is a default, names columns of the join table,
names the pivot entity of a kind that has one, or is kept as it is, and no modifier does two of
these: the parts that the relation was made of make up all modifiers of the line again.
-/

open Schema

namespace Resolution

/-- The modifiers of a name, in order. -/
def modifiersNamed
    (name : String)
    (modifiers : List Method) :
    List Method :=
  modifiers.filter fun modifier => modifier.name == name

/-- The modifiers that name the pivot entity, in order; only some kinds have one. -/
def pivotModifiers
    (kind : RelationKind)
    (modifiers : List Method) :
    List Method :=
  if kind.usesPivot then modifiersNamed "using" modifiers else []

/-- A relation reflects its line: the head and every modifier are found again in its fields. -/
structure Reflects
    (context : Context)
    (owner : String)
    (head : Method)
    (modifiers : List Method)
    (relation : Relation) :
    Prop where
  kind_named : RelationKind.ofWord? head.name = some relation.kind
  target_named :
    (head.arguments = [] ∧ relation.kind = .morphTo ∧ relation.target = none) ∨
      ∃ first others key,
        head.arguments = first :: others ∧
          context.entityKey first.text owner = .ok key ∧ relation.target = some key
  through_named :
    (relation.kind.isThrough = false ∧ relation.through = none) ∨
      (relation.kind.isThrough = true ∧
        ∃ second key,
          head.arguments[1]? = some second ∧
            context.entityKey second.text owner = .ok key ∧ relation.through = some key)
  withDefault_iff :
    relation.withDefault = true ↔ ∃ modifier ∈ modifiers, modifier.name = "withDefault"
  withPivot_eq :
    relation.withPivot = (modifiersNamed "withPivot" modifiers).flatMap Method.texts
  usingPivot_absent : pivotModifiers relation.kind modifiers = [] → relation.usingPivot = none
  usingPivot_named :
    ∀ last,
      (pivotModifiers relation.kind modifiers).getLast? = some last →
      ∃ name key,
        last.firstLiteral? = some name ∧
          context.entityKey name owner = .ok key ∧ relation.usingPivot = some key
  methods_eq : relation.methods = modifiers.filter (isKept relation.kind)
  accounted :
    modifiers.Perm
      (modifiersNamed "withDefault" modifiers ++
        (modifiersNamed "withPivot" modifiers ++
          (pivotModifiers relation.kind modifiers ++ relation.methods)))

/-! Reading the modifiers one after the other. -/

/-- What the modifiers read so far have come to. -/
structure Tallied
    (context : Context)
    (owner : String)
    (modifiers : List Method)
    (relation : Relation) :
    Prop where
  withDefault_iff :
    relation.withDefault = true ↔ ∃ modifier ∈ modifiers, modifier.name = "withDefault"
  withPivot_eq :
    relation.withPivot = (modifiersNamed "withPivot" modifiers).flatMap Method.texts
  usingPivot_absent : pivotModifiers relation.kind modifiers = [] → relation.usingPivot = none
  usingPivot_named :
    ∀ last,
      (pivotModifiers relation.kind modifiers).getLast? = some last →
      ∃ key, pivotOf context owner relation.kind last = .ok key ∧ relation.usingPivot = some key

@[simp] theorem modifiersNamed_nil
    (name : String) :
    modifiersNamed name [] = [] :=
  rfl

/-- Modifiers of a name are gathered in order. -/
@[simp] theorem modifiersNamed_append
    (name : String)
    (earlier later : List Method) :
    modifiersNamed name (earlier ++ later) =
      modifiersNamed name earlier ++ modifiersNamed name later :=
  List.filter_append _ _

@[simp] theorem modifiersNamed_singleton
    (name : String)
    (modifier : Method) :
    modifiersNamed name [modifier] = if modifier.name = name then [modifier] else [] := by
  by_cases named : modifier.name = name <;> simp [modifiersNamed, named]

@[simp] theorem pivotModifiers_nil
    (kind : RelationKind) :
    pivotModifiers kind [] = [] := by
  simp [pivotModifiers]

/-- Modifiers for a pivot are gathered in order. -/
@[simp] theorem pivotModifiers_append
    (kind : RelationKind)
    (earlier later : List Method) :
    pivotModifiers kind (earlier ++ later) =
      pivotModifiers kind earlier ++ pivotModifiers kind later := by
  by_cases uses : kind.usesPivot = true <;> simp [pivotModifiers, uses]

@[simp] theorem pivotModifiers_singleton
    (kind : RelationKind)
    (modifier : Method) :
    pivotModifiers kind [modifier] =
      if modifier.name = "using" ∧ kind.usesPivot = true then [modifier] else [] := by
  by_cases uses : kind.usesPivot = true <;> simp [pivotModifiers, uses]

/-- A modifier more is accounted for once, by its name. -/
theorem Tallied.concat
    {context : Context}
    {owner : String}
    {earlier : List Method}
    {modifier : Method}
    {relation changed : Relation}
    (tallied : Tallied context owner earlier relation)
    (applied : modify context owner relation modifier = .ok changed) :
    Tallied context owner (earlier ++ [modifier]) changed := by
  rcases modify_eq_ok_iff.mp applied with
    ⟨named, rfl⟩ | ⟨named, rfl⟩ | ⟨named, uses, key, isPivot, rfl⟩ | ⟨kept, rfl⟩
  · exact {
      withDefault_iff := by simp [named]
      withPivot_eq := by simpa [named] using tallied.withPivot_eq
      usingPivot_absent := by simpa [named] using tallied.usingPivot_absent
      usingPivot_named := by simpa [named] using tallied.usingPivot_named }
  · exact {
      withDefault_iff := by simpa [named] using tallied.withDefault_iff
      withPivot_eq := by simpa [named] using tallied.withPivot_eq
      usingPivot_absent := by simpa [named] using tallied.usingPivot_absent
      usingPivot_named := by simpa [named] using tallied.usingPivot_named }
  · exact {
      withDefault_iff := by simpa [named] using tallied.withDefault_iff
      withPivot_eq := by simpa [named] using tallied.withPivot_eq
      usingPivot_absent := by simp [named, uses]
      usingPivot_named := by simpa [named, uses] using isPivot }
  · obtain ⟨notDefault, notColumns, notPivot⟩ := isKept_iff.mp kept
    exact {
      withDefault_iff := by simpa [notDefault] using tallied.withDefault_iff
      withPivot_eq := by simpa [notColumns] using tallied.withPivot_eq
      usingPivot_absent := by simpa [notPivot] using tallied.usingPivot_absent
      usingPivot_named := by simpa [notPivot] using tallied.usingPivot_named }

/-- A modifier is of one of four sorts. -/
theorem cases_of_modifier
    (kind : RelationKind)
    (modifier : Method) :
    modifier.name = "withDefault" ∨
      modifier.name = "withPivot" ∨
        (modifier.name = "using" ∧ kind.usesPivot = true) ∨ isKept kind modifier = true := by
  rw [isKept_iff]
  tauto

/-- A modifier is of exactly one of the four sorts. -/
theorem sorts_singleton
    (kind : RelationKind)
    (modifier : Method) :
    modifiersNamed "withDefault" [modifier] ++
        (modifiersNamed "withPivot" [modifier] ++
          (pivotModifiers kind [modifier] ++ [modifier].filter (isKept kind))) =
      [modifier] := by
  rcases cases_of_modifier kind modifier with named | named | ⟨named, uses⟩ | kept
  · simp [named, isKept]
  · simp [named, isKept]
  · simp [named, uses, isKept]
  · obtain ⟨notDefault, notColumns, notPivot⟩ := isKept_iff.mp kept
    simp [notDefault, notColumns, notPivot, kept]

/-- The modifiers of the four sorts are all modifiers, each as often as it is there. -/
theorem perm_sorts
    (kind : RelationKind)
    (modifiers : List Method) :
    modifiers.Perm
      (modifiersNamed "withDefault" modifiers ++
        (modifiersNamed "withPivot" modifiers ++
          (pivotModifiers kind modifiers ++ modifiers.filter (isKept kind)))) := by
  rw [List.perm_iff_count]
  intro asked
  induction modifiers using List.reverseRecOn with
  | nil =>
      simp
  | append_singleton earlier last inductionHypothesis =>
      have lastSorts := congrArg (List.count asked) (sorts_singleton kind last)
      simp only [List.count_append, modifiersNamed_append, pivotModifiers_append,
        List.filter_append] at inductionHypothesis lastSorts ⊢
      omega

/-- A relation that was read reflects its line. -/
theorem exists_reflects_of_relationOf
    {context : Context}
    (keyed : context.entities.Keyed Entity.key)
    {name line owner : String}
    {relation : Relation}
    (made : relationOf context name line owner = .ok relation) :
    ∃ head modifiers,
      Method.ofLine line = head :: modifiers ∧ Reflects context owner head modifiers relation := by
  obtain ⟨head, modifiers, calls, read⟩ := exists_readFrom_of_relationOf made
  obtain ⟨_, _, kind, target, through, sameCalls, _, _, _, modified⟩ := relationOf_eq_ok_iff.mp made
  cases calls.symm.trans sameCalls
  have tallied : Tallied context owner modifiers relation := by
    refine accumulate_traced (Tallied context owner) ?_
      (fun earlier former modifier next tallied applied => tallied.concat applied) modified
    constructor <;> simp [unmodified]
  refine ⟨head, modifiers, calls, ?_⟩
  exact {
    kind_named := read.kind_named
    target_named := targetOf_eq_ok_iff.mp read.target_found
    through_named := throughOf_eq_ok_iff.mp read.through_found
    withDefault_iff := tallied.withDefault_iff
    withPivot_eq := tallied.withPivot_eq
    usingPivot_absent := tallied.usingPivot_absent
    usingPivot_named := by
      intro last isLast
      obtain ⟨key, isPivot, stored⟩ := tallied.usingPivot_named last isLast
      obtain ⟨asked, entity, literal, found, _, rfl⟩ := pivotOf_eq_ok_iff.mp isPivot
      obtain ⟨key, lookedUp, isEntity⟩ := Context.entity_eq_ok_iff.mp found
      rw [keyed key entity isEntity] at stored
      exact ⟨asked, key, literal, lookedUp, stored⟩
    methods_eq := read.methods_eq
    accounted := by
      rw [read.methods_eq]
      exact perm_sorts relation.kind modifiers }

/-- A relation reflects its line in terms of every context with the same outline. -/
theorem Reflects.of_outline_eq
    {context other : Context}
    (same : context.outline = other.outline)
    {owner : String}
    {head : Method}
    {modifiers : List Method}
    {relation : Relation}
    (reflects : Reflects context owner head modifiers relation) :
    Reflects other owner head modifiers relation := by
  have ⟨_, target_named, through_named, _, _, _, usingPivot_named, _, _⟩ := reflects
  rw [Context.entityKey_of_outline_eq same] at target_named through_named usingPivot_named
  exact { reflects with
    target_named := target_named
    through_named := through_named
    usingPivot_named := usingPivot_named }

end Resolution

open Resolution

/-- Every placeholder of a document that resolves has a line, and the relation of its name reflects
the line. -/
theorem reflects_of_resolve
    {document : Document}
    {plan : Plan}
    (resolved : resolve document = .ok plan) :
    ∀ placeholder ∈ placeholders document,
      ∃ line head modifiers entity relation,
        placeholder.line = some line ∧
          Method.ofLine line = head :: modifiers ∧
          plan.database.entities.get? placeholder.model = some entity ∧
          entity.relations.get? placeholder.name = some relation ∧
          Reflects (settled document) placeholder.owner head modifiers relation := by
  intro placeholder member
  obtain ⟨resolves, rfl⟩ := resolve_eq_ok_iff.mp resolved
  obtain ⟨entity, declared, found, stands⟩ :=
    exists_standsOn_of_relations resolves.relations_done member
  obtain ⟨line, given, made, _⟩ := Placeholder.read_eq_ok_iff.mp stands.read
  obtain ⟨head, modifiers, calls, reflects⟩ :=
    exists_reflects_of_relationOf (wellLinked_built document).keyed made
  have sameOutline : (built document).outline = (settled document).outline := by
    rw [← outline_relations document (built document), settled_eq]
    rfl
  refine ⟨line, head, modifiers, entity, keptRelation declared, given, calls, ?_,
    stands.relation_stored, ?_⟩
  · rw [plan_database]
    exact found
  · exact { reflects.of_outline_eq sameOutline with }

/-- Clubs have members through memberships; a member has a favourite club, on which a pivot entity
has no bearing. -/
def clubDocument : Document :=
  let document := Document.ofModels
    [("Club",
      [("id", .line "id"),
       ("members",
        .relation
          (some "belongsToMany:Member withPivot:level as:role using:Membership withPivot:note"))]),
     ("Member",
      [("id", .line "id"),
       ("favourite", .relation (some "belongsTo:Club withDefault using:Membership"))])]
  let membership :=
    { Document.Model.blank with
      columns := some (Table.ofList [("id", .line "id")])
      modelType := some "pivot" }
  { document with
    database :=
      { document.database with
        models := document.database.models.insert "Membership" membership } }

/-- Every relation of the club is reflected by its line. -/
theorem reflects_clubDocument :
    ∃ plan,
      resolve clubDocument = .ok plan ∧
        ∀ placeholder ∈ placeholders clubDocument,
          ∃ line head modifiers entity relation,
            placeholder.line = some line ∧
              Method.ofLine line = head :: modifiers ∧
              plan.database.entities.get? placeholder.model = some entity ∧
              entity.relations.get? placeholder.name = some relation ∧
              Reflects (settled clubDocument) placeholder.owner head modifiers relation := by
  have isOk : (resolve clubDocument).isOk = true := by decide +kernel
  obtain ⟨plan, resolved⟩ := exists_eq_ok_of_isOk isOk
  exact ⟨plan, resolved, reflects_of_resolve resolved⟩

example :
    (relationOf (built clubDocument) "members"
        "belongsToMany:Member withPivot:level as:role using:Membership withPivot:note"
        "Club.members").toOption.map
        (fun relation =>
          (relation.usingPivot, relation.withPivot, relation.methods.map Method.name)) =
      some (some "Membership", ["level", "note"], ["as"]) := by
  decide +kernel

end Blueprint
