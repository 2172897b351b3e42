import Blueprint.Proofs.Answers

namespace Blueprint

/-!
# Errors of declarations

The shape of a document is checked, and entities are made, without following a reference. Where
that fails it is an error of a declaration by itself, or a primary key column that is not there.
-/

open Schema

namespace Resolution

section Shape

variable {known : ResolveError → Prop}
variable (ownErrors : ∀ cause : ResolveError, cause.IsOwn → known cause)

include ownErrors

theorem checkColumns_follows
    (owner : String)
    (allowRelations : Bool)
    (columns : Document.Columns) :
    Follows known (Document.checkColumns owner allowRelations columns)
      (Document.checkColumns owner allowRelations columns) := by
  refine .checkAll fun entry _ => ?_
  unfold Document.checkColumn
  split
  · split
    · exact .error (ownErrors (.malformed _ _) trivial) _
    · exact .ok ()
  · split
    · exact .error (ownErrors (.malformed _ _) trivial) _
    · split
      · exact .error (ownErrors (.malformed _ _) trivial) _
      · exact .ok ()

theorem modelColumns_follows
    (key : String)
    (model : Document.Model) :
    Follows known (Document.modelColumns key model) (Document.modelColumns key model) := by
  unfold Document.modelColumns
  split
  · exact .error (ownErrors (.malformed _ _) trivial) _
  · split
    · exact .error (ownErrors (.malformed _ _) trivial) _
    · exact .ok _

theorem modelType_follows
    (key : String)
    (model : Document.Model) :
    Follows known (Document.modelType key model) (Document.modelType key model) := by
  unfold Document.modelType
  split
  · exact .ok _
  · split
    · exact .ok _
    · exact .error (ownErrors (.malformed _ _) trivial) _

theorem primaryParts_follows
    (key : String)
    (block : Document.PrimaryBlock) :
    Follows known (Document.primaryParts key block) (Document.primaryParts key block) := by
  unfold Document.primaryParts
  split
  · exact .ok _
  · exact .error (ownErrors (.malformed _ _) trivial) _

theorem checkModel_follows
    (entry : String × Document.Model) :
    Follows known (Document.checkModel entry) (Document.checkModel entry) := by
  refine (modelColumns_follows ownErrors entry.1 entry.2).bind fun columns => ?_
  refine (checkColumns_follows ownErrors _ _ columns).bind fun _ => ?_
  refine (modelType_follows ownErrors entry.1 entry.2).bind fun _ => ?_
  split
  · exact (primaryParts_follows ownErrors _ _).bind fun _ => .ok ()
  · exact .ok ()

/-- A document fails the check with errors of its declarations. -/
theorem check_follows
    (document : Document) :
    Follows known document.check document.check := by
  refine Follows.bind (.checkAll fun entry _ => checkModel_follows ownErrors entry) fun _ => ?_
  refine Follows.bind (.checkAll fun entry _ => checkColumns_follows ownErrors _ _ _) fun _ => ?_
  exact .checkAll fun entry _ => checkController_follows ownErrors entry

theorem scalarColumns_follows
    (owner : String)
    (columns : Document.Columns) :
    Follows known (scalarColumns owner columns) (scalarColumns owner columns) := by
  refine Follows.map (.collect fun line _ => ?_) _
  unfold columnOfLine
  split
  · exact .ok _
  · exact .error (ownErrors (.malformed _ _) trivial) _

end Shape

/-! The entities of models. -/

section Parts

variable {known : ResolveError → Prop}
variable (plainErrors : ∀ cause : ResolveError, cause.IsPlain → known cause)

include plainErrors

/-- A route column is known or missing without another entity. -/
theorem routeBindingOf_follows
    (key : String)
    (columns : Table Column)
    (declared : Option String) :
    Follows known (routeBindingOf key columns declared)
      (routeBindingOf key columns declared) := by
  unfold routeBindingOf
  split
  · exact .ok _
  · split
    · exact .ok _
    · exact missing_follows plainErrors (by simp) (by simp) _ _ _

/-- Events are known or unknown without another entity. -/
theorem eventsOf_follows
    (key className : String)
    (events : Option Document.Events) :
    Follows known (eventsOf key className events) (eventsOf key className events) := by
  refine .accumulate fun bound entry _ => ?_
  unfold bindEvent
  split
  · exact .ok _
  · exact missing_follows plainErrors (by simp) (by simp) _ _ _

end Parts

/-- A primary key that is declared has all its parts, and its column is there; there are no other
errors of primary keys. -/
theorem primaryOf_follows
    {known : ResolveError → Prop}
    {key : String}
    {columns : Table Column}
    {declared : Option Document.Primary}
    (parts :
      ∀ block,
        declared = some (.block block) →
        Follows known (Document.primaryParts key block) (Document.primaryParts key block))
    (absent :
      ∀ block column,
        declared = some (.block block) →
        block.column = some column →
        column ∉ columns.keys →
        known (.invalidPrimaryKey key column)) :
    Follows known (primaryOf key columns declared) (primaryOf key columns declared) := by
  match declared with
  | none | some (.toggle true) | some (.toggle false) =>
      exact .ok _
  | some (.block block) =>
      refine (parts block rfl).bind_of_ok ?_
      rintro ⟨column, keyType, incrementing⟩ hasParts
      have isColumn : block.column = some column := by
        obtain ⟨given, givenType, givenFlag⟩ := block
        cases given <;> cases givenType <;> cases givenFlag <;>
          simp_all [Document.primaryParts, Document.refuse]
      dsimp only
      split
      · exact .ok _
      · next missing =>
          rw [Table.contains_iff] at missing
          exact .error (absent block column rfl isColumn missing) _

end Resolution

end Blueprint
