import Blueprint.Proofs.Answers
import Blueprint.Proofs.LinkedEntities
import Blueprint.Proofs.RelationLines

namespace Blueprint

/-!
# What placeholders declare

A placeholder is read into a relation and, if its kind needs one, a column. Reading looks at the
outline of the entities only, which linking keeps. So linking a document comes to putting onto each
entity by itself what its own placeholders declare, one after the other, and to failing where that
fails for some entity.
-/

open Schema

namespace Resolution

/-! Reading a line needs no more than the outline of the entities. -/

/-- The target of a relation is told by the outline of the entities. -/
theorem targetOf_bare
    (context : Context)
    (owner : String)
    (kind : RelationKind)
    (arguments : List Argument) :
    targetOf context.bare owner kind arguments = targetOf context owner kind arguments := by
  cases arguments <;> simp [targetOf, Context.entityKey_bare]

theorem throughOf_bare
    (context : Context)
    (owner : String)
    (kind : RelationKind)
    (arguments : List Argument) :
    throughOf context.bare owner kind arguments = throughOf context owner kind arguments := by
  simp only [throughOf, Context.entityKey_bare]

theorem pivotOf_bare
    (context : Context)
    (owner : String)
    (kind : RelationKind)
    (method : Method) :
    pivotOf context.bare owner kind method = pivotOf context owner kind method := by
  unfold pivotOf
  cases method.firstLiteral? with
  | none =>
      rfl
  | some name =>
      simp only [Context.entity_bare]
      cases context.entity name owner <;> rfl

theorem modify_bare
    (context : Context)
    (owner : String) :
    modify context.bare owner = modify context owner := by
  funext relation method
  simp only [modify, pivotOf_bare]

theorem relationOf_bare
    (context : Context)
    (name line owner : String) :
    relationOf context.bare name line owner = relationOf context name line owner := by
  simp only [relationOf, targetOf_bare, throughOf_bare, modify_bare]

theorem belongingColumnOf_bare
    (context : Context)
    (name owner : String)
    (relation : Relation) :
    belongingColumnOf context.bare name owner relation =
      belongingColumnOf context name owner relation := by
  unfold belongingColumnOf
  cases relation.kind with
  | belongsTo =>
      cases relation.target with
      | none =>
          rfl
      | some key =>
          simp only [Context.entity_bare]
          cases context.entity key owner <;> rfl
  | _ =>
      rfl

/-- The relation that a placeholder declares, and the column that the relation keeps. -/
def Placeholder.read
    (placeholder : Placeholder)
    (context : Context) :
    Except ResolveError (Relation × Option Column) :=
  match placeholder.line with
  | none => Document.refuse placeholder.owner .relationLineRequired
  | some line => do
      let relation ← relationOf context placeholder.name line placeholder.owner
      let column ← belongingColumnOf context placeholder.name placeholder.owner relation
      pure (relation, column)

/-- Put what a placeholder declares onto an entity. -/
def putOn
    (context : Context)
    (entity : Entity)
    (placeholder : Placeholder) :
    Except ResolveError Entity := do
  let declared ← placeholder.read context
  attach entity placeholder.model placeholder.name declared.1 declared.2

/-- Put what placeholders declare onto an entity, one after the other. -/
def linkEntity
    (context : Context)
    (entity : Entity)
    (placeholders : List Placeholder) :
    Except ResolveError Entity :=
  accumulate (putOn context) entity placeholders

/-- A placeholder is read as the relation of its line with the column that it keeps. -/
theorem Placeholder.read_eq_ok_iff
    {placeholder : Placeholder}
    {context : Context}
    {declared : Relation × Option Column} :
    placeholder.read context = .ok declared ↔
      ∃ line,
        placeholder.line = some line ∧
          relationOf context placeholder.name line placeholder.owner = .ok declared.1 ∧
          belongingColumnOf context placeholder.name placeholder.owner declared.1 =
            .ok declared.2 := by
  obtain ⟨relation, column⟩ := declared
  cases given : placeholder.line with
  | none =>
      simp [Placeholder.read, given, Document.refuse]
  | some line =>
      simp only [Placeholder.read, given, bind_eq_ok_iff, pure_eq_ok_iff, Prod.mk.injEq,
        Option.some.injEq, exists_eq_left']
      constructor
      · rintro ⟨_, isRelation, _, isColumn, rfl, rfl⟩
        exact ⟨isRelation, isColumn⟩
      · rintro ⟨isRelation, isColumn⟩
        exact ⟨relation, isRelation, column, isColumn, rfl, rfl⟩

/-- What is read of a placeholder is told by the outline of the entities. -/
theorem Placeholder.read_bare
    (placeholder : Placeholder)
    (context : Context) :
    placeholder.read context.bare = placeholder.read context := by
  simp only [Placeholder.read, relationOf_bare, belongingColumnOf_bare]

/-- A placeholder declares the same whenever the outline of the entities is the same. -/
theorem Placeholder.read_of_outline_eq
    {context other : Context}
    (same : context.outline = other.outline)
    (placeholder : Placeholder) :
    placeholder.read context = placeholder.read other := by
  have sameBare : context.bare.entities = other.bare.entities := same
  rw [← placeholder.read_bare context, ← placeholder.read_bare other]
  generalize context.bare = first at sameBare
  generalize other.bare = second at sameBare
  obtain ⟨⟩ := first
  obtain ⟨⟩ := second
  cases sameBare
  rfl

/-- Placeholders are read alike in contexts that answer alike. -/
theorem Placeholder.read_follows
    {known : ResolveError → Prop}
    {context other : Context}
    (alike : AnswersAlike ResolveError.IsOwn known context other)
    (placeholder : Placeholder) :
    Follows known (placeholder.read context) (placeholder.read other) := by
  unfold Placeholder.read
  cases placeholder.line with
  | none =>
      exact .error (alike.knownErrors (.malformed _ _) trivial) _
  | some line =>
      have sameRelation :
          Follows known (relationOf context placeholder.name line placeholder.owner)
            (relationOf other placeholder.name line placeholder.owner) :=
        relationOf_follows alike.unchecked.plain _ fun _ =>
          alike.knownErrors (.malformed _ _) trivial
      refine sameRelation.bind fun relation => ?_
      exact (belongingColumnOf_follows alike.unchecked.plain _ _ relation).bind fun column => .ok _

/-- The relation as it stands on its entity, with the name of the column that it keeps. -/
def keptRelation
    (declared : Relation × Option Column) :
    Relation :=
  { declared.1 with belongingColumn := declared.2.map Column.name }

theorem keptRelation_of_unattached
    {relation : Relation}
    (unattached : relation.belongingColumn = none) :
    keptRelation (relation, none) = relation :=
  congrArg (fun kept => { relation with belongingColumn := kept }) unattached.symm

/-- An entity after a relation has been put onto it, with the column that was declared with it: no
column that was there has changed. -/
structure Attached
    (entity : Entity)
    (name : String)
    (declared : Relation × Option Column)
    (changed : Entity) :
    Prop where
  key_eq : changed.key = entity.key
  relations_eq : changed.relations = entity.relations.insert name (keptRelation declared)
  column_kept :
    ∀ asked held,
      entity.columns.get? asked = some held → changed.columns.get? asked = some held
  column_added : ∀ added ∈ declared.2, changed.columns.get? added.name = some added
  column_cases :
    ∀ asked held,
      changed.columns.get? asked = some held →
      entity.columns.get? asked = some held ∨ held ∈ declared.2 ∧ held.name = asked

/-- A relation is attached at the end, with its column at the end of the columns. -/
theorem attached_of_attach
    {entity changed : Entity}
    {key name : String}
    {declared : Relation × Option Column}
    (unattached : declared.1.belongingColumn = none)
    (attached : attach entity key name declared.1 declared.2 = .ok changed) :
    Attached entity name declared changed := by
  obtain ⟨relation, column⟩ := declared
  rcases attach_eq_ok_iff.mp attached with ⟨isNone, rfl⟩ | ⟨added, isSome, free, rfl⟩
  · have isNone : column = none := isNone
    have sameRelation : keptRelation (relation, column) = relation := by
      rw [isNone]
      exact keptRelation_of_unattached unattached
    exact {
      key_eq := rfl
      relations_eq := by rw [sameRelation]
      column_kept := fun _ _ found => found
      column_added := by simp [isNone]
      column_cases := fun _ _ found => .inl found }
  · have isSome : column = some added := isSome
    subst isSome
    exact {
      key_eq := rfl
      relations_eq := rfl
      column_kept := by
        intro asked held found
        have different : added.name ≠ asked := fun same =>
          free (same ▸ Table.mem_keys_iff.mpr ⟨held, found⟩)
        rw [Table.get?_insert, if_neg different, found]
      column_added := by simp
      column_cases := by
        intro asked held found
        rw [Table.get?_insert] at found
        split at found
        · next same =>
            rw [Option.some.injEq] at found
            exact .inr ⟨found ▸ rfl, found ▸ same⟩
        · exact .inl found }

/-- Putting a placeholder onto an entity attaches what it declares. -/
theorem exists_attached_of_putOn
    {context : Context}
    {entity changed : Entity}
    {placeholder : Placeholder}
    (put : putOn context entity placeholder = .ok changed) :
    ∃ declared,
      placeholder.read context = .ok declared ∧
        Attached entity placeholder.name declared changed := by
  obtain ⟨declared, read, attached⟩ := bind_eq_ok_iff.mp put
  obtain ⟨_, _, isRelation, _⟩ := Placeholder.read_eq_ok_iff.mp read
  obtain ⟨_, _, _, readFrom⟩ := exists_readFrom_of_relationOf isRelation
  exact ⟨declared, read, attached_of_attach readFrom.unattached attached⟩

/-- A placeholder is put onto the entity of its model, and nothing else changes. -/
theorem addRelation_of_get?
    {context base : Context}
    (sameOutline : context.outline = base.outline)
    {placeholder : Placeholder}
    {entity : Entity}
    (found : context.entities.get? placeholder.model = some entity) :
    addRelation context placeholder =
      (putOn base entity placeholder).map fun changed =>
        { context with entities := context.entities.insert placeholder.model changed } := by
  have sameRead := placeholder.read_of_outline_eq sameOutline
  unfold putOn
  rw [← sameRead]
  unfold addRelation Placeholder.read
  cases placeholder.line with
  | none =>
      rfl
  | some line =>
      dsimp only
      cases relationOf context placeholder.name line placeholder.owner with
      | error cause =>
          rfl
      | ok relation =>
          simp only [bind, Except.bind]
          cases belongingColumnOf context placeholder.name placeholder.owner relation with
          | error cause =>
              rfl
          | ok column =>
              simp only [found, pure, Except.pure]
              cases attach entity placeholder.model placeholder.name relation column <;> rfl

/-- The placeholders of one model, in order. -/
def ofModel
    (key : String)
    (placeholders : List Placeholder) :
    List Placeholder :=
  placeholders.filter fun placeholder => placeholder.model == key

theorem ofModel_concat
    (key : String)
    (earlier : List Placeholder)
    (last : Placeholder) :
    ofModel key (earlier ++ [last]) =
      if last.model = key then ofModel key earlier ++ [last] else ofModel key earlier := by
  by_cases isOwner : last.model = key <;> simp [ofModel, List.filter_append, isOwner]

/-- Each entity of a context has what its own placeholders declare put onto what it was at first. -/
structure LinkedBy
    (base : Context)
    (placeholders : List Placeholder)
    (context : Context) :
    Prop where
  outline_eq : context.outline = base.outline
  linked :
    ∀ key entity,
      base.entities.get? key = some entity →
      ∃ linked,
        linkEntity base entity (ofModel key placeholders) = .ok linked ∧
          context.entities.get? key = some linked

/-- A further placeholder links the entity of its own model only. -/
theorem LinkedBy.concat
    {base former next : Context}
    {earlier : List Placeholder}
    {placeholder : Placeholder}
    (linkedBy : LinkedBy base earlier former)
    (added : addRelation former placeholder = .ok next) :
    LinkedBy base (earlier ++ [placeholder]) next := by
  obtain ⟨_, _, _, owner, _, _, _, _, found, _, _⟩ := addRelation_eq_ok_iff.mp added
  have sameOutline := (outline_of_addRelation added).trans linkedBy.outline_eq
  rw [addRelation_of_get? linkedBy.outline_eq found, map_eq_ok_iff] at added
  obtain ⟨changed, put, rfl⟩ := added
  refine ⟨sameOutline, ?_⟩
  intro key entity stored
  obtain ⟨linked, isLinked, now⟩ := linkedBy.linked key entity stored
  rw [ofModel_concat, Table.get?_insert]
  by_cases isOwner : placeholder.model = key
  · subst isOwner
    cases found.symm.trans now
    rw [if_pos rfl, if_pos rfl]
    exact ⟨changed, accumulate_concat_eq_ok_iff.mpr ⟨owner, isLinked, put⟩, rfl⟩
  · rw [if_neg isOwner, if_neg isOwner]
    exact ⟨linked, isLinked, now⟩

/-- A run that succeeds has put onto each entity what its own placeholders declare. -/
theorem linkedBy_of_ofSteps
    {context : Context}
    {placeholders : List Placeholder}
    (done : (Outcome.ofSteps addRelation context placeholders).error = none) :
    LinkedBy context placeholders
      (Outcome.ofSteps addRelation context placeholders).context := by
  refine accumulate_traced (LinkedBy context) ?_
    (fun earlier former placeholder next linkedBy added => linkedBy.concat added)
    (Outcome.ofSteps_error_eq_none_iff.mp done)
  exact ⟨rfl, fun key entity found => ⟨entity, rfl, found⟩⟩

/-- Linking that fails does so at a placeholder that is in itself faulty, or cannot be put onto its
entity after the earlier ones. -/
theorem exists_failing_of_relations
    {context : Context}
    {placeholders : List Placeholder}
    (known : ∀ placeholder ∈ placeholders, placeholder.model ∈ context.entities.keys)
    {cause : ResolveError}
    (failed : (Outcome.ofSteps addRelation context placeholders).error = some cause) :
    ∃ earlier placeholder later entity linked,
      placeholders = earlier ++ placeholder :: later ∧
        context.entities.get? placeholder.model = some entity ∧
        linkEntity context entity (ofModel placeholder.model earlier) = .ok linked ∧
        putOn context linked placeholder = .error cause := by
  obtain ⟨earlier, placeholder, later, split, done, fails⟩ :=
    Outcome.exists_failing_of_ofSteps failed
  have linkedBy := linkedBy_of_ofSteps done
  obtain ⟨entity, found⟩ := Table.mem_keys_iff.mp (known placeholder (by simp [split]))
  obtain ⟨linked, isLinked, now⟩ := linkedBy.linked _ entity found
  refine ⟨earlier, placeholder, later, entity, linked, split, found, isLinked, ?_⟩
  rw [addRelation_of_get? linkedBy.outline_eq now] at fails
  cases put : putOn context linked placeholder with
  | error reason =>
      simpa [put, Except.map] using fails
  | ok changed =>
      simp [put, Except.map] at fails

/-- Linking succeeds exactly when each entity takes what its own placeholders declare. -/
theorem ofSteps_addRelation_error_eq_none_iff
    {context : Context}
    {placeholders : List Placeholder}
    (known : ∀ placeholder ∈ placeholders, placeholder.model ∈ context.entities.keys) :
    (Outcome.ofSteps addRelation context placeholders).error = none ↔
      ∀ key entity,
        context.entities.get? key = some entity →
        ∃ linked, linkEntity context entity (ofModel key placeholders) = .ok linked := by
  constructor
  · intro done key entity found
    obtain ⟨linked, isLinked, _⟩ := (linkedBy_of_ofSteps done).linked key entity found
    exact ⟨linked, isLinked⟩
  · intro each
    by_contra notDone
    obtain ⟨cause, failed⟩ := Option.ne_none_iff_exists'.mp notDone
    obtain ⟨earlier, placeholder, later, entity, linked, rfl, found, isLinked, fails⟩ :=
      exists_failing_of_relations known failed
    obtain ⟨final, isFinal⟩ := each _ entity found
    have split : ofModel placeholder.model (earlier ++ placeholder :: later) =
        ofModel placeholder.model earlier ++ placeholder :: ofModel placeholder.model later := by
      simp [ofModel]
    rw [split, linkEntity, accumulate_append_eq_ok_iff] at isFinal
    obtain ⟨middle, isMiddle, rest⟩ := isFinal
    cases isLinked.symm.trans isMiddle
    simp [accumulate, fails] at rest

/-! The placeholders of a document. -/

/-- A placeholder of a model is a relation among its columns. -/
theorem mem_placeholdersOf_iff
    {entry : String × Document.Model}
    {placeholder : Placeholder} :
    placeholder ∈ placeholdersOf entry ↔
      placeholder.model = entry.1 ∧
        ∃ columns,
          entry.2.columns = some columns ∧
            columns.get? placeholder.name = some (.relation placeholder.line) := by
  simp only [Table.get?_eq_some_iff]
  cases given : entry.2.columns with
  | none =>
      simp [placeholdersOf, given]
  | some columns =>
      simp only [placeholdersOf, given, List.mem_filterMap, Option.some.injEq, exists_eq_left']
      constructor
      · rintro ⟨⟨name, column⟩, isColumn, made⟩
        cases column with
        | line text =>
            simp at made
        | relation line =>
            simp only [Option.some.injEq] at made
            exact made ▸ ⟨rfl, isColumn⟩
      · rintro ⟨isOwner, isColumn⟩
        exact ⟨_, isColumn, by rw [← isOwner]⟩

/-- The placeholders of a document are those of its models. -/
theorem mem_placeholders_iff
    {document : Document}
    {placeholder : Placeholder} :
    placeholder ∈ placeholders document ↔
      ∃ model,
        document.database.models.get? placeholder.model = some model ∧
          placeholder ∈ placeholdersOf (placeholder.model, model) := by
  simp only [placeholders, List.mem_flatMap, Table.get?_eq_some_iff]
  constructor
  · rintro ⟨⟨key, model⟩, isModel, member⟩
    obtain ⟨isOwner, _⟩ := mem_placeholdersOf_iff.mp member
    exact ⟨model, isOwner ▸ isModel, isOwner ▸ member⟩
  · rintro ⟨model, isModel, member⟩
    exact ⟨_, isModel, member⟩

/-- A placeholder is told by its model and its name. -/
theorem placeholder_unique
    {document : Document}
    {placeholder other : Placeholder}
    (member : placeholder ∈ placeholders document)
    (otherMember : other ∈ placeholders document)
    (sameModel : placeholder.model = other.model)
    (sameName : placeholder.name = other.name) :
    placeholder = other := by
  obtain ⟨model, isModel, own⟩ := mem_placeholders_iff.mp member
  obtain ⟨otherModel, otherIsModel, otherOwn⟩ := mem_placeholders_iff.mp otherMember
  obtain ⟨_, columns, given, found⟩ := mem_placeholdersOf_iff.mp own
  obtain ⟨_, otherColumns, otherGiven, otherFound⟩ := mem_placeholdersOf_iff.mp otherOwn
  rw [← sameModel, isModel, Option.some.injEq] at otherIsModel
  subst otherIsModel
  cases given.symm.trans otherGiven
  rw [← sameName, found, Option.some.injEq, Document.Column.relation.injEq] at otherFound
  obtain ⟨_, _, _⟩ := placeholder
  obtain ⟨_, _, _⟩ := other
  cases sameModel
  cases sameName
  cases otherFound
  rfl

/-- The placeholders of a model are those among its own columns. -/
theorem ofModel_placeholders
    {document : Document}
    {key : String}
    {model : Document.Model}
    (isModel : document.database.models.get? key = some model) :
    ofModel key (placeholders document) = placeholdersOf (key, model) := by
  obtain ⟨before, after, split⟩ :=
    List.append_of_mem (Table.get?_eq_some_iff.mp isModel)
  have distinct := document.database.models.distinct
  have others (entries : List (String × Document.Model))
      (different : key ∉ Entries.names entries) :
      ofModel key (entries.flatMap placeholdersOf) = [] := by
    rw [ofModel, List.filter_eq_nil_iff]
    intro placeholder member
    obtain ⟨entry, isEntry, own⟩ := List.mem_flatMap.mp member
    rw [(mem_placeholdersOf_iff.mp own).1, beq_iff_eq]
    exact fun same => different (List.mem_map.mpr ⟨entry, isEntry, same⟩)
  simp only [split, Entries.names, List.map_append, List.map_cons, List.nodup_append,
    List.nodup_cons] at distinct
  obtain ⟨_, ⟨notAfter, _⟩, apart⟩ := distinct
  have notBefore : key ∉ Entries.names before :=
    fun present => apart key present key (by simp) rfl
  have own : ofModel key (placeholdersOf (key, model)) = placeholdersOf (key, model) := by
    rw [ofModel, List.filter_eq_self]
    intro placeholder member
    simp [(mem_placeholdersOf_iff.mp member).1]
  calc
    ofModel key (placeholders document) =
        ofModel key (before.flatMap placeholdersOf) ++
          (ofModel key (placeholdersOf (key, model)) ++
            ofModel key (after.flatMap placeholdersOf)) := by
      simp [placeholders, split, ofModel]
    _ = placeholdersOf (key, model) := by
      rw [others before notBefore, others after notAfter, own]
      simp

/-! The entities of a document. -/

theorem model_mem_keys_built
    {document : Document}
    (done : (entities document (Context.start document)).error = none)
    {placeholder : Placeholder}
    (member : placeholder ∈ placeholders document) :
    placeholder.model ∈ (built document).entities.keys := by
  obtain ⟨model, isModel, _⟩ := mem_placeholders_iff.mp member
  rw [keys_built done, Table.mem_keys_iff]
  exact ⟨model, isModel⟩

/-- Linking a document succeeds exactly when the entity of each model takes what the placeholders of
the model declare. -/
theorem relations_error_eq_none_iff
    {document : Document}
    (done : (entities document (Context.start document)).error = none) :
    (relations document (built document)).error = none ↔
      ∀ key model entity,
        document.database.models.get? key = some model →
        entityOf (Context.start document).databaseSpace key model = .ok entity →
        ∃ linked, linkEntity (built document) entity (placeholdersOf (key, model)) = .ok linked := by
  rw [relations, ofSteps_addRelation_error_eq_none_iff fun _ => model_mem_keys_built done]
  constructor
  · intro each key model entity isModel isMade
    rw [← ofModel_placeholders isModel]
    exact each key entity ((get?_built done).mpr ⟨model, isModel, isMade⟩)
  · intro each key entity found
    obtain ⟨model, isModel, isMade⟩ := entityOf_of_built found
    rw [ofModel_placeholders isModel]
    exact each key model entity isModel isMade

/-- A linked entity is what its model makes, with what the placeholders of the model declare. -/
theorem get?_linked
    {document : Document}
    (entitiesDone : (entities document (Context.start document)).error = none)
    (done : (relations document (built document)).error = none)
    {key : String}
    {linked : Entity} :
    (Resolution.linked document).entities.get? key = some linked ↔
      ∃ model entity,
        document.database.models.get? key = some model ∧
          entityOf (Context.start document).databaseSpace key model = .ok entity ∧
          linkEntity (built document) entity (placeholdersOf (key, model)) = .ok linked := by
  have eachLinked (model : Document.Model) (entity : Entity)
      (isModel : document.database.models.get? key = some model)
      (isMade : entityOf (Context.start document).databaseSpace key model = .ok entity) :
      ∃ linked,
        linkEntity (built document) entity (placeholdersOf (key, model)) = .ok linked ∧
          (Resolution.linked document).entities.get? key = some linked := by
    rw [← ofModel_placeholders isModel]
    exact (linkedBy_of_ofSteps done).linked key entity
      ((get?_built entitiesDone).mpr ⟨model, isModel, isMade⟩)
  constructor
  · intro found
    have present : key ∈ (built document).entities.keys := by
      rw [← keys_linked, Table.mem_keys_iff]
      exact ⟨linked, found⟩
    obtain ⟨entity, foundBuilt⟩ := Table.mem_keys_iff.mp present
    obtain ⟨model, isModel, isMade⟩ := entityOf_of_built foundBuilt
    obtain ⟨other, isLinked, foundOther⟩ := eachLinked model entity isModel isMade
    cases found.symm.trans foundOther
    exact ⟨model, entity, isModel, isMade, isLinked⟩
  · rintro ⟨model, entity, isModel, isMade, isLinked⟩
    obtain ⟨other, otherIsLinked, found⟩ := eachLinked model entity isModel isMade
    cases isLinked.symm.trans otherIsLinked
    exact found

end Resolution

end Blueprint
