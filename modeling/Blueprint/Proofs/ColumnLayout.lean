import Blueprint.Proofs.Needs

namespace Blueprint

/-!
# The layout of columns

A resolved entity has the columns of the lines of its model, in order, and after them one column
for each relation that keeps one, in the order of the relations. The column of a relation bears the
name that its line asks for, or else one made of the relation or of the key that it refers to. The
relations themselves are those that the model declares, in order.
-/

open Schema

namespace Resolution

/-- The kind of relation that the line of a placeholder names. -/
def Placeholder.kind?
    (placeholder : Placeholder) :
    Option RelationKind := do
  let line ← placeholder.line
  let head ← (Method.ofLine line).head?
  RelationKind.ofWord? head.name

/-- Whether a placeholder declares a relation that keeps a column on its own entity. -/
def Placeholder.keepsColumn
    (placeholder : Placeholder) :
    Bool :=
  placeholder.kind? == some .belongsTo || placeholder.kind? == some .morphTo

/-- The column that a relation keeps on its own entity, told by its line and by the entity that the
line leads to. -/
inductive Placeholder.Keeps
    (document : Document)
    (entities : Table Entity)
    (placeholder : Placeholder) :
    Column →
    Prop where
  | morph
      {head : Method}
      {modifiers : List Method}
      (calls : placeholder.Calls .morphTo head modifiers) :
      placeholder.Keeps document entities
        (Column.forRelation ((askedColumn? modifiers).getD (Naming.snake placeholder.name))
          "morphs" placeholder.name)
  | keyed
      {head : Method}
      {modifiers : List Method}
      {target : String}
      {entity : Entity}
      {primary : PrimaryKey}
      (calls : placeholder.Calls .belongsTo head modifiers)
      (leads : document.LeadsTo head target)
      (isTarget : entities.get? target = some entity)
      (hasPrimary : entity.primary = some primary) :
      placeholder.Keeps document entities
        (Column.forRelation
          ((askedColumn? modifiers).getD (entity.singular ++ "_" ++ Naming.snake primary.column))
          primary.storageType placeholder.name)
  | keyless
      {head : Method}
      {modifiers : List Method}
      {target : String}
      {entity : Entity}
      (calls : placeholder.Calls .belongsTo head modifiers)
      (leads : document.LeadsTo head target)
      (isTarget : entities.get? target = some entity)
      (noPrimary : entity.primary = none) :
      placeholder.Keeps document entities
        (Column.forRelation ((askedColumn? modifiers).getD (Naming.snake placeholder.name ++ "_id"))
          "unsignedBigInteger" placeholder.name)

/-- A relation is the one that a placeholder declares: it has its name and kind, leads where its
line leads, and names the column that it keeps. -/
structure Placeholder.Becomes
    (document : Document)
    (entities : Table Entity)
    (placeholder : Placeholder)
    (relation : Relation) :
    Prop where
  name_eq : relation.name = placeholder.name
  called :
    ∃ head modifiers,
      placeholder.Calls relation.kind head modifiers ∧
        ∀ target ∈ relation.target, document.LeadsTo head target
  column_eq :
    if placeholder.keepsColumn then
      ∃ column,
        placeholder.Keeps document entities column ∧ relation.belongingColumn = some column.name
    else
      relation.belongingColumn = none

/-- The entity of a model has its columns and relations in the order in which they are declared: the
columns of lines first, then the ones that relations keep. -/
structure LaidOut
    (document : Document)
    (entities : Table Entity)
    (key : String)
    (model : Document.Model)
    (entity : Entity) :
    Prop where
  columns_ordered :
    ∃ declared scalars kept,
      model.columns = some declared ∧
        entity.columns.values = scalars ++ kept ∧
        List.Forall₂
          (fun line column => Column.ofMethods? line.1 (Method.ofLine line.2) = some column)
          (columnLines declared) scalars ∧
        List.Forall₂ (fun placeholder column => placeholder.Keeps document entities column)
          ((placeholdersOf (key, model)).filter Placeholder.keepsColumn) kept
  columns_keyed : entity.columns.Keyed Column.name
  relations_ordered :
    List.Forall₂ (fun placeholder relation => placeholder.Becomes document entities relation)
      (placeholdersOf (key, model)) entity.relations.values
  relations_keyed : entity.relations.Keyed Relation.name

/-! What is put onto an entity comes after what was there. -/

/-- The relations among columns keep their order and stand under some of the names. -/
theorem names_placeholdersOf_sublist
    {key : String}
    {model : Document.Model}
    {declared : Document.Columns}
    (given : model.columns = some declared) :
    List.Sublist ((placeholdersOf (key, model)).map Placeholder.name) declared.keys := by
  simp only [placeholdersOf, given, Table.keys]
  induction declared.entries with
  | nil =>
      exact .slnil
  | cons entry rest inductionHypothesis =>
      obtain ⟨name, column⟩ := entry
      cases column with
      | line text =>
          exact inductionHypothesis.cons name
      | relation line =>
          exact inductionHypothesis.cons_cons name

theorem nodup_names_placeholdersOf
    (key : String)
    (model : Document.Model) :
    ((placeholdersOf (key, model)).map Placeholder.name).Nodup := by
  cases given : model.columns with
  | none =>
      simp [placeholdersOf, given]
  | some declared =>
      exact (names_placeholdersOf_sublist given).nodup declared.nodup_keys

theorem nodup_names_concat_iff
    {earlier : List Placeholder}
    {last : Placeholder} :
    ((earlier ++ [last]).map Placeholder.name).Nodup ↔
      (earlier.map Placeholder.name).Nodup ∧ last.name ∉ earlier.map Placeholder.name := by
  rw [List.map_append, List.map_singleton, ← List.concat_eq_append, List.nodup_concat, and_comm]

/-- An entity onto which the placeholders of a list have been put: what each declares stands in
order after what the entity had. -/
structure PutInOrder
    (context : Context)
    (entity : Entity)
    (placeholders : List Placeholder)
    (declared : List (Relation × Option Column))
    (linked : Entity) :
    Prop where
  read :
    List.Forall₂ (fun placeholder relation => placeholder.read context = .ok relation)
      placeholders declared
  columns_eq : linked.columns.values = entity.columns.values ++ declared.filterMap Prod.snd
  relations_eq : linked.relations.values = entity.relations.values ++ declared.map keptRelation
  names_eq :
    linked.relations.keys = entity.relations.keys ++ placeholders.map Placeholder.name

/-- A relation under a fresh name is put behind those before it. -/
theorem PutInOrder.concat
    {context : Context}
    {entity former next : Entity}
    {earlier : List Placeholder}
    {declared : List (Relation × Option Column)}
    {placeholder : Placeholder}
    (order : PutInOrder context entity earlier declared former)
    (fresh : placeholder.name ∉ former.relations.keys)
    (put : putOn context former placeholder = .ok next) :
    ∃ relation,
      PutInOrder context entity (earlier ++ [placeholder]) (declared ++ [relation]) next := by
  obtain ⟨⟨relation, column⟩, read, attached⟩ := bind_eq_ok_iff.mp put
  refine ⟨(relation, column), ?_⟩
  have allRead := List.rel_append order.read (.cons read .nil)
  obtain ⟨_, _, isRelation, _⟩ := Placeholder.read_eq_ok_iff.mp read
  obtain ⟨_, _, _, readFrom⟩ := exists_readFrom_of_relationOf isRelation
  have relations_eq := (attached_of_attach readFrom.unattached attached).relations_eq
  have columns_eq : next.columns.values = former.columns.values ++ column.toList := by
    rcases attach_eq_ok_iff.mp attached with ⟨isNone, rfl⟩ | ⟨kept, isSome, free, rfl⟩
    · simp [show column = none from isNone]
    · simp [show column = some kept from isSome, Table.values_insert_of_notMem free]
  exact {
    read := allRead
    columns_eq := by
      rw [columns_eq, order.columns_eq, List.filterMap_append, List.append_assoc]
      cases column <;> rfl
    relations_eq := by
      rw [relations_eq, Table.values_insert_of_notMem fresh, order.relations_eq, List.map_append,
        List.append_assoc]
      rfl
    names_eq := by
      rw [relations_eq, Table.keys_insert, if_neg fresh, order.names_eq, List.map_append,
        List.append_assoc]
      rfl }

/-- Placeholders of different names put onto an entity without relations stand on it in order. -/
theorem exists_putInOrder_of_linkEntity
    {context : Context}
    {entity linked : Entity}
    {placeholders : List Placeholder}
    (unrelated : entity.relations = ∅)
    (distinct : (placeholders.map Placeholder.name).Nodup)
    (done : linkEntity context entity placeholders = .ok linked) :
    ∃ declared, PutInOrder context entity placeholders declared linked := by
  refine accumulate_traced
    (fun earlier former =>
      (earlier.map Placeholder.name).Nodup →
        ∃ declared, PutInOrder context entity earlier declared former)
    ?_ ?_ done distinct
  · intro _
    exact ⟨[], .nil, by simp, by simp, by simp⟩
  · intro earlier former placeholder next inductionHypothesis put distinctNames
    obtain ⟨earlierDistinct, isFresh⟩ := nodup_names_concat_iff.mp distinctNames
    obtain ⟨declared, order⟩ := inductionHypothesis earlierDistinct
    have fresh : placeholder.name ∉ former.relations.keys := by
      rw [order.names_eq, unrelated]
      exact isFresh
    obtain ⟨relation, extended⟩ := order.concat fresh put
    exact ⟨declared ++ [relation], extended⟩

/-! What a placeholder declares is told by the document and by the entities. -/

/-- The kind of a placeholder is told by the head of its line. -/
theorem Placeholder.Calls.kind?_eq
    {placeholder : Placeholder}
    {kind : RelationKind}
    {head : Method}
    {modifiers : List Method}
    (calls : placeholder.Calls kind head modifiers) :
    placeholder.kind? = some kind := by
  obtain ⟨line, given, isLine, named⟩ := calls
  simp [Placeholder.kind?, given, isLine, named]

/-- A placeholder keeps a column if its kind needs one. -/
theorem Placeholder.Calls.keepsColumn_eq
    {placeholder : Placeholder}
    {kind : RelationKind}
    {head : Method}
    {modifiers : List Method}
    (calls : placeholder.Calls kind head modifiers) :
    placeholder.keepsColumn = kind.needsColumn := by
  rw [Placeholder.keepsColumn, calls.kind?_eq]
  cases kind <;> rfl

/-- A relation is read with a column exactly when its placeholder keeps one. -/
theorem isSome_column_of_read
    {context : Context}
    {placeholder : Placeholder}
    {declared : Relation × Option Column}
    (read : placeholder.read context = .ok declared) :
    declared.2.isSome = placeholder.keepsColumn := by
  obtain ⟨_, _, _, isColumn⟩ := Placeholder.read_eq_ok_iff.mp read
  obtain ⟨head, modifiers, calls, _⟩ := exists_calls_of_read read
  rw [calls.keepsColumn_eq]
  exact (belongingColumnOf_fits isColumn).1

section Declared

variable {document : Document}
variable (done : (entities document (Context.start document)).error = none)
include done

/-- The column that a placeholder is read to keep is the one told by the linked entities, since
linking changes no key and no class. -/
theorem keeps_of_read
    {placeholder : Placeholder}
    {relation : Relation}
    {column : Column}
    (read : placeholder.read (built document) = .ok (relation, some column)) :
    placeholder.Keeps document (linked document).entities column := by
  obtain ⟨head, modifiers, calls, ⟨isMorph, rfl⟩ | ⟨isOwned, target, made, leads, stored, rfl⟩⟩ :=
    column_of_read done read
  · exact .morph (isMorph ▸ calls)
  · rw [isOwned] at calls
    obtain ⟨entity, found, sameBare⟩ :=
      Context.exists_get?_of_outline_eq (outline_relations document (built document)).symm stored
    have sameClass := congrArg Entity.className sameBare
    have samePrimary := congrArg Entity.primary sameBare
    cases primary : made.primary with
    | none =>
        simp only [foreignKey, primary]
        exact .keyless calls leads found (samePrimary.trans primary)
    | some key =>
        have sameSingular : made.singular = entity.singular := congrArg Naming.snake sameClass.symm
        simp only [foreignKey, primary, sameSingular]
        exact .keyed calls leads found (samePrimary.trans primary)

theorem becomes_of_read
    {placeholder : Placeholder}
    {declared : Relation × Option Column}
    (read : placeholder.read (built document) = .ok declared) :
    placeholder.Becomes document (linked document).entities (keptRelation declared) := by
  obtain ⟨head, modifiers, calls, readFrom⟩ := exists_calls_of_read read
  have isSome := isSome_column_of_read read
  obtain ⟨relation, column⟩ := declared
  refine ⟨readFrom.name_eq, ⟨head, modifiers, calls, ?_⟩, ?_⟩
  · exact fun target isTarget => readFrom.leadsTo (hasModels_built done) isTarget
  · cases column with
    | none =>
        simp [← isSome, keptRelation]
    | some column =>
        rw [← isSome]
        exact ⟨column, keeps_of_read done read, rfl⟩

/-- The columns that placeholders are read to keep are one for each that keeps a column, in
order. -/
theorem kept_of_reads
    {placeholders : List Placeholder}
    {declared : List (Relation × Option Column)}
    (reads :
      List.Forall₂
        (fun placeholder relation => placeholder.read (built document) = .ok relation)
        placeholders declared) :
    List.Forall₂
      (fun placeholder column => placeholder.Keeps document (linked document).entities column)
      (placeholders.filter Placeholder.keepsColumn) (declared.filterMap Prod.snd) := by
  induction reads with
  | nil =>
      exact .nil
  | @cons placeholder first placeholders rest read _ inductionHypothesis =>
      have isSome := isSome_column_of_read read
      obtain ⟨relation, column⟩ := first
      cases column with
      | none =>
          simpa [← isSome] using inductionHypothesis
      | some column =>
          rw [List.filter_cons_of_pos (by simp [← isSome])]
          exact .cons (keeps_of_read done read) inductionHypothesis

/-- A linked entity has its own columns first and then those of its relations. -/
theorem laidOut_of_linkEntity
    {key : String}
    {model : Document.Model}
    {made entity : Entity}
    (isMade : entityOf (Context.start document).databaseSpace key model = .ok made)
    (isLinked : linkEntity (built document) made (placeholdersOf (key, model)) = .ok entity)
    (selfContained : entity.SelfContained) :
    LaidOut document (linked document).entities key model entity := by
  have madeFrom := madeFrom_of_entityOf isMade
  obtain ⟨declared, hasColumns, scalarsRead⟩ := madeFrom.columns_read
  have scalars := (scalarColumns_eq_ok_iff.mp scalarsRead).1
  obtain ⟨relations, order⟩ := exists_putInOrder_of_linkEntity madeFrom.no_relations
    (nodup_names_placeholdersOf key model) isLinked
  exact {
    columns_ordered := by
      refine ⟨declared, made.columns.values, relations.filterMap Prod.snd,
        columns_of_modelColumns hasColumns, order.columns_eq, ?_, kept_of_reads done order.read⟩
      exact scalars.imp fun line column read => columnOfLine_eq_ok_iff.mp read
    columns_keyed := selfContained.columns_keyed
    relations_ordered := by
      rw [order.relations_eq, madeFrom.no_relations]
      exact List.forall₂_map_right_iff.mpr
        (order.read.imp fun placeholder relation read => becomes_of_read done read)
    relations_keyed := selfContained.relations_keyed }

end Declared

end Resolution

open Resolution

/-- There is an entity for every model of a document that resolves, and it is laid out as the model
declares. -/
theorem laidOut_of_resolve
    {document : Document}
    {plan : Plan}
    (resolved : resolve document = .ok plan) :
    plan.database.entities.keys = document.database.models.keys ∧
      ∀ key model,
        document.database.models.get? key = some model →
        ∃ entity,
          plan.database.entities.get? key = some entity ∧
            LaidOut document plan.database.entities key model entity := by
  obtain ⟨resolves, rfl⟩ := resolve_eq_ok_iff.mp resolved
  have done := resolves.entities_done
  rw [plan_database]
  refine ⟨(keys_linked document).trans (keys_built done), ?_⟩
  intro key model isModel
  obtain ⟨made, isMade⟩ := entities_error_eq_none_iff.mp done key model isModel
  obtain ⟨entity, isLinked⟩ :=
    (relations_error_eq_none_iff done).mp resolves.relations_done key model made isModel isMade
  have found :=
    (get?_linked done resolves.relations_done).mpr ⟨model, made, isModel, isMade, isLinked⟩
  have selfContained := (wellLinked_linked document).selfContained entity
    (Table.mem_values_iff.mpr ⟨key, found⟩)
  exact ⟨entity, found, laidOut_of_linkEntity done isMade isLinked selfContained⟩

/-- Comments that answer each other, between lines and relations of every sort: to a model that is
declared later, to one without a key, to several classes, and to many. -/
def commentDocument : Document :=
  Document.ofModels
    [("Comment",
      [("id", .line "id"),
       ("parent", .relation (some "belongsTo:Comment column:reply_to")),
       ("author", .relation (some "belongsTo:User")),
       ("body", .line "text nullable"),
       ("likes", .relation (some "belongsToMany:User")),
       ("subject", .relation (some "morphTo")),
       ("mainTopic", .relation (some "belongsTo:Topic")),
       ("rating", .line "integer")]),
     ("User", [("number", .line "increments"), ("comments", .relation (some "hasMany:Comment"))]),
     ("Topic", [("title", .line "string:80")])]

theorem isOk_commentDocument : (resolve commentDocument).isOk = true := by
  decide +kernel

/-- A comment has the columns of its relations behind its own, in order. -/
theorem laidOut_commentDocument :
    ∃ plan,
      resolve commentDocument = .ok plan ∧
        plan.database.entities.keys = commentDocument.database.models.keys ∧
        ∀ key model,
          commentDocument.database.models.get? key = some model →
          ∃ entity,
            plan.database.entities.get? key = some entity ∧
              LaidOut commentDocument plan.database.entities key model entity := by
  obtain ⟨plan, resolved⟩ := exists_eq_ok_of_isOk isOk_commentDocument
  exact ⟨plan, resolved, laidOut_of_resolve resolved⟩

example :
    ((resolve commentDocument).toOption.bind fun plan =>
        (plan.database.entities.get? "Comment").map fun entity =>
          entity.columns.values.map fun column => (column.name, column.columnType)) =
      some
        [("id", "id"), ("body", "text"), ("rating", "integer"),
         ("reply_to", "unsignedBigInteger"), ("user_number", "unsignedInteger"),
         ("subject", "morphs"), ("main_topic_id", "unsignedBigInteger")] := by
  decide +kernel

end Blueprint
