import Blueprint.Proofs.Coherence
import Blueprint.Proofs.ModelNames

namespace Blueprint

/-!
# What declarations need

Which columns, join tables and other tables the declarations of a document need is said here of the
document alone, by its lines and by the models that they refer to. What the stages of a resolution
read of these lines is what is said of them.
-/

open Schema

namespace Resolution

/-- The line of a placeholder asks for a relation of a kind, by a head and modifiers. -/
def Placeholder.Calls
    (placeholder : Placeholder)
    (kind : RelationKind)
    (head : Method)
    (modifiers : List Method) :
    Prop :=
  ∃ line,
    placeholder.line = some line ∧
      Method.ofLine line = head :: modifiers ∧ RelationKind.ofWord? head.name = some kind

end Resolution

open Resolution

namespace Document

/-- The entity that the model of a key makes by itself. -/
def Makes
    (document : Document)
    (key : String)
    (entity : Entity) :
    Prop :=
  ∃ model,
    document.database.models.get? key = some model ∧
      entityOf (Context.start document).databaseSpace key model = .ok entity

/-- The first argument of a call refers to a model. -/
def LeadsTo
    (document : Document)
    (head : Method)
    (target : String) :
    Prop :=
  ∃ argument, head.arguments.head? = some argument ∧ document.Refers argument.text target

/-- A model has a line for a column. -/
def HasScalarColumn
    (document : Document)
    (key column : String) :
    Prop :=
  ∃ model columns text,
    document.database.models.get? key = some model ∧
      model.columns = some columns ∧ columns.get? column = some (.line text)

/-- The explicit primary key of a model is a column of a name. -/
def NamesPrimary
    (document : Document)
    (key column : String) :
    Prop :=
  ∃ model block,
    document.database.models.get? key = some model ∧
      model.primary = some (.block block) ∧ block.column = some column

/-- A relation keeps a column of a name on its own model: one to several classes by its own name,
one to a single model by the key of that model, and either by the name that it asks for. -/
def NeedsColumn
    (document : Document)
    (placeholder : Placeholder)
    (column : String) :
    Prop :=
  ∃ kind head modifiers,
    placeholder.Calls kind head modifiers ∧
      (kind = .morphTo ∧
          column = (askedColumn? modifiers).getD (Naming.snake placeholder.name) ∨
        kind = .belongsTo ∧
          ∃ target entity,
            document.LeadsTo head target ∧
              document.Makes target entity ∧
              column = (askedColumn? modifiers).getD (foreignKey placeholder.name entity).1)

/-- A relation of a document needs a join table made up: it is of a pivot kind, leads to a model,
and names no pivot entity. -/
def NeedsJoinTable
    (document : Document)
    (placeholder : Placeholder)
    (target : String) :
    Prop :=
  placeholder ∈ placeholders document ∧
    ∃ kind head modifiers,
      placeholder.Calls kind head modifiers ∧
        kind.usesPivot = true ∧
        (∀ modifier ∈ modifiers, modifier.name ≠ "using") ∧
        document.LeadsTo head target

/-- What in a document needs a table of a name: a model, an explicit table, or a relation that
needs a join table. -/
inductive NeedsTable
    (document : Document) :
    MigrationSource →
    String →
    Prop where
  | entity
      {key : String}
      {model : Model}
      (isModel : document.database.models.get? key = some model) :
      NeedsTable document (.entity key)
        (model.table.getD (usualTable (Context.classOf key)))
  | explicit
      {table : String}
      (isExplicit : table ∈ document.database.migrations.keys) :
      NeedsTable document .explicit table
  | pivot
      {placeholder : Placeholder}
      {target : String}
      (needed : document.NeedsJoinTable placeholder target) :
      NeedsTable document (.pivot placeholder.model placeholder.name)
        (pivotTableName (Context.classOf placeholder.model) (Context.classOf target))

end Document

namespace Resolution

/-! What is read of a line is what the document says. -/

section Reading

variable {document : Document} {context : Context}

theorem exists_calls_of_read
    {placeholder : Placeholder}
    {declared : Relation × Option Column}
    (read : placeholder.read context = .ok declared) :
    ∃ head modifiers,
      placeholder.Calls declared.1.kind head modifiers ∧
        ReadFrom context placeholder.name placeholder.owner head modifiers declared.1 := by
  obtain ⟨line, given, isRelation, _⟩ := Placeholder.read_eq_ok_iff.mp read
  obtain ⟨head, modifiers, calls, readFrom⟩ := exists_readFrom_of_relationOf isRelation
  exact ⟨head, modifiers, ⟨line, given, calls, readFrom.kind_named⟩, readFrom⟩

theorem ReadFrom.leadsTo
    (hasModels : HasModels document context)
    {name owner target : String}
    {head : Method}
    {modifiers : List Method}
    {relation : Relation}
    (read : ReadFrom context name owner head modifiers relation)
    (isTarget : relation.target = some target) :
    document.LeadsTo head target := by
  have found := read.target_found
  rw [isTarget] at found
  unfold Document.LeadsTo
  cases given : head.arguments with
  | nil =>
      by_cases isMorph : relation.kind = .morphTo
      · simp [given, targetOf, isMorph] at found
      · simp [given, targetOf, isMorph, Document.refuse] at found
  | cons argument rest =>
      rw [given, targetOf, map_eq_ok_iff] at found
      obtain ⟨key, lookedUp, same⟩ := found
      cases same
      exact ⟨argument, rfl, hasModels.entityKey_eq_ok_iff.mp lookedUp⟩

/-- A key refers to its own model only. -/
theorem HasModels.get?_of_entity_key
    (hasModels : HasModels document context)
    {key owner : String}
    {entity : Entity}
    (isModel : key ∈ document.database.models.keys)
    (found : context.entity key owner = .ok entity) :
    context.entities.get? key = some entity := by
  obtain ⟨other, ⟨_, rfl | ⟨notKey, _⟩⟩, stored⟩ := hasModels.entity_eq_ok_iff.mp found
  · exact stored
  · exact absurd isModel notKey

theorem needsJoinTable_of_read
    (hasModels : HasModels document context)
    {placeholder : Placeholder}
    {declared : Relation × Option Column}
    {target : String}
    (member : placeholder ∈ placeholders document)
    (read : placeholder.read context = .ok declared)
    (needed : declared.1.needsGuessedPivot = true)
    (isTarget : declared.1.target = some target) :
    document.NeedsJoinTable placeholder target := by
  obtain ⟨head, modifiers, calls, readFrom⟩ := exists_calls_of_read read
  obtain ⟨uses, unasked⟩ := readFrom.needsGuessedPivot_iff.mp needed
  exact ⟨member, _, head, modifiers, calls, uses, unasked, readFrom.leadsTo hasModels isTarget⟩

end Reading

/-- The column that a relation keeps is told by its line: for a relation to several classes by the
line alone, for one to a single model also by the entity that the line leads to. -/
theorem column_of_read
    {document : Document}
    (done : (entities document (Context.start document)).error = none)
    {placeholder : Placeholder}
    {relation : Relation}
    {column : Column}
    (read : placeholder.read (built document) = .ok (relation, some column)) :
    ∃ head modifiers,
      placeholder.Calls relation.kind head modifiers ∧
        (relation.kind = .morphTo ∧
            column =
              Column.forRelation ((askedColumn? modifiers).getD (Naming.snake placeholder.name))
                morphType placeholder.name ∨
          relation.kind = .belongsTo ∧
            ∃ target entity,
              document.LeadsTo head target ∧
                (built document).entities.get? target = some entity ∧
                column =
                  Column.forRelation
                    ((askedColumn? modifiers).getD (foreignKey placeholder.name entity).1)
                    (foreignKey placeholder.name entity).2 placeholder.name) := by
  have hasModels := hasModels_built done
  obtain ⟨_, _, _, isColumn⟩ := Placeholder.read_eq_ok_iff.mp read
  obtain ⟨head, modifiers, calls, readFrom⟩ := exists_calls_of_read read
  refine ⟨head, modifiers, calls, ?_⟩
  rw [← readFrom.declaredColumn?_eq]
  cases kind : relation.kind with
  | morphTo =>
      simp only [belongingColumnOf, kind, Except.ok.injEq, Option.some.injEq] at isColumn
      exact .inl ⟨rfl, isColumn.symm⟩
  | belongsTo =>
      cases target : relation.target with
      | none =>
          simp [belongingColumnOf, kind, target, Document.refuse] at isColumn
      | some key =>
          cases found : (built document).entity key placeholder.owner with
          | error cause =>
              simp [belongingColumnOf, kind, target, found] at isColumn
          | ok entity =>
              simp only [belongingColumnOf, kind, target, found, Except.ok.injEq,
                Option.some.injEq] at isColumn
              have leads := readFrom.leadsTo hasModels target
              obtain ⟨argument, _, refers⟩ := id leads
              have stored := hasModels.get?_of_entity_key refers.key_mem found
              exact .inr ⟨rfl, key, entity, leads, stored, isColumn.symm⟩
  | _ =>
      simp [belongingColumnOf, kind] at isColumn

theorem needsColumn_of_read
    {document : Document}
    (done : (entities document (Context.start document)).error = none)
    {placeholder : Placeholder}
    {relation : Relation}
    {column : Column}
    (read : placeholder.read (built document) = .ok (relation, some column)) :
    document.NeedsColumn placeholder column.name := by
  obtain ⟨head, modifiers, calls, ⟨isMorph, rfl⟩ | ⟨isOwned, target, entity, leads, stored, rfl⟩⟩ :=
    column_of_read done read
  · exact ⟨relation.kind, head, modifiers, calls, .inl ⟨isMorph, rfl⟩⟩
  · exact ⟨relation.kind, head, modifiers, calls,
      .inr ⟨isOwned, target, entity, leads, entityOf_of_built stored, rfl⟩⟩

/-! What entities have is what the document says of their models. -/

section Made

variable {document : Document}

/-- The scalar columns of a model are the columns of its entity before linking. -/
theorem hasScalarColumn_iff
    {key column : String}
    {model : Document.Model}
    {declared : Document.Columns}
    {columns : Table Column}
    (isModel : document.database.models.get? key = some model)
    (hasColumns : Document.modelColumns key model = .ok declared)
    (read : scalarColumns key declared = .ok columns) :
    document.HasScalarColumn key column ↔ column ∈ columns.keys := by
  rw [keys_of_scalarColumns read, mem_names_columnLines_iff]
  have given := columns_of_modelColumns hasColumns
  constructor
  · rintro ⟨other, otherColumns, text, otherIsModel, otherGiven, isLine⟩
    cases isModel.symm.trans otherIsModel
    cases given.symm.trans otherGiven
    exact ⟨text, isLine⟩
  · rintro ⟨text, isLine⟩
    exact ⟨model, declared, text, isModel, given, isLine⟩

theorem hasScalarColumn_of_makes
    {key : String}
    {entity : Entity}
    (made : document.Makes key entity)
    {column : String}
    (present : column ∈ entity.columns.keys) :
    document.HasScalarColumn key column := by
  obtain ⟨model, isModel, isMade⟩ := made
  obtain ⟨declared, hasColumns, read⟩ := (madeFrom_of_entityOf isMade).columns_read
  exact (hasScalarColumn_iff isModel hasColumns read).mpr present

/-- A linked entity is what its model makes, up to columns and relations. -/
theorem exists_makes_of_linked
    {entity : Entity}
    (member : entity ∈ (linked document).entities.values) :
    ∃ made, document.Makes entity.key made ∧ made.bare = entity.bare := by
  have found := (wellLinked_linked document).keyed.get?_of_mem_values member
  obtain ⟨made, foundBuilt, sameBare⟩ :=
    Context.exists_get?_of_outline_eq (outline_relations document (built document)) found
  exact ⟨made, entityOf_of_built foundBuilt, sameBare⟩

/-- A relation of a linked entity that needs a join table is one that the document says needs it. -/
theorem needsJoinTable_of_guessedPivots
    (done : (entities document (Context.start document)).error = none)
    {entity : Entity}
    {relation : Relation}
    (isGuessed : (entity, relation) ∈ guessedPivots (linked document))
    {target : String}
    (isTarget : relation.target = some target) :
    ∃ placeholder,
      document.NeedsJoinTable placeholder target ∧
        placeholder.model = entity.key ∧ placeholder.name = relation.name := by
  obtain ⟨isEntity, isRelation, needed⟩ := mem_guessedPivots_iff.mp isGuessed
  have wellLinked := wellLinked_linked document
  have reached : Reached document (linked document) :=
    reached_run (reached_run (reached_start document) .entities) .relations
  have traced := reached.traced _ _ (wellLinked.keyed.get?_of_mem_values isEntity)
  obtain ⟨declared, ⟨placeholder, member, isOwner, isNamed, read⟩, rfl, _⟩ :=
    traced.relation_declared _ _
      ((wellLinked.selfContained entity isEntity).relations_keyed.get?_of_mem_values isRelation)
  exact ⟨placeholder,
    needsJoinTable_of_read (hasModels_built done) member read needed isTarget, isOwner, isNamed⟩

end Made

end Resolution

end Blueprint
