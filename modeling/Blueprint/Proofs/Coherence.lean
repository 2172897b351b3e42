import Blueprint.Proofs.Convergence
import Blueprint.Proofs.MigrationSet
import Blueprint.Proofs.Placeholders

namespace Blueprint

/-!
# Coherence of contexts

Whatever stages are run on a context, in whatever order and whether or not they fail, its tables
hold every entry under its own name, and its columns and relations refer to each other in pairs.
What carries this through repeated runs is that everything on an entity beyond its scalar columns
was declared by a placeholder of its document, which declares the same whenever it is read.
-/

open Schema

namespace Schema

/-- The columns of relations and the relations that keep a column refer to each other in pairs. -/
structure Entity.Paired
    (entity : Entity) :
    Prop where
  columns_keyed : entity.columns.Keyed Column.name
  relations_keyed : entity.relations.Keyed Relation.name
  keeps_iff :
    ∀ relation ∈ entity.relations.values,
      (∃ name, relation.belongingColumn = some name) ↔
        relation.kind = .belongsTo ∨ relation.kind = .morphTo
  column_found :
    ∀ relation ∈ entity.relations.values,
      ∀ name ∈ relation.belongingColumn,
        ∃ column,
          entity.columns.get? name = some column ∧ column.relation = some relation.name
  relation_found :
    ∀ column ∈ entity.columns.values,
      ∀ name ∈ column.relation,
        ∃ relation,
          entity.relations.get? name = some relation ∧
            relation.belongingColumn = some column.name

/-- A relation names the entities that its kind asks for, and a pivot entity of the type that the
kind asks for. -/
structure Relation.FitsKind
    (entities : Table Entity)
    (relation : Relation) :
    Prop where
  target_named : relation.target = none → relation.kind = .morphTo
  through_named : relation.through.isSome = relation.kind.isThrough
  pivot_fits :
    ∀ key ∈ relation.usingPivot,
      relation.kind.usesPivot = true ∧
        ∃ entity,
          entities.get? key = some entity ∧ entity.modelType = relation.kind.pivotType

end Schema

/-- Every entry of the seven tables stands under its own name, columns and relations are paired,
and relations fit their kinds. -/
structure Context.Coherent
    (context : Context) :
    Prop where
  entities_keyed : context.entities.Keyed Entity.key
  migrations_keyed : context.migrations.Keyed Migration.table
  middleware_keyed : context.middleware.Keyed Http.Middleware.shortName
  controllers_keyed : context.controllers.Keyed Http.Controller.key
  gates_keyed : context.gates.Keyed Auth.Gate.ability
  policies_keyed : context.policies.Keyed Auth.Policy.entity
  forms_keyed : context.forms.Keyed Auth.Form.name
  paired : ∀ entity ∈ context.entities.values, entity.Paired
  fitsKind :
    ∀ entity ∈ context.entities.values,
      ∀ relation ∈ entity.relations.values, relation.FitsKind context.entities

/-- A pivot entity is of its type in every context with the outline of the entities that were
made. -/
theorem Schema.Relation.FitsKind.of_outline_eq
    {context other : Context}
    (sameOutline : context.outline = other.outline)
    {relation : Relation}
    (fits : relation.FitsKind other.entities) :
    relation.FitsKind context.entities where
  target_named := fits.target_named
  through_named := fits.through_named
  pivot_fits key isPivot := by
    obtain ⟨uses, entity, found, hasType⟩ := fits.pivot_fits key isPivot
    obtain ⟨stored, isStored, sameBare⟩ :=
      Context.exists_get?_of_outline_eq sameOutline.symm found
    have sameType := congrArg Entity.modelType sameBare
    exact ⟨uses, stored, isStored, sameType.trans hasType⟩

namespace Resolution

/-! What placeholders put onto entities. -/

/-- The placeholder of a name among the columns of a model declares a relation and its column. -/
def Declared
    (document : Document)
    (key name : String)
    (declared : Relation × Option Column) :
    Prop :=
  ∃ placeholder ∈ placeholders document,
    placeholder.model = key ∧
      placeholder.name = name ∧ placeholder.read (built document) = .ok declared

/-- A name among the columns of a model declares one thing only. -/
theorem Declared.unique
    {document : Document}
    {key name : String}
    {declared other : Relation × Option Column}
    (isDeclared : Declared document key name declared)
    (otherDeclared : Declared document key name other) :
    declared = other := by
  obtain ⟨placeholder, member, rfl, rfl, read⟩ := isDeclared
  obtain ⟨another, otherMember, sameModel, sameName, otherRead⟩ := otherDeclared
  cases placeholder_unique otherMember member sameModel sameName
  exact Except.ok.inj (read.symm.trans otherRead)

/-- A declared relation has been read from a line with a head and modifiers. -/
theorem Declared.exists_readFrom
    {document : Document}
    {key name : String}
    {declared : Relation × Option Column}
    (isDeclared : Declared document key name declared) :
    ∃ owner head modifiers,
      ReadFrom (built document) name owner head modifiers declared.1 ∧
        belongingColumnOf (built document) name owner declared.1 = .ok declared.2 := by
  obtain ⟨placeholder, _, _, rfl, read⟩ := isDeclared
  obtain ⟨line, _, isRelation, isColumn⟩ := Placeholder.read_eq_ok_iff.mp read
  obtain ⟨head, modifiers, _, readFrom⟩ := exists_readFrom_of_relationOf isRelation
  exact ⟨placeholder.owner, head, modifiers, readFrom, isColumn⟩

/-- A relation read from a line has what its kind asks for. -/
theorem ReadFrom.fitsKind
    {document : Document}
    {name owner : String}
    {head : Method}
    {modifiers : List Method}
    {relation : Relation}
    (read : ReadFrom (built document) name owner head modifiers relation) :
    relation.FitsKind (built document).entities where
  target_named := read.kind_of_target_eq_none
  through_named := read.isSome_through
  pivot_fits key isPivot := by
    have asked := read.pivot_asked.mp (Option.isSome_of_mem isPivot)
    obtain ⟨modifier, _, names⟩ := read.pivot_found key isPivot
    obtain ⟨_, entity, _, found, fits, rfl⟩ := pivotOf_eq_ok_iff.mp names
    exact ⟨asked.1, entity, Context.get?_of_entity (wellLinked_built document).keyed found, fits⟩

/-- Beyond scalar columns an entity has what its placeholders declare: of each relation the column
that was declared with it, and of each column of a relation the relation that keeps it. -/
structure Traced
    (document : Document)
    (key : String)
    (entity : Entity) :
    Prop where
  key_eq : entity.key = key
  columns_keyed : entity.columns.Keyed Column.name
  relation_declared :
    ∀ name relation,
      entity.relations.get? name = some relation →
      ∃ declared,
        Declared document key name declared ∧
          relation = keptRelation declared ∧
          ∀ column ∈ declared.2, entity.columns.get? column.name = some column
  relation_found :
    ∀ column ∈ entity.columns.values,
      ∀ name ∈ column.relation,
        ∃ relation,
          entity.relations.get? name = some relation ∧
            relation.belongingColumn = some column.name

/-- An entity that a model makes has scalar columns only, and no relations. -/
theorem MadeFrom.traced
    {document : Document}
    {space key : String}
    {model : Document.Model}
    {entity : Entity}
    (made : MadeFrom space key model entity) :
    Traced document key entity where
  key_eq := made.key_eq
  columns_keyed := made.keyed_columns
  relation_declared name relation found := by
    simp [made.no_relations, Table.get?, Entries.get?] at found
  relation_found column member name marked := by
    obtain ⟨_, _, read⟩ := made.columns_read
    simp [relation_of_scalarColumns read member] at marked

/-- Attaching a relation that was declared leaves the columns and relations that were there, a
relation of the same name being the same one. -/
theorem Traced.of_attached
    {document : Document}
    {key name : String}
    {entity changed : Entity}
    {declared : Relation × Option Column}
    (traced : Traced document key entity)
    (isDeclared : Declared document key name declared)
    (attached : Attached entity name declared changed) :
    Traced document key changed := by
  -- Only the relation itself could be replaced, and it is declared but once.
  have relationKept (asked : String) (former : Relation)
      (found : entity.relations.get? asked = some former) :
      changed.relations.get? asked = some former := by
    rw [attached.relations_eq, Table.get?_insert]
    split
    · next same =>
        subst same
        obtain ⟨other, otherDeclared, rfl, _⟩ := traced.relation_declared _ former found
        rw [isDeclared.unique otherDeclared]
    · exact found
  exact {
    key_eq := attached.key_eq.trans traced.key_eq
    columns_keyed := by
      intro asked held found
      rcases attached.column_cases asked held found with former | ⟨_, isNamed⟩
      · exact traced.columns_keyed asked held former
      · exact isNamed
    relation_declared := by
      intro asked relation found
      rw [attached.relations_eq, Table.get?_insert] at found
      split at found
      · next same =>
          rw [Option.some.injEq] at found
          subst same found
          exact ⟨declared, isDeclared, rfl, attached.column_added⟩
      · obtain ⟨other, otherDeclared, isKept, present⟩ :=
          traced.relation_declared asked relation found
        exact ⟨other, otherDeclared, isKept, fun held isHeld =>
          attached.column_kept held.name held (present held isHeld)⟩
    relation_found := by
      intro held member asked isMarked
      obtain ⟨stored, found⟩ := Table.mem_values_iff.mp member
      rcases attached.column_cases stored held found with former | ⟨isAdded, _⟩
      · obtain ⟨relation, isRelation, keeps⟩ :=
          traced.relation_found held (Table.mem_values_iff.mpr ⟨stored, former⟩) asked isMarked
        exact ⟨relation, relationKept asked relation isRelation, keeps⟩
      · obtain ⟨_, _, _, _, isColumn⟩ := isDeclared.exists_readFrom
        have marked := (belongingColumnOf_fits isColumn).2 held isAdded
        have isName : name = asked := Option.some.inj (marked.symm.trans isMarked)
        refine ⟨keptRelation declared, by simp [attached.relations_eq, isName], ?_⟩
        exact Option.map_eq_some_iff.mpr ⟨held, isAdded, rfl⟩ }

/-- Columns and relations of a traced entity are paired. -/
theorem Traced.paired
    {document : Document}
    {key : String}
    {entity : Entity}
    (traced : Traced document key entity) :
    entity.Paired where
  columns_keyed := traced.columns_keyed
  relations_keyed name relation found := by
    obtain ⟨declared, isDeclared, rfl, _⟩ := traced.relation_declared name relation found
    obtain ⟨_, _, _, read, _⟩ := isDeclared.exists_readFrom
    exact read.name_eq
  keeps_iff relation member := by
    obtain ⟨name, found⟩ := Table.mem_values_iff.mp member
    obtain ⟨declared, isDeclared, rfl, _⟩ := traced.relation_declared name relation found
    obtain ⟨_, _, _, _, isColumn⟩ := isDeclared.exists_readFrom
    have needs := (belongingColumnOf_fits isColumn).1
    rw [← Option.isSome_iff_exists]
    simp only [keptRelation, Option.isSome_map, needs]
    cases declared.1.kind <;> simp [RelationKind.needsColumn]
  column_found relation member asked keeps := by
    obtain ⟨name, found⟩ := Table.mem_values_iff.mp member
    obtain ⟨declared, isDeclared, rfl, present⟩ := traced.relation_declared name relation found
    obtain ⟨_, _, _, read, isColumn⟩ := isDeclared.exists_readFrom
    obtain ⟨column, isDeclaredColumn, rfl⟩ := Option.map_eq_some_iff.mp keeps
    refine ⟨column, present column isDeclaredColumn, ?_⟩
    have marked := (belongingColumnOf_fits isColumn).2 column isDeclaredColumn
    exact marked.trans (congrArg some read.name_eq.symm)
  relation_found := traced.relation_found

/-- Every relation of a traced entity has what its kind asks for. -/
theorem Traced.fitsKind
    {document : Document}
    {key : String}
    {entity : Entity}
    (traced : Traced document key entity) :
    ∀ relation ∈ entity.relations.values, relation.FitsKind (built document).entities := by
  intro relation member
  obtain ⟨name, found⟩ := Table.mem_values_iff.mp member
  obtain ⟨declared, isDeclared, rfl, _⟩ := traced.relation_declared name relation found
  obtain ⟨_, _, _, read, _⟩ := isDeclared.exists_readFrom
  exact ⟨read.fitsKind.target_named, read.fitsKind.through_named, read.fitsKind.pivot_fits⟩

/-- The relations of a traced entity lead to entities that models make. -/
theorem Traced.target_mem
    {document : Document}
    {key : String}
    {entity : Entity}
    (traced : Traced document key entity) :
    ∀ relation ∈ entity.relations.values,
      ∀ target ∈ relation.target, target ∈ (built document).entities.keys := by
  intro relation member
  obtain ⟨name, found⟩ := Table.mem_values_iff.mp member
  obtain ⟨declared, isDeclared, rfl, _⟩ := traced.relation_declared name relation found
  obtain ⟨_, _, _, read, _⟩ := isDeclared.exists_readFrom
  exact targetOf_mem (wellLinked_built document).keyed read.target_found

/-! What runs of stages keep. -/

/-- What every context has that runs of stages lead to: the outline of the entities once there are
any, entities that are traced to the document, and entries under their own names. -/
structure Reached
    (document : Document)
    (context : Context) :
    Prop where
  databaseSpace_eq : context.databaseSpace = (Context.start document).databaseSpace
  outline_eq : context.outline = ∅ ∨ context.outline = (built document).outline
  traced :
    ∀ key entity, context.entities.get? key = some entity → Traced document key entity
  migrations_keyed : context.migrations.Keyed Migration.table
  middleware_keyed : context.middleware.Keyed Http.Middleware.shortName
  controllers_keyed : context.controllers.Keyed Http.Controller.key
  gates_keyed : context.gates.Keyed Auth.Gate.ability
  policies_keyed : context.policies.Keyed Auth.Policy.entity
  forms_keyed : context.forms.Keyed Auth.Form.name

theorem reached_start
    (document : Document) :
    Reached document (Context.start document) where
  databaseSpace_eq := rfl
  outline_eq := .inl rfl
  traced key entity found := by
    simp [Context.start, Table.get?, Entries.get?] at found
  migrations_keyed := Table.Keyed.empty
  middleware_keyed := Table.Keyed.empty
  controllers_keyed := Table.Keyed.empty
  gates_keyed := Table.Keyed.empty
  policies_keyed := Table.Keyed.empty
  forms_keyed := Table.Keyed.empty

/-- The first stage overwrites entities with others of the same models. -/
theorem reached_entities
    {document : Document}
    {context : Context}
    (reached : Reached document context) :
    Reached document (entities document context).context := by
  rw [entities_of_outline reached.databaseSpace_eq reached.outline_eq]
  exact { reached with
    outline_eq := .inr rfl
    traced := by
      intro key entity found
      obtain ⟨model, _, made⟩ := madeFrom_of_built found
      exact made.traced }

/-- One relation is put onto one traced entity, and the placeholder declares what it declared when
the entities were made. -/
theorem reached_addRelation
    {document : Document}
    {context next : Context}
    {placeholder : Placeholder}
    (member : placeholder ∈ placeholders document)
    (reached : Reached document context)
    (added : addRelation context placeholder = .ok next) :
    Reached document next := by
  have nextOutline := outline_of_addRelation added
  obtain ⟨_, _, _, entity, _, _, _, _, found, _, _⟩ := addRelation_eq_ok_iff.mp added
  have sameOutline := reached.outline_eq.resolve_left (Context.outline_ne_empty found)
  rw [addRelation_of_get? sameOutline found, map_eq_ok_iff] at added
  obtain ⟨changed, put, rfl⟩ := added
  obtain ⟨declared, read, attached⟩ := exists_attached_of_putOn put
  exact { reached with
    outline_eq := .inr (nextOutline.trans sameOutline)
    traced := by
      intro key other stored
      rw [Table.get?_insert] at stored
      split at stored
      · next isOwner =>
          rw [Option.some.injEq] at stored
          subst isOwner stored
          exact (reached.traced _ entity found).of_attached ⟨placeholder, member, rfl, rfl, read⟩
            attached
      · exact reached.traced key other stored }

/-- The third stage writes migrations under their own tables, or leaves them. -/
theorem reached_migrations
    {document : Document}
    {context : Context}
    (reached : Reached document context) :
    Reached document (migrations document context).context := by
  unfold migrations
  cases made : migrationTable document context with
  | error cause =>
      exact reached
  | ok table =>
      obtain ⟨explicit, pivots, tabulated⟩ := tabulated_of_migrationTable made
      exact { reached with migrations_keyed := tabulated.keyed }

theorem key_of_controllerEntry
    {context : Context}
    {declared : String × Document.Controller}
    {entry : String × Http.Controller}
    (made : controllerEntry context declared = .ok (some entry)) :
    entry.2.key = entry.1 := by
  obtain ⟨controller, isMade, same⟩ := map_eq_ok_iff.mp made
  obtain ⟨parts, _, rfl⟩ := map_eq_ok_iff.mp isMade
  cases same
  rfl

theorem entity_of_policyEntry
    {context : Context}
    {declared : String × Option Document.Policy}
    {entry : String × Auth.Policy}
    (made : policyEntry context declared = .ok (some entry)) :
    entry.2.entity = entry.1 := by
  simp only [policyEntry] at made
  cases granted : policyGrants ("policies." ++ declared.1) declared.2 with
  | error cause =>
      simp [granted] at made
  | ok grants =>
      cases grants with
      | none =>
          simp [granted] at made
      | some actions =>
          simp only [granted, map_eq_ok_iff] at made
          obtain ⟨entity, _, same⟩ := made
          cases same
          rfl

theorem name_of_formEntry
    {context : Context}
    {declared : String × Option Document.Form}
    {entry : String × Auth.Form}
    (made : formEntry context declared = .ok (some entry)) :
    entry.2.name = entry.1 := by
  obtain ⟨authorize, _, same⟩ := map_eq_ok_iff.mp made
  cases same
  rfl

theorem ability_of_gateEntry
    (declared : String × Option String) :
    (gateEntry declared).2.ability = (gateEntry declared).1 := by
  simp only [gateEntry, Auth.Gate.ofHandler]
  split
  · rfl
  · split
    · rfl
    · split <;> rfl

/-- The HTTP stage keeps middleware and controllers under their own names. -/
theorem reached_http
    {document : Document}
    {context : Context}
    (reached : Reached document context) :
    Reached document (http document context).context := by
  apply Outcome.andThen_invariant (Reached document)
  · refine fills_addMiddleware.holds_ofSteps (Reached document)
      (fills_addMiddleware.keyed_ofSteps reached.middleware_keyed ?_ _)
      fun _ keyed => { reached with middleware_keyed := keyed }
    rintro declared entry made
    cases made
    rfl
  · intro context reached
    exact fills_addController.holds_ofSteps (Reached document)
      (fills_addController.keyed_ofSteps reached.controllers_keyed
        (fun _ _ made => key_of_controllerEntry made) _)
      fun _ keyed => { reached with controllers_keyed := keyed }

/-- The last stage keeps gates, policies and forms under their own names. -/
theorem reached_auth
    {document : Document}
    {context : Context}
    (reached : Reached document context) :
    Reached document (auth document context).context := by
  apply Outcome.andThen_invariant (Reached document)
  · apply Outcome.andThen_invariant (Reached document)
    · refine fills_addGate.holds_ofSteps (Reached document)
        (fills_addGate.keyed_ofSteps reached.gates_keyed ?_ _)
        fun _ keyed => { reached with gates_keyed := keyed }
      rintro declared entry made
      cases made
      exact ability_of_gateEntry declared
    · intro context reached
      exact fills_addPolicy.holds_ofSteps (Reached document)
        (fills_addPolicy.keyed_ofSteps reached.policies_keyed
          (fun _ _ made => entity_of_policyEntry made) _)
        fun _ keyed => { reached with policies_keyed := keyed }
  · intro context reached
    exact fills_addForm.holds_ofSteps (Reached document)
      (fills_addForm.keyed_ofSteps reached.forms_keyed
        (fun _ _ made => name_of_formEntry made) _)
      fun _ keyed => { reached with forms_keyed := keyed }

/-- Whatever stage is run, what is reached stays coherent. -/
theorem reached_run
    {document : Document}
    {context : Context}
    (reached : Reached document context)
    (stage : Stage) :
    Reached document (stage.run document context).context := by
  cases stage with
  | entities =>
      exact reached_entities reached
  | relations =>
      exact Outcome.ofSteps_invariant (Reached document) reached
        fun _ _ _ member former added => reached_addRelation member former added
  | migrations =>
      exact reached_migrations reached
  | http =>
      exact reached_http reached
  | auth =>
      exact reached_auth reached

/-- Whatever relations lead to is there. -/
theorem Reached.target_mem
    {document : Document}
    {context : Context}
    (reached : Reached document context) :
    ∀ entity ∈ context.entities.values,
      ∀ relation ∈ entity.relations.values,
        ∀ target ∈ relation.target, target ∈ context.entities.keys := by
  intro entity member relation isRelation target isTarget
  obtain ⟨key, found⟩ := Table.mem_values_iff.mp member
  have sameOutline := reached.outline_eq.resolve_left (Context.outline_ne_empty found)
  have sameKeys := congrArg Table.keys sameOutline
  simp only [Context.outline, Table.keys_map] at sameKeys
  rw [sameKeys]
  exact (reached.traced key entity found).target_mem relation isRelation target isTarget

/-- Every context that is reached is coherent. -/
theorem Reached.coherent
    {document : Document}
    {context : Context}
    (reached : Reached document context) :
    context.Coherent where
  entities_keyed key entity found := (reached.traced key entity found).key_eq
  migrations_keyed := reached.migrations_keyed
  middleware_keyed := reached.middleware_keyed
  controllers_keyed := reached.controllers_keyed
  gates_keyed := reached.gates_keyed
  policies_keyed := reached.policies_keyed
  forms_keyed := reached.forms_keyed
  paired entity member := by
    obtain ⟨key, found⟩ := Table.mem_values_iff.mp member
    exact (reached.traced key entity found).paired
  fitsKind entity member relation isRelation := by
    obtain ⟨key, found⟩ := Table.mem_values_iff.mp member
    have sameOutline := reached.outline_eq.resolve_left (Context.outline_ne_empty found)
    exact ((reached.traced key entity found).fitsKind relation isRelation).of_outline_eq sameOutline

theorem reached_afterRuns
    (document : Document)
    (stages : List Stage) :
    Reached document (Context.afterRuns document stages) :=
  Context.afterRuns_invariant (Reached document) (reached_start document)
    (fun _ stage reached => reached_run reached stage) stages

end Resolution

open Resolution

/-- Every context that runs of stages lead to is coherent, whatever the stages and whether or not
they fail. -/
theorem coherent_afterRuns
    (document : Document)
    (stages : List Stage) :
    (Context.afterRuns document stages).Coherent :=
  Reached.coherent <|
    Context.afterRuns_invariant (Reached document) (reached_start document)
      (fun _ stage reached => reached_run reached stage) stages

end Blueprint
