import Blueprint.Proofs.Integrity

namespace Blueprint

/-!
# Keys and the columns that refer to them

A column type may number rows, which makes the column a primary key unless another is chosen. A
column that is kept for a relation, on an entity or in a join table, has the plain type of the key
that it refers to and never numbers rows. So linking leaves every key as it was inferred: it is
that of the first column that numbers rows, among all columns of the table.
-/

open Schema

namespace Schema

/-- The types that number rows. -/
def identityWords : List String :=
  ["id", "increments", "integerIncrements", "tinyIncrements", "smallIncrements",
   "mediumIncrements", "bigIncrements"]

/-- A type counts up exactly when its word is one of the identity words. -/
theorem isIdentity_iff
    {word : String} :
    isIdentity word = true ↔ word ∈ identityWords := by
  have names : identityWords = identityStorage.map Prod.fst := rfl
  rw [isIdentity, List.lookup_isSome_iff, names, List.mem_map]
  simp [eq_comm (a := word)]

/-- What refers to a key has a type that does not number rows, whatever the type of the key. -/
theorem isIdentity_storageType
    (word : String) :
    isIdentity (storageType word) = false := by
  rw [storageType]
  cases found : identityStorage.lookup word with
  | none =>
      rw [Option.getD_none, isIdentity, found]
      rfl
  | some plain =>
      obtain ⟨_, _, split, _⟩ := List.lookup_eq_some_iff.mp found
      have member : (word, plain) ∈ identityStorage := by
        rw [split]
        exact List.mem_append_right _ List.mem_cons_self
      have plainly : ∀ entry ∈ identityStorage, isIdentity entry.2 = false := by
        decide
      exact plainly _ member

/-- The key of the first of some columns that numbers rows: it has the name of the column, the
plain type for it, and numbers rows. -/
def PrimaryKey.IsFirstOf
    (columns : List Column)
    (primary : PrimaryKey) :
    Prop :=
  ∃ earlier column later,
    columns = earlier ++ column :: later ∧
      (∀ other ∈ earlier, other.columnType ∉ identityWords) ∧
      column.columnType ∈ identityWords ∧
      primary = ⟨column.name, Schema.storageType column.columnType, true⟩

theorem Column.isIdentity_eq_false_iff
    {column : Column} :
    column.isIdentity = false ↔ column.columnType ∉ identityWords := by
  rw [Column.isIdentity, ← Bool.not_eq_true, isIdentity_iff]

/-- What refers to the key of an entity, if it has one, does not number rows. -/
def Entity.HasPlainKey
    (entity : Entity) :
    Prop :=
  ∀ primary ∈ entity.primary, isIdentity primary.storageType = false

/-- The columns of a join table have the plain types of the keys on both sides. -/
theorem Migration.Joins.isIdentity_of_mem
    {entity target : Entity}
    {relation : Relation}
    {pivot : Migration}
    (joins : pivot.Joins entity target relation)
    (entityPlain : entity.HasPlainKey)
    (targetPlain : target.HasPlainKey)
    {column : Column}
    (member : column ∈ pivot.columns) :
    column.isIdentity = false := by
  have ofSide {side : Entity}
      (plain : side.HasPlainKey)
      (isKeyColumn : side.keyColumn? = some column.heading) :
      column.isIdentity = false := by
    obtain ⟨primary, hasPrimary, isHeading⟩ := Option.map_eq_some_iff.mp isKeyColumn
    have columnType : primary.storageType = column.columnType := congrArg Prod.snd isHeading
    rw [Column.isIdentity, ← columnType]
    exact plain primary hasPrimary
  obtain ⟨first, isFirst, second, isSecond, perm⟩ := joins.columns_perm
  have heading := perm.mem_iff.mp (List.mem_map_of_mem (f := Column.heading) member)
  rw [List.mem_cons, List.mem_singleton] at heading
  rcases heading with isHeading | isHeading
  · exact ofSide entityPlain (isHeading ▸ isFirst)
  · exact ofSide targetPlain (isHeading ▸ isSecond)

end Schema

/-- A model that does not choose its key, and does not do without one either. -/
def Document.Model.InfersKey
    (model : Document.Model) :
    Prop :=
  model.primary = none ∨ model.primary = some (.toggle true)

/-- No column of a relation numbers rows, on an entity or in any table, and the key of an entity
whose model infers it is that of the first of all its columns that numbers rows. -/
structure DatabasePlan.KeepsKeys
    (document : Document)
    (database : DatabasePlan) :
    Prop where
  entity_columns :
    ∀ entity ∈ database.entities.values,
      ∀ column ∈ entity.columns.values,
        column.relation.isSome → column.columnType ∉ identityWords
  migration_columns :
    ∀ migration ∈ database.migrations.values,
      ∀ column ∈ migration.columns,
        column.relation.isSome → column.columnType ∉ identityWords
  primary_eq_some_iff :
    ∀ key model entity,
      document.database.models.get? key = some model →
      model.InfersKey →
      database.entities.get? key = some entity →
      ∀ primary, entity.primary = some primary ↔ primary.IsFirstOf entity.columns.values
  primary_eq_none_iff :
    ∀ key model entity,
      document.database.models.get? key = some model →
      model.InfersKey →
      database.entities.get? key = some entity →
      (entity.primary = none ↔
        ∀ column ∈ entity.columns.values, column.columnType ∉ identityWords)

namespace Resolution

/-- The inferred primary key is the first identity column. -/
theorem inferredPrimary_eq_some_iff
    {columns : Table Column}
    {primary : PrimaryKey} :
    inferredPrimary columns = some primary ↔ primary.IsFirstOf columns.values := by
  simp only [inferredPrimary, Option.map_eq_some_iff, List.find?_eq_some_iff_append,
    Bool.not_eq_true', Column.isIdentity_eq_false_iff]
  constructor
  · rintro ⟨column, ⟨isIdentity, earlier, later, split, notEarlier⟩, rfl⟩
    exact ⟨earlier, column, later, split, notEarlier, isIdentity_iff.mp isIdentity, rfl⟩
  · rintro ⟨earlier, column, later, split, notEarlier, isIdentity, rfl⟩
    exact ⟨column, ⟨isIdentity_iff.mpr isIdentity, earlier, later, split, notEarlier⟩, rfl⟩

theorem inferredPrimary_eq_none_iff
    {columns : Table Column} :
    inferredPrimary columns = none ↔
      ∀ column ∈ columns.values, column.columnType ∉ identityWords := by
  simp only [inferredPrimary, Option.map_eq_none_iff, List.find?_eq_none, Bool.not_eq_true,
    Column.isIdentity_eq_false_iff]

/-- A model that declares no key has the inferred one. -/
theorem primaryOf_of_infersKey
    {model : Document.Model}
    (infers : model.InfersKey)
    (key : String)
    (columns : Table Column) :
    primaryOf key columns model.primary = .ok (inferredPrimary columns) := by
  rcases infers with absent | asked
  · rw [absent, primaryOf]
  · rw [asked, primaryOf]

/-- A declared key is referred to in a plain type as well. -/
theorem plain_of_primaryOf
    {key : String}
    {columns : Table Column}
    {declared : Option Document.Primary}
    {primary : Option PrimaryKey}
    (resolved : primaryOf key columns declared = .ok primary) :
    ∀ chosen ∈ primary, Schema.isIdentity chosen.storageType = false := by
  have inferred :
      ∀ chosen ∈ inferredPrimary columns, Schema.isIdentity chosen.storageType = false := by
    intro chosen isChosen
    obtain ⟨column, _, rfl⟩ := Option.map_eq_some_iff.mp isChosen
    exact isIdentity_storageType column.columnType
  intro chosen isChosen
  match declared with
  | none | some (.toggle true) =>
      cases resolved
      exact inferred chosen isChosen
  | some (.toggle false) =>
      cases resolved
      cases isChosen
  | some (.block block) =>
      simp only [primaryOf, bind_eq_ok_iff] at resolved
      obtain ⟨⟨column, keyType, incrementing⟩, _, checked⟩ := resolved
      split at checked
      · cases checked
        cases isChosen
        exact isIdentity_storageType keyType
      · cases checked

/-- What linking keeps of an entity: the columns of relations do not number rows, what refers to
its key has a plain type, and an inferred key is still the one that would be inferred. -/
structure KeySettled
    (document : Document)
    (key : String)
    (entity : Entity) :
    Prop where
  related_plain :
    ∀ column ∈ entity.columns.values, column.relation.isSome → column.isIdentity = false
  hasPlainKey : entity.HasPlainKey
  primary_inferred :
    ∀ model,
      document.database.models.get? key = some model →
      model.InfersKey →
      entity.primary = inferredPrimary entity.columns

/-- The primary key of an entity is settled when it is made. -/
theorem MadeFrom.keySettled
    {document : Document}
    {space key : String}
    {model : Document.Model}
    {entity : Entity}
    (isModel : document.database.models.get? key = some model)
    (made : MadeFrom space key model entity) :
    KeySettled document key entity where
  related_plain column member related := by
    obtain ⟨_, _, read⟩ := made.columns_read
    simp [relation_of_scalarColumns read member] at related
  hasPlainKey := plain_of_primaryOf made.primary_resolved
  primary_inferred other isOther infers := by
    cases isModel.symm.trans isOther
    have resolved := made.primary_resolved
    rw [primaryOf_of_infersKey infers] at resolved
    exact (Except.ok.inj resolved).symm

/-- The column that a relation keeps has the plain type of a key, a type that is usual for keys, or
that of relations to several classes. -/
theorem isIdentity_of_belongingColumnOf
    {context : Context}
    {name owner : String}
    {relation : Relation}
    {column : Option Column}
    (plainKeys : ∀ key entity, context.entities.get? key = some entity → entity.HasPlainKey)
    (keeps : belongingColumnOf context name owner relation = .ok column) :
    ∀ kept ∈ column, kept.isIdentity = false := by
  intro kept isKept
  unfold belongingColumnOf at keeps
  split at keeps
  · cases keeps
    cases isKept
    exact (by decide : Schema.isIdentity morphType = false)
  · split at keeps
    · cases keeps
    · next target _ =>
        split at keeps
        · cases keeps
        · next found =>
            cases keeps
            cases isKept
            obtain ⟨key, _, isTarget⟩ := Context.entity_eq_ok_iff.mp found
            split
            · next primary hasPrimary =>
                exact plainKeys key _ isTarget primary hasPrimary
            · exact (by decide : Schema.isIdentity usualForeignKeyType = false)
  · cases keeps
    cases isKept

/-- A plain column more leaves the primary key as it is. -/
theorem KeySettled.of_attach
    {document : Document}
    {key owner name : String}
    {entity changed : Entity}
    {relation : Relation}
    {column : Option Column}
    (settled : KeySettled document key entity)
    (plain : ∀ kept ∈ column, kept.isIdentity = false)
    (attached : attach entity owner name relation column = .ok changed) :
    KeySettled document key changed := by
  rcases attach_eq_ok_iff.mp attached with ⟨_, rfl⟩ | ⟨kept, isKept, fresh, rfl⟩
  · exact ⟨settled.related_plain, settled.hasPlainKey, settled.primary_inferred⟩
  · have notIdentity := plain kept isKept
    have values : (entity.columns.insert kept.name kept).values = entity.columns.values ++ [kept] :=
      Table.values_insert_of_notMem fresh
    exact {
      related_plain := by
        intro column member related
        rw [values, List.mem_append, List.mem_singleton] at member
        rcases member with former | rfl
        · exact settled.related_plain column former related
        · exact notIdentity
      hasPlainKey := settled.hasPlainKey
      primary_inferred := by
        intro model isModel infers
        -- The new column stands last and is never the one that is found.
        have same : inferredPrimary (entity.columns.insert kept.name kept) =
            inferredPrimary entity.columns := by
          simp [inferredPrimary, values, List.find?_append, notIdentity]
        exact (settled.primary_inferred model isModel infers).trans same.symm }

/-- The keys of all entities are settled. -/
def KeysSettled
    (document : Document)
    (context : Context) :
    Prop :=
  ∀ key entity, context.entities.get? key = some entity → KeySettled document key entity

/-- After the first stage all primary keys are settled. -/
theorem keysSettled_built
    (document : Document) :
    KeysSettled document (built document) := by
  intro key entity found
  obtain ⟨model, isModel, made⟩ := madeFrom_of_built found
  exact made.keySettled (Table.get?_eq_some_iff.mpr isModel)

theorem keysSettled_of_addRelation
    {document : Document}
    {context next : Context}
    {placeholder : Placeholder}
    (settled : KeysSettled document context)
    (added : addRelation context placeholder = .ok next) :
    KeysSettled document next := by
  obtain ⟨line, relation, column, entity, changed, _, _, keeps, found, attached, rfl⟩ :=
    addRelation_eq_ok_iff.mp added
  have plain := isIdentity_of_belongingColumnOf
    (fun key other isOther => (settled key other isOther).hasPlainKey) keeps
  intro key other isOther
  rw [Table.get?_insert] at isOther
  split at isOther
  · next same =>
      cases isOther
      exact same ▸ (settled _ entity found).of_attach plain attached
  · exact settled key other isOther

/-- The keys of linked entities are settled, also where linking failed half-way. -/
theorem keysSettled_linked
    (document : Document) :
    KeysSettled document (linked document) :=
  Outcome.ofSteps_invariant (KeysSettled document) (keysSettled_built document)
    fun _ _ _ _ settled added => keysSettled_of_addRelation settled added

/-- Nor does a column of a relation number rows in the table that it is in. -/
theorem Resolves.plain_of_mem_migration
    {document : Document}
    (resolves : Resolves document)
    {migration : Migration}
    (member : migration ∈ (tabled document).migrations.values)
    {column : Column}
    (isColumn : column ∈ migration.columns)
    (related : column.relation.isSome) :
    column.isIdentity = false := by
  rcases resolves.origin_migration member with
    ⟨entity, isEntity, rfl⟩ | ⟨_, _, columns, read, rfl⟩ |
      ⟨entity, relation, target, isGuessed, isTarget, joins⟩
  · obtain ⟨key, found⟩ := Table.mem_values_iff.mp isEntity
    exact (keysSettled_linked document key entity found).related_plain column isColumn related
  · simp [relation_of_scalarColumns read isColumn] at related
  · obtain ⟨key, found⟩ := Table.mem_values_iff.mp (mem_guessedPivots_iff.mp isGuessed).1
    obtain ⟨other, _, isOther⟩ := Option.bind_eq_some_iff.mp isTarget
    exact joins.isIdentity_of_mem (keysSettled_linked document key entity found).hasPlainKey
      (keysSettled_linked document other target isOther).hasPlainKey isColumn

end Resolution

open Resolution

/-- In the plan of a document no column of a relation numbers rows, and every inferred key is that
of the first column that does. -/
theorem keepsKeys_of_resolve
    {document : Document}
    {plan : Plan}
    (resolved : resolve document = .ok plan) :
    plan.database.KeepsKeys document := by
  obtain ⟨resolves, rfl⟩ := resolve_eq_ok_iff.mp resolved
  have settled := keysSettled_linked document
  rw [plan_database]
  exact {
    entity_columns := by
      intro entity isEntity column isColumn related
      obtain ⟨key, found⟩ := Table.mem_values_iff.mp isEntity
      exact Column.isIdentity_eq_false_iff.mp
        ((settled key entity found).related_plain column isColumn related)
    migration_columns := by
      intro migration isMigration column isColumn related
      exact Column.isIdentity_eq_false_iff.mp
        (resolves.plain_of_mem_migration isMigration isColumn related)
    primary_eq_some_iff := by
      intro key model entity isModel infers found primary
      rw [(settled key entity found).primary_inferred model isModel infers]
      exact inferredPrimary_eq_some_iff
    primary_eq_none_iff := by
      intro key model entity isModel infers found
      rw [(settled key entity found).primary_inferred model isModel infers]
      exact inferredPrimary_eq_none_iff }

/-- Countries with a declared key of an incrementing type, and cities that lead to them twice. -/
def countryDocument : Document :=
  { Document.blank with
    database := { Document.Database.blank with
      models := Table.ofList
        [("Country",
          { Document.Model.blank with
            columns := some (Table.ofList [("code", .line "string:2"), ("number", .line "id")])
            primary := some (.block ⟨some "code", some "increments", some true⟩) }),
         ("City",
          { Document.Model.blank with
            columns := some (Table.ofList
              [("country", .relation (some "belongsTo:Country")), ("name", .line "string"),
               ("number", .line "smallIncrements"), ("id", .line "id"),
               ("twins", .relation (some "belongsToMany:Country"))]) })] } }

/-- What refers to the code of a country is a plain number, and cities are found by number. -/
theorem keepsKeys_countryDocument :
    ∃ plan,
      resolve countryDocument = .ok plan ∧
        plan.database.KeepsKeys countryDocument ∧
        plan.database.migrations.values.map (fun table => table.columns.map Column.heading) =
          [[("code", "string"), ("number", "id")],
           [("name", "string"), ("number", "smallIncrements"), ("id", "id"),
            ("country_code", "unsignedInteger")],
           [("city_number", "unsignedSmallInteger"), ("country_code", "unsignedInteger")]] ∧
        (plan.database.entities.get? "City").map (·.primary) =
          some (some ⟨"number", "unsignedSmallInteger", true⟩) := by
  have evaluated :
      (resolve countryDocument).toOption.any (fun plan =>
        plan.database.migrations.values.map (fun table => table.columns.map Column.heading) ==
          [[("code", "string"), ("number", "id")],
           [("name", "string"), ("number", "smallIncrements"), ("id", "id"),
            ("country_code", "unsignedInteger")],
           [("city_number", "unsignedSmallInteger"), ("country_code", "unsignedInteger")]] &&
        (plan.database.entities.get? "City").map (·.primary) ==
          some (some ⟨"number", "unsignedSmallInteger", true⟩)) =
        true := by
    decide +kernel
  obtain ⟨plan, resolved, holds⟩ := exists_plan_of_any evaluated
  obtain ⟨tables, primary⟩ := (Bool.and_eq_true _ _).mp holds
  exact ⟨plan, resolved, keepsKeys_of_resolve resolved, beq_iff_eq.mp tables, beq_iff_eq.mp primary⟩

end Blueprint
