import Blueprint.Proofs.Filling
import Blueprint.Proofs.Lookup

namespace Blueprint

/-!
# Entities made from models

An entity that a model makes has the columns of the lines of the model, in order and under their
own names, and its primary key and the column by which it is bound are among them.
-/

open Schema

/-- Columns and relations stand under their own names; keys, bindings and the columns that
relations need are among the columns. -/
structure Schema.Entity.SelfContained
    (entity : Entity) :
    Prop where
  columns_keyed : entity.columns.Keyed Column.name
  relations_keyed : entity.relations.Keyed Relation.name
  primary_mem : ∀ primary ∈ entity.primary, primary.column ∈ entity.columns.keys
  routeBinding_mem : ∀ column ∈ entity.routeBinding, column ∈ entity.columns.keys
  needed_mem :
    ∀ relation ∈ entity.relations.values,
      relation.kind.needsColumn →
      ∃ column ∈ entity.columns.values,
        relation.belongingColumn = some column.name ∧ column.relation = some relation.name

namespace Resolution

/-- The lines among columns keep their order and stand under some of the names. -/
theorem names_columnLines_sublist
    (columns : Document.Columns) :
    List.Sublist (Entries.names (columnLines columns)) columns.keys := by
  simp only [columnLines, Table.keys]
  induction columns.entries with
  | nil =>
      exact .slnil
  | cons entry rest inductionHypothesis =>
      obtain ⟨name, column⟩ := entry
      cases column with
      | line text =>
          exact inductionHypothesis.cons_cons name
      | relation line =>
          exact inductionHypothesis.cons name

/-- A column is read from the calls of its line. -/
theorem columnOfLine_eq_ok_iff
    {owner : String}
    {line : String × String}
    {column : Column} :
    columnOfLine owner line = .ok column ↔
      Column.ofMethods? line.1 (Method.ofLine line.2) = some column := by
  unfold columnOfLine
  cases Column.ofMethods? line.1 (Method.ofLine line.2) <;> simp [Document.refuse]

/-- The column of a line has the name that the line stands under, and belongs to no relation. -/
theorem name_of_ofMethods?
    {name : String}
    {calls : List Method}
    {column : Column}
    (read : Column.ofMethods? name calls = some column) :
    column.name = name ∧ column.relation = none := by
  cases calls with
  | nil =>
      simp [Column.ofMethods?] at read
  | cons typeCall modifiers =>
      simp only [Column.ofMethods?, Option.some.injEq] at read
      exact read ▸ ⟨rfl, rfl⟩

theorem name_of_columnOfLine
    {owner : String}
    {line : String × String}
    {column : Column}
    (read : columnOfLine owner line = .ok column) :
    column.name = line.1 :=
  (name_of_ofMethods? (columnOfLine_eq_ok_iff.mp read)).1

theorem names_of_collect_columnOfLine
    {owner : String}
    {lines : List (String × String)}
    {columns : List Column}
    (read : collect (columnOfLine owner) lines = .ok columns) :
    columns.map Column.name = Entries.names lines := by
  have matched := collect_eq_ok_iff.mp read
  induction matched with
  | nil =>
      rfl
  | @cons line column lines columns head tail inductionHypothesis =>
      have rest := inductionHypothesis (collect_eq_ok_iff.mpr tail)
      simp only [Entries.names, List.map_cons] at rest ⊢
      rw [name_of_columnOfLine head, rest]

/-- Columns with distinct names are the values of their table, in order. -/
theorem entries_tableOfColumns
    {columns : List Column}
    (distinct : (columns.map Column.name).Nodup) :
    (tableOfColumns columns).entries = columns.map fun column => (column.name, column) := by
  apply Table.entries_ofList
  simpa [Entries.names, Function.comp_def] using distinct

/--
The scalar columns of a declaration are those of its lines: in the same order, each read from its
line and under its own name.
-/
theorem scalarColumns_eq_ok_iff
    {owner : String}
    {declared : Document.Columns}
    {columns : Table Column} :
    scalarColumns owner declared = .ok columns ↔
      List.Forall₂ (fun line column => columnOfLine owner line = .ok column)
          (columnLines declared) columns.values ∧
        columns.Keyed Column.name := by
  rw [scalarColumns, map_eq_ok_iff]
  constructor
  · rintro ⟨read, collected, rfl⟩
    have distinct : (read.map Column.name).Nodup := by
      rw [names_of_collect_columnOfLine collected]
      exact (names_columnLines_sublist declared).nodup declared.nodup_keys
    have entries := entries_tableOfColumns distinct
    have values : (tableOfColumns read).values = read := by
      simp [Table.values, entries, Function.comp_def]
    refine ⟨by rw [values]; exact collect_eq_ok_iff.mp collected, ?_⟩
    intro name column found
    have member := Table.get?_eq_some_iff.mp found
    rw [entries] at member
    obtain ⟨original, _, same⟩ := List.mem_map.mp member
    cases same
    rfl
  · rintro ⟨read, keyed⟩
    refine ⟨columns.values, collect_eq_ok_iff.mpr read, ?_⟩
    apply Table.ext
    have distinct : (columns.values.map Column.name).Nodup := by
      rw [keyed.map_values]
      exact columns.nodup_keys
    rw [entries_tableOfColumns distinct]
    simp only [Table.values, List.map_map]
    calc
      columns.entries.map ((fun column => (column.name, column)) ∘ Prod.snd) =
          columns.entries.map id := by
        apply List.map_congr_left
        intro entry member
        have own := keyed entry.1 entry.2 (Table.get?_eq_some_iff.mpr member)
        simp [own]
      _ = columns.entries := List.map_id _

/-- No scalar column belongs to a relation. -/
theorem relation_of_scalarColumns
    {owner : String}
    {declared : Document.Columns}
    {columns : Table Column}
    (read : scalarColumns owner declared = .ok columns)
    {column : Column}
    (member : column ∈ columns.values) :
    column.relation = none := by
  obtain ⟨line, _, isRead⟩ := exists_of_mem_matched (scalarColumns_eq_ok_iff.mp read).1 member
  exact (name_of_ofMethods? (columnOfLine_eq_ok_iff.mp isRead)).2

/-- The column lines are the columns that are written as lines. -/
theorem mem_columnLines_iff
    {columns : Document.Columns}
    {name text : String} :
    (name, text) ∈ columnLines columns ↔ columns.get? name = some (.line text) := by
  simp only [Table.get?_eq_some_iff, columnLines, List.mem_filterMap]
  constructor
  · rintro ⟨⟨other, column⟩, isColumn, isLine⟩
    cases column with
    | line written =>
        cases isLine
        exact isColumn
    | relation line =>
        simp at isLine
  · exact fun isColumn => ⟨_, isColumn, rfl⟩

theorem mem_names_columnLines_iff
    {columns : Document.Columns}
    {name : String} :
    name ∈ Entries.names (columnLines columns) ↔
      ∃ text, columns.get? name = some (.line text) := by
  simp [Entries.names, ← mem_columnLines_iff]

/-- The columns of an entity are read from the column lines alone, in order. -/
theorem keys_of_scalarColumns
    {owner : String}
    {declared : Document.Columns}
    {columns : Table Column}
    (read : scalarColumns owner declared = .ok columns) :
    columns.keys = Entries.names (columnLines declared) := by
  obtain ⟨matched, keyed⟩ := scalarColumns_eq_ok_iff.mp read
  rw [← keyed.map_values]
  exact names_of_collect_columnOfLine (collect_eq_ok_iff.mpr matched)

theorem columns_of_modelColumns
    {key : String}
    {model : Document.Model}
    {declared : Document.Columns}
    (hasColumns : Document.modelColumns key model = .ok declared) :
    model.columns = some declared := by
  unfold Document.modelColumns at hasColumns
  cases given : model.columns with
  | none =>
      simp [given, Document.refuse] at hasColumns
  | some columns =>
      by_cases isEmpty : columns.entries.isEmpty = true
      · simp [given, isEmpty, Document.refuse] at hasColumns
      · simpa [given, isEmpty] using hasColumns

/-- An inferred primary key is one of the columns. -/
theorem inferredPrimary_mem
    {columns : Table Column}
    (keyed : columns.Keyed Column.name)
    {primary : PrimaryKey}
    (inferred : inferredPrimary columns = some primary) :
    primary.column ∈ columns.keys := by
  simp only [inferredPrimary, Option.map_eq_some_iff] at inferred
  obtain ⟨column, found, rfl⟩ := inferred
  rw [Table.mem_keys_iff]
  exact ⟨column, keyed.get?_of_mem_values (List.mem_of_find?_eq_some found)⟩

theorem primaryOf_mem
    {key : String}
    {columns : Table Column}
    (keyed : columns.Keyed Column.name)
    {declared : Option Document.Primary}
    {primary : Option PrimaryKey}
    (resolved : primaryOf key columns declared = .ok primary) :
    ∀ chosen ∈ primary, chosen.column ∈ columns.keys := by
  intro chosen isChosen
  match declared with
  | none | some (.toggle true) =>
      simp only [primaryOf, Except.ok.injEq] at resolved
      exact inferredPrimary_mem keyed (resolved.trans isChosen)
  | some (.toggle false) =>
      simp only [primaryOf, Except.ok.injEq] at resolved
      simp [← resolved] at isChosen
  | some (.block block) =>
      simp only [primaryOf, bind_eq_ok_iff] at resolved
      obtain ⟨⟨column, keyType, incrementing⟩, _, checked⟩ := resolved
      by_cases present : column ∈ columns.keys
      · simp only [Table.contains_iff, present, ↓reduceIte, pure_eq_ok_iff] at checked
        rw [← checked, Option.mem_some_iff] at isChosen
        exact isChosen ▸ present
      · simp [Table.contains_iff, present] at checked

/-- A route is bound by one of the columns, if by any. -/
theorem routeBindingOf_mem
    {key : String}
    {columns : Table Column}
    {declared binding : Option String}
    (resolved : routeBindingOf key columns declared = .ok binding) :
    ∀ column ∈ binding, column ∈ columns.keys := by
  intro column isBinding
  cases declared with
  | none =>
      simp only [routeBindingOf, Except.ok.injEq] at resolved
      simp [← resolved] at isBinding
  | some name =>
      by_cases present : name ∈ columns.keys
      · simp only [routeBindingOf, Table.contains_iff, present, ↓reduceIte,
          Except.ok.injEq] at resolved
        rw [← resolved, Option.mem_some_iff] at isBinding
        exact isBinding ▸ present
      · simp [routeBindingOf, Table.contains_iff, present] at resolved

/-- What an entity has of the model that it is made from. -/
structure MadeFrom
    (space key : String)
    (model : Document.Model)
    (entity : Entity) :
    Prop where
  key_eq : entity.key = key
  className_eq : entity.className = Context.classOf key
  table_eq : entity.table = model.table.getD (usualTable entity.className)
  columns_read :
    ∃ declared,
      Document.modelColumns key model = .ok declared ∧
        scalarColumns key declared = .ok entity.columns
  no_relations : entity.relations = ∅
  modelType_read : Document.modelType key model = .ok entity.modelType
  primary_resolved : primaryOf key entity.columns model.primary = .ok entity.primary
  routeBinding_resolved : routeBindingOf key entity.columns model.route = .ok entity.routeBinding
  events_bound : eventsOf key entity.className model.events = .ok entity.events
  timestamps_eq : entity.timestamps = timestampsOf model.timestamps
  softDelete_eq : entity.softDelete = softDeleteOf model.softDeletes

/-- An entity that is made has all of its parts from the model. -/
theorem madeFrom_of_entityOf
    {space key : String}
    {model : Document.Model}
    {entity : Entity}
    (made : entityOf space key model = .ok entity) :
    MadeFrom space key model entity := by
  simp only [entityOf, bind_eq_ok_iff, pure_eq_ok_iff] at made
  obtain ⟨declared, hasColumns, columns, readColumns, modelType, readType, primary, hasPrimary,
    binding, hasBinding, events, hasEvents, rfl⟩ := made
  exact {
    key_eq := rfl
    className_eq := rfl
    table_eq := rfl
    columns_read := ⟨declared, hasColumns, readColumns⟩
    no_relations := rfl
    modelType_read := readType
    primary_resolved := hasPrimary
    routeBinding_resolved := hasBinding
    events_bound := hasEvents
    timestamps_eq := rfl
    softDelete_eq := rfl }

/-- The columns of an entity stand under their own names. -/
theorem MadeFrom.keyed_columns
    {space key : String}
    {model : Document.Model}
    {entity : Entity}
    (made : MadeFrom space key model entity) :
    entity.columns.Keyed Column.name := by
  obtain ⟨declared, _, read⟩ := made.columns_read
  exact (scalarColumns_eq_ok_iff.mp read).2

/-- An entity refers to no columns but its own. -/
theorem MadeFrom.selfContained
    {space key : String}
    {model : Document.Model}
    {entity : Entity}
    (made : MadeFrom space key model entity) :
    entity.SelfContained where
  columns_keyed := made.keyed_columns
  relations_keyed := made.no_relations ▸ Table.Keyed.empty
  primary_mem := primaryOf_mem made.keyed_columns made.primary_resolved
  routeBinding_mem := routeBindingOf_mem made.routeBinding_resolved
  needed_mem relation isRelation := by
    simp [made.no_relations] at isRelation

end Resolution

end Blueprint
