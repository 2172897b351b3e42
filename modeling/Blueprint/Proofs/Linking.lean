import Blueprint.Proofs.Entities

namespace Blueprint

/-!
# Linking entities

Resolving a relation changes one entity, and of that entity only the relation and the column that
the relation keeps. The outline of the entities stays, so that a name leads to the same key
throughout, and every key that a relation stores is a key of the context.
-/

open Schema

/-- The keys that a relation stores are among the given ones. -/
structure Schema.Relation.LeadsInto
    (keys : List String)
    (relation : Relation) :
    Prop where
  target_mem : ∀ key ∈ relation.target, key ∈ keys
  through_mem : ∀ key ∈ relation.through, key ∈ keys
  usingPivot_mem : ∀ key ∈ relation.usingPivot, key ∈ keys

namespace Resolution

/-- A relation before its modifiers are read. -/
def unmodified
    (name : String)
    (kind : RelationKind)
    (target through : Option String) :
    Relation where
  name := name
  kind := kind
  target := target
  through := through
  usingPivot := none
  methods := []
  belongingColumn := none
  withDefault := false
  withPivot := []

/-- A line makes a relation exactly when its head names a kind and the entities that the kind
needs, and its modifiers can be read one after the other. -/
theorem relationOf_eq_ok_iff
    {context : Context}
    {name line owner : String}
    {relation : Relation} :
    relationOf context name line owner = .ok relation ↔
      ∃ head modifiers kind target through,
        Method.ofLine line = head :: modifiers ∧
          RelationKind.ofWord? head.name = some kind ∧
          targetOf context owner kind head.arguments = .ok target ∧
          throughOf context owner kind head.arguments = .ok through ∧
          accumulate (modify context owner) (unmodified name kind target through) modifiers =
            .ok relation := by
  cases calls : Method.ofLine line with
  | nil =>
      simp [relationOf, calls, Document.refuse]
  | cons head modifiers =>
      cases word : RelationKind.ofWord? head.name with
      | none =>
          simp [relationOf, calls, word]
      | some kind =>
          simp only [relationOf, calls, word, bind_eq_ok_iff]
          constructor
          · rintro ⟨target, hasTarget, through, hasThrough, modified⟩
            exact ⟨head, modifiers, kind, target, through, rfl, word, hasTarget, hasThrough,
              modified⟩
          · rintro ⟨_, _, _, target, through, sameLine, sameWord, hasTarget, hasThrough, modified⟩
            cases sameLine
            cases word.symm.trans sameWord
            exact ⟨target, hasTarget, through, hasThrough, modified⟩

/-- The target is what the first argument names, and absent only from a relation to several classes
without an argument. -/
theorem targetOf_eq_ok_iff
    {context : Context}
    {owner : String}
    {kind : RelationKind}
    {arguments : List Argument}
    {target : Option String} :
    targetOf context owner kind arguments = .ok target ↔
      (arguments = [] ∧ kind = .morphTo ∧ target = none) ∨
        ∃ first others key,
          arguments = first :: others ∧
            context.entityKey first.text owner = .ok key ∧ target = some key := by
  cases arguments with
  | nil =>
      by_cases isMorph : kind = .morphTo
      · simp [targetOf, isMorph, eq_comm (b := target)]
      · simp [targetOf, isMorph, Document.refuse]
  | cons first others =>
      simp [targetOf, map_eq_ok_iff, eq_comm (b := target)]

/-- The kinds that go through an entity go through the one that the second argument names. -/
theorem throughOf_eq_ok_iff
    {context : Context}
    {owner : String}
    {kind : RelationKind}
    {arguments : List Argument}
    {through : Option String} :
    throughOf context owner kind arguments = .ok through ↔
      (kind.isThrough = false ∧ through = none) ∨
        (kind.isThrough = true ∧
          ∃ second key,
            arguments[1]? = some second ∧
              context.entityKey second.text owner = .ok key ∧ through = some key) := by
  by_cases goes : kind.isThrough = true
  · cases second : arguments[1]? with
    | none =>
        simp [throughOf, goes, second, Document.refuse]
    | some argument =>
        simp [throughOf, goes, second, map_eq_ok_iff, eq_comm (b := through)]
  · simp [throughOf, goes, eq_comm (b := through)]

theorem targetOf_mem
    {context : Context}
    (keyed : context.entities.Keyed Entity.key)
    {owner : String}
    {kind : RelationKind}
    {arguments : List Argument}
    {target : Option String}
    (found : targetOf context owner kind arguments = .ok target) :
    ∀ key ∈ target, key ∈ context.entities.keys := by
  rcases targetOf_eq_ok_iff.mp found with ⟨_, _, rfl⟩ | ⟨_, _, known, _, lookedUp, rfl⟩
  · simp
  · simpa using Context.mem_keys_of_entityKey keyed lookedUp

theorem throughOf_mem
    {context : Context}
    (keyed : context.entities.Keyed Entity.key)
    {owner : String}
    {kind : RelationKind}
    {arguments : List Argument}
    {through : Option String}
    (found : throughOf context owner kind arguments = .ok through) :
    ∀ key ∈ through, key ∈ context.entities.keys := by
  rcases throughOf_eq_ok_iff.mp found with ⟨_, rfl⟩ | ⟨_, _, known, _, lookedUp, rfl⟩
  · simp
  · simpa using Context.mem_keys_of_entityKey keyed lookedUp

theorem pivotOf_eq_ok_iff
    {context : Context}
    {owner : String}
    {kind : RelationKind}
    {method : Method}
    {key : String} :
    pivotOf context owner kind method = .ok key ↔
      ∃ name entity,
        method.firstLiteral? = some name ∧
          context.entity name owner = .ok entity ∧
          entity.modelType = kind.pivotType ∧
          entity.key = key := by
  cases literal : method.firstLiteral? with
  | none =>
      simp [pivotOf, literal, Document.refuse]
  | some name =>
      cases found : context.entity name owner with
      | error cause =>
          simp [pivotOf, literal, found]
      | ok entity =>
          by_cases fits : entity.modelType = kind.pivotType
          · simp [pivotOf, literal, found, fits]
          · simp [pivotOf, literal, found, fits, Document.refuse]

/-- Whether a modifier is kept as it is, and not read for what it says of a relation. -/
def isKept
    (kind : RelationKind)
    (method : Method) :
    Bool :=
  method.name != "withDefault" && method.name != "withPivot" &&
    !(method.name == "using" && kind.usesPivot)

theorem isKept_iff
    {kind : RelationKind}
    {method : Method} :
    isKept kind method = true ↔
      method.name ≠ "withDefault" ∧ method.name ≠ "withPivot" ∧
        ¬(method.name = "using" ∧ kind.usesPivot = true) := by
  simp [isKept, and_assoc, imp_iff_not_or]

/-- A modifier says that there is a default, names columns or a pivot entity, or is kept. -/
theorem modify_eq_ok_iff
    {context : Context}
    {owner : String}
    {relation changed : Relation}
    {method : Method} :
    modify context owner relation method = .ok changed ↔
      (method.name = "withDefault" ∧ changed = { relation with withDefault := true }) ∨
        (method.name = "withPivot" ∧
          changed = { relation with withPivot := relation.withPivot ++ method.texts }) ∨
        (method.name = "using" ∧ relation.kind.usesPivot = true ∧
          ∃ key,
            pivotOf context owner relation.kind method = .ok key ∧
              changed = { relation with usingPivot := some key }) ∨
        (isKept relation.kind method = true ∧
          changed = { relation with methods := relation.methods ++ [method] }) := by
  unfold modify
  by_cases isDefault : method.name = "withDefault"
  · simp [isDefault, isKept, eq_comm (b := changed)]
  · by_cases isColumns : method.name = "withPivot"
    · simp [isColumns, isKept, eq_comm (b := changed)]
    · by_cases isUsing : method.name = "using" ∧ relation.kind.usesPivot = true
      · simp [isUsing.1, isUsing.2, isKept, map_eq_ok_iff, eq_comm (b := changed)]
      · have kept : isKept relation.kind method = true := by
          simpa [isKept, isDefault, isColumns, imp_iff_not_or] using isUsing
        simp only [isDefault, isColumns, isUsing, kept, ↓reduceIte, Except.ok.injEq, false_and,
          true_and, false_or, eq_comm (b := changed), iff_or_self, and_imp]
        exact fun named uses => absurd ⟨named, uses⟩ isUsing

/-- What a modifier may change, and what it leaves. -/
structure Modified
    (context : Context)
    (owner : String)
    (relation changed : Relation) :
    Prop where
  name_eq : changed.name = relation.name
  kind_eq : changed.kind = relation.kind
  target_eq : changed.target = relation.target
  through_eq : changed.through = relation.through
  belongingColumn_eq : changed.belongingColumn = relation.belongingColumn
  pivot_named :
    changed.usingPivot = relation.usingPivot ∨
      ∃ name entity,
        relation.kind.usesPivot ∧
          context.entity name owner = .ok entity ∧
          entity.modelType = relation.kind.pivotType ∧
          changed.usingPivot = some entity.key

/-- A modifier changes a flag, a list, or names a pivot entity. -/
theorem modified_of_modify
    {context : Context}
    {owner : String}
    {relation changed : Relation}
    {method : Method}
    (applied : modify context owner relation method = .ok changed) :
    Modified context owner relation changed := by
  rcases modify_eq_ok_iff.mp applied with
    ⟨_, rfl⟩ | ⟨_, rfl⟩ | ⟨_, uses, key, pivot, rfl⟩ | ⟨_, rfl⟩
  · exact ⟨rfl, rfl, rfl, rfl, rfl, .inl rfl⟩
  · exact ⟨rfl, rfl, rfl, rfl, rfl, .inl rfl⟩
  · obtain ⟨name, entity, _, found, fits, rfl⟩ := pivotOf_eq_ok_iff.mp pivot
    exact ⟨rfl, rfl, rfl, rfl, rfl, .inr ⟨name, entity, uses, found, fits, rfl⟩⟩
  · exact ⟨rfl, rfl, rfl, rfl, rfl, .inl rfl⟩

/-- A relation bears its own name, keeps no column yet, and leads into the context. -/
theorem relationOf_leadsInto
    {context : Context}
    (keyed : context.entities.Keyed Entity.key)
    {name line owner : String}
    {relation : Relation}
    (read : relationOf context name line owner = .ok relation) :
    relation.name = name ∧ relation.LeadsInto context.entities.keys := by
  obtain ⟨head, modifiers, kind, target, through, _, _, hasTarget, hasThrough, modified⟩ :=
    relationOf_eq_ok_iff.mp read
  apply accumulate_invariant
    (fun relation : Relation =>
      relation.name = name ∧ relation.LeadsInto context.entities.keys)
    _ _ modified
  · exact ⟨rfl, targetOf_mem keyed hasTarget, throughOf_mem keyed hasThrough, by simp [unmodified]⟩
  · rintro former method next _ ⟨named, leads⟩ applied
    have change := modified_of_modify applied
    refine ⟨change.name_eq.trans named, ?_, ?_, ?_⟩
    · rw [change.target_eq]
      exact leads.target_mem
    · rw [change.through_eq]
      exact leads.through_mem
    · rcases change.pivot_named with kept | ⟨asked, entity, _, found, _, isPivot⟩
      · rw [kept]
        exact leads.usingPivot_mem
      · intro key isKey
        rw [isPivot, Option.mem_some_iff] at isKey
        have stored := Context.get?_of_entity keyed found
        exact isKey ▸ Table.mem_keys_iff.mpr ⟨entity, stored⟩

/-- Exactly the kinds that need a column keep one, and it is marked with the relation. -/
theorem belongingColumnOf_fits
    {context : Context}
    {name owner : String}
    {relation : Relation}
    {column : Option Column}
    (found : belongingColumnOf context name owner relation = .ok column) :
    column.isSome = relation.kind.needsColumn ∧
      ∀ kept ∈ column, kept.relation = some name := by
  cases kind : relation.kind with
  | belongsTo =>
      cases target : relation.target with
      | none =>
          simp [belongingColumnOf, kind, target, Document.refuse] at found
      | some key =>
          cases entity : context.entity key owner with
          | error cause =>
              simp [belongingColumnOf, kind, target, entity] at found
          | ok entity =>
              simp only [belongingColumnOf, kind, target, entity, Except.ok.injEq] at found
              subst found
              simp [RelationKind.needsColumn, Column.forRelation]
  | morphTo =>
      simp only [belongingColumnOf, kind, Except.ok.injEq] at found
      subst found
      simp [RelationKind.needsColumn, Column.forRelation]
  | _ =>
      simp only [belongingColumnOf, kind, Except.ok.injEq] at found
      subst found
      simp [RelationKind.needsColumn]

/-- A relation goes onto an entity by itself, or together with a column whose name is free. -/
theorem attach_eq_ok_iff
    {entity changed : Entity}
    {key name : String}
    {relation : Relation}
    {column : Option Column} :
    attach entity key name relation column = .ok changed ↔
      (column = none ∧
          changed = { entity with relations := entity.relations.insert name relation }) ∨
        ∃ kept,
          column = some kept ∧
            kept.name ∉ entity.columns.keys ∧
            changed = { entity with
              columns := entity.columns.insert kept.name kept
              relations :=
                entity.relations.insert name
                  { relation with belongingColumn := some kept.name } } := by
  cases column with
  | none =>
      simp [attach, eq_comm (b := changed)]
  | some kept =>
      by_cases taken : kept.name ∈ entity.columns.keys
      · simp [attach, Table.contains_iff, taken]
      · simp [attach, Table.contains_iff, taken, eq_comm (b := changed)]

theorem bare_of_attach
    {entity changed : Entity}
    {key name : String}
    {relation : Relation}
    {column : Option Column}
    (attached : attach entity key name relation column = .ok changed) :
    changed.bare = entity.bare := by
  rcases attach_eq_ok_iff.mp attached with ⟨_, rfl⟩ | ⟨kept, _, _, rfl⟩
  · rfl
  · rfl

/-- A relation that goes onto a self-contained entity with the column that it needs keeps it so. -/
theorem selfContained_of_attach
    {entity changed : Entity}
    {key name : String}
    {relation : Relation}
    {column : Option Column}
    (selfContained : entity.SelfContained)
    (named : relation.name = name)
    (needs : column.isSome = relation.kind.needsColumn)
    (marked : ∀ kept ∈ column, kept.relation = some name)
    (attached : attach entity key name relation column = .ok changed) :
    changed.SelfContained := by
  rcases attach_eq_ok_iff.mp attached with ⟨rfl, rfl⟩ | ⟨kept, rfl, free, rfl⟩
  · exact { selfContained with
      relations_keyed := selfContained.relations_keyed.insert named
      needed_mem := by
        intro other isRelation needsColumn
        rcases Table.mem_values_of_insert isRelation with rfl | former
        · simp [← needs] at needsColumn
        · exact selfContained.needed_mem other former needsColumn }
  · have grown : entity.columns.keys ⊆ (entity.columns.insert kept.name kept).keys := by
      rw [Table.keys_insert, if_neg free]
      exact List.subset_append_left _ _
    exact {
      columns_keyed := selfContained.columns_keyed.insert rfl
      relations_keyed := selfContained.relations_keyed.insert named
      primary_mem := fun primary isPrimary => grown (selfContained.primary_mem primary isPrimary)
      routeBinding_mem := fun column isBinding =>
        grown (selfContained.routeBinding_mem column isBinding)
      needed_mem := by
        intro other isRelation needsColumn
        rw [Table.values_insert_of_notMem free]
        rcases Table.mem_values_of_insert isRelation with rfl | former
        · exact ⟨kept, by simp, rfl, by simpa [named] using marked kept rfl⟩
        · obtain ⟨column, isColumn, keeps⟩ :=
            selfContained.needed_mem other former needsColumn
          exact ⟨column, by simp [isColumn], keeps⟩ }

theorem mem_relations_of_attach
    {entity changed : Entity}
    {key name : String}
    {relation : Relation}
    {column : Option Column}
    (attached : attach entity key name relation column = .ok changed)
    {other : Relation}
    (member : other ∈ changed.relations.values) :
    other ∈ entity.relations.values ∨
      ∃ kept, other = { relation with belongingColumn := kept } := by
  rcases attach_eq_ok_iff.mp attached with ⟨_, rfl⟩ | ⟨kept, _, _, rfl⟩
  · rcases Table.mem_values_of_insert member with isNew | former
    · exact .inr ⟨relation.belongingColumn, isNew⟩
    · exact .inl former
  · rcases Table.mem_values_of_insert member with isNew | former
    · exact .inr ⟨some kept.name, isNew⟩
    · exact .inl former

/-- Resolving a relation reads its line, finds its column and puts both onto its entity. -/
theorem addRelation_eq_ok_iff
    {context next : Context}
    {placeholder : Placeholder} :
    addRelation context placeholder = .ok next ↔
      ∃ line relation column entity changed,
        placeholder.line = some line ∧
          relationOf context placeholder.name line placeholder.owner = .ok relation ∧
          belongingColumnOf context placeholder.name placeholder.owner relation = .ok column ∧
          context.entities.get? placeholder.model = some entity ∧
          attach entity placeholder.model placeholder.name relation column = .ok changed ∧
          next = { context with
            entities := context.entities.insert placeholder.model changed } := by
  cases given : placeholder.line with
  | none =>
      simp [addRelation, given, Document.refuse]
  | some line =>
      simp only [addRelation, given, bind_eq_ok_iff]
      constructor
      · rintro ⟨relation, read, column, hasColumn, stored⟩
        cases found : context.entities.get? placeholder.model with
        | none =>
            simp [found] at stored
        | some entity =>
            simp only [found, bind_eq_ok_iff, pure_eq_ok_iff] at stored
            obtain ⟨changed, attached, rfl⟩ := stored
            exact ⟨line, relation, column, entity, changed, rfl, read, hasColumn, rfl, attached,
              rfl⟩
      · rintro ⟨_, relation, column, entity, changed, sameLine, read, hasColumn, found, attached,
          rfl⟩
        cases sameLine
        refine ⟨relation, read, column, hasColumn, ?_⟩
        simp only [found, bind_eq_ok_iff, pure_eq_ok_iff]
        exact ⟨changed, attached, rfl⟩

theorem outline_of_addRelation
    {context next : Context}
    {placeholder : Placeholder}
    (added : addRelation context placeholder = .ok next) :
    next.outline = context.outline := by
  obtain ⟨_, _, _, entity, changed, _, _, _, found, attached, rfl⟩ :=
    addRelation_eq_ok_iff.mp added
  exact Table.map_insert_of_get? found (bare_of_attach attached)

end Resolution

end Blueprint
