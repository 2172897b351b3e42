import Blueprint.Proofs.Steps
import Blueprint.Proofs.Table
import Blueprint.Resolution.Controllers

namespace Blueprint

/-!
# Looking up entities

A name leads to an entity by its key or by its class. What such a look-up finds is a key of the
context, and the look-up reads nothing but the outline of the entities: what is left of them
without their columns and relations. Linking entities keeps the outline, so that a name leads to
the same key whether or not the entities are linked yet.
-/

open Schema

/-- The entity without its columns and relations. -/
def Schema.Entity.bare
    (entity : Entity) :
    Entity :=
  { entity with
    columns := ∅
    relations := ∅ }

/-- An error with which a look-up by name can end: there is no entity, or there are several. -/
def ResolveError.IsLookup :
    ResolveError →
    Prop
  | .missing kind _ _ => kind = .entity
  | .malformed _ (.ambiguous _ _ _) => True
  | _ => False

namespace Context

/-- The entities without their columns and relations. -/
def outline
    (context : Context) :
    Table Entity :=
  context.entities.map fun _ => Entity.bare

/-- The context with its entities left bare. -/
def bare
    (context : Context) :
    Context :=
  { context with entities := context.outline }

theorem entityKey_congr
    {context other : Context}
    (same : context.entities = other.entities)
    (name owner : String) :
    context.entityKey name owner = other.entityKey name owner := by
  unfold entityKey entitiesOfClass
  rw [same]

theorem entity_congr
    {context other : Context}
    (same : context.entities = other.entities)
    (name owner : String) :
    context.entity name owner = other.entity name owner := by
  unfold Context.entity
  rw [entityKey_congr same, same]

/-- A name leads to a key exactly when it is that key, or is none and the key is that of the only
entity of its class. -/
theorem entityKey_eq_ok_iff
    {context : Context}
    {name owner key : String} :
    context.entityKey name owner = .ok key ↔
      (name ∈ context.entities.keys ∧ name = key) ∨
        (name ∉ context.entities.keys ∧
          ∃ entity, context.entitiesOfClass (classOf name) = [entity] ∧ entity.key = key) := by
  by_cases present : name ∈ context.entities.keys
  · simp [entityKey, Table.contains_iff, present]
  · simp only [entityKey, Table.contains_iff, present, ↓reduceIte, false_and, not_false_eq_true,
      true_and, false_or]
    cases candidates : context.entitiesOfClass (classOf name) with
    | nil =>
        simp
    | cons first others =>
        cases others with
        | nil =>
            simp
        | cons second rest =>
            simp

theorem mem_keys_of_entityKey
    {context : Context}
    {name owner key : String}
    (keyed : context.entities.Keyed Entity.key)
    (found : context.entityKey name owner = .ok key) :
    key ∈ context.entities.keys := by
  rcases entityKey_eq_ok_iff.mp found with ⟨present, isKey⟩ | ⟨_, entity, only, hasKey⟩
  · exact isKey ▸ present
  · have ofClass : entity ∈ context.entitiesOfClass (classOf name) := by
      rw [only]
      simp
    have member : entity ∈ context.entities.values := (List.mem_filter.mp ofClass).1
    rw [Table.mem_keys_iff]
    exact ⟨entity, hasKey ▸ keyed.get?_of_mem_values member⟩

theorem entity_eq_ok_iff
    {context : Context}
    {name owner : String}
    {entity : Entity} :
    context.entity name owner = .ok entity ↔
      ∃ key, context.entityKey name owner = .ok key ∧ context.entities.get? key = some entity := by
  cases found : context.entityKey name owner with
  | error cause =>
      simp [Context.entity, found]
  | ok key =>
      cases stored : context.entities.get? key with
      | none =>
          simp [Context.entity, found, stored]
      | some other =>
          simp [Context.entity, found, stored]

theorem isLookup_of_entityKey_error
    {context : Context}
    {name owner : String}
    {cause : ResolveError}
    (failed : context.entityKey name owner = .error cause) :
    cause.IsLookup := by
  unfold entityKey at failed
  split at failed
  · cases failed
  · split at failed <;> cases failed
    · rfl
    · trivial

theorem isLookup_of_entity_error
    {context : Context}
    {name owner : String}
    {cause : ResolveError}
    (failed : context.entity name owner = .error cause) :
    cause.IsLookup := by
  unfold entity at failed
  split at failed
  · next unknown =>
    cases failed
    exact isLookup_of_entityKey_error unknown
  · split at failed <;> cases failed
    rfl

/-- A key leads to the entity that stands under it. -/
theorem entity_of_get?
    {context : Context}
    {key owner : String}
    {entity : Entity}
    (found : context.entities.get? key = some entity) :
    context.entity key owner = .ok entity := by
  have present : key ∈ context.entities.keys := Table.mem_keys_iff.mpr ⟨entity, found⟩
  exact entity_eq_ok_iff.mpr ⟨key, entityKey_eq_ok_iff.mpr (.inl ⟨present, rfl⟩), found⟩

theorem get?_of_entity
    {context : Context}
    {name owner : String}
    {entity : Entity}
    (keyed : context.entities.Keyed Entity.key)
    (found : context.entity name owner = .ok entity) :
    context.entities.get? entity.key = some entity := by
  obtain ⟨key, _, stored⟩ := entity_eq_ok_iff.mp found
  rw [keyed key entity stored]
  exact stored

theorem entitiesOfClass_bare
    (context : Context)
    (className : String) :
    context.bare.entitiesOfClass className =
      (context.entitiesOfClass className).map Entity.bare := by
  simp only [entitiesOfClass, bare, outline, Table.values_map, List.filter_map]
  rfl

theorem entityKey_bare
    (context : Context)
    (name owner : String) :
    context.bare.entityKey name owner = context.entityKey name owner := by
  have sameNames : context.bare.entities.contains name = context.entities.contains name := by
    rw [Bool.eq_iff_iff, Table.contains_iff, Table.contains_iff]
    simp [bare, outline]
  simp only [entityKey, sameNames, entitiesOfClass_bare]
  cases context.entitiesOfClass (classOf name) with
  | nil =>
      rfl
  | cons first others =>
      cases others with
      | nil =>
          rfl
      | cons second rest =>
          rfl

/-- The entity that a name leads to is told by the outline, up to its columns and relations. -/
theorem entity_bare
    (context : Context)
    (name owner : String) :
    context.bare.entity name owner = (context.entity name owner).map Entity.bare := by
  simp only [Context.entity, entityKey_bare]
  cases context.entityKey name owner with
  | error cause =>
      rfl
  | ok key =>
      simp only [bare, outline, Table.get?_map]
      cases context.entities.get? key with
      | none =>
          rfl
      | some entity =>
          rfl

/-- Names lead to the same keys in contexts with the same outline. -/
theorem entityKey_of_outline_eq
    {context other : Context}
    (same : context.outline = other.outline) :
    context.entityKey = other.entityKey := by
  funext name owner
  rw [← context.entityKey_bare, ← other.entityKey_bare]
  exact entityKey_congr same name owner

/-- Where there is an entity there is an outline. -/
theorem outline_ne_empty
    {context : Context}
    {key : String}
    {entity : Entity}
    (found : context.entities.get? key = some entity) :
    context.outline ≠ ∅ := by
  intro isEmpty
  have present : key ∈ context.outline.keys := by
    rw [outline, Table.keys_map, Table.mem_keys_iff]
    exact ⟨entity, found⟩
  simp [isEmpty] at present

/-- Under a key stands the same entity, up to columns and relations, in contexts with the same
outline. -/
theorem exists_get?_of_outline_eq
    {context other : Context}
    (same : context.outline = other.outline)
    {key : String}
    {entity : Entity}
    (found : context.entities.get? key = some entity) :
    ∃ another, other.entities.get? key = some another ∧ another.bare = entity.bare := by
  have sameBare := congrArg (Table.get? · key) same
  simp only [outline, Table.get?_map, found, Option.map_some] at sameBare
  exact Option.map_eq_some_iff.mp sameBare.symm

/-- Names lead to the same entities, up to columns and relations, in contexts with the same
outline. -/
theorem map_entity_eq_of_outline
    {context other : Context}
    (same : context.outline = other.outline)
    (name owner : String) :
    (context.entity name owner).map Entity.bare = (other.entity name owner).map Entity.bare := by
  rw [← entity_bare, ← entity_bare]
  exact entity_congr same name owner

end Context

namespace Resolution

/-! Bindings of what is looked up. -/

open Http

variable {context : Context}

/-- A token binds the entity that its name leads to, by a column that was checked to be there. -/
theorem bindModel_eq_ok_iff
    {owner : String}
    {entry : Document.ModelEntry}
    {binding : Binding} :
    bindModel context owner entry = .ok binding ↔
      ∃ entity,
        context.entity (splitToken entry.token).1 owner = .ok entity ∧
          ⟨entity.key, entry.variableName.getD (Naming.camel entity.className),
            (splitToken entry.token).2.or entity.routeBinding⟩ = binding ∧
          ∀ column ∈ binding.column, column ∈ entity.columns.keys := by
  unfold bindModel
  cases found : context.entity (splitToken entry.token).1 owner with
  | error cause =>
      simp [found]
  | ok entity =>
      simp only [found, Except.ok.injEq, exists_eq_left']
      cases isColumn : (splitToken entry.token).2.or entity.routeBinding with
      | none =>
          simp only [Except.ok.injEq, iff_self_and]
          rintro rfl
          simp
      | some column =>
          simp only [Table.contains_iff]
          split
          · next present =>
            simp only [Except.ok.injEq, iff_self_and]
            rintro rfl
            simpa using present
          · next absent =>
            simp only [reduceCtorEq, false_iff, not_and]
            rintro rfl
            simpa using absent

/-- A resource binds its first entity by the column that the entity itself is bound by. -/
theorem resourceBinding_eq_ok_iff
    {owner : String}
    {resource : Resource}
    {binding : Binding} :
    resourceBinding context owner resource = .ok binding ↔
      ∃ key others entity,
        resource.entities = key :: others ∧
          context.entity key owner = .ok entity ∧
          ⟨entity.key, Naming.camel entity.className, entity.routeBinding⟩ = binding := by
  cases isFirst : resource.entities with
  | nil =>
      simp [resourceBinding, isFirst, Document.refuse]
  | cons key others =>
      simp [resourceBinding, isFirst, map_eq_ok_iff]

end Resolution

end Blueprint
