import Blueprint.Proofs.EntityNames

namespace Blueprint

/-!
# Directories of bound models

A model that is bound without a variable is bound to one after its class, and the directory that it
stands below in a path is named after its key. The class is the studly form of the last segment of
the key, and making a name studly does not change its camel form: so the directory of such a model
is named like its variable, whatever letters the key has.
-/

open Http Resolution Schema

/-- In a context the directory of a model is named after the class of its entity. So it is named
like the variable of the model, where none is declared. -/
structure Context.NamesDirectories
    (context : Context) :
    Prop where
  entity :
    ∀ key entity,
      context.entities.get? key = some entity →
      ∀ binding : Binding,
        binding.entity = key →
        binding.directoryParameter = Naming.camel entity.className ++ "/" ++ binding.parameter
  bindModel :
    ∀ owner (entry : Document.ModelEntry) binding,
      entry.variableName = none →
      bindModel context owner entry = .ok binding →
      binding.directoryParameter = binding.variableName ++ "/" ++ binding.parameter
  resourceBinding :
    ∀ owner resource binding,
      resourceBinding context owner resource = .ok binding →
      binding.directoryParameter = binding.variableName ++ "/" ++ binding.parameter

/-- Making a name studly does not change its camel form. -/
theorem Naming.camel_studly
    (name : String) :
    camel (studly name) = camel name := by
  simp only [camel, studly, String.toList_ofList, joinCapitalized_idem]

namespace Context.Classified

variable {context : Context}

/-- A class has the camel form of the key that it comes from. -/
theorem camel_className
    (classified : context.Classified)
    {key : String}
    {entity : Entity}
    (found : context.entities.get? key = some entity) :
    Naming.camel entity.className = Naming.camel (Naming.basename key) := by
  rw [classified.className_eq key entity found, classOf, Naming.camel_studly]

theorem namesDirectories
    (classified : context.Classified) :
    context.NamesDirectories where
  entity key entity found binding ofKey := by
    rw [Binding.directoryParameter, ofKey, classified.camel_className found]
  bindModel owner entry binding unnamed bound := by
    obtain ⟨entity, found, rfl, _⟩ := bindModel_eq_ok_iff.mp bound
    have stored := get?_of_entity classified.keyed found
    simp only [Binding.directoryParameter, unnamed, Option.getD_none,
      classified.camel_className stored]
  resourceBinding owner resource binding bound := by
    obtain ⟨key, others, entity, _, found, rfl⟩ := resourceBinding_eq_ok_iff.mp bound
    have stored := get?_of_entity classified.keyed found
    rw [Binding.directoryParameter, classified.camel_className stored]

end Context.Classified

/-- Studly names stay as they are and have the camel form of the names they are made of. So whatever
stages have been run, models stand below directories that are named after their classes. -/
theorem names_stable :
    (∀ name,
      Naming.studly (Naming.studly name) = Naming.studly name ∧
        Naming.camel (Naming.studly name) = Naming.camel name) ∧
      ∀ document stages, (Context.afterRuns document stages).NamesDirectories :=
  ⟨fun name => ⟨Naming.studly_idem name, Naming.camel_studly name⟩,
    fun document stages => (reached_afterRuns document stages).classified.namesDirectories⟩

/-- A document with one model. The capital form of the first letter of its name is two capital
letters, so that the class has a word more than the name. -/
def betaDocument : Document :=
  let model := { Document.Model.blank with columns := some (.ofList [("id", .line "id")]) }
  let models : Table Document.Model := .ofList [("Shop\\ßeta", model)]
  { Document.blank with database := { Document.Database.blank with models := models } }

theorem names_stable_betaDocument :
    ∃ entity,
      (Context.afterRuns betaDocument [.entities]).entities.get? "Shop\\ßeta" = some entity ∧
        entity.className = "SSeta" ∧
        Naming.studly "SSeta" = "SSeta" ∧
        (Binding.mk "Shop\\ßeta" "sSeta" none).directoryParameter = "sSeta/\x7bsSeta\x7d" := by
  obtain ⟨stable, directories⟩ := names_stable
  have present :
      ((Context.afterRuns betaDocument [.entities]).entities.get? "Shop\\ßeta").isSome = true := by
    decide +kernel
  obtain ⟨entity, found⟩ := Option.isSome_iff_exists.mp present
  have ofClass :
      ((Context.afterRuns betaDocument [.entities]).entities.get? "Shop\\ßeta").map
        Entity.className = some "SSeta" := by
    decide +kernel
  rw [found, Option.map_some, Option.some.injEq] at ofClass
  have isStudly : Naming.studly "ßeta" = "SSeta" := by decide +kernel
  have named := (directories betaDocument [.entities]).entity _ entity found
    (Binding.mk "Shop\\ßeta" "sSeta" none) rfl
  refine ⟨entity, found, ofClass, isStudly ▸ (stable "ßeta").1, ?_⟩
  rw [named, ofClass]
  decide +kernel

end Blueprint
