import Mathlib.Tactic.Lemma
import SourceGen.Classification

/-!
# Registries that differ in their generators

What a registry is asked before anything runs does not depend on what its generators reply: which
targets and generators there are, which declarations a change concerns, and which generator an
output name belongs to. So a registry may have its generators exchanged (`Registry.answeredBy`),
declaration by declaration, and classifies and schedules as before. A second run of a batch that
differs from the first one in the replies only is a run on such a registry.
-/

namespace SourceGen

/-- The map with every value put through a function. -/
def OrderedMap.mapValues {α β : Type} [DecidableEq α] (map : OrderedMap α β) (f : β → β) :
    OrderedMap α β where
  entries := map.entries.map fun entry => (entry.1, f entry.2)
  nodup := by
    rw [List.map_map]
    exact map.nodup

lemma OrderedMap.get?_mapValues {α β : Type} [DecidableEq α] (map : OrderedMap α β) (f : β → β)
    (key : α) :
    (map.mapValues f).get? key = (map.get? key).map f := by
  simp only [OrderedMap.get?, mapValues, List.find?_map, Option.map_map]
  rfl

/-- The registration with the generator that `generators` has for its declaration. -/
def Registration.answeredBy (generators : DeclarationId → Generator) (registration : Registration) :
    Registration :=
  { registration with generator := generators registration.id }

namespace Registry

/-- The registry with the generators that `generators` has for its declarations. -/
def answeredBy (generators : DeclarationId → Generator) (registry : Registry) : Registry :=
  { registry with
    registrations := registry.registrations.mapValues (Registration.answeredBy generators) }

variable (generators : DeclarationId → Generator) (registry : Registry)

lemma get?_answeredBy (id : DeclarationId) :
    (registry.answeredBy generators).get? id
      = (registry.get? id).map (Registration.answeredBy generators) :=
  OrderedMap.get?_mapValues _ _ id

lemma all_answeredBy :
    (registry.answeredBy generators).all
      = registry.all.map (Registration.answeredBy generators) := by
  simp [all, answeredBy, OrderedMap.values, OrderedMap.mapValues]

lemma ofIds_answeredBy (ids : Option (List DeclarationId)) :
    (registry.answeredBy generators).ofIds ids
      = (registry.ofIds ids).map (Registration.answeredBy generators) := by
  rw [ofIds, ofIds, List.map_filterMap]
  exact congrArg (List.filterMap · (ids.getD [])) (funext (get?_answeredBy generators registry))

lemma forTarget_answeredBy (target : TypeName) :
    (registry.answeredBy generators).forTarget target
      = (registry.forTarget target).map (Registration.answeredBy generators) :=
  ofIds_answeredBy generators registry _

lemma forGenerator_answeredBy (generator : TypeName) :
    (registry.answeredBy generators).forGenerator generator
      = (registry.forGenerator generator).map (Registration.answeredBy generators) :=
  ofIds_answeredBy generators registry _

lemma generatorOfFile?_answeredBy (fileName : String) :
    (registry.answeredBy generators).generatorOfFile? fileName
      = registry.generatorOfFile? fileName := by
  rw [generatorOfFile?, generatorOfFile?, all_answeredBy, List.find?_map]
  have same : (fun other : Registration => decide (other.outputName.fileName = fileName))
      ∘ Registration.answeredBy generators
        = fun other => decide (other.outputName.fileName = fileName) := rfl
  rw [same]
  cases registry.all.find? fun other => decide (other.outputName.fileName = fileName) <;> rfl

end Registry

/-- A path means the same whatever the generators reply. -/
lemma Classification.ofPath_answeredBy {H : Type} [Host H] (generators : DeclarationId → Generator)
    (registry : Registry) (settings : Settings) (forced : Bool) (files : FileSystem) (path : String)
    (lookups : Lookups) (host : H) :
    ofPath (registry.answeredBy generators) settings forced files path lookups host
      = ofPath registry settings forced files path lookups host := by
  have types : ofType (registry.answeredBy generators) = ofType registry := by
    funext type
    cases type <;> rfl
  rw [ofPath, ofPath, ofGeneratedFile, Registry.generatorOfFile?_answeredBy, types]
  rfl

end SourceGen
