import SourceGen.Proofs.Project.Following

/-!
# Which types a notification hits

When the short names of the registered types differ (`Registry.NamesApart`), the stem of a file says
which type it is a source for, so the two work sets of an unforced batch can be told from the
collected paths without the host: the direct declarations are those of the targets that a collected
path is a source for (`mem_direct_iff`), and a collected path that was not put off fans out to the
declarations that share a generator with its target, or use the generator that it is a source for
(`mem_cascaded_of_shared`, `mem_cascaded_of_generator`).
-/

namespace SourceGen

/-- Registered types of one short name are the same. -/
def Registry.NamesApart (registry : Registry) : Prop :=
  ∀ type ∈ registry.targets ++ registry.generators, ∀ other ∈ registry.targets
    ++ registry.generators,
    type.shortName = other.shortName → type = other

instance (registry : Registry) : Decidable registry.NamesApart :=
  inferInstanceAs (Decidable (∀ type ∈ _, ∀ other ∈ _, _ → _))

namespace Session

variable {H : Type}

/-- A project path is a source for a type: it is there, the filters of automatic generation take it
for a source, its name is not that of a generated file, and it has the short name of the type for a
stem. -/
structure IsSourceFor (session : Session H) (type : TypeName) (path : String) : Prop where
  present : session.world.site.files.pathExists (FilePath.join session.engine.root path) = true
  candidate : session.engine.settings.isSourceCandidate path = true
  authored : isGeneratedFileName (SourcePath.fileName path) = false
  stem : SourcePath.fileStem path = type.shortName

lemma IsSourceFor.pathExists {session : Session H} {type : TypeName} {path : String}
    (source : session.IsSourceFor type path) {forced : Bool} :
    (Batch.start session forced).pathExists path = true :=
  source.present

/-- A notification hits a type: one of the notified paths, normalized, is a source for it, and
automatic generation is on and not disabled for that path. -/
def Hits (session : Session H) (paths : List String) (type : TypeName) : Prop :=
  ∃ path, (∃ notified ∈ paths, SourcePath.normalize notified = path) ∧
    session.engine.settings.autoEmit = true ∧ session.engine.settings.isDisabled path = false ∧
      session.IsSourceFor type path

end Session

namespace Registry

variable {registry : Registry}

lemma NamesApart.get?_types (apart : registry.NamesApart) (root : String) {type : TypeName}
    (registered : type ∈ registry.targets ++ registry.generators) :
    (DirectoryHost.ofRegistry root registry).types.get? type.shortName = some type := by
  rw [DirectoryHost.get?_types]
  have known : ((registry.targets ++ registry.generators).find?
      (·.shortName = type.shortName)).isSome :=
    List.find?_isSome.mpr ⟨type, registered, decide_eq_true rfl⟩
  obtain ⟨other, found⟩ := Option.isSome_iff_exists.mp known
  have same := List.find?_some found
  rw [found, apart other (List.mem_of_find?_eq_some found) type registered (of_decide_eq_true same)]

lemma mem_targets (indexed : registry.Indexed) {id : DeclarationId}
    (registered : id ∈ registry.registrations.keys) : id.target ∈ registry.targets
      ++ registry.generators :=
  List.mem_append_left _
    (OrderedMap.contains_iff.mp ((isTarget_iff indexed).mpr ⟨id, registered, rfl⟩))

lemma mem_generators (indexed : registry.Indexed) {id : DeclarationId}
    (registered : id ∈ registry.registrations.keys) :
    id.generator ∈ registry.targets ++ registry.generators :=
  List.mem_append_right _
    (OrderedMap.contains_iff.mp ((isGenerator_iff indexed).mpr ⟨id, registered, rfl⟩))

end Registry

namespace Batch

/-- In an unforced batch, the name of a generated file and a name that the host does not know call
for nothing. -/
lemma idle_ofAnswer {registry : Registry} {settings : Settings} {path : String}
    {answer : Option TypeName}
    (idle : isGeneratedFileName (SourcePath.fileName path) = true ∨
      settings.isSourceCandidate path = false ∨ answer = none) (wasDeferred : Bool) :
    directlyFor registry (.ofAnswer registry settings false path answer) = [] ∧
      besidesFor registry false wasDeferred (.ofAnswer registry settings false path answer)
        = [] := by
  unfold Classification.ofAnswer
  dsimp only
  split
  · unfold Classification.ofGeneratedFile
    split <;> exact ⟨rfl, rfl⟩
  next authored =>
  split
  · exact ⟨rfl, rfl⟩
  next candidate =>
  obtain rfl : answer = none := (idle.resolve_left authored).resolve_left (by simpa using candidate)
  exact ⟨rfl, rfl⟩

/-- Only a source that the host knows a target for calls for a declaration to run directly. -/
lemma named_of_directlyFor {registry : Registry} {settings : Settings} {path : String}
    {answer : Option TypeName} {id : DeclarationId}
    (calls : id ∈ directlyFor registry (.ofAnswer registry settings false path answer)) :
    isGeneratedFileName (SourcePath.fileName path) = false ∧
    settings.isSourceCandidate path = true ∧
      ∃ target, answer = some target ∧ id ∈ (registry.forTarget target).map Registration.id := by
  have busy : ¬ (isGeneratedFileName (SourcePath.fileName path) = true ∨
      settings.isSourceCandidate path = false ∨ answer = none) := fun idle => by
    rw [(idle_ofAnswer idle false).1] at calls
    cases calls
  obtain ⟨authored, candidate, known⟩ := by
    simpa only [not_or, Bool.not_eq_true, Bool.not_eq_false] using busy
  refine ⟨authored, candidate, ?_⟩
  obtain ⟨type, rfl⟩ := Option.ne_none_iff_exists'.mp known
  rw [Classification.ofAnswer, if_neg (by simp [authored]), if_neg (by simp [candidate]),
    Classification.ofType] at calls
  split at calls
  · exact ⟨type, rfl, calls⟩
  · split at calls <;> cases calls

end Batch

namespace Session

open Batch

variable {session : Session DirectoryHost} {paths : List String}

/-- An unforced batch collects the notified paths that do not wait, if automatic generation is on
and not disabled for them. -/
lemma mem_collected_iff {path : String} :
    path ∈ (gathered session paths false).collected ↔
      path ∈ distinctPaths paths ∧ path ∉ session.engine.suppressed ∧
        session.engine.settings.autoEmit = true ∧ session.engine.settings.isDisabled path
          = false := by
  have counted : (start session false).counts path = true ↔ path ∉ session.engine.suppressed ∧
      session.engine.settings.autoEmit = true ∧ session.engine.settings.isDisabled path
        = false := by
    change (!(!false && decide (path ∈ session.engine.suppressed)) && !(!false &&
      (!session.engine.settings.autoEmit || session.engine.settings.isDisabled path))) = true ↔ _
    simp
  rw [mem_collected_gathered, counted]

/-- A collected path that is a source for a registered type means that type. -/
lemma Attached.meaning_of_source (attached : session.Attached)
    (apart : session.engine.registry.NamesApart) {type : TypeName} {path : String}
    (registered : type ∈ session.engine.registry.targets ++ session.engine.registry.generators)
    (collected : path ∈ (gathered session paths false).collected)
    (source : session.IsSourceFor type path) :
    (resolved session paths false).meaning path = .ofType session.engine.registry (some type) := by
  rw [meaning_of_stem collected source.present, attached.types, source.stem,
    apart.get?_types _ registered, Classification.ofAnswer]
  simp [source.authored, source.candidate]

/-- A collected path calls for the declarations of the target that it is a source for to run
directly. -/
lemma Attached.mem_directly_iff (attached : session.Attached)
    (apart : session.engine.registry.NamesApart) {id : DeclarationId}
    (registered : id ∈ session.engine.registry.registrations.keys) {path : String}
    (collected : path ∈ (gathered session paths false).collected) :
    id ∈ (resolved session paths false).directly path ↔ session.IsSourceFor id.target path := by
  have indexed := attached.discovered.indexed
  rw [directly, pathExists_resolved, registry_resolved]
  constructor
  · intro calls
    split at calls
    · next present =>
      rw [meaning_of_stem collected present, attached.types] at calls
      obtain ⟨authored, candidate, target, known, calls⟩ := named_of_directlyFor calls
      rw [((Registry.mem_ids_forTarget indexed).mp calls).2]
      rw [DirectoryHost.get?_types] at known
      have same := List.find?_some known
      exact ⟨present, candidate, authored, (of_decide_eq_true same).symm⟩
    · cases calls
  · intro source
    have isTarget : session.engine.registry.isTarget id.target = true :=
      (Registry.isTarget_iff indexed).mpr ⟨id, registered, rfl⟩
    rw [if_pos source.pathExists,
      attached.meaning_of_source apart (Registry.mem_targets indexed registered) collected source,
      Classification.ofType, if_pos isTarget]
    exact (Registry.mem_ids_forTarget indexed).mpr ⟨registered, rfl⟩

/-- The direct declarations are those of the targets that a collected path is a source for. -/
theorem Attached.mem_direct_iff (attached : session.Attached)
    (apart : session.engine.registry.NamesApart) {id : DeclarationId}
    (registered : id ∈ session.engine.registry.registrations.keys) :
    id ∈ (resolved session paths false).direct.keys ↔
      ∃ path ∈ (gathered session paths false).collected, session.IsSourceFor id.target path := by
  rw [mem_direct_resolved]
  exact exists_congr fun path => and_congr_right fun collected =>
    attached.mem_directly_iff apart registered collected

/-- The source that a direct declaration runs for is collected, and one for its target. -/
lemma Attached.isSourceFor_of_direct (attached : session.Attached)
    (apart : session.engine.registry.NamesApart) {id : DeclarationId}
    (registered : id ∈ session.engine.registry.registrations.keys) {source : String}
    (scheduled : (resolved session paths false).direct.get? id = some source) :
    source ∈ (gathered session paths false).collected ∧ session.IsSourceFor id.target source := by
  have collected := collected_of_direct session paths false scheduled
  refine ⟨collected, (attached.mem_directly_iff apart registered collected).mp ?_⟩
  rw [get?_direct_resolved] at scheduled
  have calls := List.find?_some scheduled
  exact of_decide_eq_true calls

/-- A source that was not put off fans out to the declarations that share a generator with its
target. -/
theorem Attached.mem_cascaded_of_shared (attached : session.Attached)
    (apart : session.engine.registry.NamesApart) {id other : DeclarationId} {path : String}
    (registered : id ∈ session.engine.registry.registrations.keys)
    (registeredOther : other ∈ session.engine.registry.registrations.keys)
    (shared : id.generator = other.generator) (others : id.target ≠ other.target)
    (collected : path ∈ (gathered session paths false).collected)
    (source : session.IsSourceFor other.target path) (fresh : path ∉ session.engine.deferred) :
    id ∈ (resolved session paths false).cascaded := by
  have indexed := attached.discovered.indexed
  have isTarget : session.engine.registry.isTarget other.target = true :=
    (Registry.isTarget_iff indexed).mpr ⟨other, registeredOther, rfl⟩
  have first : path ∉ (resolved session paths false).deferredHits := by
    rw [deferredHits_resolved, mem_deferredHits_gathered]
    exact fun hit => fresh hit.2
  rw [mem_cascaded_resolved]
  refine ⟨path, collected, ?_⟩
  rw [besides, pathExists_resolved, registry_resolved, if_pos source.pathExists,
    attached.meaning_of_source apart (Registry.mem_targets indexed registeredOther)
      collected source,
    Classification.ofType, if_pos isTarget, besidesFor, if_neg (by simpa using first),
      List.mem_flatMap]
  obtain ⟨registration, listed, rfl⟩ :=
    List.mem_map.mp ((Registry.mem_ids_forTarget indexed).mpr ⟨registeredOther, rfl⟩)
  exact ⟨registration, listed, (mem_siblings indexed).mpr ⟨registered, shared, others⟩⟩

/-- A source of a generator that is no target fans out to the declarations that use the
generator. -/
theorem Attached.mem_cascaded_of_generator (attached : session.Attached)
    (apart : session.engine.registry.NamesApart) {id : DeclarationId} {path : String}
    (registered : id ∈ session.engine.registry.registrations.keys)
    (noTarget : session.engine.registry.isTarget id.generator = false)
    (collected : path ∈ (gathered session paths false).collected)
    (source : session.IsSourceFor id.generator path) :
    id ∈ (resolved session paths false).cascaded := by
  have indexed := attached.discovered.indexed
  have isGenerator : session.engine.registry.isGenerator id.generator = true :=
    (Registry.isGenerator_iff indexed).mpr ⟨id, registered, rfl⟩
  rw [mem_cascaded_resolved]
  refine ⟨path, collected, ?_⟩
  rw [besides, pathExists_resolved, registry_resolved, if_pos source.pathExists,
    attached.meaning_of_source apart (Registry.mem_generators indexed registered) collected source,
    Classification.ofType, if_neg (by simpa using noTarget), if_pos isGenerator]
  exact (Registry.mem_ids_forGenerator indexed).mpr ⟨registered, rfl⟩

end Session

end SourceGen
