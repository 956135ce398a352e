import SourceGen.Proofs.Batch.Asking

/-!
# What an unforced batch schedules

The two work sets of an unforced batch, told by the session that it begins with: by the notified
paths that *count* (`Session.counted`) and by what the batch takes each of them to mean
(`Batch.meaning`). Nothing else goes into them, so all that depends on the order of the
notification is which of several paths becomes the source of a direct declaration: the first.
-/

namespace SourceGen

variable {H : Type}

/-- The paths of a notification that an unforced batch looks at: those that name something, do not
wait for their reimport, and are open to automatic generation. -/
def Session.counted (session : Session H) (paths : List String) : List String :=
  (Batch.distinctPaths paths).filter fun path =>
    decide (path ∉ session.engine.suppressed) && session.engine.settings.autoEmit
      && !session.engine.settings.isDisabled path
      && session.world.site.files.pathExists (FilePath.join session.engine.root path)

namespace Batch

/-! ## What a meaning calls for -/

section Meanings

variable {registry : Registry} (indexed : registry.Indexed) {classification : Classification}
  {id : DeclarationId}

include indexed

lemma mem_directlyFor :
    id ∈ directlyFor registry classification ↔
      id ∈ registry.registrations.keys ∧ classification = .direct id.target := by
  constructor
  · intro calls
    refine ⟨registered_of_directlyFor indexed calls, ?_⟩
    cases classification with
    | direct target => rw [((Registry.mem_ids_forTarget indexed).mp calls).2]
    | generated | generatorSource | irrelevant => cases calls
  · rintro ⟨registered, rfl⟩
    exact (Registry.mem_ids_forTarget indexed).mpr ⟨registered, rfl⟩

lemma mem_fanOut {target : TypeName} :
    id ∈ (registry.forTarget target).flatMap (siblings registry target) ↔
      id ∈ registry.registrations.keys ∧ ∃ other ∈ registry.registrations.keys,
        other.target = target ∧ other.generator = id.generator ∧ id.target ≠ target := by
  rw [List.mem_flatMap]
  constructor
  · rintro ⟨registration, listed, sibling⟩
    obtain ⟨registered, generator, other⟩ := (mem_siblings indexed).mp sibling
    obtain ⟨known, target⟩ := (Registry.mem_ids_forTarget indexed).mp
      (List.mem_map.mpr ⟨registration, listed, rfl⟩)
    exact ⟨registered, registration.id, known, target, generator.symm, other⟩
  · rintro ⟨registered, other, known, target, generator, apart⟩
    obtain ⟨registration, listed, rfl⟩ := List.mem_map.mp
      ((Registry.mem_ids_forTarget indexed).mpr ⟨known, target⟩)
    exact ⟨registration, listed, (mem_siblings indexed).mpr ⟨registered, generator.symm, apart⟩⟩

/-- In an unforced batch, a path calls for a declaration besides as a fresh source of a target that
shares the generator, or as the source of the generator. -/
lemma mem_besidesFor {wasDeferred : Bool} :
    id ∈ besidesFor registry false wasDeferred classification ↔
      id ∈ registry.registrations.keys ∧
        ((wasDeferred = false ∧ ∃ other ∈ registry.registrations.keys,
            classification = .direct other.target ∧ other.generator = id.generator ∧
              id.target ≠ other.target) ∨
          classification = .generatorSource id.generator) := by
  cases classification with
  | direct target =>
    cases wasDeferred with
    | true => simp [besidesFor]
    | false =>
      rw [besidesFor, if_neg Bool.false_ne_true, mem_fanOut indexed]
      refine and_congr_right fun _ => ?_
      constructor
      · rintro ⟨other, known, rfl, shared, apart⟩
        exact .inl ⟨rfl, other, known, rfl, shared, apart⟩
      · rintro (⟨_, other, known, same, shared, apart⟩ | same)
        · obtain rfl : target = other.target := Classification.direct.inj same
          exact ⟨other, known, rfl, shared, apart⟩
        · cases same
  | generatorSource type =>
    rw [besidesFor, Registry.mem_ids_forGenerator indexed]
    simp [eq_comm]
  | generated | irrelevant => simp [besidesFor]

end Meanings

/-! ## The paths that count -/

variable {session : Session H} {paths : List String}

lemma mem_counted {path : String} :
    path ∈ session.counted paths ↔
      path ∈ distinctPaths paths ∧ path ∉ session.engine.suppressed ∧
        session.engine.settings.autoEmit = true ∧ session.engine.settings.isDisabled path = false ∧
        (start session false).pathExists path = true := by
  simp only [Session.counted, List.mem_filter, Bool.and_eq_true, decide_eq_true_eq,
    Bool.not_eq_true', and_assoc]
  rfl

lemma counts_start {path : String} :
    (start session false).counts path = true ↔
      path ∉ session.engine.suppressed ∧ session.engine.settings.autoEmit = true ∧
        session.engine.settings.isDisabled path = false := by
  have passes : (start session false).isPassedOver path
      = (!session.engine.settings.autoEmit || session.engine.settings.isDisabled path) := rfl
  have absorbs : (start session false).absorbs path
      = decide (path ∈ session.engine.suppressed) := rfl
  rw [counts, passes, absorbs]
  simp

/-- The paths that count are the collected ones that name something, in the same order. -/
lemma counted_eq :
    session.counted paths
      = (gathered session paths false).collected.filter (start session false).pathExists := by
  have collected : (gathered session paths false).collected
      = (distinctPaths paths).filter (start session false).counts := by
    rw [gathered_eq]
    rfl
  rw [collected, List.filter_filter, Session.counted]
  refine List.filter_congr fun path listed => ?_
  rw [Bool.eq_iff_iff, Bool.and_eq_true (start session false |>.pathExists path), counts_start]
  simp only [Bool.and_eq_true, decide_eq_true_eq, Bool.not_eq_true', and_assoc]
  exact ⟨fun ⟨fresh, on, enabled, present⟩ => ⟨present, fresh, on, enabled⟩,
    fun ⟨present, fresh, on, enabled⟩ => ⟨fresh, on, enabled, present⟩⟩

/-! ## The work sets -/

variable [Host H]

lemma meaning_run (paths : List String) (forced : Bool) (path : String) :
    (run session paths forced).meaning path = (resolved session paths forced).meaning path := by
  obtain ⟨_, settings, registry, _⟩ := engine_run session paths forced
  have sameForced : (run session paths forced).forced = forced :=
    congrArg Foundation.forced (foundation_run session paths forced)
  rw [meaning, meaning, settings, registry, sameForced, settings_resolved, registry_resolved,
    forced_resolved, Lookups.answer, types_run, ← Lookups.answer]

variable (indexed : session.engine.registry.Indexed) {id : DeclarationId}

include indexed

/-- A collected path calls for a declaration to run directly when it counts and means its target. -/
lemma mem_directly_resolved {path : String} :
    id ∈ (resolved session paths false).directly path ↔
      id ∈ session.engine.registry.registrations.keys ∧
        (start session false).pathExists path = true ∧
        (run session paths false).meaning path = .direct id.target := by
  rw [directly, pathExists_resolved, registry_resolved, meaning_run]
  by_cases present : (start session false).pathExists path = true
  · rw [if_pos present, mem_directlyFor indexed]
    simp [present]
  · simp [present]

lemma mem_besides_resolved {path : String} (counted : path ∈ session.counted paths) :
    id ∈ (resolved session paths false).besides path ↔
      id ∈ session.engine.registry.registrations.keys ∧
        ((path ∉ session.engine.deferred ∧ ∃ other ∈ session.engine.registry.registrations.keys,
            (run session paths false).meaning path = .direct other.target ∧
              other.generator = id.generator ∧ id.target ≠ other.target) ∨
          (run session paths false).meaning path = .generatorSource id.generator) := by
  rw [counted_eq, List.mem_filter] at counted
  have hit : path ∈ (resolved session paths false).deferredHits ↔
      path ∈ session.engine.deferred := by
    rw [deferredHits_resolved, mem_deferredHits_gathered, and_iff_right counted.1]
  rw [besides, pathExists_resolved, if_pos counted.2, registry_resolved, forced_resolved,
    meaning_run, mem_besidesFor indexed, decide_eq_false_iff_not, hit]

/-- The direct declarations are the registered ones with a path that counts and means their target;
the first such path is the source. -/
theorem get?_direct_run {source : String} :
    (run session paths false).direct.get? id = some source ↔
      id ∈ session.engine.registry.registrations.keys ∧
        (session.counted paths).find? (fun path =>
          (run session paths false).meaning path = .direct id.target) = some source := by
  rw [direct_run, get?_direct_resolved]
  by_cases registered : id ∈ session.engine.registry.registrations.keys
  · rw [and_iff_right registered, counted_eq, List.find?_filter]
    refine Eq.congr_left (congrArg (List.find? · _) ?_)
    funext path
    rw [Bool.eq_iff_iff, decide_eq_true_eq, mem_directly_resolved indexed]
    simp [registered]
  · refine iff_of_false (fun found => ?_) fun both => registered both.1
    have calls := List.find?_some found
    rw [decide_eq_true_eq, mem_directly_resolved indexed] at calls
    exact registered calls.1

lemma mem_direct_run :
    id ∈ (run session paths false).direct.keys ↔
      id ∈ session.engine.registry.registrations.keys ∧
        ∃ path ∈ session.counted paths, (run session paths false).meaning path
          = .direct id.target := by
  rw [← OrderedMap.get?_isSome_iff, Option.isSome_iff_exists]
  simp only [get?_direct_run indexed, exists_and_left, ← Option.isSome_iff_exists,
    List.find?_isSome, decide_eq_true_eq]

/-- The cascaded declarations are the registered ones that share their generator with a declaration
of another target, whose source counts and was not put off, and those with a path that counts and
holds their generator. -/
theorem mem_cascaded_run :
    id ∈ (run session paths false).cascaded ↔
      id ∈ session.engine.registry.registrations.keys ∧
        ((∃ path ∈ session.counted paths, path ∉ session.engine.deferred ∧
            ∃ other ∈ session.engine.registry.registrations.keys,
              (run session paths false).meaning path = .direct other.target ∧
                other.generator = id.generator ∧ id.target ≠ other.target) ∨
          ∃ path ∈ session.counted paths,
            (run session paths false).meaning path = .generatorSource id.generator) := by
  rw [cascaded_run, mem_cascaded_resolved]
  constructor
  · rintro ⟨path, collected, calls⟩
    have present : (start session false).pathExists path = true := by
      by_contra absent
      rw [besides, pathExists_resolved, if_neg absent] at calls
      cases calls
    have counted : path ∈ session.counted paths := by
      rw [counted_eq]
      exact List.mem_filter.mpr ⟨collected, present⟩
    obtain ⟨registered, ⟨fresh, fans⟩ | source⟩ := (mem_besides_resolved indexed counted).mp calls
    · exact ⟨registered, .inl ⟨path, counted, fresh, fans⟩⟩
    · exact ⟨registered, .inr ⟨path, counted, source⟩⟩
  · have collected : ∀ path ∈ session.counted paths,
        path ∈ (gathered session paths false).collected := by
      intro path counted
      rw [counted_eq] at counted
      exact List.mem_of_mem_filter counted
    rintro ⟨registered, ⟨path, counted, fresh, fans⟩ | ⟨path, counted, source⟩⟩
    · exact ⟨path, collected path counted,
        (mem_besides_resolved indexed counted).mpr ⟨registered, .inl ⟨fresh, fans⟩⟩⟩
    · exact ⟨path, collected path counted,
        (mem_besides_resolved indexed counted).mpr ⟨registered, .inr source⟩⟩

end Batch

end SourceGen
