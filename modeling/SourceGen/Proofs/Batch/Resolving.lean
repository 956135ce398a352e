import Mathlib.Tactic.ByContra
import SourceGen.Proofs.Batch.Collecting

/-!
# What resolving does

Resolving asks the host about one collected path after the other, and the host may change with every
question. What it answered stays on record, though, and no path is asked twice; so what a path
means can be read off the record at the end (`meaning`), and with it what the path calls for: the
declarations to run for it directly (`directly`), and those to run besides (`besides`). The two
work sets are then lists computed from the collected paths alone (`resolved_spec`).
-/

namespace SourceGen

/-- What a path means when the host has answered for it. -/
def Classification.ofAnswer (registry : Registry) (settings : Settings) (forced : Bool)
    (path : String) (answer : Option TypeName) : Classification :=
  let name := SourcePath.fileName path
  if isGeneratedFileName name then ofGeneratedFile registry name
  else if !forced && !settings.isSourceCandidate path then .irrelevant
  else ofType registry answer

namespace Lookups

/-- The answer on record for a path. -/
def answer (lookups : Lookups) (path : String) : Option TypeName :=
  (lookups.types.get? path).getD none

variable {H : Type} [Host H]

lemma typeOfPath_answer (lookups : Lookups) (host : H) (files : FileSystem) (path : String) :
    (lookups.typeOfPath host files path).1
      = (lookups.typeOfPath host files path).2.1.answer path := by
  unfold typeOfPath answer
  split
  · next answer known => simp [known]
  · simp

lemma types_typeOfPath_of_ne (lookups : Lookups) (host : H) (files : FileSystem)
    {path other : String} (ne : other ≠ path) :
    (lookups.typeOfPath host files path).2.1.types.get? other = lookups.types.get? other := by
  unfold typeOfPath
  split
  · rfl
  · exact OrderedMap.get?_insert_of_ne ne _ _

lemma paths_typeOfPath (lookups : Lookups) (host : H) (files : FileSystem) (path : String) :
    (lookups.typeOfPath host files path).2.1.paths = lookups.paths := by
  unfold typeOfPath
  split <;> rfl

end Lookups

namespace Classification

variable {H : Type} [Host H] (registry : Registry) (settings : Settings) (forced : Bool)
  (files : FileSystem) (lookups : Lookups) (host : H)

/-- A path is classified by the answer that is then on record. -/
lemma ofPath_eq_ofAnswer (path : String) :
    (ofPath registry settings forced files path lookups host).1
      = ofAnswer registry settings forced path
          ((ofPath registry settings forced files path lookups host).2.1.answer path) := by
  unfold ofPath ofAnswer
  dsimp only
  split
  · rfl
  · split
    · rfl
    · exact congrArg (ofType registry) (lookups.typeOfPath_answer host files path)

lemma types_ofPath_of_ne {path other : String} (ne : other ≠ path) :
    (ofPath registry settings forced files path lookups host).2.1.types.get? other
      = lookups.types.get? other := by
  unfold ofPath
  dsimp only
  split
  · rfl
  · split
    · rfl
    · exact lookups.types_typeOfPath_of_ne host files ne

lemma paths_ofPath (path : String) :
    (ofPath registry settings forced files path lookups host).2.1.paths = lookups.paths := by
  unfold ofPath
  dsimp only
  split
  · rfl
  · split
    · rfl
    · exact lookups.paths_typeOfPath host files path

end Classification

namespace Batch

variable {H : Type}

/-! ## What a path calls for -/

/-- What the batch takes a path to mean, by the answers on record. -/
def meaning (batch : Batch H) (path : String) : Classification :=
  .ofAnswer batch.engine.registry batch.engine.settings batch.forced path
    (batch.lookups.answer path)

/-- The declarations that a meaning calls to run directly. -/
def directlyFor (registry : Registry) : Classification → List DeclarationId
  | .direct target => (registry.forTarget target).map Registration.id
  | _ => []

/-- The declarations that a meaning calls to run besides. The source of a target fans out to the
other targets of its generators unless the path was put off, and a generated file counts when
forced. -/
def besidesFor (registry : Registry) (forced wasDeferred : Bool) :
    Classification → List DeclarationId
  | .direct target =>
    if wasDeferred then [] else (registry.forTarget target).flatMap (siblings registry target)
  | .generated generator =>
    if forced then (registry.forGenerator generator).map Registration.id else []
  | .generatorSource type => (registry.forGenerator type).map Registration.id
  | .irrelevant => []

/-- The source of a target calls for nothing besides when it was put off, unless the batch is
forced. -/
lemma besidesFor_of_isTarget {registry : Registry} {settings : Settings} {path : String}
    {target : TypeName} (registered : registry.isTarget target = true) :
    besidesFor registry false true (.ofAnswer registry settings false path (some target)) = [] := by
  unfold Classification.ofAnswer
  dsimp only
  split
  · unfold Classification.ofGeneratedFile
    split <;> rfl
  · split
    · rfl
    · rw [Classification.ofType, if_pos registered]
      rfl

/-- The declarations to run directly for a path. -/
def directly (batch : Batch H) (path : String) : List DeclarationId :=
  if batch.pathExists path then directlyFor batch.engine.registry (batch.meaning path) else []

/-- The declarations to run besides for a path. -/
def besides (batch : Batch H) (path : String) : List DeclarationId :=
  if batch.pathExists path then
    besidesFor batch.engine.registry batch.forced (path ∈ batch.deferredHits) (batch.meaning path)
  else []

/-- What a path means depends on what stands since collecting, and on the answer for it. -/
lemma meaning_congr {batch other : Batch H} {path : String}
    (same : batch.gathering = other.gathering)
    (answer : batch.lookups.types.get? path = other.lookups.types.get? path) :
    batch.meaning path = other.meaning path := by
  have engine : batch.engine = other.engine := congrArg Gathering.engine same
  have forced : batch.forced = other.forced := congrArg Gathering.forced same
  rw [meaning, meaning, engine, forced, Lookups.answer, Lookups.answer, answer]

lemma work_congr {batch other : Batch H} {path : String} (same : batch.gathering = other.gathering)
    (answer : batch.lookups.types.get? path = other.lookups.types.get? path) :
    batch.directly path = other.directly path ∧ batch.besides path = other.besides path := by
  have engine : batch.engine = other.engine := congrArg Gathering.engine same
  have forced : batch.forced = other.forced := congrArg Gathering.forced same
  have hits : batch.deferredHits = other.deferredHits := congrArg Gathering.deferredHits same
  have files : batch.files = other.files := congrArg (fun g => g.site.files) same
  have exist : batch.pathExists path = other.pathExists path := by
    rw [pathExists, pathExists, engine, files]
  constructor
  · rw [directly, directly, exist, meaning_congr same answer, engine]
  · rw [besides, besides, exist, meaning_congr same answer, engine, forced]
    simp only [hits]

/-! ## Scheduling -/

lemma foldl_scheduleDirect (target : TypeName) (path : String) (fanOut : Bool)
    (registrations : List Registration) (batch : Batch H) :
    let after := registrations.foldl (scheduleDirect target path fanOut) batch
    after.direct
        = batch.direct.insertNewAll
          (registrations.map fun registration => (registration.id, path)) ∧
      after.cascaded = batch.cascaded.insertAll
        (if fanOut then registrations.flatMap (siblings batch.engine.registry target) else []) := by
  induction registrations generalizing batch with
  | nil => cases fanOut <;> exact ⟨rfl, rfl⟩
  | cons registration rest ih =>
    obtain ⟨direct, cascaded⟩ := ih (batch.scheduleDirect target path fanOut registration)
    have registry : (batch.scheduleDirect target path fanOut registration).engine.registry
        = batch.engine.registry :=
      congrArg (fun g => g.engine.registry)
        (gathering_scheduleDirect target path fanOut registration batch)
    refine ⟨?_, ?_⟩
    · rw [List.foldl_cons, direct]
      cases fanOut <;> rfl
    · rw [List.foldl_cons, cascaded, registry]
      cases fanOut with
      | false => rfl
      | true => exact (OrderedSet.insertAll_append _ _ _).symm

lemma lookups_schedule (path : String) (classification : Classification) :
    Keeps (fun batch : Batch H => (batch.lookups, batch.host)) fun batch =>
      batch.schedule path classification := by
  intro batch
  cases classification with
  | direct target =>
    have entry : ∀ fanOut registration, Keeps (fun batch : Batch H => (batch.lookups, batch.host))
        fun batch => batch.scheduleDirect target path fanOut registration :=
      fun fanOut _ _ => by cases fanOut <;> rfl
    exact Keeps.foldl (entry _) _ batch
  | generated generator =>
    simp only [schedule]
    split <;> rfl
  | generatorSource type => rfl
  | irrelevant =>
    simp only [schedule]
    split <;> rfl

lemma schedule_spec (path : String) (batch : Batch H) (classification : Classification) :
    (batch.schedule path classification).direct = batch.direct.insertNewAll
        ((directlyFor batch.engine.registry classification).map fun id => (id, path)) ∧
      (batch.schedule path classification).cascaded = batch.cascaded.insertAll
        (besidesFor batch.engine.registry batch.forced (path ∈ batch.deferredHits)
          classification) := by
  cases classification with
  | direct target =>
    obtain ⟨direct, cascaded⟩ := foldl_scheduleDirect target path (path ∉ batch.deferredHits)
      (batch.engine.registry.forTarget target) batch
    refine ⟨?_, ?_⟩
    · rw [schedule, direct, directlyFor, List.map_map]
      rfl
    · rw [schedule, cascaded, besidesFor]
      by_cases hit : path ∈ batch.deferredHits <;> simp [hit]
  | generated generator =>
    cases forced : batch.forced with
    | true =>
      simp only [schedule, besidesFor, forced, if_true]
      exact ⟨rfl, rfl⟩
    | false =>
      simp only [schedule, besidesFor, forced, Bool.false_eq_true, if_false]
      exact ⟨rfl, rfl⟩
  | generatorSource type => exact ⟨rfl, rfl⟩
  | irrelevant =>
    simp only [schedule]
    split <;> exact ⟨rfl, rfl⟩

/-! ## Resolving -/

variable [Host H]

/-- What a path means, as things stand, with what is on record and the host after the question. -/
def classify (batch : Batch H) (path : String) : Classification × Lookups × H :=
  Classification.ofPath batch.engine.registry batch.engine.settings batch.forced batch.files path
    batch.lookups batch.host

omit [Host H] in
/-- The batch with an answer of the host on record. -/
def informed (batch : Batch H) (lookups : Lookups) (host : H) : Batch H :=
  { batch with lookups }.setHost host

lemma resolvePath_of_present {batch : Batch H} {path : String}
    (present : batch.pathExists path = true) :
    batch.resolvePath path
      = (batch.informed (batch.classify path).2.1 (batch.classify path).2.2).schedule path
          (batch.classify path).1 := by
  rw [resolvePath, if_pos present, ← classify]
  generalize batch.classify path = answer
  rfl

/-- A path that names something leaves on record, and of the host, what its classification
leaves. -/
lemma answers_resolvePath {batch : Batch H} {path : String}
    (present : batch.pathExists path = true) :
    ((batch.resolvePath path).lookups, (batch.resolvePath path).host)
      = (batch.classify path).2 := by
  rw [resolvePath_of_present present]
  generalize batch.classify path = answer
  exact lookups_schedule path answer.1 (batch.informed answer.2.1 answer.2.2)

lemma lookups_resolvePath {batch : Batch H} {path : String}
    (present : batch.pathExists path = true) :
    (batch.resolvePath path).lookups = (batch.classify path).2.1 :=
  congrArg Prod.fst (answers_resolvePath present)

lemma meaning_resolvePath_eq_classify {batch : Batch H} {path : String}
    (present : batch.pathExists path = true) :
    (batch.resolvePath path).meaning path = (batch.classify path).1 := by
  obtain ⟨engine, forced, _, _⟩ := batch.resolvePath_keeps path
  have means :=
    Classification.ofPath_eq_ofAnswer batch.engine.registry batch.engine.settings batch.forced
    batch.files batch.lookups batch.host path
  rw [meaning, engine, forced, lookups_resolvePath present]
  exact means.symm

omit [Host H] in
/-- An answer changes nothing of the work sets, nor of what they are computed from. -/
lemma informed_spec (batch : Batch H) (lookups : Lookups) (host : H) :
    let after := batch.informed lookups host
    after.direct = batch.direct ∧ after.cascaded = batch.cascaded ∧ after.engine = batch.engine ∧
      after.forced = batch.forced ∧ after.deferredHits = batch.deferredHits :=
  ⟨rfl, rfl, rfl, rfl, rfl⟩

lemma resolvePath_of_absent {batch : Batch H} {path : String}
    (absent : batch.pathExists path = false) :
    ∃ report, batch.resolvePath path = { batch with report } := by
  rw [resolvePath, absent, if_neg Bool.false_ne_true]
  split
  · exact ⟨_, rfl⟩
  · exact ⟨_, rfl⟩

/-- One path calls for what its meaning calls for, and leaves the answers for other paths alone. -/
lemma resolvePath_spec (batch : Batch H) (path : String) :
    (batch.resolvePath path).direct = batch.direct.insertNewAll
        (((batch.resolvePath path).directly path).map fun id => (id, path)) ∧
      (batch.resolvePath path).cascaded
        = batch.cascaded.insertAll ((batch.resolvePath path).besides path) ∧
      ∀ other ≠ path,
        (batch.resolvePath path).lookups.types.get? other = batch.lookups.types.get? other := by
  obtain ⟨engine, forced, files, hits⟩ := batch.resolvePath_keeps path
  have exist : (batch.resolvePath path).pathExists path = batch.pathExists path := by
    rw [pathExists, pathExists, engine, files]
  rw [directly, besides, meaning, exist, engine, forced, hits]
  cases present : batch.pathExists path with
  | false =>
    obtain ⟨report, unchanged⟩ := resolvePath_of_absent present
    rw [unchanged]
    exact ⟨rfl, rfl, fun _ _ => rfl⟩
  | true =>
    have means := meaning_resolvePath_eq_classify present
    have recorded := lookups_resolvePath present
    rw [meaning, engine, forced, recorded] at means
    have others := fun other (ne : other ≠ path) => Classification.types_ofPath_of_ne
      batch.engine.registry batch.engine.settings batch.forced batch.files
        batch.lookups batch.host ne
    rw [recorded, means, resolvePath_of_present present]
    rw [← classify] at others
    generalize batch.classify path = answer at others ⊢
    obtain ⟨meant, lookups, host⟩ := answer
    obtain ⟨sameDirect, sameCascaded, sameEngine, sameForced, sameHits⟩ :=
      batch.informed_spec lookups host
    obtain ⟨direct, cascaded⟩ := schedule_spec path (batch.informed lookups host) meant
    simp only [sameDirect, sameCascaded, sameEngine, sameForced, sameHits] at direct cascaded
    exact ⟨direct, cascaded, others⟩

lemma foldl_resolvePath {paths : List String} (distinct : paths.Nodup) (batch : Batch H) :
    let after := paths.foldl resolvePath batch
    after.direct = batch.direct.insertNewAll
        (paths.flatMap fun path => (after.directly path).map fun id => (id, path)) ∧
      after.cascaded = batch.cascaded.insertAll (paths.flatMap after.besides) ∧
      ∀ other ∉ paths, after.lookups.types.get? other = batch.lookups.types.get? other := by
  induction paths generalizing batch with
  | nil => exact ⟨rfl, rfl, fun _ _ => rfl⟩
  | cons path rest ih =>
    obtain ⟨absent, distinct⟩ := List.nodup_cons.mp distinct
    obtain ⟨direct, cascaded, others⟩ := resolvePath_spec batch path
    obtain ⟨restDirect, restCascaded, restOthers⟩ := ih distinct (batch.resolvePath path)
    -- The answer for the first path is not asked again, so its work is the same at the end.
    obtain ⟨sameDirectly, sameBesides⟩ := work_congr
      (Keeps.foldl gathering_resolvePath rest (batch.resolvePath path)) (restOthers path absent)
    simp only [List.foldl_cons, List.flatMap_cons, OrderedMap.insertNewAll_append,
      OrderedSet.insertAll_append]
    refine ⟨?_, ?_, ?_⟩
    · rw [sameDirectly, ← direct]
      exact restDirect
    · rw [sameBesides, ← cascaded]
      exact restCascaded
    · intro other unlisted
      rw [List.mem_cons, not_or] at unlisted
      rw [restOthers other unlisted.2, others other unlisted.1]

lemma paths_resolvePath (path : String) :
    Keeps (fun batch : Batch H => batch.lookups.paths) fun batch => batch.resolvePath path := by
  intro batch
  dsimp only
  cases present : batch.pathExists path with
  | false =>
    obtain ⟨report, unchanged⟩ := resolvePath_of_absent present
    rw [unchanged]
  | true => rw [lookups_resolvePath present, classify, Classification.paths_ofPath]

/-! ## The work sets of a batch -/

variable (session : Session H) (paths : List String) (forced : Bool)

lemma gathering_resolved :
    (resolved session paths forced).gathering = (gathered session paths forced).gathering :=
  gathering_resolveTargets _

/-- Until the direct phase, all but the work sets and the lookups is as collecting leaves it. -/
lemma gathering_resolved_eq :
    (resolved session paths forced).gathering
      = ((start session forced).afterCollecting (distinctPaths paths)).gathering := by
  rw [gathering_resolved, gathered_eq]

lemma collected_resolved :
    (resolved session paths forced).collected = (gathered session paths forced).collected :=
  congrArg Gathering.collected (gathering_resolved session paths forced)

lemma resolved_spec :
    (resolved session paths forced).direct = OrderedMap.insertNewAll ∅
        ((gathered session paths forced).collected.flatMap fun path =>
          ((resolved session paths forced).directly path).map fun id => (id, path)) ∧
      (resolved session paths forced).cascaded = OrderedSet.ofList
        ((gathered session paths forced).collected.flatMap
          (resolved session paths forced).besides) ∧
      ∀ other ∉ (gathered session paths forced).collected,
        (resolved session paths forced).lookups.types.get? other = none := by
  have start : (gathered session paths forced).direct = ∅ ∧
      (gathered session paths forced).cascaded = ∅ ∧
      (gathered session paths forced).lookups.types = ∅ := by
    rw [gathered_eq]
    exact ⟨rfl, rfl, rfl⟩
  obtain ⟨direct, cascaded, others⟩ :=
    foldl_resolvePath (nodup_collected_gathered session paths forced)
      (gathered session paths forced)
  rw [start.1] at direct
  rw [start.2.1] at cascaded
  rw [start.2.2] at others
  exact ⟨direct, cascaded, others⟩

lemma find?_flatMap_entries (calls : String → List DeclarationId) (id : DeclarationId)
    (paths : List String) :
    ((paths.flatMap fun path => (calls path).map fun other => (other, path)).find? (·.1 = id)).map
      Prod.snd = paths.find? fun path => id ∈ calls path := by
  induction paths with
  | nil => rfl
  | cons path rest ih =>
    have entry : (((calls path).map fun other => (other, path)).find? (·.1 = id)).map Prod.snd
        = if id ∈ calls path then some path else none := by
      rw [List.find?_map, Option.map_map]
      by_cases listed : id ∈ calls path
      · have some : ((calls path).find? fun other => decide (other = id)).isSome :=
          List.find?_isSome.mpr ⟨id, listed, decide_eq_true rfl⟩
        obtain ⟨found, eq⟩ := Option.isSome_iff_exists.mp some
        rw [if_pos listed, Option.map_eq_some_iff]
        exact ⟨found, eq, rfl⟩
      · rw [if_neg listed, Option.map_eq_none_iff, List.find?_eq_none]
        intro other mem same
        exact listed (of_decide_eq_true same ▸ mem)
    rw [List.flatMap_cons, List.find?_append, Option.map_or, entry, ih, List.find?_cons]
    by_cases listed : id ∈ calls path <;> simp [listed]

/-- The source of a direct declaration is the first collected path that calls for it. -/
theorem get?_direct_resolved (id : DeclarationId) :
    (resolved session paths forced).direct.get? id
      = (gathered session paths forced).collected.find? fun path =>
          id ∈ (resolved session paths forced).directly path := by
  rw [(resolved_spec session paths forced).1, OrderedMap.get?_insertNewAll, OrderedMap.get?_empty,
    Option.none_or, find?_flatMap_entries]

/-- A declaration runs directly exactly when a collected path calls for that. -/
theorem mem_direct_resolved {id : DeclarationId} :
    id ∈ (resolved session paths forced).direct.keys ↔
      ∃ path ∈ (gathered session paths forced).collected,
        id ∈ (resolved session paths forced).directly path := by
  rw [← OrderedMap.get?_isSome_iff, get?_direct_resolved, List.find?_isSome]
  simp only [decide_eq_true_eq]

/-- The source of a direct declaration is a collected path. -/
theorem collected_of_direct {id : DeclarationId} {path : String}
    (scheduled : (resolved session paths forced).direct.get? id = some path) :
    path ∈ (gathered session paths forced).collected := by
  rw [get?_direct_resolved] at scheduled
  exact List.mem_of_find?_eq_some scheduled

/-- A declaration is cascaded exactly when a collected path calls for that. -/
theorem mem_cascaded_resolved {id : DeclarationId} :
    id ∈ (resolved session paths forced).cascaded ↔
      ∃ path ∈ (gathered session paths forced).collected,
        id ∈ (resolved session paths forced).besides path := by
  rw [(resolved_spec session paths forced).2.1, OrderedSet.mem_ofList, List.mem_flatMap]

/-- The host is asked about collected paths only. -/
theorem collected_of_asked {path : String}
    (asked : path ∈ (resolved session paths forced).lookups.types.keys) :
    path ∈ (gathered session paths forced).collected := by
  by_contra absent
  exact OrderedMap.get?_eq_none_iff.mp ((resolved_spec session paths forced).2.2 path absent) asked

end Batch

end SourceGen
