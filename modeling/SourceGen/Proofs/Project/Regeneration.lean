import SourceGen.Proofs.Batch.Growing
import SourceGen.Proofs.Manifest.Names
import SourceGen.Proofs.Project.Matching
import SourceGen.Proofs.Project.Settling

/-!
# Nothing is lost or repeated over a settled run

A cascaded declaration takes one of two routes. Either it runs in the first batch, under its
identity; or its source is put off, and the second batch runs all declarations of the target of that
source directly. The two routes never meet: a source is only put off for a target that no collected
path is a source for, since the declarations of all others run directly (`disjoint_ran`). And
neither loses anything: the source of a pending declaration is there at its turn and in the second
batch, because batches lose no files, and the second batch collects it unless it is an output
(`ran_or_deferred`, `ran_next_of_deferred`).
-/

namespace SourceGen

namespace Session

open Batch

variable {session : Session DirectoryHost} {paths : List String}

/-! ## Nothing is repeated -/

/-- **The two routes never meet.** What the second batch runs did not run in the first. -/
theorem Attached.disjoint_ran (attached : session.Attached)
    (apart : session.engine.registry.NamesApart)
    (fixes : (session.next paths).FixesTargets (Batch.run session paths false).report.written) :
    List.Disjoint (Batch.run session paths false).report.ran
      (Batch.run (session.next paths) (session.requests paths) false).report.ran := by
  have indexed := attached.discovered.indexed
  have attached' : (session.next paths).Attached := attached.next
  obtain ⟨_, _, registry, _⟩ := foundation_next session paths
  have apart' : (session.next paths).engine.registry.NamesApart := by rwa [registry]
  have settled := attached.pending_next_eq_nil fixes
  rw [(attached'.run_of_pending_eq_nil settled).2, direct_ranDirect]
  intro id first second
  have registered' := registered_of_mem_direct attached'.discovered.indexed second
  obtain ⟨path, collected, source⟩ := (attached'.mem_direct_iff apart' registered').mp second
  rw [registry] at registered'
  -- The source was put off for a pending declaration, whose target is that of `id`.
  have deferred := attached.deferred_of_collected fixes collected
  obtain ⟨put, pending, found, _⟩ := attached.sourceOf?_of_reported fixes deferred
  have stem := (attached'.sources.sourceOf? found).1
  rw [source.stem] at stem
  have registeredPut := registered_of_mem_pending indexed pending
  have same : id.target = put.target := apart _ (Registry.mem_targets indexed registered') _
    (Registry.mem_targets indexed registeredPut) stem
  -- So only direct declarations ran in the first batch, and `id` among them, but then so is the
  -- other.
  have later : (ranDirect session paths false).runsNow = false := by
    cases decided : (ranDirect session paths false).runsNow with
    | false => rfl
    | true =>
      rw [(run_now attached.observers indexed decided).2.2] at deferred
      exact absurd deferred List.not_mem_nil
  rw [(run_later attached.observers indexed later).1, direct_ranDirect,
    attached.mem_direct_iff apart registered', same] at first
  have direct := (attached.mem_direct_iff apart registeredPut).mpr first
  rw [← direct_ranDirect] at direct
  exact (mem_pending.mp pending).2 direct

/-! ## Nothing is lost -/

/-- A notification that hits a type has a source for it collected, when nothing waits. -/
lemma Hits.collected {type : TypeName} (hits : session.Hits paths type)
    (fresh : session.engine.suppressed = ∅) (named : type.shortName ≠ "") :
    ∃ path ∈ (gathered session paths false).collected, session.IsSourceFor type path := by
  obtain ⟨path, notified, autoEmit, enabled, source⟩ := hits
  refine ⟨path, mem_collected_iff.mpr ⟨mem_distinctPaths.mpr ⟨?_, notified⟩, ?_, autoEmit, enabled⟩,
    source⟩
  · rintro rfl
    exact named source.stem.symm
  · rw [fresh]
    exact OrderedSet.not_mem_empty path

lemma Attached.ran_of_direct (attached : session.Attached) {id : DeclarationId}
    (direct : id ∈ (ranDirect session paths false).direct.keys) :
    id ∈ (Batch.run session paths false).report.ran := by
  obtain ⟨more, _, ran⟩ : ∃ more, List.Sublist more (ranDirect session paths false).pending ∧ _ :=
    ran_run attached.observers attached.discovered.indexed
  rw [ran]
  exact List.mem_append_left more direct

/-- A notification concerns a declaration besides: the target of some declaration of the same
generator is hit, or its generator is hit and is no target itself. -/
def Concerns {H : Type} (session : Session H) (paths : List String) (id : DeclarationId) : Prop :=
  (∃ other, (session.engine.registry.get? other).isSome ∧ other.generator = id.generator ∧
      session.Hits paths other.target) ∨
    (session.engine.registry.isTarget id.generator = false ∧ session.Hits paths id.generator)

lemma Concerns.autoEmit {H : Type} {session : Session H} {paths : List String} {id : DeclarationId}
    (concerned : session.Concerns paths id) : session.engine.settings.autoEmit = true := by
  rcases concerned with ⟨_, _, _, _, _, autoEmit, _⟩ | ⟨_, _, _, autoEmit, _⟩ <;> exact autoEmit

/-- A declaration that a notification concerns is direct or pending in its batch, when nothing waits
and nothing is put off. -/
lemma Attached.direct_or_pending (attached : session.Attached)
    (apart : session.engine.registry.NamesApart)
    (fresh : session.engine.suppressed = ∅ ∧ session.engine.deferred = ∅)
    (named : ∀ id ∈ session.engine.registry.registrations.keys, id.target.shortName ≠ "" ∧
      id.generator.shortName ≠ "") {id : DeclarationId}
    (registered : id ∈ session.engine.registry.registrations.keys)
    (concerned : session.Concerns paths id) :
    id ∈ (ranDirect session paths false).direct.keys ∨
    id ∈ (ranDirect session paths false).pending := by
  have direct : (ranDirect session paths false).direct = _ := direct_ranDirect
  rw [mem_pending_ranDirect, direct]
  by_cases runs : id ∈ (resolved session paths false).direct.keys
  · exact .inl runs
  refine .inr ⟨?_, runs⟩
  rcases concerned with ⟨other, registeredOther, shared, hits⟩ | ⟨noTarget, hits⟩
  · have registeredOther := OrderedMap.get?_isSome_iff.mp registeredOther
    obtain ⟨path, collected, source⟩ := hits.collected fresh.1 (named other registeredOther).1
    refine attached.mem_cascaded_of_shared apart registered registeredOther shared.symm ?_ collected
      source ?_
    · intro same
      exact runs ((attached.mem_direct_iff apart registered).mpr ⟨path, collected, same ▸ source⟩)
    · rw [fresh.2]
      exact OrderedSet.not_mem_empty path
  · obtain ⟨path, collected, source⟩ := hits.collected fresh.1 (named id registered).2
    exact attached.mem_cascaded_of_generator apart registered noTarget collected source

/-- A pending declaration whose source is there and admitted runs, or its source is put off. -/
lemma Attached.ran_or_deferred (attached : session.Attached) {id : DeclarationId}
    (pending : id ∈ (ranDirect session paths false).pending) {source : String}
    (found : (session.next paths).world.host.sourceOf? id.target = some source)
    (normal : SourcePath.normalize source = source)
    (present : (start session false).pathExists source = true)
    (admitted : session.engine.settings.isAutomaticSource source = true) :
    id ∈ (Batch.run session paths false).report.ran ∨
      source ∈ (Batch.run session paths false).report.deferred := by
  have indexed := attached.discovered.indexed
  have located : ((ranDirect session paths false).turn id).located id = some source := by
    have built := attached.sources_of_pending (List.ne_nil_of_mem pending)
    rw [DirectoryHost.sourceOf?, built, Option.bind_some] at found
    rw [located_turn, found, Option.map_some, normal]
  have idle : Host.isBuilding (ranCascaded session paths false).host = false := rfl
  rw [reported_run attached.observers, announced_run attached.observers, idle,
    if_neg Bool.false_ne_true]
  exact ran_or_putOff indexed pending located admitted (pathExists_turn id present)

lemma Attached.files_next (attached : session.Attached) :
    session.world.site.files.Grows (session.next paths).world.site.files := by
  have taken : ∀ batch : Batch DirectoryHost,
      batch.session.takeReimports.2.world.site.files = batch.files := fun _ => rfl
  rw [Session.next, taken]
  exact files_run attached.observers

/-- A source that is put off is collected by the next batch, unless it is an output. -/
lemma Attached.collected_next_of_deferred (attached : session.Attached)
    (fresh : session.engine.suppressed = ∅) {type : TypeName} (named : type.shortName ≠ "")
    {source : String} (found : (session.next paths).world.host.sourceOf? type = some source)
    (normal : SourcePath.normalize source = source)
    (present : (start session false).pathExists source = true)
    (admitted : session.engine.settings.isAutomaticSource source = true)
    (autoEmit : session.engine.settings.autoEmit = true)
    (unwritten : source ∉ (Batch.run session paths false).report.written)
    (deferred : source ∈ (Batch.run session paths false).report.deferred) :
    source ∈ (gathered (session.next paths) (session.requests paths) false).collected ∧
      (session.next paths).IsSourceFor type source := by
  have attached' : (session.next paths).Attached := attached.next
  obtain ⟨root, settings, _, _⟩ := foundation_next session paths
  obtain ⟨candidate, enabled⟩ : session.engine.settings.isSourceCandidate source = true ∧
      session.engine.settings.isDisabled source = false := by
    simpa [Settings.isAutomaticSource] using admitted
  obtain ⟨stem, authored⟩ := attached'.sources.sourceOf? found
  have nonempty : source ≠ "" := by
    rintro rfl
    exact named stem.symm
  have still : (session.next paths).world.site.files.pathExists
      (FilePath.join (session.next paths).engine.root source) = true := by
    rw [root]
    exact attached.files_next.pathExists present
  constructor
  · refine mem_collected_iff.mpr ⟨mem_distinctPaths.mpr ⟨nonempty, source, ?_, normal⟩, ?_, ?_, ?_⟩
    · exact List.mem_append_right _ deferred
    · rw [attached.mem_suppressed_next nonempty, fresh]
      rintro (written | ⟨waits, _⟩)
      · exact unwritten written
      · exact OrderedSet.not_mem_empty source waits
    · rw [settings]
      exact autoEmit
    · rw [settings]
      exact enabled
  · refine ⟨still, ?_, authored, stem⟩
    rw [settings]
    exact candidate

lemma Attached.ran_next_of_deferred (attached : session.Attached)
    (apart : session.engine.registry.NamesApart) (fresh : session.engine.suppressed = ∅)
    {id : DeclarationId} (registered : id ∈ session.engine.registry.registrations.keys)
    (named : id.target.shortName ≠ "") {source : String}
    (found : (session.next paths).world.host.sourceOf? id.target = some source)
    (normal : SourcePath.normalize source = source)
    (present : (start session false).pathExists source = true)
    (admitted : session.engine.settings.isAutomaticSource source = true)
    (autoEmit : session.engine.settings.autoEmit = true)
    (unwritten : source ∉ (Batch.run session paths false).report.written)
    (deferred : source ∈ (Batch.run session paths false).report.deferred) :
    id ∈ (Batch.run (session.next paths) (session.requests paths) false).report.ran := by
  have attached' : (session.next paths).Attached := attached.next
  obtain ⟨_, _, registry, _⟩ := foundation_next session paths
  have collected :=
    attached.collected_next_of_deferred fresh named found normal present admitted autoEmit
    unwritten deferred
  rw [← registry] at apart registered
  refine attached'.ran_of_direct ?_
  rw [direct_ranDirect, attached'.mem_direct_iff apart registered]
  exact ⟨source, collected⟩

end Session

namespace Project

open Batch Session

variable {session : Session DirectoryHost} {paths : List String}

/-- A run that settles does what its first two batches do, as far as there are two, in every respect
in which a batch that collects nothing does nothing. -/
lemma Settles.flatMap {γ : Type} {view : BatchReport → List γ}
    (silent : ∀ {session : Session DirectoryHost} {paths : List String}, session.Attached →
      (gathered session paths false).collected = [] →
      view (Batch.run session paths false).report = [])
    (attached : session.Attached) {report : ProcessReport} {last : Session DirectoryHost}
    (settles : Settles session paths report last) :
    report.batches.flatMap view
      = view (Batch.run session paths false).report
        ++ view (Batch.run (session.next paths) (session.requests paths) false).report := by
  have attached' : (session.next paths).Attached := attached.next
  have attached'' : ((session.next paths).next (session.requests paths)).Attached := attached'.next
  cases settles with
  | once none =>
    rw [none, silent attached' (collected_nil _)]
    rfl
  | twice =>
    simp only [List.flatMap_cons, List.flatMap_nil, List.append_nil]
  | thrice settled absorbed =>
    simp only [List.flatMap_cons, List.flatMap_nil, silent attached'' absorbed, List.append_nil]

lemma Settles.ran (attached : session.Attached) {report : ProcessReport}
    {last : Session DirectoryHost} (settles : Settles session paths report last) :
    report.batches.flatMap BatchReport.ran
      = (Batch.run session paths false).report.ran
        ++ (Batch.run (session.next paths) (session.requests paths) false).report.ran :=
  settles.flatMap (fun attached nothing => (attached.silent_of_collected_eq_nil nothing).2.2)
    attached

lemma Settles.written (attached : session.Attached) {report : ProcessReport}
    {last : Session DirectoryHost} (settles : Settles session paths report last) :
    report.written
      = (Batch.run session paths false).report.written
        ++ (Batch.run (session.next paths) (session.requests paths) false).report.written :=
  settles.flatMap (fun attached nothing => (attached.silent_of_collected_eq_nil nothing).1) attached

/-- The first batch writes for the run. -/
lemma Settles.written_first (attached : session.Attached) {report : ProcessReport}
    {last : Session DirectoryHost} (settles : Settles session paths report last) {path : String}
    (written : path ∈ (Batch.run session paths false).report.written) : path ∈ report.written := by
  rw [settles.written attached]
  exact List.mem_append_left _ written

lemma Settles.sources (attached : session.Attached) {report : ProcessReport}
    {last : Session DirectoryHost} (settles : Settles session paths report last)
    {index : OrderedMap String String}
    (built : (session.next paths).world.host.sources = some index) :
    last.world.host.sources = some index := by
  cases settles with
  | once => exact built
  | twice => exact attached.next.sources_next built
  | thrice => exact attached.next.next.sources_next (attached.next.sources_next built)

lemma Settles.fixesFirst (attached : session.Attached) {report : ProcessReport}
    {last : Session DirectoryHost} (settles : Settles session paths report last)
    (fixes : last.FixesPaths report.written) :
    (session.next paths).FixesPaths (Batch.run session paths false).report.written := by
  refine ⟨fun path written => fixes.written path (settles.written_first attached written), ?_⟩
  intro type source found
  obtain ⟨index, built, listed⟩ := Option.bind_eq_some_iff.mp found
  exact fixes.sources type source
    (Option.bind_eq_some_iff.mpr ⟨index, settles.sources attached built, listed⟩)

lemma pathOfType_of_built {host : DirectoryHost} {index : OrderedMap String String}
    (built : host.sources = some index) (files : FileSystem) (type : TypeName) :
    (Host.pathOfType host files type).1 = index.get? type.shortName := by
  change (host.indexed files).1.get? type.shortName = _
  rw [DirectoryHost.indexed_of_built built]

/-- A declaration that a notification concerns besides runs in the first batch or in the second. -/
lemma Settles.ran_of_concerned (attached : session.Attached)
    (apart : session.engine.registry.NamesApart)
    (fresh : session.engine.suppressed = ∅ ∧ session.engine.deferred = ∅)
    (named : ∀ id ∈ session.engine.registry.registrations.keys,
      id.target.shortName ≠ "" ∧ id.generator.shortName ≠ "")
    {report : ProcessReport} {last : Session DirectoryHost}
    (settles : Settles session paths report last) (fixes : last.FixesPaths report.written)
    {id : DeclarationId} (registered : id ∈ session.engine.registry.registrations.keys)
    (concerned : session.Concerns paths id) (files : FileSystem) {source : String}
    (located : (Host.pathOfType last.world.host files id.target).1 = some source)
    (present : (start session false).pathExists source = true)
    (admitted : session.engine.settings.isAutomaticSource source = true)
    (unwritten : source ∉ report.written) :
    id ∈ (Batch.run session paths false).report.ran ∨
      id ∈ (Batch.run (session.next paths) (session.requests paths) false).report.ran := by
  rcases attached.direct_or_pending apart fresh named registered concerned with direct | pending
  · exact .inl (attached.ran_of_direct direct)
  have built := attached.sources_of_pending (List.ne_nil_of_mem pending)
  have kept := settles.sources attached built
  rw [pathOfType_of_built kept] at located
  have found : (session.next paths).world.host.sourceOf? id.target = some source :=
    Option.bind_eq_some_iff.mpr ⟨_, built, located⟩
  have normal := fixes.sources id.target source (Option.bind_eq_some_iff.mpr ⟨_, kept, located⟩)
  refine (attached.ran_or_deferred pending found normal present admitted).imp_right
    fun deferred => ?_
  exact attached.ran_next_of_deferred apart fresh.1 registered (named id registered).1
    found normal present
    admitted concerned.autoEmit (fun written => unwritten (settles.written_first attached written))
      deferred

/-- What runs in a run that settles, when the short names differ, nothing waits and nothing is put
off. -/
lemma Settles.regenerates (attached : session.Attached) (apart : session.engine.registry.NamesApart)
    (fresh : session.engine.suppressed = ∅ ∧ session.engine.deferred = ∅)
    (named : ∀ id ∈ session.engine.registry.registrations.keys,
      id.target.shortName ≠ "" ∧ id.generator.shortName ≠ "")
    {report : ProcessReport} {last : Session DirectoryHost}
    (settles : Settles session paths report last) (fixes : last.FixesPaths report.written) :
    (report.batches.flatMap BatchReport.ran).Nodup ∧
      (∀ id, (session.engine.registry.get? id).isSome → session.Hits paths id.target →
        id ∈ report.batches.flatMap BatchReport.ran) ∧
      ∀ id, (session.engine.registry.get? id).isSome → session.Concerns paths id →
        ∀ source, (Host.pathOfType last.world.host last.world.site.files id.target).1
          = some source →
          session.world.site.files.pathExists (FilePath.join session.engine.root source) = true →
          session.engine.settings.isAutomaticSource source = true →
          source ∉ report.written → id ∈ report.batches.flatMap BatchReport.ran := by
  have indexed := attached.discovered.indexed
  have attached' : (session.next paths).Attached := attached.next
  rw [settles.ran attached]
  refine ⟨?_, ?_, ?_⟩
  · exact List.Nodup.append (nodup_ran_run attached.observers indexed)
      (nodup_ran_run attached'.observers attached'.discovered.indexed)
      (attached.disjoint_ran apart (settles.fixesFirst attached fixes).targets)
  · intro id registered hits
    have registered := OrderedMap.get?_isSome_iff.mp registered
    obtain ⟨path, collected, source⟩ := hits.collected fresh.1 (named id registered).1
    have direct := (attached.mem_direct_iff apart registered).mpr ⟨path, collected, source⟩
    rw [← direct_ranDirect] at direct
    exact List.mem_append_left _ (attached.ran_of_direct direct)
  · intro id registered concerned source located present admitted unwritten
    exact List.mem_append.mpr (settles.ran_of_concerned attached apart fresh named fixes
      (OrderedMap.get?_isSome_iff.mp registered) concerned _ located present admitted unwritten)

/-- **Nothing is lost or repeated.** Let a project be freshly loaded from a manifest whose
registered types have different short names, and let all written paths and sources that the host
finds be normalized. When paths are processed with the reimports followed, no declaration runs
twice over all batches; every declaration of a target that is hit runs; and so does every
declaration that the notification concerns besides, provided that the host finds a source for its
target which is there, is admitted, and is not written in the run. -/
theorem regenerates_once {path : String} {file : ManifestFile} {site : Site}
    (opened : ManifestFile.openAt site.files path = .ok file) {catalog : Catalog}
    {paths : List String} (apart : (load file catalog site).registry.NamesApart)
    (fixes : ((load file catalog site).process paths true).2.session.FixesPaths
      ((load file catalog site).process paths true).1.written) :
    let project := load file catalog site
    let run := project.process paths true
    let ran := run.1.batches.flatMap BatchReport.ran
    ran.Nodup ∧
      (∀ id, (project.registry.get? id).isSome → project.session.Hits paths id.target → id ∈ ran) ∧
      ∀ id, (project.registry.get? id).isSome → project.session.Concerns paths id →
        ∀ source, (Host.pathOfType run.2.session.world.host run.2.files id.target).1 = some source →
          project.files.pathExists (FilePath.join project.session.engine.root source) = true →
          project.session.engine.settings.isAutomaticSource source = true →
          source ∉ run.1.written → id ∈ ran := by
  have attached : (load file catalog site).session.Attached := attached_load file catalog site
  obtain ⟨suppressed, deferred, idle⟩ := fresh_load file catalog site
  have named : ∀ id ∈ (load file catalog site).session.engine.registry.registrations.keys,
      id.target.shortName ≠ "" ∧ id.generator.shortName ≠ "" := by
    intro id registered
    obtain ⟨target, generator⟩ := valid_of_registered opened catalog site registered
    exact ⟨target.shortName_ne, generator.shortName_ne⟩
  have settles := settles_process attached idle fixes
  exact settles.regenerates attached apart ⟨suppressed, deferred⟩ named fixes

/-- In the project with two targets of one generator, a change of the player runs the player in the
first batch and the enemy, which is put off, in the second. -/
theorem regenerates_once_player :
    let ran := (TwoTargets.project.process ["Player.cs"] true).1.batches.flatMap BatchReport.ran
    ran.Nodup ∧ TwoTargets.player ∈ ran ∧ TwoTargets.enemy ∈ ran := by
  have apart : (load TwoTargets.file TwoTargets.catalog TwoTargets.site).registry.NamesApart := by
    decide
  have hits : (load TwoTargets.file TwoTargets.catalog TwoTargets.site).session.Hits ["Player.cs"]
      TwoTargets.player.target :=
    ⟨"Player.cs", ⟨"Player.cs", List.mem_singleton_self _, by decide⟩, by decide,
      by decide, ⟨by decide, by decide, by decide, by decide⟩⟩
  obtain ⟨written, _, sources⟩ := process_player
  have fixes := fixesPaths_player
  unfold TwoTargets.project at written sources fixes ⊢
  obtain ⟨once, direct, besides⟩ := regenerates_once TwoTargets.opened apart fixes
  refine ⟨once, direct TwoTargets.player (by decide) hits, ?_⟩
  refine besides TwoTargets.enemy (by decide)
    (.inl ⟨TwoTargets.player, by decide, rfl, hits⟩) "Enemy.cs" ?_ (by decide)
    (by decide) ?_
  · obtain ⟨index, built, entries⟩ := Option.map_eq_some_iff.mp sources
    rw [pathOfType_of_built built, ← OrderedMap.mem_entries_iff, entries]
    decide
  · rw [written]
    decide

end Project

end SourceGen
