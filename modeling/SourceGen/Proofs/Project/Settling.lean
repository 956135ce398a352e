import SourceGen.Proofs.Manifest.Names
import SourceGen.Proofs.Project.Following

/-!
# Settling takes three batches

When the reimports are followed, the second batch sees the outputs of the first, which it absorbs,
and the sources that the first has put off. Those are on the list of deferred ones and belong to
targets, so they do not fan out again: the second batch puts nothing off. The third sees outputs of
the second only, absorbs them all, and asks for nothing (`Project.settles_follow`).

All this needs that a path comes back as it went out: what is notified is normalized, so an output
or a source that `SourcePath.normalize` would change would not be recognized.
-/

namespace SourceGen

namespace Session

open Batch

variable {session : Session DirectoryHost} {paths : List String}

/-- Paths come back as they went out: each of the written ones, and each source that the host finds,
is as `SourcePath.normalize` leaves it. -/
structure FixesPaths (session : Session DirectoryHost) (written : List String) : Prop where
  written : ∀ path ∈ written, SourcePath.normalize path = path
  sources : ∀ type source, session.world.host.sourceOf? type = some source →
    SourcePath.normalize source = source

/-- The same with those sources only that the host finds for registered targets, which are all that
matter. -/
structure FixesTargets (session : Session DirectoryHost) (written : List String) : Prop where
  written : ∀ path ∈ written, SourcePath.normalize path = path
  sources : ∀ type, session.engine.registry.isTarget type = true → ∀ source,
    session.world.host.sourceOf? type = some source → SourcePath.normalize source = source

lemma FixesPaths.targets {written : List String} (fixes : session.FixesPaths written) :
    session.FixesTargets written :=
  ⟨fixes.written, fun type _ source => fixes.sources type source⟩

lemma Attached.isTarget_of_pending (attached : session.Attached) {id : DeclarationId}
    (pending : id ∈ (ranDirect session paths false).pending) :
    session.engine.registry.isTarget id.target = true :=
  have indexed := attached.discovered.indexed
  (Registry.isTarget_iff indexed).mpr ⟨id, registered_of_mem_pending indexed pending, rfl⟩

/-- A source that is put off is, as it is reported, the one that the host finds for a pending
declaration. -/
lemma Attached.sourceOf?_of_reported (attached : session.Attached) {written : List String}
    (fixes : (session.next paths).FixesTargets written) {path : String}
    (reported : path ∈ (Batch.run session paths false).report.deferred) :
    ∃ id ∈ (ranDirect session paths false).pending,
      (session.next paths).world.host.sourceOf? id.target = some path ∧
      SourcePath.normalize path = path := by
  obtain ⟨_, _, registry, _⟩ := foundation_next session paths
  obtain ⟨_, _, id, pending, source, found, rfl⟩ := attached.deferral_of_reported reported
  have isTarget := attached.isTarget_of_pending pending
  rw [← registry] at isTarget
  have normal := fixes.sources id.target isTarget source found
  exact ⟨id, pending, by rw [normal, found], by rw [normal, normal]⟩

/-- Of the reimports that a batch has asked for, the next batch collects only sources that were put
off, since it absorbs the outputs. -/
lemma Attached.deferred_of_collected (attached : session.Attached)
    (fixes : (session.next paths).FixesTargets (Batch.run session paths false).report.written)
    {path : String}
    (collected : path ∈ (gathered (session.next paths) (session.requests paths) false).collected) :
    path ∈ (Batch.run session paths false).report.deferred := by
  obtain ⟨listed, counted⟩ := mem_collected_gathered.mp collected
  obtain ⟨_, notified, requested, same⟩ := mem_distinctPaths.mp listed
  rcases List.mem_append.mp requested with written | deferred
  · -- An output of the batch is waiting, so it is absorbed.
    rw [fixes.written notified written] at same
    subst same
    have waits : notified ∈ (session.next paths).engine.suppressed := by
      rw [engine_next, suppressed_run attached.observers]
      exact OrderedSet.mem_insertAll.mpr (.inr written)
    have absorbs : (start (session.next paths) false).absorbs notified = true :=
      absorbs_start.mpr ⟨rfl, waits⟩
    rw [counts, absorbs] at counted
    exact Bool.noConfusion counted
  · obtain ⟨_, _, _, normal⟩ := attached.sourceOf?_of_reported fixes deferred
    rw [normal] at same
    exact same ▸ deferred

/-- The batch that is notified of the requests puts nothing off. -/
theorem Attached.pending_next_eq_nil (attached : session.Attached)
    (fixes : (session.next paths).FixesTargets (Batch.run session paths false).report.written) :
    (ranDirect (session.next paths) (session.requests paths) false).pending = [] := by
  obtain ⟨_, _, registry, _⟩ := foundation_next session paths
  refine attached.next.pending_eq_nil fun path collected => ?_
  have deferred := attached.deferred_of_collected fixes collected
  obtain ⟨put, _⟩ := attached.deferral_of_reported deferred
  obtain ⟨id, pending, found, _⟩ := attached.sourceOf?_of_reported fixes deferred
  refine ⟨put, id.target, ?_, (attached.next.sources.sourceOf? found).1⟩
  rw [registry]
  exact attached.isTarget_of_pending pending

/-- What waits after a batch: its outputs, and what waited before and was not notified. -/
lemma Attached.mem_suppressed_next (attached : session.Attached) {path : String}
    (named : path ≠ "") :
    path ∈ (session.next paths).engine.suppressed ↔
      path ∈ (Batch.run session paths false).report.written ∨
        (path ∈ session.engine.suppressed ∧
          ¬∃ notified ∈ paths, SourcePath.normalize notified = path) := by
  rw [engine_next, mem_suppressed_run attached.observers fun _ => named]
  exact or_congr (and_iff_right rfl) (and_congr_right fun _ => not_congr (and_iff_right rfl))

/-- A path that is notified does not wait after the batch, unless the batch writes it. -/
lemma Attached.not_mem_suppressed_next (attached : session.Attached) {path : String}
    (named : path ≠ "") (notified : path ∈ paths) (normal : SourcePath.normalize path = path)
    (unwritten : path ∉ (Batch.run session paths false).report.written) :
    path ∉ (session.next paths).engine.suppressed := by
  rw [attached.mem_suppressed_next named]
  rintro (written | ⟨_, missed⟩)
  · exact unwritten written
  · exact missed ⟨path, notified, normal⟩

end Session

namespace Project

open Batch Session

variable {paths : List String} {session : Session DirectoryHost}

/-- The last batch allowed takes its requests, whatever they are. -/
lemma follow_zero (paths : List String) (session : Session DirectoryHost) :
    (follow 0 paths session).2 = session.next paths := by
  rw [follow, onFilesChanged_eq, next]

lemma batches_follow (more : Nat) (paths : List String) (attached : session.Attached)
    (idle : session.world.host.reimports = []) :
    ∃ rest, (follow more paths session).1.batches
      = (Batch.run session paths false).report :: rest := by
  cases more with
  | zero => exact ⟨[], by rw [follow, onFilesChanged_eq]⟩
  | succ more =>
    by_cases silent : session.requests paths = []
    · exact ⟨[], by rw [follow_of_nil _ attached idle silent]⟩
    · exact ⟨_, by rw [follow_succ attached idle silent]⟩

/-- The index that the first batch leaves stays over all batches. -/
lemma sources_follow (more : Nat) (attached : session.Attached)
    (idle : session.world.host.reimports = []) {index : OrderedMap String String}
    (built : (session.next paths).world.host.sources = some index) :
    (follow more paths session).2.world.host.sources = some index := by
  induction more generalizing session paths with
  | zero =>
    rw [follow_zero]
    exact built
  | succ more ih =>
    by_cases silent : session.requests paths = []
    · rw [follow_of_nil _ attached idle silent]
      exact built
    · rw [follow_succ attached idle silent]
      dsimp only
      exact ih attached.next (reimports_next session paths) (attached.next.sources_next built)

/-- A source that the host finds after the first batch is found after all batches. -/
lemma sourceOf?_follow (more : Nat) (attached : session.Attached)
    (idle : session.world.host.reimports = []) {type : TypeName} {source : String}
    (found : (session.next paths).world.host.sourceOf? type = some source) :
    (follow more paths session).2.world.host.sourceOf? type = some source := by
  obtain ⟨index, built, listed⟩ := Option.bind_eq_some_iff.mp found
  exact Option.bind_eq_some_iff.mpr ⟨index, sources_follow more attached idle built, listed⟩

/-- What holds of a whole run holds of its first batch. -/
lemma fixesPaths_first (more : Nat) (attached : session.Attached)
    (idle : session.world.host.reimports = [])
    (fixes : (follow more paths session).2.FixesPaths (follow more paths session).1.written) :
    (session.next paths).FixesPaths (Batch.run session paths false).report.written := by
  obtain ⟨rest, batches⟩ := batches_follow more paths attached idle
  refine ⟨fun path written => fixes.written path ?_, fun type source found => ?_⟩
  · rw [ProcessReport.written, batches, List.flatMap_cons]
    exact List.mem_append_left _ written
  · exact fixes.sources type source (sourceOf?_follow more attached idle found)

/-- What holds of a whole run holds of what follows its first batch. -/
lemma fixesPaths_rest {more : Nat} (attached : session.Attached)
    (idle : session.world.host.reimports = []) (requests : session.requests paths ≠ [])
    (fixes : (follow (more + 1) paths session).2.FixesPaths
      (follow (more + 1) paths session).1.written) :
    (follow more (session.requests paths) (session.next paths)).2.FixesPaths
      (follow more (session.requests paths) (session.next paths)).1.written := by
  rw [follow_succ attached idle requests] at fixes
  dsimp only at fixes
  exact ⟨fun path written => fixes.written path (List.mem_append_right _ written), fixes.sources⟩

/-- How a run goes that follows reimports. The second batch fans out to nothing, and the third
collects nothing at all. -/
inductive Settles (session : Session DirectoryHost) (paths : List String) :
    ProcessReport → Session DirectoryHost → Prop where
  /-- The first batch asks for nothing. -/
  | once (silent : session.requests paths = []) :
    Settles session paths ⟨[(Batch.run session paths false).report], []⟩ (session.next paths)
  /-- The second batch absorbs the outputs of the first, runs what was put off, and writes
nothing. -/
  | twice (settled : (ranDirect (session.next paths) (session.requests paths) false).pending = [])
      (silent : (session.next paths).requests (session.requests paths) = []) :
    Settles session paths
      ⟨[(Batch.run session paths false).report,
        (Batch.run (session.next paths) (session.requests paths) false).report], []⟩
      ((session.next paths).next (session.requests paths))
  /-- The third batch absorbs the outputs of the second. -/
  | thrice (settled : (ranDirect (session.next paths) (session.requests paths) false).pending = [])
      (absorbed : (gathered ((session.next paths).next (session.requests paths))
        ((session.next paths).requests (session.requests paths)) false).collected = []) :
    Settles session paths
      ⟨[(Batch.run session paths false).report,
        (Batch.run (session.next paths) (session.requests paths) false).report,
        (Batch.run ((session.next paths).next (session.requests paths))
          ((session.next paths).requests (session.requests paths)) false).report], []⟩
      (((session.next paths).next (session.requests paths)).next
        ((session.next paths).requests (session.requests paths)))

/-- **A run of at least three batches settles.** No batch but the first puts anything off, so the
third sees outputs only, which it absorbs. All that is asked of the paths is asked of the first two
batches, as far as there are two. -/
lemma settles_of_fixes (more : Nat) (attached : session.Attached)
    (idle : session.world.host.reimports = [])
    (fixes : (session.next paths).FixesTargets (Batch.run session paths false).report.written)
    (fixesNext : session.requests paths ≠ [] →
      (session.next paths).requests (session.requests paths) ≠ [] →
        ((session.next paths).next (session.requests paths)).FixesTargets
          (Batch.run (session.next paths) (session.requests paths) false).report.written) :
    Settles session paths (follow (more + 2) paths session).1
      (follow (more + 2) paths session).2 := by
  by_cases silent : session.requests paths = []
  · rw [follow_of_nil _ attached idle silent]
    exact .once silent
  have settled := attached.pending_next_eq_nil fixes
  rw [follow_succ attached idle silent]
  -- The second batch.
  have attached' : (session.next paths).Attached := attached.next
  have idle' := reimports_next session paths
  by_cases silent' : (session.next paths).requests (session.requests paths) = []
  · rw [follow_of_nil _ attached' idle' silent']
    exact .twice settled silent'
  have fixes' := fixesNext silent silent'
  rw [follow_succ attached' idle' silent']
  -- The third batch.
  have attached'' : ((session.next paths).next (session.requests paths)).Attached := attached'.next
  have idle'' := reimports_next (session.next paths) (session.requests paths)
  have absorbed : (gathered ((session.next paths).next (session.requests paths))
      ((session.next paths).requests (session.requests paths)) false).collected = [] := by
    refine List.eq_nil_iff_forall_not_mem.mpr fun path collected => ?_
    have deferred := attached'.deferred_of_collected fixes' collected
    rw [(attached'.run_of_pending_eq_nil settled).1] at deferred
    exact List.not_mem_nil deferred
  obtain ⟨written, deferred, _⟩ := attached''.silent_of_collected_eq_nil absorbed
  have silent'' : ((session.next paths).next (session.requests paths)).requests
      ((session.next paths).requests (session.requests paths)) = [] := by
    rw [requests, written, deferred, List.append_nil]
  rw [follow_of_nil _ attached'' idle'' silent'']
  exact .thrice settled absorbed

/-- A run settles when it keeps to normalized paths as a whole. -/
theorem settles_follow (more : Nat) (attached : session.Attached)
    (idle : session.world.host.reimports = [])
    (fixes : (follow (more + 2) paths session).2.FixesPaths
      (follow (more + 2) paths session).1.written) :
    Settles session paths (follow (more + 2) paths session).1
      (follow (more + 2) paths session).2 := by
  refine settles_of_fixes more attached idle (fixesPaths_first _ attached idle fixes).targets
    fun requests _ => ?_
  exact (fixesPaths_first _ attached.next (reimports_next session paths)
    (fixesPaths_rest attached idle requests fixes)).targets

lemma Settles.ends {report : ProcessReport} {last : Session DirectoryHost}
    (settles : Settles session paths report last) :
    report.pending = [] ∧ report.batches.length ≤ 3 := by
  cases settles with
  | once => exact ⟨rfl, Nat.le_add_left 1 2⟩
  | twice => exact ⟨rfl, Nat.le_succ 2⟩
  | thrice => exact ⟨rfl, Nat.le_refl 3⟩

/-- After a run that settles, none of its outputs waits: each was among the requests of its batch,
and the next batch absorbed it. -/
theorem Settles.not_mem_suppressed (attached : session.Attached) {report : ProcessReport}
    {last : Session DirectoryHost} (settles : Settles session paths report last)
    (normal : ∀ path ∈ report.written, SourcePath.normalize path = path)
    {path : String} (written : path ∈ report.written) :
    path ∉ last.engine.suppressed := by
  have fixed := normal path written
  have requested {session : Session DirectoryHost} {paths : List String}
      (written : path ∈ (Batch.run session paths false).report.written) :
        path ∈ session.requests paths :=
    List.mem_append_left _ written
  have named {session : Session DirectoryHost} {paths : List String} (attached : session.Attached)
      (written : path ∈ (Batch.run session paths false).report.written) : path ≠ "" := by
    rintro rfl
    exact empty_not_mem_written attached.observers written
  have attached' : (session.next paths).Attached := attached.next
  have attached'' : ((session.next paths).next (session.requests paths)).Attached := attached'.next
  cases settles with
  | once silent =>
    simp only [ProcessReport.written, List.flatMap_cons, List.flatMap_nil,
      List.append_nil] at written
    exact absurd (requested written) (silent ▸ List.not_mem_nil)
  | twice settled silent =>
    simp only [ProcessReport.written, List.flatMap_cons, List.flatMap_nil, List.append_nil,
      List.mem_append] at written
    have unwritten := mt requested (silent ▸ List.not_mem_nil)
    have first := written.resolve_right unwritten
    exact attached'.not_mem_suppressed_next (named attached first) (requested first) fixed unwritten
  | thrice settled absorbed =>
    obtain ⟨nothing, _, _⟩ := attached''.silent_of_collected_eq_nil absorbed
    simp only [ProcessReport.written, List.flatMap_cons, List.flatMap_nil, List.append_nil,
      List.mem_append, nothing] at written
    by_cases second :
      path ∈ (Batch.run (session.next paths) (session.requests paths) false).report.written
    · exact attached''.not_mem_suppressed_next (named attached' second) (requested second) fixed
        (nothing ▸ List.not_mem_nil)
    · have first := written.resolve_right second
      have absorbed :=
        attached'.not_mem_suppressed_next (named attached first) (requested first) fixed second
      rw [attached''.mem_suppressed_next (named attached first), nothing]
      rintro (written | ⟨waits, _⟩)
      · exact List.not_mem_nil written
      · exact absorbed waits

/-- A run with the reimports followed is the first batch and at most fifteen more. -/
lemma process_eq (project : Project) (paths : List String) :
    (project.process paths true).1 = (follow (13 + 2) paths project.session).1 ∧
      (project.process paths true).2.session = (follow (13 + 2) paths project.session).2 := by
  have allowed : (if true then maxBatches - 1 else 0) = 13 + 2 := rfl
  rw [process, allowed]
  generalize follow (13 + 2) paths project.session = run
  exact ⟨rfl, rfl⟩

/-- Sixteen batches are enough to settle. -/
theorem settles_process {project : Project} (attached : project.session.Attached)
    (idle : project.session.world.host.reimports = []) {paths : List String}
    (fixes : (project.process paths true).2.session.FixesPaths
      (project.process paths true).1.written) :
    Settles project.session paths (project.process paths true).1
      (project.process paths true).2.session := by
  obtain ⟨report, session⟩ := process_eq project paths
  rw [report, session] at fixes
  rw [report, session]
  exact settles_follow 13 attached idle fixes

/-- **Settling takes three batches at most.** Whatever the files and generators of a project are,
and whatever waits or is put off in its engine, processing paths with the reimports followed stops
because nothing is requested any more, and none of the outputs waits then, if every written path and
every source that the host finds is normalized. A project is attached when it is loaded
(`attached_load`) and after every batch (`Session.Attached.next`); its files, its two sets and the
index of its host may be any. -/
theorem process_settles {project : Project} (attached : project.session.Attached)
    (idle : project.session.world.host.reimports = []) {paths : List String}
    (fixes : (project.process paths true).2.session.FixesPaths
      (project.process paths true).1.written) :
    (project.process paths true).1.pending = [] ∧
    (project.process paths true).1.batches.length ≤ 3 ∧
      ∀ path ∈ (project.process paths true).1.written,
        path ∉ (project.process paths true).2.session.engine.suppressed := by
  have settles := settles_process attached idle fixes
  obtain ⟨pending, length⟩ := settles.ends
  exact ⟨pending, length, fun path => settles.not_mem_suppressed attached fixes.written⟩

/-- What a change of the player leads to in the project with two targets of one generator: both
notes are written, over three batches, and the index holds what lies in the directory. -/
lemma process_player :
    let run := TwoTargets.project.process ["Player.cs"] true
    run.1.written = ["altgen.g/Note.Player.Note.g.txt", "altgen.g/Note.Enemy.Note.g.txt"] ∧
      run.1.batches.length = 3 ∧
      run.2.session.world.host.sources.map OrderedMap.entries
        = some [("Enemy", "Enemy.cs"), ("Player", "Player.cs"), ("altgen", "altgen.toml")] := by
  decide +kernel

lemma fixesPaths_player :
    (TwoTargets.project.process ["Player.cs"] true).2.session.FixesPaths
      (TwoTargets.project.process ["Player.cs"] true).1.written := by
  obtain ⟨written, _, sources⟩ := process_player
  refine ⟨?_, DirectoryHost.forall_sourceOf? fun index built => ?_⟩
  · rw [written]
    decide
  · rw [built, Option.map_some, Option.some_inj] at sources
    rw [sources]
    decide

/-- In the project with two targets of one generator, a change of the player takes all three: its
note is written and the enemy put off; the first note is absorbed and the second written; and that
is absorbed. -/
theorem process_settles_player :
    let run := TwoTargets.project.process ["Player.cs"] true
    run.1.pending = [] ∧ run.1.batches.length = 3 ∧ run.1.written.length = 2 ∧
      ∀ path ∈ run.1.written, path ∉ run.2.session.engine.suppressed := by
  have attached : TwoTargets.project.session.Attached :=
    attached_load TwoTargets.file TwoTargets.catalog TwoTargets.site
  obtain ⟨written, length, _⟩ := process_player
  obtain ⟨pending, _, settled⟩ := process_settles attached rfl fixesPaths_player
  exact ⟨pending, length, by rw [written]; rfl, settled⟩

end Project

end SourceGen
