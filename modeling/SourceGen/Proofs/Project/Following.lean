import SourceGen.Project.Basic
import SourceGen.Proofs.Host.Directory

/-!
# Following reimports

Processing paths with the reimports followed is a run of unforced batches on one session: each takes
the requests of the one before (`Session.next`). What matters of the session is that its host knows
the types of its registry (`Session.Attached`), which holds when a project is loaded and after every
batch.

A batch on such a session asks for two kinds of reimports. Its outputs are waiting then, and the
sources that it puts off are on the list of deferred ones, each known to the host as the source of a
registered target (`Attached.deferral_of_reported`). A batch that only sees such paths fans out to
nothing (`Attached.pending_eq_nil`), and one that sees none runs nothing
(`Attached.silent_of_collected_eq_nil`).
-/

namespace SourceGen

namespace Session

/-- The host of a session fits its engine: it knows the types of the registry, and its index, if it
is built, is that of some sources. The two sets, the files and the requests may be any. -/
structure Attached (session : Session DirectoryHost) : Prop where
  discovered : session.engine.registry.Discovered
  observers : ∀ plugin ∈ session.engine.plugins, plugin.AppendsOnly
  types : session.world.host.types
    = (DirectoryHost.ofRegistry session.world.host.root session.engine.registry).types
  sources : session.world.host.IsIndexed

/-- The reimports that the batch of a notification asks for: its outputs, and the sources it puts
off. -/
def requests (session : Session DirectoryHost) (paths : List String) : List String :=
  (Batch.run session paths false).report.written ++ (Batch.run session paths false).report.deferred

/-- The session after the batch of a notification, with its requests taken. -/
def next (session : Session DirectoryHost) (paths : List String) : Session DirectoryHost :=
  (Batch.run session paths false).session.takeReimports.2

end Session

namespace Project

open Session

lemma attached_load (file : ManifestFile) (catalog : Catalog) (site : Site) :
    (load file catalog site).session.Attached where
  discovered := ⟨catalog, _, rfl⟩
  observers _ listed := absurd listed List.not_mem_nil
  types := rfl
  sources _ built := nomatch built

lemma fresh_load (file : ManifestFile) (catalog : Catalog) (site : Site) :
    (load file catalog site).session.engine.suppressed = ∅ ∧
      (load file catalog site).session.engine.deferred = ∅ ∧
      (load file catalog site).session.world.host.reimports = [] :=
  ⟨rfl, rfl, rfl⟩

end Project

namespace Session

open Batch

variable {session : Session DirectoryHost} {paths : List String}

/-! ## The host after a batch -/

lemma Attached.reimports (attached : session.Attached) (idle : session.world.host.reimports = []) :
    (Batch.run session paths false).host.reimports = session.requests paths := by
  rw [requests, host_run attached.observers, idle, List.nil_append]

lemma reimports_next (session : Session DirectoryHost) (paths : List String) :
    (session.next paths).world.host.reimports = [] := by
  have taken : ∀ batch : Batch DirectoryHost, batch.session.takeReimports.2.world.host.reimports
      = [] :=
    fun _ => rfl
  rw [Session.next, taken]

lemma engine_next (session : Session DirectoryHost) (paths : List String) :
    (session.next paths).engine = (Batch.run session paths false).engine := by
  have taken : ∀ batch : Batch DirectoryHost, batch.session.takeReimports.2.engine = batch.engine :=
    fun _ => rfl
  rw [Session.next, taken]

/-- Only the two sets of the engine change from batch to batch. -/
lemma foundation_next (session : Session DirectoryHost) (paths : List String) :
    (session.next paths).engine.root = session.engine.root ∧
      (session.next paths).engine.settings = session.engine.settings ∧
      (session.next paths).engine.registry = session.engine.registry ∧
      (session.next paths).engine.plugins = session.engine.plugins := by
  rw [engine_next]
  exact engine_run session paths false

/-- Of a host, a batch changes nothing but the requests, which are taken, and the index, which is
built when a declaration is pending. -/
lemma Attached.host_next (attached : session.Attached) :
    (session.next paths).world.host
      = { session.world.host with
          sources :=
            if (ranDirect session paths false).pending.isEmpty then session.world.host.sources
            else some (ranDirect session paths false).sourceIndex
          reimports := [] } := by
  have taken : ∀ batch : Batch DirectoryHost,
      batch.session.takeReimports.2.world.host = { batch.host with reimports := [] } := fun _ => rfl
  rw [Session.next, taken, host_run attached.observers, host_ranCascaded]
  split <;> rfl

lemma Attached.next (attached : session.Attached) : (session.next paths).Attached := by
  obtain ⟨_, _, registry, plugins⟩ := foundation_next session paths
  refine ⟨?_, ?_, ?_, ?_⟩
  · rw [registry]
    exact attached.discovered
  · rw [plugins]
    exact attached.observers
  · rw [registry, attached.host_next]
    exact attached.types
  · rw [attached.host_next]
    intro index built
    dsimp only at built
    split at built
    · exact attached.sources index built
    · rw [← Option.some.inj built, sourceIndex, host_ranDirect]
      exact (DirectoryHost.isIndexed_indexed attached.sources _).2

/-- The index in which a batch looks sources up is the one it leaves. -/
lemma Attached.sources_of_pending (attached : session.Attached)
    (pending : (ranDirect session paths false).pending ≠ []) :
    (session.next paths).world.host.sources = some (ranDirect session paths false).sourceIndex := by
  rw [attached.host_next]
  exact if_neg (by rwa [List.isEmpty_iff])

lemma Attached.sources_next (attached : session.Attached) {index : OrderedMap String String}
    (built : session.world.host.sources = some index) :
    (session.next paths).world.host.sources = some index := by
  rw [attached.host_next]
  dsimp only
  split
  · exact built
  · rw [sourceIndex, host_ranDirect, DirectoryHost.indexed_of_built built]

/-! ## What is put off -/

/-- A source that is put off is that of a pending declaration, is admitted, and is on the list of
deferred ones. -/
theorem Attached.deferral_of_reported (attached : session.Attached) {path : String}
    (reported : path ∈ (Batch.run session paths false).report.deferred) :
    path ∈ (session.next paths).engine.deferred ∧
      session.engine.settings.isAutomaticSource path = true ∧
      ∃ id ∈ (ranDirect session paths false).pending, ∃ source,
        (session.next paths).world.host.sourceOf? id.target = some source ∧
          SourcePath.normalize source = path := by
  have indexed := attached.discovered.indexed
  have idle : Host.isBuilding (ranCascaded session paths false).host = false := rfl
  have listed : path ∈ (ranCascaded session paths false).deferred := by
    rwa [announced_run attached.observers, idle] at reported
  refine ⟨?_, ?_⟩
  · rw [engine_next, deferred_run, idle]
    exact OrderedSet.mem_insertAll.mpr (.inr listed)
  · cases decided : (ranDirect session paths false).runsNow with
    | true =>
      rw [(ranCascaded_now indexed decided).2.2] at listed
      exact absurd listed (OrderedSet.not_mem_empty path)
    | false =>
      rw [(ranCascaded_later indexed decided).2.2.1, putOff_ranDirect rfl, OrderedSet.mem_ofList,
        List.mem_filterMap] at listed
      obtain ⟨id, pending, put⟩ := listed
      rw [located_turn, Option.filter_eq_some_iff, Option.map_eq_some_iff] at put
      obtain ⟨⟨source, found, same⟩, admitted⟩ := put
      refine ⟨admitted, id, pending, source, ?_, same⟩
      have built := attached.sources_of_pending (List.ne_nil_of_mem pending)
      exact Option.bind_eq_some_iff.mpr ⟨_, built, found⟩

/-- A batch fans out to nothing when all it collects are deferred sources of targets. -/
theorem Attached.pending_eq_nil (attached : session.Attached)
    (echoes : ∀ path ∈ (gathered session paths false).collected,
      path ∈ session.engine.deferred ∧ ∃ target, session.engine.registry.isTarget target = true ∧
        SourcePath.fileStem path = target.shortName) :
    (ranDirect session paths false).pending = [] := by
  have nothing : ∀ id, id ∉ (resolved session paths false).cascaded := by
    intro id cascaded
    obtain ⟨path, collected, calls⟩ := (mem_cascaded_resolved session paths false).mp cascaded
    obtain ⟨put, target, registered, stem⟩ := echoes path collected
    have hit : path ∈ (resolved session paths false).deferredHits := by
      rw [deferredHits_resolved]
      exact mem_deferredHits_gathered.mpr ⟨collected, put⟩
    obtain ⟨other, known, isTarget⟩ :=
      DirectoryHost.isTarget_of_get? session.world.host.root registered
    rw [besides, pathExists_resolved] at calls
    split at calls
    · next present =>
      rw [meaning_of_stem collected present, attached.types, stem, known, registry_resolved,
        forced_resolved, decide_eq_true hit, besidesFor_of_isTarget isTarget] at calls
      exact List.not_mem_nil calls
    · cases calls
  exact List.eq_nil_iff_forall_not_mem.mpr fun id pending =>
    nothing id (mem_pending_ranDirect.mp pending).1

/-- With nothing pending, nothing is put off, and only direct declarations run. -/
lemma Attached.run_of_pending_eq_nil (attached : session.Attached)
    (nothing : (ranDirect session paths false).pending = []) :
    (Batch.run session paths false).report.deferred = [] ∧
      (Batch.run session paths false).report.ran = (ranDirect session paths false).direct.keys := by
  constructor
  · refine List.eq_nil_iff_forall_not_mem.mpr fun path reported => ?_
    obtain ⟨_, _, id, pending, _⟩ := attached.deferral_of_reported reported
    exact List.not_mem_nil (nothing ▸ pending)
  · obtain ⟨more, sublist, ran⟩ : ∃ more,
      List.Sublist more (ranDirect session paths false).pending ∧ _ :=
      ran_run attached.observers attached.discovered.indexed
    rw [nothing, List.sublist_nil] at sublist
    rw [ran, sublist, List.append_nil]

lemma collected_nil (session : Session DirectoryHost) :
    (gathered session [] false).collected = [] := by
  refine List.eq_nil_iff_forall_not_mem.mpr fun path collected => ?_
  obtain ⟨_, _, listed, _⟩ := mem_distinctPaths.mp (mem_collected_gathered.mp collected).1
  exact List.not_mem_nil listed

/-- A batch that collects nothing does nothing. -/
theorem Attached.silent_of_collected_eq_nil (attached : session.Attached)
    (nothing : (gathered session paths false).collected = []) :
    (Batch.run session paths false).report.written = [] ∧
      (Batch.run session paths false).report.deferred = [] ∧
      (Batch.run session paths false).report.ran = [] := by
  obtain ⟨direct, _, _⟩ := resolved_spec session paths false
  rw [nothing] at direct
  have none : (ranDirect session paths false).pending = [] :=
    attached.pending_eq_nil fun path collected => absurd collected (nothing ▸ List.not_mem_nil)
  obtain ⟨deferred, ran⟩ := attached.run_of_pending_eq_nil none
  refine ⟨?_, deferred, ?_⟩
  · have written : (ranCascaded session paths false).written = ∅ := by
      rw [ranCascaded, runCascaded, none, List.foldl_nil, ranDirect, runDirect, direct]
      exact written_resolved
    rw [written_run attached.observers, written]
    rfl
  · rw [ran, direct_ranDirect, direct]
    rfl

end Session

namespace Project

open Session

variable {paths : List String} {session : Session DirectoryHost}

/-! ## The run as a list of batches -/

lemma onFilesChanged_eq (session : Session DirectoryHost) (paths : List String) :
    session.onFilesChanged paths
      = ((Batch.run session paths false).report, (Batch.run session paths false).session) :=
  rfl

lemma takeReimports_eq (batch : Batch DirectoryHost) :
    batch.session.takeReimports = (batch.host.reimports, batch.session.takeReimports.2) :=
  rfl

lemma follow_of_nil (more : Nat) (attached : session.Attached)
    (idle : session.world.host.reimports = []) (silent : session.requests paths = []) :
    follow more paths session = (⟨[(Batch.run session paths false).report], []⟩,
      session.next paths) := by
  cases more with
  | zero =>
    rw [follow, onFilesChanged_eq]
    dsimp only
    rw [takeReimports_eq, attached.reimports idle, silent, next]
  | succ more =>
    rw [follow, onFilesChanged_eq]
    dsimp only
    rw [takeReimports_eq, attached.reimports idle, silent, next]
    exact if_pos rfl

/-- The requests of a batch are followed as long as batches are left. -/
lemma follow_succ {more : Nat} (attached : session.Attached)
    (idle : session.world.host.reimports = []) (requests : session.requests paths ≠ []) :
    follow (more + 1) paths session
      = (⟨(Batch.run session paths false).report
            :: (follow more (session.requests paths) (session.next paths)).1.batches,
          (follow more (session.requests paths) (session.next paths)).1.pending⟩,
        (follow more (session.requests paths) (session.next paths)).2) := by
  rw [follow, onFilesChanged_eq]
  dsimp only
  rw [takeReimports_eq, attached.reimports idle, next]
  dsimp only
  rw [if_neg (by rwa [List.isEmpty_iff])]

end Project

end SourceGen
