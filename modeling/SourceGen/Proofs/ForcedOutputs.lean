import SourceGen.Proofs.Batch.Forcing
import SourceGen.Proofs.Host.Directory
import SourceGen.Proofs.Manifest.Names

/-!
# The outputs of a forced run are absorbed

Regenerating a target by force takes two batches. The forced one writes whatever the target calls
for and asks for the reimport of each output; the requests are taken, and one more batch is notified
of them, whose report nobody reads. Nothing gets lost in it. A forced batch puts nothing off, so
the requests are its outputs (`Session.Forced`), and each of these waits for its reimport; so the
second batch absorbs them all before it would look at any filter, and then has nothing to do
(`Session.Forced.followed`).

What carries the induction over the arguments is that no reimport is outstanding between two of
them.
-/

namespace SourceGen

namespace Session

open Batch

/-! ## A forced run -/

/-- What a forced run leaves behind: its outputs wait for their reimport, which is requested, and
nothing else is put off or requested. -/
structure Forced (before : Session DirectoryHost) (report : BatchReport)
    (after : Session DirectoryHost) :
    Prop where
  plugins : after.engine.plugins = before.engine.plugins
  suppressed : after.engine.suppressed = before.engine.suppressed.insertAll report.written
  deferred : ∀ path ∈ after.engine.deferred, path ∈ before.engine.deferred
  reimports : after.world.host.reimports = before.world.host.reimports ++ report.written
  distinct : report.written.Nodup
  named : "" ∉ report.written

/-- A question for the source of a type changes no more of a host than its index. -/
lemma reimports_pathOfType (host : DirectoryHost) (files : FileSystem) (type : TypeName) :
    (Host.pathOfType host files type).2.reimports = host.reimports :=
  (congrArg DirectoryHost.reimports (DirectoryHost.indexed_eq host files) :)

section

variable {session : Session DirectoryHost}
  (observers : ∀ plugin ∈ session.engine.plugins, plugin.AppendsOnly)

include observers

lemma forced_batch (paths : List String) :
    Forced session (run session paths true).report (run session paths true).session := by
  have plugins := (engine_run session paths true).2.2.2
  have waiting : (run session paths true).engine.suppressed = _ := suppressed_run observers
  have deferred : ∀ path ∈ (run session paths true).engine.deferred,
      path ∈ session.engine.deferred :=
    fun path => deferred_run_of_forced
  have requests : (run session paths true).host.reimports = _ :=
    congrArg DirectoryHost.reimports (host_run observers)
  have named : "" ∉ (run session paths true).report.written := empty_not_mem_written observers
  have distinct : (run session paths true).report.written.Nodup := by
    rw [written_run observers]
    exact OrderedSet.nodup _
  have silent : (run session paths true).report.deferred = [] := by
    rw [announced_run observers, deferred_of_forced, OrderedSet.toList_empty, ite_self]
  have idle : Host.isBuilding (ranCascaded session paths true).host = false := rfl
  rw [idle, if_neg Bool.false_ne_true, suppressed_of_forced] at waiting
  rw [silent, List.append_nil] at requests
  generalize run session paths true = batch at *
  exact ⟨plugins, waiting, deferred, requests, distinct, named⟩

lemma forced_forceType (type : TypeName) :
    Forced session (session.forceType type).1 (session.forceType type).2 := by
  have kept := reimports_pathOfType session.world.host session.world.site.files type
  unfold forceType
  generalize Host.pathOfType session.world.host session.world.site.files type = answer at kept ⊢
  obtain ⟨path | path, host⟩ := answer
  · exact ⟨rfl, rfl, fun path =>
      id, kept.trans (List.append_nil _).symm, List.nodup_nil, List.not_mem_nil⟩
  · have known :
        ∀ plugin ∈ ({ session with world.host := host } : Session DirectoryHost).engine.plugins,
        plugin.AppendsOnly := observers
    have batch := forced_batch known [path]
    dsimp only [runBatch]
    generalize run { session with world.host := host } [path] true = last at batch ⊢
    have reimports := batch.reimports.trans (congrArg (· ++ _) kept)
    exact ⟨batch.plugins, batch.suppressed, batch.deferred, reimports, batch.distinct, batch.named⟩

end

/-! ## The batch that follows -/

/-- Outputs wait no longer and nothing is outstanding, and no source has come to be put off. -/
structure Settles (before : Session DirectoryHost) (written : List String)
    (after : Session DirectoryHost) :
    Prop where
  plugins : after.engine.plugins = before.engine.plugins
  suppressed : ∀ path ∈ after.engine.suppressed, path ∈ before.engine.suppressed ∧ path ∉ written
  deferred : ∀ path ∈ after.engine.deferred, path ∈ before.engine.deferred
  reimports : after.world.host.reimports = []

lemma Settles.refl {session : Session DirectoryHost} (idle : session.world.host.reimports = []) :
    Settles session [] session :=
  ⟨rfl, fun _ waits => ⟨waits, List.not_mem_nil⟩, fun _ => id, idle⟩

lemma Settles.trans {before between after : Session DirectoryHost} {written more : List String}
    (first : Settles before written between) (second : Settles between more after) :
    Settles before (written ++ more) after where
  plugins := second.plugins.trans first.plugins
  suppressed path waits := by
    obtain ⟨waited, later⟩ := second.suppressed path waits
    obtain ⟨began, earlier⟩ := first.suppressed path waited
    exact ⟨began, fun listed => (List.mem_append.mp listed).elim earlier later⟩
  deferred path put := first.deferred path (second.deferred path put)
  reimports := second.reimports

namespace Forced

variable {before after : Session DirectoryHost} {report : BatchReport}
  (forced : Forced before report after)

include forced

lemma requests (idle : before.world.host.reimports = []) :
    after.takeReimports.1 = report.written := by
  have requested := forced.reimports
  rwa [idle, List.nil_append] at requested

variable (observers : ∀ plugin ∈ before.engine.plugins, plugin.AppendsOnly)
  (normal : ∀ path ∈ report.written, SourcePath.normalize path = path)

include normal

/-- The batch that is notified of the outputs absorbs them, so it has nothing to do. -/
lemma gathered_followed :
    gathered after.takeReimports.2 report.written false
      = { start after.takeReimports.2 false with
          session.engine.suppressed := after.engine.suppressed.eraseAll report.written
          report.suppressed := report.written } := by
  refine gathered_of_waiting forced.distinct forced.named normal fun path listed => ?_
  have waits : path ∈ after.engine.suppressed := by
    rw [forced.suppressed]
    exact OrderedSet.mem_insertAll.mpr (.inr listed)
  exact waits

lemma collected_followed :
    (gathered after.takeReimports.2 report.written false).collected = [] := by
  rw [forced.gathered_followed normal]
  rfl

lemma diagnostics_followed (bare : before.engine.plugins = []) :
    (run after.takeReimports.2 report.written false).report.diagnostics = [] := by
  have bare : after.takeReimports.2.engine.plugins = [] := forced.plugins.trans bare
  rw [run_of_plugins_eq_nil bare, requested_of_collected_eq_nil (forced.collected_followed normal),
    forced.gathered_followed normal]
  rfl

include observers

/-- What that batch leaves, plugins apart, is what gathering its paths has left. -/
lemma view_followed {γ : Type} (view : Batch DirectoryHost → γ)
    (blind : ∀ batch : Batch DirectoryHost, view batch.quiet = view batch) :
    view (run after.takeReimports.2 report.written false)
      = view { start after.takeReimports.2 false with
          session.engine.suppressed := after.engine.suppressed.eraseAll report.written
          report.suppressed := report.written } := by
  rw [view_run_of_collected_eq_nil (forced.plugins ▸ observers) (forced.collected_followed normal)
    view blind,
    forced.gathered_followed normal]

/-- **The batch that follows a forced run** absorbs its outputs, and does nothing else. -/
theorem followed (idle : before.world.host.reimports = []) :
    let requests := after.takeReimports.1
    let taken := after.takeReimports.2
    let followUp := taken.onFilesChanged requests
    requests = report.written ∧
      { followUp.1 with diagnostics := [] } = { forced := false, suppressed := report.written } ∧
      (before.engine.plugins = [] → followUp.1.diagnostics = []) ∧
      followUp.2.world.site = taken.world.site ∧ followUp.2.world.host = taken.world.host ∧
      followUp.2.engine = { taken.engine with
        suppressed := taken.engine.suppressed.eraseAll report.written } := by
  have reported := forced.view_followed observers normal
    (fun batch => { batch.report with diagnostics := [] }) fun _ => rfl
  have site :=
    forced.view_followed observers normal (fun batch => batch.session.world.site) fun _ => rfl
  have host := forced.view_followed observers normal Batch.host fun _ => rfl
  have engine := forced.view_followed observers normal Batch.engine fun _ => rfl
  have told := forced.diagnostics_followed normal
  intro requests taken followUp
  have same : requests = report.written := forced.requests idle
  have ran : followUp = ((run taken report.written false).report,
      (run taken report.written false).session) := by
    rw [← same]
    rfl
  rw [ran]
  generalize run taken report.written false = batch at *
  exact ⟨same, reported, told, site, host, engine⟩

lemma settles (idle : before.world.host.reimports = []) :
    Settles before report.written
      (if after.takeReimports.1.isEmpty then after.takeReimports.2
        else (after.takeReimports.2.onFilesChanged after.takeReimports.1).2) := by
  obtain ⟨requests, _, _, _, host, engine⟩ := forced.followed observers normal idle
  split
  · next none =>
    have none : report.written = [] := requests.symm.trans (List.isEmpty_iff.mp none)
    have suppressed : after.engine.suppressed = before.engine.suppressed := by
      rw [forced.suppressed, none]
      rfl
    refine ⟨forced.plugins, fun path waits => ⟨suppressed ▸ waits, ?_⟩, forced.deferred, rfl⟩
    rw [none]
    exact List.not_mem_nil
  · generalize after.takeReimports.2.onFilesChanged after.takeReimports.1
      = followUp at host engine ⊢
    refine ⟨engine ▸ forced.plugins, fun path waits => ?_, fun path put => ?_, host ▸ rfl⟩
    · rw [engine] at waits
      obtain ⟨waits, spared⟩ := OrderedSet.mem_eraseAll.mp waits
      have began : path ∈ before.engine.suppressed.insertAll report.written :=
        forced.suppressed ▸ waits
      exact ⟨(OrderedSet.mem_insertAll.mp began).resolve_right spared, spared⟩
    · rw [engine] at put
      exact forced.deferred path put

end Forced

end Session

namespace Project

open Session

/-! ## All arguments -/

/-- The forced run of one argument. -/
def forcedRun (session : Session DirectoryHost) (target : String) :
    BatchReport × Session DirectoryHost :=
  if isPath session target then session.forcePaths [target] else session.forceType ⟨target⟩

lemma forceOne_eq (session : Session DirectoryHost) (target : String) :
    forceOne session target = (⟨target, (forcedRun session target).1⟩,
      if (forcedRun session target).2.takeReimports.1.isEmpty then (forcedRun
        session target).2.takeReimports.2
      else ((forcedRun session target).2.takeReimports.2.onFilesChanged
        (forcedRun session target).2.takeReimports.1).2) :=
  rfl

lemma forced_forcedRun {session : Session DirectoryHost}
    (observers : ∀ plugin ∈ session.engine.plugins, plugin.AppendsOnly) (target : String) :
    Forced session (forcedRun session target).1 (forcedRun session target).2 := by
  unfold forcedRun
  split
  · have batch := forced_batch observers [target]
    dsimp only [forcePaths, runBatch]
    generalize Batch.run session [target] true = last at batch ⊢
    exact batch
  · exact forced_forceType observers ⟨target⟩

lemma settles_forceOne {session : Session DirectoryHost}
    (observers : ∀ plugin ∈ session.engine.plugins, plugin.AppendsOnly)
    (idle : session.world.host.reimports = []) {target : String}
    (normal : ∀ path ∈ (forceOne session target).1.report.written,
      SourcePath.normalize path = path) :
    Settles session (forceOne session target).1.report.written (forceOne session target).2 := by
  rw [forceOne_eq] at normal ⊢
  exact (forced_forcedRun observers target).settles observers normal idle

lemma forceAll_append (targets more : List String) (session : Session DirectoryHost) :
    forceAll (targets ++ more) session
      = ((forceAll targets session).1 ++ (forceAll more (forceAll targets session).2).1,
        (forceAll more (forceAll targets session).2).2) := by
  induction targets generalizing session with
  | nil => rfl
  | cons target rest ih =>
    have later := ih (forceOne session target).2
    rw [List.cons_append, forceAll]
    dsimp only
    rw [later]
    rfl

lemma length_forceAll (targets : List String) (session : Session DirectoryHost) :
    (forceAll targets session).1.length = targets.length := by
  induction targets generalizing session with
  | nil => rfl
  | cons target rest ih =>
    rw [forceAll]
    exact congrArg Nat.succ (ih _)

/-- Whatever is written on the way has been absorbed at the end. -/
theorem settles_forceAll (targets : List String) {session : Session DirectoryHost}
    (observers : ∀ plugin ∈ session.engine.plugins, plugin.AppendsOnly)
    (idle : session.world.host.reimports = [])
    (normal : ∀ run ∈ (forceAll targets session).1, ∀ path ∈ run.report.written,
      SourcePath.normalize path = path) :
    Settles session ((forceAll targets session).1.flatMap fun run => run.report.written)
      (forceAll targets session).2 := by
  induction targets generalizing session with
  | nil => exact Settles.refl idle
  | cons target rest ih =>
    have first := settles_forceOne observers idle (normal _ List.mem_cons_self)
    have others : Settles _ _ (forceAll rest (forceOne session target).2).2 :=
      ih (first.plugins ▸ observers) first.reimports fun run listed =>
        normal run (List.mem_cons_of_mem _ listed)
    exact first.trans others

/-- **The outputs of forced runs are absorbed.** Let arguments be regenerated by force on a project
whose plugins, if it has any, only append diagnostics, and whose host has no reimport outstanding;
and let every output written be normal. Then for each argument the reimports requested by its
forced run are those of its outputs; the batch that follows, if there are any, reports that it
absorbs them, and reports nothing else but what plugins add. It changes no file, asks no generator,
and leaves the host as it was. In the end no reimport is outstanding, no output that was written
waits for one, and nothing is put off that was not before. -/
theorem forced_outputs_absorbed {project : Project} {targets : List String}
    (observers : ∀ plugin ∈ project.session.engine.plugins, plugin.AppendsOnly)
    (idle : project.session.world.host.reimports = [])
    (normal : ∀ run ∈ (project.force targets).1, ∀ path ∈ run.report.written,
      SourcePath.normalize path = path) :
    (∀ before target after, targets = before ++ target :: after →
      let session := (forceAll before project.session).2
      let forced := forcedRun session target
      let requests := forced.2.takeReimports.1
      let taken := forced.2.takeReimports.2
      let followUp := taken.onFilesChanged requests
      (project.force targets).1[before.length]? = some ⟨target, forced.1⟩ ∧
        (forceOne session target).2 = (if requests.isEmpty then taken else followUp.2) ∧
        requests = forced.1.written ∧
        { followUp.1 with diagnostics := [] }
          = { forced := false, suppressed := forced.1.written } ∧
        (project.session.engine.plugins = [] → followUp.1.diagnostics = []) ∧
        followUp.2.world.site = taken.world.site ∧ followUp.2.world.host = taken.world.host) ∧
    let last := (project.force targets).2.session
    last.world.host.reimports = [] ∧
      (∀ run ∈ (project.force targets).1, ∀ path ∈ run.report.written,
        path ∉ last.engine.suppressed) ∧
      ∀ path ∈ last.engine.deferred, path ∈ project.session.engine.deferred := by
  have runs : (project.force targets).1 = (forceAll targets project.session).1 := rfl
  rw [runs] at normal ⊢
  refine ⟨fun before target after split => ?_, ?_⟩
  · subst split
    rw [forceAll_append] at normal ⊢
    have earlier := settles_forceAll before observers idle fun run listed =>
      normal run (List.mem_append_left _ listed)
    set session := (forceAll before project.session).2 with reached
    have forced :=
      forced_forcedRun (earlier.plugins ▸ observers : ∀ plugin ∈ session.engine.plugins, _) target
    have normal : ∀ path ∈ (forcedRun session target).1.written, SourcePath.normalize path = path :=
      normal _ (List.mem_append_right _ List.mem_cons_self)
    obtain ⟨requests, reported, told, site, host, _⟩ :=
      forced.followed (earlier.plugins ▸ observers) normal earlier.reimports
    refine ⟨?_, rfl, requests, reported, fun bare => told (earlier.plugins.trans bare), site, host⟩
    rw [List.getElem?_append_right (Nat.le_of_eq (length_forceAll before _)), length_forceAll,
      Nat.sub_self]
    rfl
  · have last := settles_forceAll targets observers idle normal
    refine ⟨last.reimports, fun run listed path written waits => ?_, last.deferred⟩
    exact (last.suppressed path waits).2 (List.mem_flatMap.mpr ⟨run, listed, written⟩)

/-- The project with two targets of one generator and with a plugin that leaves notes, with
automatic generation turned off. -/
def manualProject : Project :=
  { TwoTargets.project with
    session.engine.settings.autoEmit := false
    session.engine.plugins := [.noting] }

/-- A type that has no source, and the path of the player. -/
def manualTargets : List String :=
  ["App.Gone", "Player.cs"]

/-- Forced for these two, the project writes both notes, and neither of them waits at the end. -/
theorem forced_outputs_absorbed_player :
    let notes := ["altgen.g/Note.Player.Note.g.txt", "altgen.g/Note.Enemy.Note.g.txt"]
    ((manualProject.force manualTargets).1.map fun run => run.report.written) = [[], notes] ∧
      (manualProject.force manualTargets).2.session.world.host.reimports = [] ∧
      ∀ note ∈ notes, note ∉ (manualProject.force manualTargets).2.session.engine.suppressed := by
  intro notes
  have written : ((manualProject.force manualTargets).1.map fun run => run.report.written)
      = [[], notes] := by
    decide +kernel
  have normal : ∀ run ∈ (manualProject.force manualTargets).1, ∀ path ∈ run.report.written,
      SourcePath.normalize path = path := by
    have fixed : ∀ outputs ∈ [[], notes], ∀ path ∈ outputs, SourcePath.normalize path = path := by
      decide +kernel
    exact fun run listed => fixed run.report.written (written ▸ List.mem_map_of_mem listed)
  have observers : ∀ plugin ∈ manualProject.session.engine.plugins, plugin.AppendsOnly :=
    List.forall_mem_singleton.mpr Plugin.appendsOnly_noting
  obtain ⟨_, idle, absorbed, _⟩ := forced_outputs_absorbed observers rfl normal
  refine ⟨written, idle, fun note listed => ?_⟩
  obtain ⟨run, ran, same⟩ :
      ∃ run ∈ (manualProject.force manualTargets).1, run.report.written = notes :=
    List.mem_map.mp (written ▸ List.mem_cons_of_mem _ List.mem_cons_self)
  exact absorbed run ran note (same ▸ listed)

end Project

end SourceGen
