import SourceGen.Proofs.Batch.Attempts
import SourceGen.Proofs.Batch.Forcing
import SourceGen.Proofs.Discoveries
import SourceGen.Proofs.Host.SourceIndex

/-!
# The announced output is the written one

Where the output of a declaration goes is computed three times over: for the list of a project and
for the question after one target from the source that the host names, once normalized inside
`SourcePath.output`; and when the declaration runs, from the path that a batch has collected, which
is normalized when it is notified, again when the request is made, and the output once more when the
generator has replied. These agree when the source is normal, since the output path of a normal
source is normal (`Registration.normalize_outputPath`).

What is left to see is that a forced batch for a target runs the declarations of that target for
that very source. All of them are direct, and none of them comes in by a cascade, since a target is
never among the siblings that its change fans out to (`Session.source_of_forced`).

A plugin may rewrite the report, so that an output is reported depends on the plugins taking none
off it (`Plugin.KeepsWritten`).
-/

namespace SourceGen

open Batch

/-! ## Plugins that take no output off the report -/

/-- The plugin takes no output off the report. -/
def Plugin.KeepsWritten (plugin : Plugin) : Prop :=
  ∀ earlier point report, report.written ⊆ (plugin.hook earlier point report).1.written

lemma Plugin.AppendsOnly.keepsWritten {plugin : Plugin} (observes : plugin.AppendsOnly) :
    plugin.KeepsWritten := by
  intro earlier point report
  obtain ⟨added, hook⟩ := observes earlier point report
  rw [hook]
  exact List.Subset.refl _

lemma Plugin.KeepsWritten.call {plugin : Plugin} (keeps : plugin.KeepsWritten)
    (earlier : List HookCall) (point : HookPoint) (report : BatchReport) :
    report.written ⊆ (plugin.call earlier point report).written := by
  have kept := keeps earlier point report
  unfold Plugin.call
  split
  · next same =>
    rw [same] at kept
    exact kept
  · next same =>
    rw [same] at kept
    exact kept

namespace Batch

variable {H : Type}

lemma written_callPlugins {batch : Batch H}
    (keeps : ∀ plugin ∈ batch.engine.plugins, plugin.KeepsWritten) (point : HookPoint) :
    batch.report.written ⊆ (batch.callPlugins point).report.written := by
  unfold callPlugins
  revert keeps
  generalize batch.engine.plugins = plugins
  intro keeps
  induction plugins generalizing batch with
  | nil => exact List.Subset.refl _
  | cons plugin rest ih =>
    obtain ⟨first, others⟩ := List.forall_mem_cons.mp keeps
    exact List.Subset.trans (first.call _ point batch.report)
      (@ih (batch.callPlugin point plugin) others)

/-- The batches agree but for their reports, and the first reports all outputs that the second
reports. -/
structure Outtells (batch plain : Batch H) : Prop where
  same : batch.mute = plain.mute
  written : plain.report.written ⊆ batch.report.written

lemma Outtells.engine_eq {batch plain : Batch H} (outtells : batch.Outtells plain) :
    batch.engine = plain.engine :=
  view_of_mute Batch.engine (fun _ => rfl) outtells.same

lemma Outtells.callPlugins {batch plain : Batch H} (outtells : batch.Outtells plain)
    (keeps : ∀ plugin ∈ plain.engine.plugins, plugin.KeepsWritten) (point : HookPoint) :
    (batch.callPlugins point).Outtells plain := by
  rw [← outtells.engine_eq] at keeps
  exact ⟨(mute_callPlugins point batch).trans outtells.same,
    List.Subset.trans outtells.written (written_callPlugins keeps point)⟩

/-- A framed step adds the same outputs to both reports. -/
lemma Framed.outtells {step : Batch H → Batch H} (framed : Framed step) {batch plain : Batch H}
    (outtells : batch.Outtells plain) : (step batch).Outtells (step plain) := by
  have added : ∀ batch : Batch H,
      (step batch).report.written = batch.report.written ++ (step batch.mute).report.written := by
    intro batch
    rw [framed.eq_under_mute batch]
    rfl
  refine ⟨by rw [framed.mute, outtells.same, ← framed.mute], ?_⟩
  rw [added batch, added plain, outtells.same]
  exact List.append_subset.mpr ⟨List.Subset.trans outtells.written (List.subset_append_left _ _),
    List.subset_append_right _ _⟩

lemma Outtells.runPhase {work : Batch H → Batch H} (framed : Framed work)
    (founded : Keeps foundation work) {batch plain : Batch H} (outtells : batch.Outtells plain)
    (keeps : ∀ plugin ∈ plain.engine.plugins, plugin.KeepsWritten) (phase : Phase) :
    (batch.runPhase phase work).Outtells (work plain) := by
  have worked := framed.outtells (outtells.callPlugins keeps (.before phase))
  have plugins : (work plain).engine.plugins = plain.engine.plugins :=
    congrArg Foundation.plugins (founded plain)
  exact worked.callPlugins (by rwa [plugins]) (.after phase)

/-- A phase whose work adds nothing to the outputs reported takes none off either. -/
lemma written_runPhase {work : Batch H → Batch H} (founded : Keeps foundation work)
    (same : ∀ batch, (work batch).report.written = batch.report.written) {batch : Batch H}
    (keeps : ∀ plugin ∈ batch.engine.plugins, plugin.KeepsWritten) (phase : Phase) :
    batch.report.written ⊆ (batch.runPhase phase work).report.written := by
  have before : (batch.callPlugins (.before phase)).engine.plugins = batch.engine.plugins :=
    congrArg Foundation.plugins (foundation_callPlugins (.before phase) batch)
  have worked : (work (batch.callPlugins (.before phase))).engine.plugins = batch.engine.plugins :=
    (congrArg Foundation.plugins (founded _)).trans before
  refine List.Subset.trans (written_callPlugins keeps (.before phase)) ?_
  rw [← same]
  exact written_callPlugins (by rwa [worked]) (.after phase)

section Run

variable [Host H] {session : Session H} {paths : List String} {forced : Bool}

/-- Up to its requests, a batch with plugins reports all outputs that one without reports. -/
lemma exists_outtells (paths : List String) (forced : Bool)
    (keeps : ∀ plugin ∈ session.engine.plugins, plugin.KeepsWritten) :
    ∃ four : Batch H, four.Outtells (ranCascaded session paths forced) ∧ run session paths forced
      = (four.runPhase .requestingReimport (work paths .requestingReimport)).runPhase .done
          (work paths .done) := by
  have kept : ∀ batch : Batch H, batch.foundation = (start session forced).foundation →
      ∀ plugin ∈ batch.engine.plugins, plugin.KeepsWritten := fun batch same => by
    have plugins : batch.engine.plugins = session.engine.plugins := congrArg Foundation.plugins same
    rwa [plugins]
  have begins : (start session forced).Outtells (start session forced) := ⟨rfl, List.Subset.refl _⟩
  have collected :=
    begins.runPhase (framed_collect paths) (foundation_work paths .collecting) keeps .collecting
  have resolved :=
    collected.runPhase framed_resolveTargets (foundation_work paths .resolvingTargets)
    (kept _ (foundation_collect paths _)) .resolvingTargets
  have direct := resolved.runPhase framed_runDirect (foundation_work paths .runningDirect)
    (kept _ foundation_resolved) .runningDirect
  have cascaded := direct.runPhase framed_runCascaded (foundation_work paths .runningCascaded)
    (kept _ foundation_ranDirect) .runningCascaded
  exact ⟨_, cascaded, rfl⟩

/-- **Whatever a batch has written is reported**, unless a plugin takes it off the report. -/
theorem written_subset_run (keeps : ∀ plugin ∈ session.engine.plugins, plugin.KeepsWritten) :
    (run session paths forced).written.toList ⊆ (run session paths forced).report.written := by
  obtain ⟨four, cascaded, whole⟩ := exists_outtells paths forced keeps
  have plugins : four.engine.plugins = session.engine.plugins := by
    have founded : (ranCascaded session paths forced).foundation
        = (start session forced).foundation :=
      (congrArg Plan.foundation (plan_runCascaded _)).trans foundation_ranDirect
    rw [cascaded.engine_eq]
    exact congrArg Foundation.plugins founded
  have requests : ∀ batch : Batch H, batch.requestReimports.report.written = batch.report.written :=
    fun batch =>
    congrArg Ledger.listed (ledger_requestReimports batch)
  have requested :
      (four.runPhase .requestingReimport (work paths .requestingReimport)).engine.plugins
      = four.engine.plugins :=
        congrArg Foundation.plugins (foundation_runPhase paths .requestingReimport four)
  rw [← plugins] at keeps
  have fifth :=
    written_runPhase (foundation_work paths .requestingReimport) requests keeps .requestingReimport
  rw [← requested] at keeps
  have sixth := written_runPhase (foundation_work paths .done) (fun _ => rfl) keeps .done
  rw [written_eq_ranCascaded, ← recorded_ranCascaded.listed, whole]
  exact List.Subset.trans cascaded.written (List.Subset.trans fifth sixth)

lemma reported_of_written {attempt : Attempt} (made : attempt ∈ session.attempts paths forced)
    {output : String} (wrote : attempt.outcome = .ok (.written output)) :
    output ∈ (run session paths forced).written ∧
      ((∀ plugin ∈ session.engine.plugins, plugin.KeepsWritten) →
        output ∈ (run session paths forced).report.written) := by
  have kept : output ∈ (run session paths forced).written := by
    rw [Session.written_attempts]
    exact OrderedSet.mem_ofList.mpr
      (List.mem_filterMap.mpr ⟨attempt, made, writtenPath?_eq_some_iff.mpr wrote⟩)
  exact ⟨kept, fun keeps => written_subset_run keeps (OrderedSet.mem_iff.mp kept)⟩

end Run

end Batch

/-! ## Generators that leave the output where it is -/

/-- The generator leaves the output where the request puts it. -/
def Generator.StaysPut (generator : Generator) : Prop :=
  ∀ earlier request keep context buffer,
    generator.emit earlier request = .finished keep context buffer →
      context.outputPath = request.context.outputPath

lemma Registration.path_of_written {registration : Registration}
    (stays : registration.generator.StaysPut) (composed : registration.outputName.Composed)
    {source : String} (normal : SourcePath.normalize source = source) {root : String}
    {settings : Settings} {forced : Bool} {site : Site} {path : String}
    (written : (registration.emit root settings forced source site).2 = .ok (.written path)) :
    path = registration.outputPath source := by
  have requested : (registration.request settings source).context.outputPath
      = registration.outputPath source := by
    rw [request, normal]
  obtain ⟨error, emitted⟩ | emitted | ⟨target, buffer, ⟨context, finished, _, rfl, _⟩, emitted⟩ :=
    registration.emit_cases root settings forced source site
  · rw [emitted] at written
    cases written
  · rw [emitted] at written
    cases written
  · rw [emitted] at written
    obtain ⟨rfl, _⟩ :=
      (registration.persist_eq_written_iff root forced site.files _ buffer path).mp written
    rw [stays _ _ _ _ _ finished, requested, normalize_outputPath composed normal]

/-! ## A forced batch on the source of a target -/

section Forced

variable {H : Type} {session : Session H} {target : TypeName} {path : String}
  (normal : SourcePath.normalize path = path)

include normal

lemma Batch.mem_collected_source {other : String} :
    other ∈ (gathered session [path] true).collected ↔ other ≠ "" ∧ other = path := by
  rw [collected_of_forced, mem_distinctPaths]
  simp [normal, eq_comm]

lemma Batch.collected_source (named : path ≠ "") :
    (gathered session [path] true).collected = [path] := by
  rw [collected_of_forced]
  exact distinctPaths_eq_self (List.nodup_singleton path) (by simpa using named.symm)
    (by simpa using normal)

variable [Host H] (registered : session.engine.registry.isTarget target = true)
  (present : (start session true).pathExists path = true)
  (authored : isGeneratedFileName (SourcePath.fileName path) = false)
  (declares : (Host.typeOfPath session.world.host session.world.site.files path).1 = some target)

include registered present authored declares

lemma Batch.meaning_source (named : path ≠ "") :
    (resolved session [path] true).meaning path = .direct target := by
  rw [meaning_resolved_of_first (collected_source normal named) present]
  rw [declares, Classification.ofAnswer, authored, if_neg Bool.false_ne_true, Bool.not_true,
    Bool.false_and, if_neg Bool.false_ne_true, Classification.ofType, if_pos registered]

/-- All declarations of the target are attempted for its source. -/
lemma Session.attempted_source (indexed : session.engine.registry.Indexed) (named : path ≠ "")
    {registration : Registration}
    (listed : registration ∈ session.engine.registry.forTarget target) :
    ∃ attempt ∈ session.attempts [path] true, attempt.registration = registration ∧
    attempt.source = path := by
  have calls : registration.id ∈ (resolved session [path] true).directly path := by
    rw [directly, pathExists_resolved, present, if_pos rfl,
      meaning_source normal registered present authored declares named, registry_resolved]
    exact List.mem_map_of_mem listed
  have scheduled : (resolved session [path] true).direct.get? registration.id = some path := by
    rw [get?_direct_resolved, collected_source normal named,
      List.find?_cons_of_pos (by simpa using calls)]
  rw [Registry.forTarget_eq_filter indexed] at listed
  have found := Registry.get?_of_mem_all indexed (List.mem_of_mem_filter listed)
  obtain ⟨attempt, made, _, same, source⟩ := Session.attempted_of_direct found scheduled
  exact ⟨attempt, made, same, source⟩

lemma Session.source_of_forced (indexed : session.engine.registry.Indexed) {attempt : Attempt}
    (made : attempt ∈ session.attempts [path] true)
    (own : attempt.registration.id.target = target) :
    attempt.source = path := by
  obtain ⟨id, found, ⟨_, scheduled⟩ | ⟨_, _, pending, _⟩⟩ := Session.scheduled_of_mem_attempts made
  · exact ((mem_collected_source normal).mp (collected_of_direct _ _ _ scheduled)).2
  · rw [indexed.keyed _ _ found] at own
    obtain ⟨cascaded, _⟩ := mem_pending_ranDirect.mp pending
    obtain ⟨other, collected, calls⟩ := (mem_cascaded_resolved _ _ _).mp cascaded
    obtain ⟨named, rfl⟩ := (mem_collected_source normal).mp collected
    -- A target is no sibling of its own.
    rw [besides, pathExists_resolved, present, if_pos rfl,
      meaning_source normal registered present authored declares named,
        registry_resolved, besidesFor] at calls
    split at calls
    · cases calls
    · obtain ⟨registration, _, sibling⟩ := List.mem_flatMap.mp calls
      exact absurd own ((mem_siblings indexed).mp sibling).2.2

/-- What the declarations of the target write goes to their output paths for its source, when their
generators leave it there. -/
lemma Session.path_of_forced (discovered : session.engine.registry.Discovered)
    (valid : ∀ type, session.engine.registry.isTarget type = true ∨
      session.engine.registry.isGenerator type = true → type.Valid)
    (stays : ∀ registration ∈ session.engine.registry.forTarget target,
      registration.generator.StaysPut)
    {attempt : Attempt} (made : attempt ∈ session.attempts [path] true)
    (own : attempt.registration.id.target = target) {output : String}
    (wrote : attempt.outcome = .ok (.written output)) : output
      = attempt.registration.outputPath path := by
  have indexed := discovered.indexed
  have source := source_of_forced normal registered present authored declares indexed made own
  obtain ⟨⟨id, found⟩, result⟩ := isOf_of_mem_attempts made
  have listed : attempt.registration ∈ session.engine.registry.all := Registry.mem_all_of_get? found
  have known := (Registry.mem_keys_iff_exists indexed).mpr ⟨_, listed, rfl⟩
  have composed : attempt.registration.outputName.Composed :=
    Registry.composed_of_valid discovered listed
      (valid _ (.inl ((Registry.isTarget_iff indexed).mpr ⟨_, known, rfl⟩)))
      (valid _ (.inr ((Registry.isGenerator_iff indexed).mpr ⟨_, known, rfl⟩)))
  have declared : attempt.registration ∈ session.engine.registry.forTarget target := by
    rw [Registry.forTarget_eq_filter indexed]
    exact List.mem_filter.mpr ⟨listed, decide_eq_true own⟩
  rw [source] at result
  exact Registration.path_of_written (stays _ declared) composed normal
    ((congrArg Prod.snd result).trans wrote)

end Forced

/-! ## The list of a project -/

namespace Project

/-- The index of the host does not change from one registration to the next, so each is described as
if it were the first. -/
lemma describeAll_eq (files : FileSystem) (registrations : List Registration)
    (host : DirectoryHost) :
    (describeAll files registrations host).1
      = registrations.map fun registration => (describe host files registration).1 := by
  induction registrations generalizing host with
  | nil => rfl
  | cons first rest ih =>
    have same : ∀ registration, (describe (describe host files first).2 files registration).1
        = (describe host files registration).1 := by
      intro registration
      have again :=
        DirectoryHost.pathOfType_again host files files first.id.target registration.id.target
      simp only [describe, again]
    show (describe host files first).1 :: (describeAll files rest
      (describe host files first).2).1 = _
    rw [ih, List.map_cons]
    simp only [same]

/-- The list shows the declarations of a target with their output paths for the source that the host
has. -/
lemma list_of_located {project : Project} (indexed : project.registry.Indexed) {target : TypeName}
    {path : String}
    (located : (Host.pathOfType project.session.world.host project.files target).1 = some path) :
    (project.list.1.declarations.filter fun info => info.id.target = target).map
        (fun info => (info.id, info.outputPath))
      = (project.registry.forTarget target).map fun registration =>
          (registration.id, some (registration.outputPath path)) := by
  have listed : project.list.1.declarations = project.registry.all.map fun registration =>
      (describe project.session.world.host project.files registration).1 :=
    describeAll_eq project.files project.registry.all project.session.world.host
  rw [listed, List.filter_map, List.map_map, Registry.forTarget_eq_filter indexed]
  refine List.map_congr_left fun registration kept => ?_
  have own : registration.id.target = target := of_decide_eq_true (List.mem_filter.mp kept).2
  simp only [Function.comp_apply, describe, own, located, Option.map_some]

end Project

/-! ## The three of them together -/

/-- **The announced output path is the written one.** Let all registered types have valid names,
and let the host find an existing normal path for a registered target, no generated file, and take
it in turn for the source of that target; and let the generators of the target leave their output
where they are asked to. Then a forced run of the target is a forced batch on that path, which
attempts all declarations of the target unless the path is empty; and each that writes has written
to its output path for that source, and that is reported unless a plugin takes it off the report.
The engine tells this path for the first declaration, and a project lists it for each, whenever its
host finds that path for the target. -/
theorem Session.announced_outputs_written {H : Type} [Host H] (session : Session H)
    {target : TypeName} {path : String} (discovered : session.engine.registry.Discovered)
    (valid : ∀ type, session.engine.registry.isTarget type = true ∨
      session.engine.registry.isGenerator type = true → type.Valid)
    (registered : session.engine.registry.isTarget target = true)
    (located : (Host.pathOfType session.world.host session.world.site.files target).1 = some path)
    (present : session.world.site.files.pathExists (FilePath.join session.engine.root path) = true)
    (normal : SourcePath.normalize path = path)
    (authored : isGeneratedFileName (SourcePath.fileName path) = false)
    (declares : (Host.typeOfPath (Host.pathOfType session.world.host session.world.site.files
      target).2 session.world.site.files path).1 = some target)
    (stays : ∀ registration ∈ session.engine.registry.forTarget target,
      registration.generator.StaysPut) :
    let registry := session.engine.registry
    let asked :=
      { session with world.host :=
        (Host.pathOfType session.world.host session.world.site.files target).2 }
    let batch := run asked [path] true
    (session.forceType target).1 = batch.report ∧
      (path ≠ "" → ∀ registration ∈ registry.forTarget target,
        ∃ attempt ∈ asked.attempts [path] true, attempt.registration = registration) ∧
      (∀ attempt ∈ asked.attempts [path] true, attempt.registration.id.target = target →
        ∀ output, attempt.outcome = .ok (.written output) →
          output = attempt.registration.outputPath path ∧ output ∈ batch.written ∧
            ((∀ plugin ∈ session.engine.plugins, plugin.KeepsWritten) →
              output ∈ batch.report.written)) ∧
      (∃ first, (registry.forTarget target).head? = some first ∧ ∀ later : Session H,
        later.engine.registry = registry →
          (Host.pathOfType later.world.host later.world.site.files target).1 = some path →
            (later.outputPathOf target).1 = some (first.outputPath path)) ∧
      (∀ project : Project, project.registry = registry →
        (Host.pathOfType project.session.world.host project.files target).1 = some path →
          (project.list.1.declarations.filter fun info => info.id.target = target).map
              (fun info => (info.id, info.outputPath))
            = (registry.forTarget target).map fun registration =>
                (registration.id, some (registration.outputPath path))) := by
  intro registry asked batch
  have indexed := discovered.indexed
  have presentAsked : (start asked true).pathExists path = true := present
  have declaresAsked : (Host.typeOfPath asked.world.host asked.world.site.files path).1
      = some target := declares
  have registeredAsked : asked.engine.registry.isTarget target = true := registered
  refine ⟨?_, fun named registration listed => ?_, fun attempt made own output wrote => ?_, ?_, ?_⟩
  · have split : Host.pathOfType session.world.host session.world.site.files target
        = (some path, asked.world.host) := Prod.ext located rfl
    rw [forceType, split]
    rfl
  · obtain ⟨attempt, made, same, _⟩ :=
      attempted_source normal registeredAsked presentAsked authored declaresAsked
        indexed named listed
    exact ⟨attempt, made, same⟩
  · obtain ⟨kept, reported⟩ := reported_of_written made wrote
    have place := path_of_forced normal registeredAsked presentAsked authored
      declaresAsked discovered valid stays made own wrote
    exact ⟨place, kept, reported⟩
  · obtain ⟨first, rest, listed⟩ :=
      List.exists_cons_of_ne_nil ((Registry.isTarget_iff_forTarget indexed target).mp registered)
    refine ⟨first, by rw [listed, List.head?_cons], fun later same located => ?_⟩
    rw [outputPathOf, same, listed, List.head?_cons]
    dsimp only
    rw [located, Option.map_some]
  · rintro project same located
    rw [← same]
    exact Project.list_of_located (same ▸ indexed) located

/-- The note of the player goes where the engine and the list of the project say, and a plugin that
leaves notes of its own leaves it on the report. -/
theorem Session.announced_outputs_written_player :
    let project := { TwoTargets.project with session.engine.plugins := [.noting] }
    let note := "altgen.g/Note.Player.Note.g.txt"
    note ∈ (project.session.forceType TwoTargets.player.target).1.written ∧
      (project.session.outputPathOf TwoTargets.player.target).1 = some note ∧
      (project.list.1.declarations.filter fun info => info.id.target = TwoTargets.player.target).map
        (fun info => (info.id, info.outputPath)) = [(TwoTargets.player, some note)] := by
  intro project note
  have known : ∀ type ∈ project.registry.targets ++ project.registry.generators, type.Valid := by
    decide +kernel
  have valid : ∀ type, project.registry.isTarget type = true ∨
      project.registry.isGenerator type = true → type.Valid := fun type registered =>
    known type
      (List.mem_append.mpr (registered.imp OrderedMap.contains_iff.mp OrderedMap.contains_iff.mp))
  have stays : ∀ registration ∈ project.registry.forTarget TwoTargets.player.target,
      registration.generator.StaysPut := by
    have indexed : project.registry.Indexed := Registry.Discovered.indexed ⟨_, _, rfl⟩
    rw [Registry.forTarget_eq_filter indexed]
    intro registration listed
    have writes : registration.generator = TwoTargets.note :=
      Registry.generator_of_mem_all (List.mem_of_mem_filter listed)
    rw [writes]
    exact fun _ _ _ _ _ finished => by cases finished; rfl
  have keeps : ∀ plugin ∈ project.session.engine.plugins, plugin.KeepsWritten :=
    List.forall_mem_singleton.mpr Plugin.appendsOnly_noting.keepsWritten
  have located :
      (Host.pathOfType project.session.world.host project.files TwoTargets.player.target).1
      = some "Player.cs" := by decide +kernel
  obtain ⟨forced, _, attempts, ⟨first, head, told⟩, listed⟩ :=
    announced_outputs_written project.session ⟨_, _, rfl⟩ valid (by decide +kernel)
      located (by decide +kernel) (by decide +kernel) (by decide +kernel) (by decide +kernel) stays
  refine ⟨?_, ?_, (listed project rfl located).trans (by decide +kernel)⟩
  · have wrote : note ∈ (Session.attempts { project.session with world.host := (Host.pathOfType
        project.session.world.host project.files TwoTargets.player.target).2 }
          ["Player.cs"] true).filterMap
        fun attempt => if attempt.registration.id.target = TwoTargets.player.target then
          writtenPath? attempt.outcome else none := by decide +kernel
    obtain ⟨attempt, made, wrote⟩ := List.mem_filterMap.mp wrote
    split at wrote
    · next own =>
      obtain ⟨_, _, reported⟩ := attempts attempt made own note (writtenPath?_eq_some_iff.mp wrote)
      rw [forced]
      exact reported keeps
    · cases wrote
  · have ofFirst : (project.registry.forTarget TwoTargets.player.target).head?.map
        (fun registration => registration.outputPath "Player.cs") = some note := by decide +kernel
    have head : (project.registry.forTarget TwoTargets.player.target).head? = some first := head
    rw [head, Option.map_some] at ofFirst
    exact (told project.session rfl located).trans ofFirst

end SourceGen
