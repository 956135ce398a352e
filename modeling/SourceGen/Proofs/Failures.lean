import SourceGen.Proofs.Batch.Isolation
import SourceGen.Proofs.Manifest.Names

/-!
# Failures are isolated

A generator that fails or panics does no more to a batch than one that declines. The theorem
compares a batch with a second run of it, on generators that decline some of the requests that fail
in the first run and reply the same to all others (`Session.failures_isolated`). The two runs end
with the same engine, the same world and the same report, except that the first one reports an error
for each of these requests.

The phases are taken side by side (`Batch.Isolates`), and so are the plugins between them. A plugin
can look at the diagnostics, which the two runs do not share; one that takes no heed of them
(`Plugin.Unheeding`) behaves alike in both, whatever else it does to the report and whatever it
remembers. The record of calls holds the reports that were handed over, so the two runs agree on it
up to their diagnostics (`Batch.muffled`). The work of a phase does not look at the record, so what
it isolates it isolates there as well (`Batch.Isolates.parallels`).
-/

namespace SourceGen

/-- The call without the diagnostics of the report that was handed over. -/
def HookCall.quiet (call : HookCall) : HookCall :=
  { call with report.diagnostics := [] }

/-- The plugin looks neither at the diagnostics of the report nor at those of the reports before,
and adds to them alone. It may change all else in the report, and it may fail. -/
def Plugin.Unheeding (plugin : Plugin) : Prop :=
  ∀ earlier point report, ∃ added, ∀ others diagnostics,
    others.map HookCall.quiet = earlier.map HookCall.quiet →
      plugin.hook others point { report with diagnostics }
        = ({ (plugin.hook earlier point report).1 with diagnostics := diagnostics ++ added },
            (plugin.hook earlier point report).2)

lemma Plugin.unheeding_noting : noting.Unheeding := by
  intro earlier point report
  refine ⟨(noting.hook earlier point { report with diagnostics := [] }).1.diagnostics,
    fun others diagnostics same => ?_⟩
  have notes : ∀ calls : List HookCall, (calls.filter fun call => call.plugin = "noting").length
      = ((calls.map HookCall.quiet).filter fun call => call.plugin = "noting").length := by
    intro calls
    rw [List.filter_map, List.length_map]
    rfl
  simp only [noting]
  rw [notes others, same, ← notes]
  rfl

/-- The report of a failure of such a plugin joins what it has added. -/
lemma Plugin.Unheeding.call {plugin : Plugin} (unheeding : plugin.Unheeding)
    (earlier : List HookCall) (point : HookPoint) (report : BatchReport) :
    ∃ added, ∀ others diagnostics,
      others.map HookCall.quiet = earlier.map HookCall.quiet →
        plugin.call others point { report with diagnostics }
          = { plugin.call earlier point report with diagnostics := diagnostics ++ added } := by
  obtain ⟨added, hooks⟩ := unheeding earlier point report
  rcases answer : plugin.hook earlier point report with ⟨edited, _ | message⟩
  · refine ⟨added, fun others diagnostics same => ?_⟩
    rw [Plugin.call, Plugin.call, hooks others diagnostics same, answer]
  · refine ⟨added ++ [⟨.error, point.phase, "plugin hook failed: " ++ message, some plugin.name⟩],
      fun others diagnostics same => ?_⟩
    rw [Plugin.call, Plugin.call, hooks others diagnostics same, answer, ← List.append_assoc]
    rfl

namespace Batch

variable {H : Type} {generators : DeclarationId → Generator}

/-! ## Records of calls side by side -/

/-- The batch without the diagnostics in its record of calls. -/
def muffled (batch : Batch H) : Batch H :=
  batch.recalling (batch.session.world.hookCalls.map HookCall.quiet)

lemma exists_recalling {other batch : Batch H} (same : other.muffled = batch.muffled) :
    ∃ calls, other = batch.recalling calls ∧
      calls.map HookCall.quiet = batch.session.world.hookCalls.map HookCall.quiet :=
  ⟨other.session.world.hookCalls, (congrArg (recalling other.session.world.hookCalls) same :),
    (congrArg (fun b : Batch H => b.session.world.hookCalls) same :)⟩

/-- Beside a run with other generators, other diagnostics and others on record, the step does the
same there up to the diagnostics on record, and each run appends to its diagnostics the same, but
for one error in the first run for each attempt listed. -/
def Parallels (generators : DeclarationId → Generator) (failing : List Attempt)
    (step : Batch H → Batch H) (batch : Batch H) : Prop :=
  ∃ whole kept errors, Interleaved whole kept errors ∧ List.Forall₂ Attempt.Reports failing errors ∧
    (step batch).report.diagnostics = batch.report.diagnostics ++ whole ∧
    ∀ other diagnostics, other.muffled
      = ((batch.answeredBy generators).telling diagnostics).muffled →
      (step other).muffled
        = (((step batch).answeredBy generators).telling (diagnostics ++ kept)).muffled

lemma Isolates.parallels {step : Batch H → Batch H} {failing : List Attempt} {batch : Batch H}
    (isolates : Isolates generators failing step batch) (unrecorded : Unrecorded step) :
    Parallels generators failing step batch := by
  obtain ⟨whole, kept, errors, interleaved, reports, noted, beside⟩ := isolates
  refine ⟨whole, kept, errors, interleaved, reports, noted, fun other diagnostics same => ?_⟩
  -- The other batch differs from the one beside this one by its record alone.
  obtain ⟨calls, rfl, recorded⟩ := exists_recalling same
  have recorded :
      calls.map HookCall.quiet = (step batch).session.world.hookCalls.map HookCall.quiet := by
    rw [unrecorded.hookCalls]
    exact recorded
  rw [unrecorded, beside]
  exact congrArg (recalling · _) recorded

lemma Parallels.comp {first second : Batch H → Batch H} {failing more : List Attempt}
    {batch : Batch H} (left : Parallels generators failing first batch)
    (right : Parallels generators more second (first batch)) :
    Parallels generators (failing ++ more) (fun batch => second (first batch)) batch := by
  obtain ⟨whole, kept, errors, interleaved, reports, noted, beside⟩ := left
  obtain ⟨whole', kept', errors', interleaved', reports', noted', beside'⟩ := right
  refine ⟨whole ++ whole', kept ++ kept', errors ++ errors', interleaved.append interleaved',
    List.rel_append reports reports', ?_, fun other diagnostics same => ?_⟩
  · rw [noted', noted, List.append_assoc]
  · rw [beside' _ _ (beside other diagnostics same), List.append_assoc]

/-! ## Plugins side by side -/

lemma parallels_callPlugin (point : HookPoint) (batch : Batch H) {plugin : Plugin}
    (unheeding : plugin.Unheeding) :
    Parallels generators [] (fun batch => batch.callPlugin point plugin) batch := by
  obtain ⟨added, calls⟩ := unheeding.call batch.session.world.hookCalls point batch.report
  refine ⟨added, added, [], .alone added, .nil, ?_, fun other diagnostics same => ?_⟩
  · exact congrArg BatchReport.diagnostics (calls _ batch.report.diagnostics rfl)
  · obtain ⟨others, rfl, recorded⟩ := exists_recalling same
    have called : plugin.call others point { batch.report with diagnostics } = _ :=
      calls others diagnostics recorded
    have recorded : others.map HookCall.quiet = batch.session.world.hookCalls.map HookCall.quiet :=
      recorded
    simp only [callPlugin, muffled, recalling, telling, answeredBy, List.map_append, recorded,
      called]
    rfl

lemma parallels_callPlugins (point : HookPoint) (batch : Batch H)
    (unheeding : ∀ plugin ∈ batch.engine.plugins, plugin.Unheeding) :
    Parallels generators [] (fun batch => batch.callPlugins point) batch := by
  have nothing : ∀ b : Batch H, Isolates generators [] (fun b => b) b := fun _ =>
    isolates_of_silent rfl fun _ => rfl
  have run : ∀ (plugins : List Plugin) (b : Batch H), (∀ plugin ∈ plugins, plugin.Unheeding) →
      Parallels generators [] (fun b => plugins.foldl (callPlugin point) b) b := by
    intro plugins
    induction plugins with
    | nil => exact fun b _ => (nothing b).parallels fun _ _ => rfl
    | cons plugin rest ih =>
      intro b unheeding
      exact (parallels_callPlugin point b (unheeding plugin List.mem_cons_self)).comp
        (ih (b.callPlugin point plugin) fun other listed =>
          unheeding other (List.mem_cons_of_mem _ listed))
  obtain ⟨whole, kept, errors, interleaved, reports, noted, beside⟩ :=
    run batch.engine.plugins batch unheeding
  refine ⟨whole, kept, errors, interleaved, reports, noted, fun other diagnostics same => ?_⟩
  have plugins : other.engine.plugins = batch.engine.plugins :=
    (congrArg (fun b : Batch H => b.engine.plugins) same :)
  have called : other.callPlugins point = batch.engine.plugins.foldl (callPlugin point) other :=
    congrArg (List.foldl (callPlugin point) other) plugins
  dsimp only
  rw [called]
  exact beside other diagnostics same

lemma parallels_runPhase (paths : List String) {phase : Phase} {failing : List Attempt}
    {batch : Batch H} [Host H] (unheeding : ∀ plugin ∈ batch.engine.plugins, plugin.Unheeding)
    (isolates :
      Isolates generators failing (work paths phase) (batch.callPlugins (.before phase))) :
    Parallels generators failing (fun batch => batch.runPhase phase (work paths phase)) batch := by
  have before : (batch.callPlugins (.before phase)).foundation = batch.foundation :=
    foundation_callPlugins (.before phase) batch
  have after : (work paths phase (batch.callPlugins (.before phase))).engine.plugins
      = batch.engine.plugins :=
    congrArg Foundation.plugins ((foundation_work paths phase _).trans before)
  have whole := ((parallels_callPlugins (.before phase) batch unheeding).comp
    (isolates.parallels (unrecorded_work paths phase))).comp
      (parallels_callPlugins (.after phase) _ (after ▸ unheeding))
  rwa [List.nil_append, List.append_nil] at whole

/-! ## Attempts under plugins -/

/-- What framed steps show does not depend on the report, where that is not looked at. -/
lemma along_of_mute {α γ : Type} {step : Batch H → α → Batch H} {look : Batch H → α → Option γ}
    (framed : ∀ a, Framed fun batch => step batch a)
    (unseen : ∀ (batch : Batch H) (a : α), look batch.mute a = look batch a) (items : List α)
    {batch other : Batch H} (same : batch.mute = other.mute) :
    along step look batch items = along step look other items := by
  induction items generalizing batch other with
  | nil => rfl
  | cons a rest ih =>
    have shown : look batch a = look other a := by rw [← unseen, same, unseen]
    have stepped : (step batch a).mute = (step other a).mute := by
      rw [(framed a).mute, same, ← (framed a).mute]
    rw [along, along, shown, ih stepped]

variable [Host H] {session : Session H} {paths : List String} {forced : Bool}

/-- The direct declarations make the same attempts when plugins come between the phases. -/
lemma direct_attempts_of_mute {batch : Batch H}
    (same : batch.mute = (resolved session paths forced).mute) :
    along runDirectEntry (fun batch entry => batch.attempt? .runningDirect entry.1 entry.2) batch
        batch.direct.entries
      = along runDirectEntry (fun batch entry => batch.attempt? .runningDirect entry.1 entry.2)
        (resolved session paths forced) (resolved session paths forced).direct.entries := by
  have direct : batch.direct = (resolved session paths forced).direct :=
    view_of_mute Batch.direct (fun _ => rfl) same
  rw [direct]
  exact along_of_mute framed_runDirectEntry (fun _ _ => rfl) _ same

lemma cascaded_attempts_of_mute {batch : Batch H}
    (same : batch.mute = (ranDirect session paths forced).mute) :
    along (runCascadedEntry batch.runsNow) (cascadedAttempt? batch.runsNow) batch batch.pending
      = along (runCascadedEntry (ranDirect session paths forced).runsNow)
        (cascadedAttempt? (ranDirect session paths forced).runsNow) (ranDirect session paths forced)
        (ranDirect session paths forced).pending := by
  have pending : batch.pending = (ranDirect session paths forced).pending :=
    view_of_mute Batch.pending (fun _ => rfl) same
  have now : batch.runsNow = (ranDirect session paths forced).runsNow :=
    view_of_mute runsNow (fun _ => rfl) same
  rw [pending, now]
  exact along_of_mute (framed_runCascadedEntry _) (fun _ _ => rfl) _ same

section Founded

variable {batch : Batch H} (founded : batch.foundation = (start session forced).foundation)

include founded

omit [Host H] in
lemma unheeding_of_founded (unheeding : ∀ plugin ∈ session.engine.plugins, plugin.Unheeding) :
    ∀ plugin ∈ batch.engine.plugins, plugin.Unheeding := by
  have same : batch.engine.plugins = session.engine.plugins := congrArg Foundation.plugins founded
  rwa [same]

variable (indexed : session.engine.registry.Indexed)
  (calmed : session.engine.registry.CalmedBy generators)

include indexed calmed

lemma isolates_directWork (same : batch.mute = (resolved session paths forced).mute) :
    Isolates generators
      ((along runDirectEntry (fun batch entry => batch.attempt? .runningDirect entry.1 entry.2)
          (resolved session paths forced) (resolved session paths forced).direct.entries).filter
        (Attempt.isCalmed generators session.engine.settings)) runDirect batch := by
  have registry : batch.engine.registry = session.engine.registry :=
    congrArg Foundation.registry founded
  have settings : batch.engine.settings = session.engine.settings :=
    congrArg Foundation.settings founded
  rw [← registry] at indexed calmed
  rw [← direct_attempts_of_mute same, ← settings]
  exact isolates_runDirect indexed calmed

lemma isolates_cascadedWork (same : batch.mute = (ranDirect session paths forced).mute) :
    Isolates generators
      ((along (runCascadedEntry (ranDirect session paths forced).runsNow)
          (cascadedAttempt? (ranDirect session paths forced).runsNow)
          (ranDirect session paths forced) (ranDirect session paths forced).pending).filter
        (Attempt.isCalmed generators session.engine.settings)) runCascaded batch := by
  have registry : batch.engine.registry = session.engine.registry :=
    congrArg Foundation.registry founded
  have settings : batch.engine.settings = session.engine.settings :=
    congrArg Foundation.settings founded
  rw [← registry] at indexed calmed
  rw [← cascaded_attempts_of_mute same, ← settings]
  exact isolates_runCascaded indexed calmed

end Founded

/-! ## A whole batch -/

/-- The batch after some phases. -/
def through (paths : List String) (phases : List Phase) (batch : Batch H) : Batch H :=
  phases.foldl (fun batch phase => batch.runPhase phase (work paths phase)) batch

lemma parallels_through_cons {phase : Phase} {rest : List Phase} {batch : Batch H}
    {failing more : List Attempt}
    (unheeding : ∀ plugin ∈ batch.engine.plugins, plugin.Unheeding)
    (first : Isolates generators failing (work paths phase) (batch.callPlugins (.before phase)))
    (later : Parallels generators more (through paths rest)
      (batch.runPhase phase (work paths phase))) :
    Parallels generators (failing ++ more) (through paths (phase :: rest)) batch :=
  (parallels_runPhase paths unheeding first).comp later

section Whole

variable (unheeding : ∀ plugin ∈ session.engine.plugins, plugin.Unheeding)

include unheeding

lemma parallels_requesting {batch : Batch H}
    (founded : batch.foundation = (start session forced).foundation) :
    Parallels generators [] (through paths [.requestingReimport, .done]) batch := by
  have requests : Isolates generators [] (work paths .requestingReimport)
      (batch.callPlugins (.before .requestingReimport)) := isolates_requestReimports _
  have later :
      (batch.runPhase .requestingReimport (work paths .requestingReimport)).foundation = _ :=
    (foundation_runPhase paths .requestingReimport batch).trans founded
  have nothing : ∀ b : Batch H, Isolates generators [] (work paths .done) b := fun _ =>
    isolates_of_silent rfl fun _ => rfl
  have ends : ∀ b : Batch H, Isolates generators [] (through paths []) b := fun _ =>
    isolates_of_silent rfl fun _ => rfl
  exact parallels_through_cons (unheeding_of_founded founded unheeding) requests
    (parallels_through_cons (unheeding_of_founded later unheeding) (nothing _)
      ((ends _).parallels fun _ _ => rfl))

variable (indexed : session.engine.registry.Indexed)
  (calmed : session.engine.registry.CalmedBy generators)

include indexed calmed

/-- From the direct phase on, a batch isolates the failing ones among all its attempts. -/
lemma parallels_running {batch : Batch H}
    (founded : batch.foundation = (start session forced).foundation)
    (same : batch.mute = (resolved session paths forced).mute) :
    Parallels generators
      ((session.attempts paths forced).filter (Attempt.isCalmed generators session.engine.settings))
      (through paths [.runningDirect, .runningCascaded, .requestingReimport, .done]) batch := by
  let ran := batch.runPhase .runningDirect (work paths .runningDirect)
  have foundedRan : ran.foundation = (start session forced).foundation :=
    (foundation_runPhase paths .runningDirect batch).trans founded
  have sameRan : ran.mute = (ranDirect session paths forced).mute :=
    framed_runDirect.mute_runPhase .runningDirect same
  have foundedLast : (ran.runPhase .runningCascaded (work paths .runningCascaded)).foundation = _ :=
    (foundation_runPhase paths .runningCascaded ran).trans foundedRan
  have direct :=
    isolates_directWork ((foundation_callPlugins (.before .runningDirect) batch).trans founded)
    indexed calmed ((mute_callPlugins _ batch).trans same)
  have cascaded := isolates_cascadedWork
    ((foundation_callPlugins (.before .runningCascaded) ran).trans foundedRan) indexed calmed
    ((mute_callPlugins _ ran).trans sameRan)
  have later := parallels_through_cons (unheeding_of_founded foundedRan unheeding) cascaded
    (parallels_requesting unheeding foundedLast)
  rw [List.append_nil] at later
  rw [Session.attempts, List.filter_append]
  exact parallels_through_cons (unheeding_of_founded founded unheeding) direct later

variable (paths forced) in
lemma parallels_run :
    Parallels generators
      ((session.attempts paths forced).filter (Attempt.isCalmed generators session.engine.settings))
      (through paths Phase.all) (start session forced) := by
  let begun := start session forced
  let collected := begun.runPhase .collecting (work paths .collecting)
  have foundedCollected : collected.foundation = begun.foundation :=
    foundation_runPhase paths .collecting begun
  have sameCollected : collected.mute = (gathered session paths forced).mute :=
    (framed_collect paths).mute_runPhase .collecting rfl
  have collects : Isolates generators [] (work paths .collecting)
      (begun.callPlugins (.before .collecting)) :=
    isolates_collect paths _
  have resolves : Isolates generators [] (work paths .resolvingTargets)
      (collected.callPlugins (.before .resolvingTargets)) := isolates_resolveTargets _
  have later := parallels_running unheeding indexed calmed
    ((foundation_runPhase paths .resolvingTargets collected).trans foundedCollected)
    (framed_resolveTargets.mute_runPhase .resolvingTargets sameCollected)
  exact parallels_through_cons (unheeding_of_founded rfl unheeding) collects
    (parallels_through_cons (unheeding_of_founded foundedCollected unheeding) resolves later)

end Whole

end Batch

/-- The session with other generators. -/
def Session.answeredBy {H : Type} (generators : DeclarationId → Generator) (session : Session H) :
    Session H :=
  { session with engine.registry := session.engine.registry.answeredBy generators }

open Batch

/-- **A failing generator is isolated from the rest of a batch.** A batch, in which requests may
fail at any places, is beside a second run of it on generators that decline some of the failing
requests and reply the same to all others. Both end with the same engine (each has kept its
generators), the same files, the same host with the same answers on record, and the same report but
for the diagnostics; and they have called the plugins alike, with the same reports but for the
diagnostics. The diagnostics of the first run are those of the second, in their order, with one
error for each request that is declined there, in the order of the requests: the error carries the
phase in which the declaration ran, and its identity. -/
theorem Session.failures_isolated {H : Type} [Host H] {session : Session H}
    {generators : DeclarationId → Generator} (discovered : session.engine.registry.Discovered)
    (unheeding : ∀ plugin ∈ session.engine.plugins, plugin.Unheeding)
    (calmed : session.engine.registry.CalmedBy generators) (paths : List String) (forced : Bool) :
    let first := run session paths forced
    let second := run (session.answeredBy generators) paths forced
    let attempts := session.attempts paths forced
    second.engine
        = { first.engine with registry := session.engine.registry.answeredBy generators } ∧
      second.session.world.host = first.session.world.host ∧
      second.session.world.site = first.session.world.site ∧
      second.session.world.hookCalls.map HookCall.quiet
        = first.session.world.hookCalls.map HookCall.quiet ∧
      second.lookups = first.lookups ∧
      { second.report with diagnostics := [] } = { first.report with diagnostics := [] } ∧
      (∃ errors, Interleaved first.report.diagnostics second.report.diagnostics errors ∧
        List.Forall₂ Attempt.Reports
          (attempts.filter (Attempt.isCalmed generators session.engine.settings)) errors) ∧
      first.session.world.site.since session.world.site
        = attempts.map fun attempt => attempt.request session.engine.settings := by
  intro first second attempts
  obtain ⟨whole, kept, errors, interleaved, reports, noted, beside⟩ :=
    parallels_run paths forced unheeding discovered.indexed calmed
  obtain ⟨calls, runs, recorded⟩ :=
    exists_recalling (beside (start (session.answeredBy generators) forced) [] rfl)
  have runs : second = ((first.answeredBy generators).telling kept).recalling calls := runs
  have registry : first.engine.registry = session.engine.registry :=
    (engine_run session paths forced).2.2.1
  rw [runs]
  refine ⟨?_, rfl, rfl, recorded, rfl, rfl, ⟨errors, ?_, reports⟩, since_attempts⟩
  · rw [← registry]
    rfl
  · have whole : first.report.diagnostics = whole := noted
    rw [whole]
    exact interleaved

namespace TwoTargets

/-- Writes a note for every source but those of the enemy, for which it fails. -/
def stumbling : Generator where
  fileName := note.fileName
  emit earlier request :=
    if request.context.target = enemy.target then .failed ["no ink"] else note.emit earlier request

/-- Writes a note for every source but those of the enemy, which it declines. -/
def reluctant : Generator where
  fileName := note.fileName
  emit earlier request :=
    if request.context.target = enemy.target then .finished false request.context request.buffer
    else note.emit earlier request

/-- The project with the generator that fails, and with a plugin that leaves notes. -/
def stumblingSession : Session DirectoryHost :=
  let session := (Project.load file (.ofList [(noteName, stumbling)]) site).session
  { session with engine.plugins := [.noting] }

lemma calmedBy_reluctant : stumblingSession.engine.registry.CalmedBy fun _ => reluctant := by
  intro registration registered earlier request
  have stumbles : registration.generator = stumbling := Registry.generator_of_mem_all registered
  rw [stumbles]
  by_cases refused : request.context.target = enemy.target
  · exact .inr
      ⟨by simp [stumbling, refused, Reply.fails], by simp [reluctant, refused, Reply.declines]⟩
  · exact .inl (by simp [stumbling, reluctant, refused])

end TwoTargets

lemma Attempt.phases_of_reports {attempts : List Attempt} {errors : List Diagnostic}
    (reports : List.Forall₂ Reports attempts errors) :
    errors.map Diagnostic.phase = attempts.map Attempt.phase := by
  induction reports with
  | nil => rfl
  | cons report _ ih =>
    obtain ⟨error, _, rfl⟩ := report
    rw [List.map_cons, List.map_cons, ih]

/-- A forced run for the player runs both declarations. The note of the enemy fails, which costs
the batch one error. -/
theorem Session.failures_isolated_enemy :
    let first := run TwoTargets.stumblingSession ["Player.cs"] true
    let second :=
      run (TwoTargets.stumblingSession.answeredBy fun _ => TwoTargets.reluctant) ["Player.cs"] true
    second.session.world.site = first.session.world.site ∧
      ∃ errors, Interleaved first.report.diagnostics second.report.diagnostics errors ∧
        errors.map Diagnostic.phase = [.runningCascaded] := by
  have discovered : TwoTargets.stumblingSession.engine.registry.Discovered := ⟨_, _, rfl⟩
  have unheeding : ∀ plugin ∈ TwoTargets.stumblingSession.engine.plugins, plugin.Unheeding :=
    List.forall_mem_singleton.mpr Plugin.unheeding_noting
  obtain ⟨_, _, site, _, _, _, ⟨errors, interleaved, reports⟩, _⟩ :=
    Session.failures_isolated discovered unheeding TwoTargets.calmedBy_reluctant ["Player.cs"] true
  exact ⟨site, errors, interleaved, (Attempt.phases_of_reports reports).trans (by decide +kernel)⟩

end SourceGen
