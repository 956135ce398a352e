import SourceGen.Engine.Session
import SourceGen.Proofs.Batch.Requesting
import SourceGen.Proofs.Batch.Unplugged
import SourceGen.Proofs.Manifest.Names

/-!
# Plugins only observe

A batch is one walk over its steps: for each phase the calls of the plugins before it, its work, and
the calls after it (`Batch.run_eq_take`). No call is left out, since a hook that fails only leaves
an error in the report. The walk is kept as a list of moments, each a step with the batch it is
taken on, so that what a single step adds to the diagnostics can be told apart
(`Batch.Moment.told`), and so can what a plugin remembers when it is called: the record of calls
grows with the walk.

The same engine without plugins takes the steps that are no calls. What carries the comparison of
the two walks is that the batches agree but for their plugins, their diagnostics and the record of
calls (`Batch.Matches`): a call keeps that, and the work of a phase adds the same diagnostics on
both sides. So the diagnostics of the one walk are those of the other when what the calls have
added is left out (`Session.plugins_observe`).
-/

namespace SourceGen

/-- The error that a failed hook leaves. -/
def Plugin.failure (plugin : Plugin) (point : HookPoint) (message : String) : Diagnostic where
  severity := .error
  phase := point.phase
  message := "plugin hook failed: " ++ message
  location := some plugin.name

/-- A plugin that leaves the report as it is and fails before each phase. -/
def Plugin.failing : Plugin where
  name := "failing"
  hook
    | _, .before _, report => (report, some "down")
    | _, .after _, report => (report, none)

lemma Plugin.appendsOnly_failing : failing.AppendsOnly := by
  rintro _ (phase | phase) report <;> exact ⟨[], by simp [failing]⟩

/-- A call adds what the hook appends, and an error when the hook fails. -/
lemma Plugin.call_of_hook {plugin : Plugin} {earlier : List HookCall} {point : HookPoint}
    {report : BatchReport} {added : List Diagnostic}
    (hook : (plugin.hook earlier point report).1
      = { report with diagnostics := report.diagnostics ++ added }) :
    plugin.call earlier point report = { report with
      diagnostics := report.diagnostics ++
        (added ++ ((plugin.hook earlier point report).2.map (plugin.failure point)).toList) } := by
  unfold call
  split
  · next after eq =>
    rw [eq] at hook ⊢
    simpa using hook
  · next after message eq =>
    rw [eq] at hook ⊢
    have after : after = _ := hook
    simp [after, BatchReport.add, failure]

/-- The plugin that is called, and the point of the call. -/
def HookCall.site (call : HookCall) : String × HookPoint :=
  (call.plugin, call.point)

namespace Batch

variable {H : Type}

/-! ## The steps of a batch -/

/-- A step of a batch: the call of a plugin, or the work of a phase. -/
inductive Step where
  | call (point : HookPoint) (plugin : Plugin)
  | work (phase : Phase)

namespace Step

/-- Whether the step is the work of a phase. -/
def isWork : Step → Bool
  | call _ _ => false
  | work _ => true

/-- The plugin that is called and the point of the call, if the step is one. -/
def site? : Step → Option (String × HookPoint)
  | call point plugin => some (plugin.name, point)
  | work _ => none

/-- The steps of one phase. -/
def ofPhase (plugins : List Plugin) (phase : Phase) : List Step :=
  plugins.map (.call (.before phase)) ++ .work phase :: plugins.map (.call (.after phase))

/-- The steps of a batch, phase by phase. -/
def all (plugins : List Plugin) : List Step :=
  Phase.all.flatMap (ofPhase plugins)

lemma mem_all_call {plugins : List Plugin} {point : HookPoint} {plugin : Plugin}
    (listed : Step.call point plugin ∈ all plugins) : plugin ∈ plugins := by
  simp only [all, ofPhase, List.mem_flatMap, List.mem_append, List.mem_cons, List.mem_map,
    Step.call.injEq, reduceCtorEq, false_or] at listed
  obtain ⟨phase, _, ⟨other, listed, _, rfl⟩ | ⟨other, listed, _, rfl⟩⟩ := listed <;> exact listed

lemma filterMap_site?_all (plugins : List Plugin) :
    (all plugins).filterMap site?
      = HookPoint.all.flatMap fun point => plugins.map fun plugin => (plugin.name, point) := by
  have calls : ∀ point, (plugins.map (Step.call point)).filterMap site?
      = plugins.map fun plugin => (plugin.name, point) := by
    intro point
    rw [List.filterMap_map]
    exact congrFun (List.filterMap_eq_map (f := fun plugin : Plugin => (plugin.name, point)))
      plugins
  have phases : ∀ phases : List Phase, (phases.flatMap (ofPhase plugins)).filterMap site?
      = (phases.flatMap fun phase => [HookPoint.before phase, .after phase]).flatMap
          fun point => plugins.map fun plugin => (plugin.name, point) := by
    intro phases
    induction phases with
    | nil => rfl
    | cons phase rest ih =>
      rw [List.flatMap_cons, List.filterMap_append, ih, ofPhase, List.filterMap_append, calls,
        List.filterMap_cons_none rfl, calls, List.flatMap_cons, List.flatMap_append]
      simp
  exact phases Phase.all

/-- Without the calls, the steps are those of an engine without plugins. -/
lemma filter_isWork_all (plugins : List Plugin) : (all plugins).filter isWork = all [] := by
  have calls : ∀ point, (plugins.map (Step.call point)).filter isWork = [] := by
    intro point
    rw [List.filter_eq_nil_iff]
    intro step listed
    obtain ⟨plugin, _, rfl⟩ := List.mem_map.mp listed
    exact Bool.false_ne_true
  have phases : ∀ phase, (ofPhase plugins phase).filter isWork = ofPhase [] phase := by
    intro phase
    rw [ofPhase, List.filter_append, calls, List.filter_cons_of_pos rfl, calls]
    rfl
  rw [all, List.filter_flatMap]
  exact congrArg (Phase.all.flatMap ·) (funext phases)

variable [Host H]

/-- Takes the step. -/
def take (paths : List String) (batch : Batch H) : Step → Batch H
  | call point plugin => batch.callPlugin point plugin
  | work phase => Batch.work paths phase batch

end Step

variable [Host H]

/-- The plugins of an engine are called where the steps say. -/
lemma runPhase_eq_take (paths : List String) (phase : Phase) (batch : Batch H) :
    batch.runPhase phase (work paths phase)
      = (Step.ofPhase batch.engine.plugins phase).foldl (Step.take paths) batch := by
  have worked : (work paths phase (batch.callPlugins (.before phase))).engine.plugins
      = batch.engine.plugins :=
    congrArg Foundation.plugins
      ((foundation_work paths phase _).trans (foundation_callPlugins (.before phase) batch))
  rw [runPhase, callPlugins, worked, Step.ofPhase, List.foldl_append, List.foldl_cons,
    List.foldl_map, List.foldl_map]
  rfl

/-- **A batch is a walk over its steps**, whatever its plugins do. -/
theorem run_eq_take (session : Session H) (paths : List String) (forced : Bool) :
    run session paths forced
      = (Step.all session.engine.plugins).foldl (Step.take paths) (start session forced) := by
  have phases : ∀ (phases : List Phase) (batch : Batch H),
      phases.foldl (fun b phase => b.runPhase phase (work paths phase)) batch
        = (phases.flatMap (Step.ofPhase batch.engine.plugins)).foldl (Step.take paths) batch := by
    intro phases
    induction phases with
    | nil => exact fun _ => rfl
    | cons phase rest ih =>
      intro batch
      have kept : (batch.runPhase phase (work paths phase)).engine.plugins = batch.engine.plugins :=
        congrArg Foundation.plugins (foundation_runPhase paths phase batch)
      rw [List.foldl_cons, ih, kept, List.flatMap_cons, List.foldl_append, ← runPhase_eq_take]
  exact phases Phase.all (start session forced)

/-! ## The moments of a batch -/

/-- A step, with the batch that it is taken on. -/
structure Moment (H : Type) where
  before : Batch H
  step : Step

/-- The call that the step leaves on record, if it is one. -/
def Moment.call? (moment : Moment H) : Option HookCall :=
  match moment.step with
  | .call point plugin => some ⟨plugin.name, point, moment.before.report⟩
  | .work _ => none

/-- The diagnostics that the step adds. -/
def Moment.told (paths : List String) (moment : Moment H) : List Diagnostic :=
  (moment.step.take paths moment.before).report.diagnostics.drop
    moment.before.report.diagnostics.length

/-- The moments of a walk. -/
def moments (paths : List String) : Batch H → List Step → List (Moment H)
  | _, [] => []
  | batch, step :: rest => ⟨batch, step⟩ :: moments paths (step.take paths batch) rest

lemma map_step_moments (paths : List String) (batch : Batch H) (steps : List Step) :
    (moments paths batch steps).map Moment.step = steps := by
  induction steps generalizing batch with
  | nil => rfl
  | cons step rest ih => rw [moments, List.map_cons, ih]

/-- The calls are those of the steps. -/
lemma map_site_moments (paths : List String) (batch : Batch H) (steps : List Step) :
    ((moments paths batch steps).filterMap Moment.call?).map HookCall.site
      = steps.filterMap Step.site? := by
  have sites : ∀ moment : Moment H, moment.call?.map HookCall.site = moment.step.site? := by
    rintro ⟨before, point | phase⟩ <;> rfl
  have walked := congrArg (List.filterMap Step.site?) (map_step_moments paths batch steps)
  rw [List.filterMap_map] at walked
  rw [List.map_filterMap]
  simp only [sites]
  exact walked

/-! ## What a step adds -/

omit [Host H] in
/-- A framed step adds to the diagnostics what it adds to none. -/
lemma Framed.diagnostics {step : Batch H → Batch H} (framed : Framed step) (batch : Batch H) :
    (step batch).report.diagnostics
      = batch.report.diagnostics ++ (step batch.quiet).report.diagnostics := by
  rw [framed.eq_under_mute batch, framed.eq_under_mute batch.quiet]
  rfl

lemma diagnostics_requestReimports (batch : Batch H) :
    batch.requestReimports.report.diagnostics = batch.report.diagnostics := by
  rw [requestReimports_eq]
  split
  · rfl
  · rw [requestRefresh]
    split <;> rfl

lemma diagnostics_work (paths : List String) (phase : Phase) (batch : Batch H) :
    (work paths phase batch).report.diagnostics
      = batch.report.diagnostics ++ (work paths phase batch.quiet).report.diagnostics := by
  cases phase with
  | collecting => exact (framed_collect paths).diagnostics batch
  | resolvingTargets => exact framed_resolveTargets.diagnostics batch
  | runningDirect => exact framed_runDirect.diagnostics batch
  | runningCascaded => exact framed_runCascaded.diagnostics batch
  | requestingReimport =>
    have silent : batch.quiet.requestReimports.report.diagnostics = [] :=
      diagnostics_requestReimports batch.quiet
    calc batch.requestReimports.report.diagnostics
        = batch.report.diagnostics := diagnostics_requestReimports batch
      _ = batch.report.diagnostics ++ batch.quiet.requestReimports.report.diagnostics := by
        rw [silent, List.append_nil]
  | done => exact (List.append_nil _).symm

/-- The step is the work of a phase, or the call of a plugin that only appends diagnostics. -/
def Step.Observes : Step → Prop
  | .call _ plugin => plugin.AppendsOnly
  | .work _ => True

omit [Host H] in
lemma Step.observes_all {plugins : List Plugin}
    (observers : ∀ plugin ∈ plugins, plugin.AppendsOnly) :
    ∀ step ∈ all plugins, step.Observes := by
  rintro (⟨point, plugin⟩ | phase) listed
  · exact observers plugin (mem_all_call listed)
  · exact trivial

lemma hookCalls_take (paths : List String) (step : Step) (batch : Batch H) :
    (step.take paths batch).session.world.hookCalls
      = batch.session.world.hookCalls ++ (⟨batch, step⟩ : Moment H).call?.toList := by
  cases step with
  | call point plugin => rfl
  | work phase =>
    exact ((unrecorded_work paths phase).hookCalls batch).trans (List.append_nil _).symm

lemma hookCalls_foldl (paths : List String) (steps : List Step) (batch : Batch H) :
    (steps.foldl (Step.take paths) batch).session.world.hookCalls
      = batch.session.world.hookCalls ++ (moments paths batch steps).filterMap Moment.call? := by
  induction steps generalizing batch with
  | nil => exact (List.append_nil _).symm
  | cons step rest ih =>
    rw [List.foldl_cons, ih, hookCalls_take, List.append_assoc]
    cases step <;> rfl

lemma Moment.told_call (paths : List String) (batch : Batch H) {point : HookPoint} {plugin : Plugin}
    {added : List Diagnostic}
    (hook : (plugin.hook batch.session.world.hookCalls point batch.report).1
      = { batch.report with diagnostics := batch.report.diagnostics ++ added }) :
    (⟨batch, .call point plugin⟩ : Moment H).told paths
      = added ++ ((plugin.hook batch.session.world.hookCalls point batch.report).2.map
          (plugin.failure point)).toList := by
  have called : (callPlugin point batch plugin).report.diagnostics
      = batch.report.diagnostics
        ++ (added ++ ((plugin.hook batch.session.world.hookCalls point batch.report).2.map
          (plugin.failure point)).toList) :=
    congrArg BatchReport.diagnostics (Plugin.call_of_hook hook)
  rw [told, Step.take, called, List.drop_left]

lemma Moment.told_work (paths : List String) (phase : Phase) (batch : Batch H) :
    (⟨batch, .work phase⟩ : Moment H).told paths
      = (work paths phase batch.quiet).report.diagnostics := by
  rw [told, Step.take, diagnostics_work, List.drop_left]

/-- What a step tells comes after the diagnostics there are. -/
lemma Step.Observes.diagnostics_take {step : Step} (observes : step.Observes) (paths : List String)
    (batch : Batch H) :
    (step.take paths batch).report.diagnostics
      = batch.report.diagnostics ++ (⟨batch, step⟩ : Moment H).told paths := by
  cases step with
  | call point plugin =>
    obtain ⟨added, hook⟩ := observes batch.session.world.hookCalls point batch.report
    rw [Moment.told_call paths batch hook]
    exact congrArg BatchReport.diagnostics (Plugin.call_of_hook hook)
  | work phase =>
    rw [Moment.told_work]
    exact diagnostics_work paths phase batch

lemma diagnostics_foldl (paths : List String) {steps : List Step}
    (observe : ∀ step ∈ steps, step.Observes) (batch : Batch H) :
    (steps.foldl (Step.take paths) batch).report.diagnostics
      = batch.report.diagnostics ++ (moments paths batch steps).flatMap (Moment.told paths) := by
  induction steps generalizing batch with
  | nil => exact (List.append_nil _).symm
  | cons step rest ih =>
    obtain ⟨observes, observe⟩ := List.forall_mem_cons.mp observe
    rw [List.foldl_cons, ih observe, observes.diagnostics_take, moments, List.flatMap_cons,
      List.append_assoc]

/-! ## Two walks -/

omit [Host H] in
/-- The second batch is the first one, but that it has no plugins, and but for the diagnostics and
the record of calls. -/
def Matches (batch bare : Batch H) : Prop :=
  batch.quiet.withPlugins [] = bare.quiet

section Matching

variable {batch bare : Batch H}

omit [Host H] in
lemma Matches.call (same : batch.Matches bare) {plugin : Plugin} (observes : plugin.AppendsOnly)
    (point : HookPoint) : (batch.callPlugin point plugin).Matches bare := by
  rw [Matches, quiet_callPlugin observes]
  exact same

/-- Once the diagnostics are blanked out, the work of a phase is the same on both sides. -/
lemma Matches.work_quiet (same : batch.Matches bare) (paths : List String) (phase : Phase) :
    (work paths phase batch.quiet).withPlugins [] = work paths phase bare.quiet :=
  (unaware_work paths phase batch.quiet).symm.trans (congrArg (work paths phase) same)

lemma Matches.work (same : batch.Matches bare) (paths : List String) (phase : Phase) :
    (work paths phase batch).Matches (work paths phase bare) := by
  calc (Batch.work paths phase batch).quiet.withPlugins []
      = (Batch.work paths phase batch.quiet).quiet.withPlugins [] :=
        congrArg (withPlugins []) (blind_work paths phase batch)
    _ = (Batch.work paths phase bare.quiet).quiet := congrArg quiet (same.work_quiet paths phase)
    _ = (Batch.work paths phase bare).quiet := (blind_work paths phase bare).symm

lemma Matches.told_work (same : batch.Matches bare) (paths : List String) (phase : Phase) :
    (⟨batch, .work phase⟩ : Moment H).told paths = (⟨bare, .work phase⟩ : Moment H).told paths := by
  rw [Moment.told_work, Moment.told_work, ← same.work_quiet]
  rfl

omit [Host H] in
lemma Matches.engine (same : batch.Matches bare) :
    { batch.engine with plugins := [] } = bare.engine :=
  (congrArg Batch.engine same :)

omit [Host H] in
lemma Matches.host (same : batch.Matches bare) : batch.host = bare.host :=
  (congrArg Batch.host same :)

omit [Host H] in
lemma Matches.site (same : batch.Matches bare) :
    batch.session.world.site = bare.session.world.site :=
  (congrArg (fun batch : Batch H => batch.session.world.site) same :)

omit [Host H] in
lemma Matches.report (same : batch.Matches bare) :
    { batch.report with diagnostics := bare.report.diagnostics } = bare.report := by
  have blank : { batch.report with diagnostics := [] } = { bare.report with diagnostics := [] } :=
    (congrArg Batch.report same :)
  exact congrArg (fun report : BatchReport =>
    { report with diagnostics := bare.report.diagnostics }) blank

/-- A walk without its calls leaves what matches, and tells what the works of the whole walk
tell. -/
lemma Matches.foldl (same : batch.Matches bare) (paths : List String) {steps : List Step}
    (observe : ∀ step ∈ steps, step.Observes) :
    (steps.foldl (Step.take paths) batch).Matches
        ((steps.filter Step.isWork).foldl (Step.take paths) bare) ∧
      ((steps.filter Step.isWork).foldl (Step.take paths) bare).report.diagnostics
        = bare.report.diagnostics
          ++ ((moments paths batch steps).filter fun moment => moment.step.isWork).flatMap
            (Moment.told paths) := by
  induction steps generalizing batch bare with
  | nil => exact ⟨same, (List.append_nil _).symm⟩
  | cons step rest ih =>
    obtain ⟨observes, later⟩ := List.forall_mem_cons.mp observe
    cases step with
    | call point plugin => exact ih (same.call observes point) later
    | work phase =>
      obtain ⟨left, told⟩ := ih (same.work paths phase) later
      refine ⟨left, told.trans ?_⟩
      rw [show Batch.work paths phase bare = Step.take paths bare (.work phase) from rfl,
        observes.diagnostics_take, ← same.told_work, List.append_assoc]
      rfl

end Matching

/-! ## The run of a batch -/

section Run

variable {session : Session H} (paths : List String) (forced : Bool)

lemma hookCalls_run (session : Session H) :
    (run session paths forced).session.world.hookCalls
      = session.world.hookCalls
        ++ (moments paths (start session forced) (Step.all session.engine.plugins)).filterMap
          Moment.call? := by
  rw [run_eq_take, hookCalls_foldl]
  rfl

variable (observers : ∀ plugin ∈ session.engine.plugins, plugin.AppendsOnly)

include observers

lemma diagnostics_run :
    (run session paths forced).report.diagnostics
      = (moments paths (start session forced) (Step.all session.engine.plugins)).flatMap
        (Moment.told paths) := by
  rw [run_eq_take, diagnostics_foldl paths (Step.observes_all observers)]
  rfl

/-- The same batch without plugins ends in what matches, and tells what the works tell. -/
lemma matches_run :
    (run session paths forced).Matches (run session.unplugged paths forced) ∧
      (run session.unplugged paths forced).report.diagnostics
        = ((moments paths (start session forced) (Step.all session.engine.plugins)).filter
            fun moment => moment.step.isWork).flatMap (Moment.told paths) := by
  have started : (start session forced).Matches (start session.unplugged forced) := rfl
  have walked := started.foldl paths (Step.observes_all observers)
  have bareRan : run session.unplugged paths forced
      = (Step.all []).foldl (Step.take paths) (start session.unplugged forced) :=
    run_eq_take session.unplugged paths forced
  rwa [Step.filter_isWork_all, ← bareRan, ← run_eq_take] at walked

end Run

end Batch

/-! ## The plugins of an engine -/

namespace Session

variable {H : Type} [Host H]

/-- The moments of a batch. -/
def moments (session : Session H) (paths : List String) (forced : Bool) : List (Batch.Moment H) :=
  Batch.moments paths (Batch.start session forced) (Batch.Step.all session.engine.plugins)

/-- **Plugins only observe.** Let the plugins of an engine append diagnostics and fail as they
like, whatever they remember of their earlier calls. Each of them is called before and after each
phase, in the order of registration, and each call goes on record with the report it was handed.
The engine, the host, the files and the report are those of the same batch without plugins, but for
the diagnostics, which the moments of the batch tell one after the other. Without the plugins, the
diagnostics are what the works among these moments tell; all that a call tells is what its hook
appends and the error of its failure. -/
theorem plugins_observe {session : Session H} (paths : List String) (forced : Bool)
    (observers : ∀ plugin ∈ session.engine.plugins, plugin.AppendsOnly) :
    let run := session.runBatch paths forced
    let bare := session.unplugged.runBatch paths forced
    let moments := session.moments paths forced
    run.2.world.hookCalls = session.world.hookCalls ++ moments.filterMap Batch.Moment.call? ∧
      (moments.filterMap Batch.Moment.call?).map HookCall.site
        = HookPoint.all.flatMap (fun point =>
            session.engine.plugins.map fun plugin => (plugin.name, point)) ∧
      run.2.engine = { bare.2.engine with plugins := session.engine.plugins } ∧
      run.2.world.host = bare.2.world.host ∧
      run.2.world.site = bare.2.world.site ∧
      { run.1 with diagnostics := bare.1.diagnostics } = bare.1 ∧
      moments.map Batch.Moment.step = Batch.Step.all session.engine.plugins ∧
      run.1.diagnostics = moments.flatMap (Batch.Moment.told paths) ∧
      bare.1.diagnostics
        = (moments.filter fun moment => moment.step.isWork).flatMap (Batch.Moment.told paths) ∧
      ∀ moment ∈ moments, ∀ point plugin, moment.step = .call point plugin →
        let hook := plugin.hook moment.before.session.world.hookCalls point moment.before.report
        ∃ added,
          hook.1 = { moment.before.report with
            diagnostics := moment.before.report.diagnostics ++ added } ∧
          moment.told paths = added ++ (hook.2.map (plugin.failure point)).toList := by
  intro run bare moments
  obtain ⟨same, told⟩ := Batch.matches_run paths forced observers
  have kept : run.2.engine.plugins = session.engine.plugins :=
    congrArg Batch.Foundation.plugins (Batch.foundation_run session paths forced)
  have engines : { run.2.engine with plugins := [] } = bare.2.engine := same.engine
  have walked : moments.map Batch.Moment.step = Batch.Step.all session.engine.plugins :=
    Batch.map_step_moments _ _ _
  refine ⟨Batch.hookCalls_run paths forced session,
    (Batch.map_site_moments _ _ _).trans (Batch.Step.filterMap_site?_all session.engine.plugins),
    by rw [← engines, ← kept], same.host, same.site, same.report, walked,
    Batch.diagnostics_run paths forced observers, told, ?_⟩
  rintro ⟨before, step⟩ listed point plugin (rfl : step = _)
  have called : Batch.Step.call point plugin ∈ Batch.Step.all session.engine.plugins :=
    walked ▸ List.mem_map_of_mem listed
  obtain ⟨added, hook⟩ := observers plugin (Batch.Step.mem_all_call called)
    before.session.world.hookCalls point before.report
  exact ⟨added, hook, Batch.Moment.told_call paths before hook⟩

/-- A forced run from two paths, one of which names nothing, under a plugin that numbers its notes
and one that fails. The warning about the path stands among the notes and the errors. -/
theorem plugins_observe_player :
    let project := TwoTargets.project.session
    let session : Session DirectoryHost :=
      ⟨{ project.engine with plugins := [.noting, .failing] }, project.world⟩
    let run := session.runBatch ["Player.cs", "Gone.cs"] true
    let bare := session.unplugged.runBatch ["Player.cs", "Gone.cs"] true
    run.2.world.hookCalls.length = 24 ∧ run.1.written = bare.1.written ∧
      bare.1.written = ["altgen.g/Note.Player.Note.g.txt", "altgen.g/Note.Enemy.Note.g.txt"] ∧
      run.1.diagnostics.length = 19 ∧
      run.1.diagnostics.getLast? = some ⟨.info, .done, "note 11", some "noting"⟩ ∧
      bare.1.diagnostics
        = [⟨.warning, .resolvingTargets, "path does not exist", some "Gone.cs"⟩] := by
  intro project session run bare
  have observers : ∀ plugin ∈ session.engine.plugins, plugin.AppendsOnly :=
    List.forall_mem_cons.mpr
      ⟨Plugin.appendsOnly_noting, List.forall_mem_singleton.mpr Plugin.appendsOnly_failing⟩
  obtain ⟨calls, sites, _, _, _, reports, _⟩ :=
    plugins_observe ["Player.cs", "Gone.cs"] true observers
  have written : ∀ {one other : BatchReport},
      { one with diagnostics := other.diagnostics } = other → one.written = other.written :=
    congrArg BatchReport.written
  have shown : bare.1.written = ["altgen.g/Note.Player.Note.g.txt",
      "altgen.g/Note.Enemy.Note.g.txt"] ∧
      bare.1.diagnostics
        = [⟨.warning, .resolvingTargets, "path does not exist", some "Gone.cs"⟩] := by
    decide +kernel
  refine ⟨?_, written reports, shown.1, by decide +kernel, by decide +kernel, shown.2⟩
  have recorded := congrArg List.length sites
  rw [List.length_map] at recorded
  rw [calls, List.length_append, recorded]
  decide +kernel

end Session

end SourceGen
