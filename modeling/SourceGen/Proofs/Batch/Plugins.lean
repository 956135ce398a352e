import SourceGen.Proofs.Batch.Framing

/-!
# Plugins leave no trace on a batch

The phases of a batch run between calls of plugins, and a plugin is handed the report. A plugin
that only appends diagnostics (`Plugin.AppendsOnly`) cannot be told from none at all by anything but
the diagnostics and the record of calls. `Batch.quiet` blanks out these two, and every step of
every phase commutes with it, so a batch agrees up to `quiet` with the plain composition of its five
phases (`Batch.quiet_run`).

A plugin of any other kind may rewrite the report, but that is all it is handed. `Batch.mute`
blanks out the report as a whole, and up to `mute` a batch still agrees with its first four phases,
whatever its plugins do (`Batch.mute_run`).

The compositions of the first phases are named, since a batch decides on its cascades and on its
requests by what the phases before have left: `gathered`, `resolved`, `ranDirect`, `ranCascaded`,
`requested`.
-/

namespace SourceGen

/-- The plugin may add diagnostics to the report and may fail; it changes nothing else. -/
def Plugin.AppendsOnly (plugin : Plugin) : Prop :=
  ∀ earlier point report, ∃ added,
    (plugin.hook earlier point report).1
      = { report with diagnostics := report.diagnostics ++ added }

/-- A plugin that leaves a note at every point, with the number of its notes before. -/
def Plugin.noting : Plugin where
  name := "noting"
  hook earlier point report :=
    let notes := (earlier.filter fun call => call.plugin = "noting").length
    (report.add ⟨.info, point.phase, "note " ++ toString notes, some "noting"⟩, none)

lemma Plugin.appendsOnly_noting : noting.AppendsOnly :=
  fun _ _ _ => ⟨_, rfl⟩

namespace Batch

variable {H : Type}

/-- The batch without its diagnostics and without the record of plugin calls. -/
def quiet (batch : Batch H) : Batch H :=
  { batch with session.world.hookCalls := [], report.diagnostics := [] }

/-- The batch without its report and without the record of plugin calls. -/
def mute (batch : Batch H) : Batch H :=
  { batch with session.world.hookCalls := [], report := { forced := false } }

/-! ## The phases one after the other -/

/-- The batch once its paths are collected. -/
def gathered (session : Session H) (paths : List String) (forced : Bool) : Batch H :=
  collect paths (start session forced)

section Phases

variable [Host H]

/-- The batch once its targets are resolved. -/
def resolved (session : Session H) (paths : List String) (forced : Bool) : Batch H :=
  resolveTargets (gathered session paths forced)

/-- The batch once its direct declarations have run. -/
def ranDirect (session : Session H) (paths : List String) (forced : Bool) : Batch H :=
  runDirect (resolved session paths forced)

/-- The batch once its cascaded declarations have run or are put off. -/
def ranCascaded (session : Session H) (paths : List String) (forced : Bool) : Batch H :=
  runCascaded (ranDirect session paths forced)

/-- The batch once its requests are sent. -/
def requested (session : Session H) (paths : List String) (forced : Bool) : Batch H :=
  requestReimports (ranCascaded session paths forced)

end Phases

/-! ## Steps commute with blanking out

A step reads neither the diagnostics nor the record of calls, and at most appends to the former. -/

/-- A step that does not look at what `quiet` blanks out. -/
def Blind (step : Batch H → Batch H) : Prop :=
  ∀ batch, (step batch).quiet = (step batch.quiet).quiet

lemma Blind.congr {step : Batch H → Batch H} (blind : Blind step) {batch other : Batch H}
    (same : batch.quiet = other.quiet) : (step batch).quiet = (step other).quiet := by
  rw [blind batch, blind other, same]

lemma Blind.comp {first second : Batch H → Batch H} (hs : Blind second) (hf : Blind first) :
    Blind fun batch => second (first batch) := by
  exact fun batch => hs.congr (hf batch)

lemma Blind.foldl {α : Type} {step : Batch H → α → Batch H} (blind : ∀ a, Blind fun b => step b a)
    (items : List α) : Blind fun batch => items.foldl step batch := by
  induction items with
  | nil => exact fun _ => rfl
  | cons a rest ih => exact Blind.comp ih (blind a)

/-- All that a framed step does is known from the batch without its report. -/
lemma Framed.eq_under_mute {step : Batch H → Batch H} (framed : Framed step) (batch : Batch H) :
    step batch = (step batch.mute).under batch.report batch.session.world.hookCalls := by
  rw [← framed, show batch.mute.under _ _ = batch by simp [mute, under, BatchReport.after]]

lemma Framed.blind {step : Batch H → Batch H} (framed : Framed step) : Blind step := by
  intro batch
  rw [framed.eq_under_mute batch, framed.eq_under_mute batch.quiet]
  rfl

section Work

variable [Host H]

lemma blind_requestWritten (path : String) :
    Blind fun batch : Batch H => batch.requestWritten path :=
  fun _ => rfl

lemma blind_requestDeferred (path : String) :
    Blind fun batch : Batch H => batch.requestDeferred path :=
  fun _ => rfl

lemma blind_requestRefresh : Blind (requestRefresh (H := H)) := by
  intro batch
  simp only [requestRefresh]
  rw [apply_ite quiet, apply_ite quiet]
  rfl

lemma blind_requestReimports : Blind (requestReimports (H := H)) := by
  intro batch
  have sameHost : batch.quiet.host = batch.host := rfl
  simp only [requestReimports, sameHost]
  split
  · rfl
  · have deferred : Blind fun b : Batch H => b.deferred.toList.foldl requestDeferred b :=
      fun b => Blind.foldl blind_requestDeferred b.deferred.toList b
    have written : Blind fun b : Batch H => b.written.toList.foldl requestWritten b :=
      fun b => Blind.foldl blind_requestWritten b.written.toList b
    exact (blind_requestRefresh.comp (deferred.comp written)) batch

lemma blind_work (paths : List String) (phase : Phase) :
    Blind fun batch : Batch H => work paths phase batch := by
  cases phase with
  | collecting => exact (framed_collect paths).blind
  | resolvingTargets => exact framed_resolveTargets.blind
  | runningDirect => exact framed_runDirect.blind
  | runningCascaded => exact framed_runCascaded.blind
  | requestingReimport => exact blind_requestReimports
  | done => exact fun _ => rfl

/-! ## Calls of plugins -/

omit [Host H] in
lemma quiet_callPlugin {plugin : Plugin} (observes : plugin.AppendsOnly) (point : HookPoint)
    (batch : Batch H) : (batch.callPlugin point plugin).quiet = batch.quiet := by
  obtain ⟨added, hook⟩ := observes batch.session.world.hookCalls point batch.report
  have call : ∃ diagnostics, plugin.call batch.session.world.hookCalls point batch.report
      = { batch.report with diagnostics := diagnostics } := by
    unfold Plugin.call
    split
    · next report eq =>
      rw [eq] at hook
      exact ⟨_, hook⟩
    · next report message eq =>
      rw [eq] at hook
      rw [show report = _ from hook]
      exact ⟨_, rfl⟩
  obtain ⟨diagnostics, call⟩ := call
  simp only [callPlugin, quiet, call]

omit [Host H] in
lemma foundation_callPlugin (point : HookPoint) (plugin : Plugin) :
    Keeps foundation fun batch : Batch H => batch.callPlugin point plugin :=
  fun _ => rfl

omit [Host H] in
lemma foundation_callPlugins (point : HookPoint) :
    Keeps foundation fun batch : Batch H => batch.callPlugins point :=
  fun batch => Keeps.foldl (foundation_callPlugin point) batch.engine.plugins batch

omit [Host H] in
lemma quiet_callPlugins (point : HookPoint) {batch : Batch H}
    (observers : ∀ plugin ∈ batch.engine.plugins, plugin.AppendsOnly) :
    (batch.callPlugins point).quiet = batch.quiet := by
  unfold callPlugins
  revert observers
  generalize batch.engine.plugins = plugins
  intro observers
  induction plugins generalizing batch with
  | nil => rfl
  | cons plugin rest ih =>
    rw [List.foldl_cons,
      ih fun other listed => observers other (List.mem_cons_of_mem plugin listed)]
    exact quiet_callPlugin (observers plugin List.mem_cons_self) point batch

lemma foundation_runPhase (paths : List String) (phase : Phase) :
    Keeps foundation fun batch : Batch H => batch.runPhase phase (work paths phase) := by
  intro batch
  exact (foundation_callPlugins (.after phase) _).trans
    ((foundation_work paths phase _).trans (foundation_callPlugins (.before phase) batch))

lemma quiet_runPhase (paths : List String) (phase : Phase) {batch : Batch H}
    (observers : ∀ plugin ∈ batch.engine.plugins, plugin.AppendsOnly) :
    (batch.runPhase phase (work paths phase)).quiet = (work paths phase batch).quiet := by
  have before : (batch.callPlugins (.before phase)).engine.plugins = batch.engine.plugins :=
    congrArg Foundation.plugins (foundation_callPlugins (.before phase) batch)
  have worked : (work paths phase (batch.callPlugins (.before phase))).engine.plugins
      = batch.engine.plugins :=
    (congrArg Foundation.plugins (foundation_work paths phase _)).trans before
  rw [runPhase, quiet_callPlugins _ (by rwa [worked])]
  exact (blind_work paths phase).congr (quiet_callPlugins _ observers)

/-- **Plugins are observers.** Up to the diagnostics and the record of plugin calls, a batch is the
composition of its phases. -/
theorem quiet_run {session : Session H} (paths : List String) (forced : Bool)
    (observers : ∀ plugin ∈ session.engine.plugins, plugin.AppendsOnly) :
    (run session paths forced).quiet = (requested session paths forced).quiet := by
  have phases : ∀ (list : List Phase) (batch : Batch H),
      (∀ plugin ∈ batch.engine.plugins, plugin.AppendsOnly) →
      (list.foldl (fun b phase => b.runPhase phase (work paths phase)) batch).quiet
        = (list.foldl (fun b phase => work paths phase b) batch).quiet := by
    intro list
    induction list with
    | nil => exact fun _ _ => rfl
    | cons phase rest ih =>
      intro batch observers
      have kept : (batch.runPhase phase (work paths phase)).engine.plugins = batch.engine.plugins :=
        congrArg Foundation.plugins (foundation_runPhase paths phase batch)
      rw [List.foldl_cons, List.foldl_cons, ih _ (by rwa [kept])]
      exact (Blind.foldl (blind_work paths) rest).congr (quiet_runPhase paths phase observers)
  exact phases Phase.all (start session forced) observers

end Work

/-! ## Any plugins at all

A plugin that rewrites the report may change what the report tells, and through it whether a refresh
is asked for. It changes nothing else, since the first four phases do not read the report. -/

lemma view_of_mute {γ : Type} (view : Batch H → γ)
    (unseen : ∀ batch : Batch H, view batch.mute = view batch) {batch other : Batch H}
    (same : batch.mute = other.mute) : view batch = view other := by
  rw [← unseen, same, unseen]

lemma Framed.mute {step : Batch H → Batch H} (framed : Framed step) (batch : Batch H) :
    (step batch).mute = (step batch.mute).mute := by
  rw [framed.eq_under_mute batch]
  rfl

lemma mute_callPlugins (point : HookPoint) :
    Keeps mute fun batch : Batch H => batch.callPlugins point := by
  intro batch
  have call : ∀ plugin, Keeps mute fun batch : Batch H => batch.callPlugin point plugin :=
    fun _ _ => rfl
  exact Keeps.foldl call batch.engine.plugins batch

lemma Framed.mute_runPhase {work : Batch H → Batch H} (framed : Framed work) (phase : Phase)
    {batch other : Batch H} (same : batch.mute = other.mute) :
    (batch.runPhase phase work).mute = (work other).mute := by
  have before : (batch.callPlugins (.before phase)).mute = other.mute :=
    (mute_callPlugins (.before phase) batch).trans same
  calc (batch.runPhase phase work).mute
      = (work (batch.callPlugins (.before phase))).mute := mute_callPlugins (.after phase) _
    _ = (work other).mute := by rw [framed.mute, before, ← framed.mute]

variable [Host H]

/-- Whatever the plugins do, a batch comes to its requests as the plain composition of its phases
does. -/
lemma mute_run (session : Session H) (paths : List String) (forced : Bool) :
    ∃ batch : Batch H, batch.mute = (ranCascaded session paths forced).mute ∧
      (run session paths forced).mute = (requestReimports batch).mute := by
  have gathered := (framed_collect paths).mute_runPhase .collecting
    (rfl : (start session forced).mute = _)
  have resolved := framed_resolveTargets.mute_runPhase .resolvingTargets gathered
  have ranDirect := framed_runDirect.mute_runPhase .runningDirect resolved
  have ranCascaded := framed_runCascaded.mute_runPhase .runningCascaded ranDirect
  refine ⟨_, (mute_callPlugins (.before .requestingReimport) _).trans ranCascaded, ?_⟩
  have done : ∀ batch : Batch H, (batch.runPhase .done id).mute = batch.mute := fun batch =>
    (mute_callPlugins (.after .done) _).trans (mute_callPlugins (.before .done) batch)
  exact (done _).trans (mute_callPlugins (.after .requestingReimport) _)

end Batch

end SourceGen
