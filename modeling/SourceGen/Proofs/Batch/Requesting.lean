import SourceGen.Proofs.Batch.Cascading

/-!
# What a batch leaves

The requests come last. They change the two sets of the engine, the host, and what the report says
of the sources put off and of the refresh; the rest of a batch is what its phases before have left
(`Ledger`), and no phase has to do with the record of calls (`unrecorded_work`). With the plugins
out of the way (`quiet_run`), this tells everything about a whole batch by its phases: `ledger_run`
for the rest, `suppressed_run` and `deferred_run` for the two sets, and `announced_run` for the
report.
-/

namespace SourceGen

namespace Batch

variable {H : Type}

/-- What the requests leave alone. -/
structure Ledger where
  collected : List String
  lookups : Lookups
  deferredHits : OrderedSet String
  direct : OrderedMap DeclarationId String
  cascaded : OrderedSet DeclarationId
  written : OrderedSet String
  deferred : OrderedSet String
  site : Site
  ran : List DeclarationId
  listed : List String
  absorbed : List String
  cascades : Bool

/-- What the requests leave alone, as the batch has it. -/
def ledger (batch : Batch H) : Ledger where
  collected := batch.collected
  lookups := batch.lookups
  deferredHits := batch.deferredHits
  direct := batch.direct
  cascaded := batch.cascaded
  written := batch.written
  deferred := batch.deferred
  site := batch.session.world.site
  ran := batch.report.ran
  listed := batch.report.written
  absorbed := batch.report.suppressed
  cascades := batch.report.cascaded

variable [Host H]

/-- The batch with all its requests sent but the one to refresh. -/
def afterRequests (batch : Batch H) : Batch H :=
  { batch with
    session.engine.suppressed := batch.engine.suppressed.insertAll batch.written.toList
    session.engine.deferred := batch.engine.deferred.insertAll batch.deferred.toList
    report.deferred := batch.report.deferred ++ batch.deferred.toList }.setHost
    ((batch.written.toList ++ batch.deferred.toList).foldl Host.requestReimport batch.host)

lemma foldl_requestWritten (items : List String) (batch : Batch H) :
    items.foldl requestWritten batch
      = { batch with
          session.engine.suppressed := batch.engine.suppressed.insertAll items }.setHost
          (items.foldl Host.requestReimport batch.host) := by
  induction items generalizing batch with
  | nil => rfl
  | cons path rest ih =>
    rw [List.foldl_cons, ih]
    rfl

lemma foldl_requestDeferred (items : List String) (batch : Batch H) :
    items.foldl requestDeferred batch
      = { batch with
          session.engine.deferred := batch.engine.deferred.insertAll items
          report.deferred := batch.report.deferred ++ items }.setHost
          (items.foldl Host.requestReimport batch.host) := by
  induction items generalizing batch with
  | nil => simp [setHost, engine, host]
  | cons path rest ih =>
    rw [List.foldl_cons, ih, ← List.singleton_append, ← List.append_assoc]
    rfl

/-- The requests of a batch, all at once. -/
theorem requestReimports_eq (batch : Batch H) :
    batch.requestReimports
      = if Host.isBuilding batch.host then batch else batch.afterRequests.requestRefresh := by
  rw [requestReimports]
  congr 1
  dsimp only
  rw [foldl_requestWritten, foldl_requestDeferred, afterRequests, List.foldl_append]
  rfl

lemma requestRefresh_spec (batch : Batch H) :
    batch.requestRefresh.ledger = batch.ledger ∧ batch.requestRefresh.engine = batch.engine ∧
      batch.requestRefresh.report.deferred = batch.report.deferred := by
  simp only [requestRefresh]
  split <;> exact ⟨rfl, rfl, rfl⟩

lemma ledger_requestReimports (batch : Batch H) : batch.requestReimports.ledger = batch.ledger := by
  rw [requestReimports_eq]
  split
  · rfl
  · rw [(requestRefresh_spec _).1]
    rfl

/-! ## The record of calls

What a plugin does may depend on the calls before it. What the work of a phase does depends on none
of them, and nothing but calls of plugins goes on record. -/

omit [Host H] in
/-- The batch with other calls of plugins on record. -/
def recalling (calls : List HookCall) (batch : Batch H) : Batch H :=
  { batch with session.world.hookCalls := calls }

omit [Host H] in
/-- The step neither looks at the record of calls nor changes it. -/
def Unrecorded (step : Batch H → Batch H) : Prop :=
  ∀ calls batch, step (batch.recalling calls) = (step batch).recalling calls

omit [Host H] in
lemma Unrecorded.hookCalls {step : Batch H → Batch H} (unrecorded : Unrecorded step)
    (batch : Batch H) : (step batch).session.world.hookCalls = batch.session.world.hookCalls :=
  (congrArg (fun b : Batch H => b.session.world.hookCalls)
    (unrecorded batch.session.world.hookCalls batch) :)

omit [Host H] in
lemma Framed.unrecorded {step : Batch H → Batch H} (framed : Framed step) : Unrecorded step := by
  intro calls batch
  rw [framed.eq_under_mute batch, framed.eq_under_mute (batch.recalling calls)]
  rfl

lemma unrecorded_requestReimports : Unrecorded (requestReimports (H := H)) := by
  intro calls batch
  have host : (batch.recalling calls).host = batch.host := rfl
  have refresh : ∀ b : Batch H,
      (b.recalling calls).requestRefresh = b.requestRefresh.recalling calls := by
    intro b
    simp only [requestRefresh]
    rw [apply_ite (recalling calls)]
    rfl
  rw [requestReimports_eq, requestReimports_eq, host]
  split
  · rfl
  · exact refresh batch.afterRequests

/-- The work of no phase has to do with the record of calls. -/
lemma unrecorded_work (paths : List String) (phase : Phase) :
    Unrecorded fun batch : Batch H => work paths phase batch := by
  cases phase with
  | collecting => exact (framed_collect paths).unrecorded
  | resolvingTargets => exact framed_resolveTargets.unrecorded
  | runningDirect => exact framed_runDirect.unrecorded
  | runningCascaded => exact framed_runCascaded.unrecorded
  | requestingReimport => exact unrecorded_requestReimports
  | done => exact fun _ _ => rfl

/-! ## A whole batch -/

lemma foundation_run (session : Session H) (paths : List String) (forced : Bool) :
    (run session paths forced).foundation = (start session forced).foundation :=
  Keeps.foldl (foundation_runPhase paths) Phase.all (start session forced)

/-- The engine of a batch is the engine of the session, but for its two sets. -/
lemma engine_run (session : Session H) (paths : List String) (forced : Bool) :
    (run session paths forced).engine.root = session.engine.root ∧
      (run session paths forced).engine.settings = session.engine.settings ∧
      (run session paths forced).engine.registry = session.engine.registry ∧
      (run session paths forced).engine.plugins = session.engine.plugins := by
  have same := foundation_run session paths forced
  exact ⟨congrArg Foundation.root same, congrArg Foundation.settings same,
    congrArg Foundation.registry same, congrArg Foundation.plugins same⟩

variable {session : Session H} {paths : List String} {forced : Bool}

lemma engine_ranCascaded :
    (ranCascaded session paths forced).engine = (gathered session paths forced).engine :=
  (congrArg Plan.engine plan_ranCascaded).trans
    (congrArg Gathering.engine (gathering_resolved session paths forced))

lemma engine_requestReimports (batch : Batch H) :
    batch.requestReimports.engine
      = if Host.isBuilding batch.host then batch.engine
        else { batch.engine with
          suppressed := batch.engine.suppressed.insertAll batch.written.toList
          deferred := batch.engine.deferred.insertAll batch.deferred.toList } := by
  rw [requestReimports_eq]
  split
  · rfl
  · rw [(requestRefresh_spec _).2.1]
    rfl

/-! ## Whatever the plugins do -/

/-- Plugins cannot reach anything but the report, the record of their calls and what the requests
change. -/
lemma unreported_run {γ : Type} (view : Batch H → γ)
    (unseen : ∀ batch : Batch H, view batch.mute = view batch)
    (kept : ∀ batch : Batch H, view batch.requestReimports = view batch) :
    view (run session paths forced) = view (ranCascaded session paths forced) := by
  obtain ⟨batch, same, run⟩ := mute_run session paths forced
  rw [view_of_mute view unseen run, kept, view_of_mute view unseen same]

/-- Nor can they reach the engine, which the requests change. -/
lemma engine_run_eq_requested :
    (run session paths forced).engine = (requested session paths forced).engine := by
  obtain ⟨batch, same, run⟩ := mute_run session paths forced
  have engine := view_of_mute Batch.engine (fun _ => rfl) same
  have host := view_of_mute Batch.host (fun _ => rfl) same
  have written := view_of_mute Batch.written (fun _ => rfl) same
  have deferred := view_of_mute Batch.deferred (fun _ => rfl) same
  rw [view_of_mute Batch.engine (fun _ => rfl) run, requested, engine_requestReimports,
    engine_requestReimports, engine, host, written, deferred]

/-! The work sets of a batch, with the paths and the answers they come from. -/

lemma collected_run :
    (run session paths forced).collected = (gathered session paths forced).collected := by
  rw [unreported_run Batch.collected (fun _ => rfl) fun b => congrArg Ledger.collected
    (ledger_requestReimports b)]
  exact (congrArg Plan.collected plan_ranCascaded).trans (collected_resolved session paths forced)

lemma types_run :
    (run session paths forced).lookups.types = (resolved session paths forced).lookups.types := by
  rw [unreported_run (fun b => b.lookups.types) (fun _ => rfl) fun b => congrArg
    (fun l => l.lookups.types) (ledger_requestReimports b)]
  exact congrArg Plan.types plan_ranCascaded

lemma direct_run : (run session paths forced).direct = (resolved session paths forced).direct := by
  rw [unreported_run Batch.direct (fun _ => rfl) fun b => congrArg Ledger.direct
    (ledger_requestReimports b)]
  exact congrArg Plan.direct plan_ranCascaded

lemma cascaded_run :
    (run session paths forced).cascaded = (resolved session paths forced).cascaded := by
  rw [unreported_run Batch.cascaded (fun _ => rfl) fun b => congrArg Ledger.cascaded
    (ledger_requestReimports b)]
  exact congrArg Plan.cascaded plan_ranCascaded

lemma deferred_eq_ranCascaded :
    (run session paths forced).deferred = (ranCascaded session paths forced).deferred :=
  unreported_run Batch.deferred (fun _ => rfl) fun b =>
    congrArg Ledger.deferred (ledger_requestReimports b)

lemma written_eq_ranCascaded :
    (run session paths forced).written = (ranCascaded session paths forced).written :=
  unreported_run Batch.written (fun _ => rfl) fun b =>
    congrArg Ledger.written (ledger_requestReimports b)

/-- The sources put off after a batch: those that were not notified again, and those put off now. -/
theorem deferred_run :
    (run session paths forced).engine.deferred
      = if Host.isBuilding (ranCascaded session paths forced).host then
          (gathered session paths forced).engine.deferred
        else (gathered session paths forced).engine.deferred.insertAll
          (ranCascaded session paths forced).deferred.toList := by
  rw [engine_run_eq_requested, requested, engine_requestReimports, ← engine_ranCascaded]
  split <;> rfl

section Run

variable (observers : ∀ plugin ∈ session.engine.plugins, plugin.AppendsOnly)

include observers

/-- A batch agrees with its phases on everything but diagnostics and calls of plugins. -/
lemma view_run {γ : Type} (view : Batch H → γ)
    (blind : ∀ batch : Batch H, view batch.quiet = view batch) :
    view (run session paths forced) = view (requested session paths forced) := by
  rw [← blind, quiet_run paths forced observers, blind]

lemma ledger_run :
    (run session paths forced).ledger = (ranCascaded session paths forced).ledger :=
  (view_run observers ledger fun _ => rfl).trans (ledger_requestReimports _)

lemma reported_run :
    (run session paths forced).report.ran = (ranCascaded session paths forced).report.ran :=
  congrArg Ledger.ran (ledger_run observers)

lemma absorbed_run :
    (run session paths forced).report.suppressed
      = (distinctPaths paths).filter (start session forced).absorbs := by
  rw [← absorbed_gathered]
  exact (congrArg Ledger.absorbed (ledger_run observers)).trans
    ((congrArg Plan.absorbed plan_ranCascaded).trans
      (congrArg (fun g => g.report.suppressed) (gathering_resolved session paths forced)))

lemma written_run :
    (run session paths forced).report.written = (ranCascaded session paths forced).written.toList :=
  (congrArg Ledger.listed (ledger_run observers)).trans recorded_ranCascaded.listed

/-- The outputs waiting for their reimport after a batch: those that were not absorbed, and those
written unless the host is building. -/
theorem suppressed_run :
    (run session paths forced).engine.suppressed
      = if Host.isBuilding (ranCascaded session paths forced).host then
          (gathered session paths forced).engine.suppressed
        else (gathered session paths forced).engine.suppressed.insertAll
          (run session paths forced).report.written := by
  rw [written_run observers, engine_run_eq_requested, requested, engine_requestReimports,
    ← engine_ranCascaded]
  split <;> rfl

lemma empty_not_mem_written : "" ∉ (run session paths forced).report.written := by
  rw [written_run observers]
  exact recorded_ranCascaded.named

/-- What waits after a batch: its outputs, unless the host is building, and what has waited before
and is not notified to an unforced batch. -/
theorem mem_suppressed_run {path : String} (named : path ∈ session.engine.suppressed → path ≠ "") :
    path ∈ (run session paths forced).engine.suppressed ↔
      (Host.isBuilding (ranCascaded session paths forced).host = false ∧
          path ∈ (run session paths forced).report.written) ∨
        (path ∈ session.engine.suppressed ∧
          ¬(forced = false ∧ ∃ notified ∈ paths, SourcePath.normalize notified = path)) := by
  have kept : path ∈ (gathered session paths forced).engine.suppressed ↔
      path ∈ session.engine.suppressed ∧
        ¬(forced = false ∧ ∃ notified ∈ paths, SourcePath.normalize notified = path) := by
    rw [suppressed_gathered, absorbed_gathered, OrderedSet.mem_eraseAll, List.mem_filter,
      absorbs_start, mem_distinctPaths]
    refine and_congr_right fun waits => not_congr ?_
    constructor
    · rintro ⟨⟨_, notified⟩, unforced, _⟩
      exact ⟨unforced, notified⟩
    · rintro ⟨unforced, notified⟩
      exact ⟨⟨named waits, notified⟩, unforced, waits⟩
  rw [suppressed_run observers]
  cases Host.isBuilding (ranCascaded session paths forced).host with
  | true => simpa using kept
  | false =>
    rw [if_neg Bool.false_ne_true, OrderedSet.mem_insertAll, kept, or_comm]
    simp

/-- Nothing without a name waits after a batch. -/
lemma empty_not_mem_suppressed (named : "" ∉ session.engine.suppressed) :
    "" ∉ (run session paths forced).engine.suppressed := by
  rw [mem_suppressed_run observers fun waits => absurd waits named]
  rintro (⟨_, written⟩ | ⟨waits, _⟩)
  · exact empty_not_mem_written observers written
  · exact named waits

/-- The sources that a batch reports as put off. -/
theorem announced_run :
    (run session paths forced).report.deferred
      = if Host.isBuilding (ranCascaded session paths forced).host then []
        else (ranCascaded session paths forced).deferred.toList := by
  have none : (ranCascaded session paths forced).report.deferred = [] :=
    (congrArg Plan.announced plan_ranCascaded).trans (fresh_resolved session paths forced).2.2.1
  rw [view_run observers (fun batch => batch.report.deferred) fun _ => rfl, requested,
    requestReimports_eq]
  split
  · exact none
  · rw [(requestRefresh_spec _).2.2]
    exact (congrArg (· ++ (ranCascaded session paths forced).deferred.toList) none).trans rfl

section Decided

variable (indexed : session.engine.registry.Indexed)

include indexed

lemma run_later (later : (ranDirect session paths forced).runsNow = false) :
    (run session paths forced).report.ran = (ranDirect session paths forced).direct.keys ∧
      (run session paths forced).report.cascaded = false ∧
      (run session paths forced).report.deferred
        = if Host.isBuilding (ranCascaded session paths forced).host then []
          else (ranDirect session paths forced).putOff.toList := by
  obtain ⟨ran, cascaded, deferred, _⟩ := ranCascaded_later indexed later
  have same : (run session paths forced).ledger = _ := ledger_run observers
  refine ⟨?_, (congrArg Ledger.cascades same).trans cascaded, ?_⟩
  · rw [direct_ranDirect]
    exact (congrArg Ledger.ran same).trans ran
  · rw [announced_run observers, deferred]

lemma run_now (now : (ranDirect session paths forced).runsNow = true) :
    (run session paths forced).report.ran
        = (ranDirect session paths forced).direct.keys ++ (ranDirect session paths forced).due ∧
      (run session paths forced).report.cascaded = !(ranDirect session paths forced).due.isEmpty ∧
      (run session paths forced).report.deferred = [] := by
  obtain ⟨ran, cascaded, deferred⟩ := ranCascaded_now indexed now
  have same : (run session paths forced).ledger = _ := ledger_run observers
  refine ⟨?_, (congrArg Ledger.cascades same).trans cascaded, ?_⟩
  · rw [direct_ranDirect]
    exact (congrArg Ledger.ran same).trans ran
  · rw [announced_run observers, deferred, OrderedSet.toList_empty, ite_self]

/-- Whichever way the decision goes, the direct declarations run, and then pending ones, each
once. -/
lemma ran_run :
    ∃ more, more.Sublist (ranDirect session paths forced).pending ∧
      (run session paths forced).report.ran = (ranDirect session paths forced).direct.keys
        ++ more := by
  cases decided : (ranDirect session paths forced).runsNow with
  | true => exact ⟨_, List.filter_sublist, (run_now observers indexed decided).1⟩
  | false =>
    exact ⟨[], List.nil_sublist _,
      (run_later observers indexed decided).1.trans (List.append_nil _).symm⟩

lemma nodup_ran_run : (run session paths forced).report.ran.Nodup := by
  obtain ⟨more, sublist, ran⟩ : ∃ more,
    List.Sublist more (ranDirect session paths forced).pending ∧ _ :=
    ran_run observers indexed
  rw [ran]
  refine List.Nodup.append (ranDirect session paths forced).direct.nodup
    (sublist.nodup (nodup_pending _)) ?_
  exact List.disjoint_left.mpr fun id direct pending =>
    (mem_pending.mp (sublist.subset pending)).2 direct

end Decided

end Run

end Batch

end SourceGen
