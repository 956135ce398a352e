import SourceGen.Proofs.Observers

/-!
# Forced batches, and batches with nothing to do

A forced batch absorbs none of its paths and passes over none, so it collects them all
(`collected_of_forced`); its cascades run at once, so it puts nothing off (`deferred_of_forced`).
What it leaves of the engine is what was there, less the sources it was notified of, and with its
outputs waiting.

At the other end stands the batch that collects nothing. No phase after the collection has anything
to do then, so it ends as it was once its paths were gathered (`requested_of_collected_eq_nil`), and
only plugins can add to its report. The batch that is notified of outputs that all wait for it is
one of these (`gathered_of_waiting`).
-/

namespace SourceGen

/-- Elements that are new and come once are added as they are listed. -/
lemma OrderedSet.toList_insertAll_of_nodup {α : Type} [DecidableEq α] {set : OrderedSet α}
    {items : List α} (distinct : (set.toList ++ items).Nodup) :
    (set.insertAll items).toList = set.toList ++ items := by
  induction items generalizing set with
  | nil => exact (List.append_nil _).symm
  | cons a rest ih =>
    have absent : a ∉ set :=
      fun listed => List.disjoint_of_nodup_append distinct listed List.mem_cons_self
    have one : (set.insert a).toList ++ rest = set.toList ++ a :: rest := by
      rw [OrderedSet.toList_insert_of_not_mem absent, List.append_assoc, List.singleton_append]
    rw [OrderedSet.insertAll_cons, ih (one ▸ distinct), one]

namespace Batch

variable {H : Type} {session : Session H} {paths : List String} {forced : Bool}

/-! ## Forced batches -/

lemma absorbs_forced (session : Session H) (path : String) :
    (start session true).absorbs path = false :=
  rfl

lemma absorbed_of_forced (session : Session H) (paths : List String) :
    (gathered session paths true).report.suppressed = [] := by
  rw [absorbed_gathered, List.filter_eq_nil_iff]
  exact fun path _ => Bool.eq_false_iff.mp (absorbs_forced session path)

/-- A forced batch collects all the paths it is given. -/
theorem collected_of_forced (session : Session H) (paths : List String) :
    (gathered session paths true).collected = distinctPaths paths := by
  rw [gathered_eq]
  exact List.filter_eq_self.mpr fun path _ => rfl

lemma suppressed_of_forced (session : Session H) (paths : List String) :
    (gathered session paths true).engine.suppressed = session.engine.suppressed := by
  rw [suppressed_gathered, absorbed_of_forced]
  rfl

section

variable [Host H]

lemma runsNow_of_forced : (ranDirect session paths true).runsNow = true := by
  rw [runsNow, forced_ranDirect, Bool.true_or, Bool.true_or]

omit [Host H] in
lemma deferred_runOrDefer_now (id : DeclarationId) (source : String) :
    Keeps (fun batch : Batch H => batch.deferred) fun batch => batch.runOrDefer true id source := by
  intro batch
  dsimp only
  cases admitted : batch.admits source with
  | false => rw [runOrDefer_refused admitted]
  | true =>
    cases present : batch.pathExists source with
    | false =>
      rw [runOrDefer_absent admitted present]
      rfl
    | true =>
      rw [runOrDefer_due admitted present]
      have standing :=
        standing_emit id source .runningCascaded { batch with report.cascaded := true }
      exact congrArg Standing.deferred standing

lemma deferred_runCascadedEntry_now (id : DeclarationId) :
    Keeps (fun batch : Batch H => batch.deferred) fun batch => batch.runCascadedEntry true id := by
  intro batch
  dsimp only
  rw [runCascadedEntry_eq]
  cases batch.located id with
  | none => rfl
  | some source => exact deferred_runOrDefer_now id source (batch.asked id)

/-- A forced batch puts nothing off. -/
theorem deferred_of_forced : (ranCascaded session paths true).deferred = ∅ := by
  rw [ranCascaded, runCascaded, runsNow_of_forced]
  exact (Keeps.foldl deferred_runCascadedEntry_now _ _).trans fresh_ranDirect.2

lemma deferred_run_of_forced {path : String}
    (put : path ∈ (run session paths true).engine.deferred) :
    path ∈ session.engine.deferred := by
  have kept : path ∈ (gathered session paths true).engine.deferred := by
    rwa [deferred_run, deferred_of_forced, OrderedSet.toList_empty, OrderedSet.insertAll_nil,
      ite_self] at put
  exact (mem_deferred_gathered.mp kept).1

end

/-! ## Batches with nothing to do -/

section

variable [Host H]

/-- A batch that collects nothing has done all it does. -/
theorem requested_of_collected_eq_nil (nothing : (gathered session paths forced).collected = []) :
    requested session paths forced = gathered session paths forced := by
  have resolved : resolved session paths forced = gathered session paths forced := by
    rw [Batch.resolved, resolveTargets, nothing, List.foldl_nil]
  have ran : ranCascaded session paths forced = gathered session paths forced := by
    rw [ranCascaded, ranDirect, resolved, gathered_eq]
    rfl
  rw [requested, ran, requestReimports_eq]
  split
  · rfl
  · rw [gathered_eq]
    rfl

/-- Without plugins a batch is the composition of its phases. -/
lemma run_of_plugins_eq_nil (bare : session.engine.plugins = []) :
    run session paths forced = requested session paths forced := by
  rw [run_eq_take, bare]
  rfl

lemma view_run_of_collected_eq_nil
    (observers : ∀ plugin ∈ session.engine.plugins, plugin.AppendsOnly)
    (nothing : (gathered session paths forced).collected = []) {γ : Type} (view : Batch H → γ)
    (blind : ∀ batch : Batch H, view batch.quiet = view batch) :
    view (run session paths forced) = view (gathered session paths forced) := by
  rw [view_run observers view blind, requested_of_collected_eq_nil nothing]

end

/-! ## Outputs that wait -/

/-- Distinct names that are normal are notified as they are. -/
lemma distinctPaths_eq_self (distinct : paths.Nodup) (named : "" ∉ paths)
    (normal : ∀ path ∈ paths, SourcePath.normalize path = path) : distinctPaths paths = paths := by
  have kept : (paths.map SourcePath.normalize).filter (· ≠ "") = paths := by
    rw [List.map_congr_left normal, List.map_id']
    exact List.filter_eq_self.mpr fun path listed =>
      decide_eq_true (ne_of_mem_of_not_mem listed named)
  rw [distinctPaths, kept, OrderedSet.ofList, OrderedSet.toList_insertAll_of_nodup]
  · rfl
  · exact distinct

/-- An unforced batch that is notified of outputs that wait absorbs them, and that is all. -/
theorem gathered_of_waiting (distinct : paths.Nodup) (named : "" ∉ paths)
    (normal : ∀ path ∈ paths, SourcePath.normalize path = path)
    (waits : ∀ path ∈ paths, path ∈ session.engine.suppressed) :
    gathered session paths false = { start session false with
      session.engine.suppressed := session.engine.suppressed.eraseAll paths
      report.suppressed := paths } := by
  have absorbs : ∀ path ∈ paths, (start session false).absorbs path = true := fun path listed =>
    absorbs_start.mpr ⟨rfl, waits path listed⟩
  have absorbed : paths.filter (start session false).absorbs = paths :=
    List.filter_eq_self.mpr absorbs
  have others : (paths.filter fun path => !(start session false).absorbs path) = [] := by
    simpa using absorbs
  have counted : paths.filter (start session false).counts = [] := by
    simpa [counts] using fun path listed absent =>
      absurd (absorbs path listed) (Bool.eq_false_iff.mp absent)
  have hits : (paths.filter fun path => (start session false).counts path
      && decide (path ∈ (start session false).engine.deferred)) = [] := by
    rw [← List.filter_filter]
    simp only [List.filter_eq_nil_iff] at counted ⊢
    exact fun path listed => counted path (List.mem_filter.mp listed).1
  rw [gathered_eq, distinctPaths_eq_self distinct named normal, afterCollecting, absorbed, others,
    counted, hits]
  rfl

end Batch

end SourceGen
