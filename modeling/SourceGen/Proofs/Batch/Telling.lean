import SourceGen.Proofs.Batch.Answering
import SourceGen.Proofs.Batch.Forcing

/-!
# What a batch tells

The steps of a batch only add to its diagnostics, so what one step tells is told at the end
(`told_foldl`), and plugins that append diagnostics take nothing of it back (`told_run`). It is
enough, then, to look at the one step that passes over something: the turn at which a path is
resolved (`told_of_absent`, `told_of_irrelevant`), and the turn of a pending declaration
(`told_of_unlocated`, `told_of_missing`).
-/

namespace SourceGen

namespace Batch

variable {H : Type} {diagnostic : Diagnostic}

/-! ## Steps only add -/

lemma Framed.told {step : Batch H → Batch H} (framed : Framed step) {batch : Batch H}
    (told : diagnostic ∈ batch.report.diagnostics) :
    diagnostic ∈ (step batch).report.diagnostics := by
  rw [framed.diagnostics]
  exact List.mem_append_left _ told

lemma told_foldl {α : Type} {step : Batch H → α → Batch H}
    (framed : ∀ a, Framed fun batch => step batch a) {before after : List α} {a : α}
    {batch : Batch H} (told : diagnostic ∈ (step (before.foldl step batch) a).report.diagnostics) :
    diagnostic ∈ ((before ++ a :: after).foldl step batch).report.diagnostics := by
  rw [List.foldl_append, List.foldl_cons]
  exact (Framed.foldl framed after).told told

variable [Host H] {session : Session H} {paths : List String} {forced : Bool}

lemma requested_unplugged :
    requested session.unplugged paths forced = (requested session paths forced).withPlugins [] := by
  have unaware : ∀ phase, Unaware [] fun batch : Batch H => work paths phase batch :=
    unaware_work paths
  have phases := ((((unaware .requestingReimport).comp (unaware .runningCascaded)).comp
    (unaware .runningDirect)).comp (unaware .resolvingTargets)).comp (unaware .collecting)
  exact phases (start session forced)

/-- Plugins that append diagnostics take none back. -/
lemma told_run (observers : ∀ plugin ∈ session.engine.plugins, plugin.AppendsOnly)
    (told : diagnostic ∈ (ranCascaded session paths forced).report.diagnostics) :
    diagnostic ∈ (run session paths forced).report.diagnostics := by
  have bare : (run session.unplugged paths forced).report.diagnostics
      = (ranCascaded session paths forced).report.diagnostics := by
    rw [run_of_plugins_eq_nil rfl, requested_unplugged]
    exact diagnostics_requestReimports _
  rw [← bare, (matches_run paths forced observers).2] at told
  obtain ⟨moment, listed, told⟩ := List.mem_flatMap.mp told
  rw [diagnostics_run paths forced observers]
  exact List.mem_flatMap.mpr ⟨moment, List.mem_of_mem_filter listed, told⟩

lemma told_of_resolved (told : diagnostic ∈ (resolved session paths forced).report.diagnostics) :
    diagnostic ∈ (ranCascaded session paths forced).report.diagnostics :=
  framed_runCascaded.told (framed_runDirect.told told)

/-! ## Paths -/

/-- At each turn the batch is forced or not as it was, and the same paths name something. -/
lemma resolving_spec (session : Session H) (paths : List String) (forced : Bool)
    (before : List String) (path : String) :
    (before.foldl resolvePath (gathered session paths forced)).forced = forced ∧
      (before.foldl resolvePath (gathered session paths forced)).pathExists path
        = (start session forced).pathExists path := by
  have same := Keeps.foldl gathering_resolvePath before (gathered session paths forced)
  dsimp only at same
  rw [gathered_eq] at same ⊢
  generalize before.foldl resolvePath ((start session forced).afterCollecting (distinctPaths paths))
    = batch at same ⊢
  have root : batch.engine.root = session.engine.root := congrArg (fun g => g.engine.root) same
  have files : batch.files = session.world.site.files := congrArg (fun g => g.site.files) same
  refine ⟨congrArg Gathering.forced same, ?_⟩
  rw [pathExists, root, files]
  rfl

/-- A forced batch tells of a path that names nothing. -/
lemma told_of_absent {path : String} (listed : path ∈ distinctPaths paths)
    (absent : (start session true).pathExists path = false) :
    ⟨.warning, .resolvingTargets, "path does not exist", some path⟩
      ∈ (resolved session paths true).report.diagnostics := by
  obtain ⟨before, after, split⟩ := List.append_of_mem listed
  rw [resolved, resolveTargets, collected_of_forced, split]
  refine told_foldl framed_resolvePath ?_
  obtain ⟨forced, exist⟩ := resolving_spec session paths true before path
  rw [resolvePath, exist, absent, if_neg Bool.false_ne_true, forced, if_pos rfl]
  exact List.mem_append_right _ (List.mem_singleton_self _)

/-- A forced batch tells of a path that means nothing. -/
lemma told_of_irrelevant {path : String} (listed : path ∈ distinctPaths paths)
    (present : (start session true).pathExists path = true)
    (irrelevant : (resolved session paths true).meaning path = .irrelevant) :
    ⟨.warning, .resolvingTargets, "not a registered target or generator", some path⟩
      ∈ (resolved session paths true).report.diagnostics := by
  have distinct := nodup_distinctPaths paths
  obtain ⟨before, after, split⟩ := List.append_of_mem listed
  rw [split] at distinct
  obtain ⟨absent, distinct⟩ := List.nodup_cons.mp distinct.of_append_right
  rw [resolved, resolveTargets, collected_of_forced, split] at irrelevant ⊢
  refine told_foldl framed_resolvePath ?_
  obtain ⟨forced, exist⟩ := resolving_spec session paths true before path
  rw [List.foldl_append, List.foldl_cons] at irrelevant
  generalize before.foldl resolvePath (gathered session paths true)
    = batch at forced exist irrelevant ⊢
  -- The answer for the path stays on record, so it means at the end what it meant at its turn.
  have answer := (foldl_resolvePath distinct (batch.resolvePath path)).2.2 path absent
  rw [meaning_congr (Keeps.foldl gathering_resolvePath after (batch.resolvePath path)) answer,
    meaning_resolvePath_eq_classify (exist.trans present)] at irrelevant
  have informed : ∀ lookups host, (batch.informed lookups host).forced = true := fun _ _ => forced
  rw [resolvePath_of_present (exist.trans present), irrelevant, schedule, if_pos (informed _ _)]
  exact List.mem_append_right _ (List.mem_singleton_self _)

/-! ## Declarations -/

omit [Host H] in
/-- A list is cut at the first place of a member. -/
lemma exists_eq_takeWhile_append {α : Type} [DecidableEq α] {a : α} {items : List α}
    (listed : a ∈ items) :
    ∃ after, items = items.takeWhile (· ≠ a) ++ a :: after := by
  induction items with
  | nil => cases listed
  | cons first rest ih =>
    by_cases same : first = a
    · exact ⟨rest, by simp [same]⟩
    · obtain ⟨after, whole⟩ := ih ((List.mem_cons.mp listed).resolve_left (Ne.symm same))
      refine ⟨after, ?_⟩
      rw [List.takeWhile_cons_of_pos (by simpa using same), List.cons_append, ← whole]

/-- What the turn of a pending declaration tells is told at the end. -/
lemma told_of_turn {id : DeclarationId} (pending : id ∈ (ranDirect session paths forced).pending)
    (told : diagnostic ∈ (((ranDirect session paths forced).turn id).runCascadedEntry
      (ranDirect session paths forced).runsNow id).report.diagnostics) :
    diagnostic ∈ (ranCascaded session paths forced).report.diagnostics := by
  obtain ⟨after, split⟩ := exists_eq_takeWhile_append pending
  rw [ranCascaded, runCascaded, split]
  exact told_foldl (framed_runCascadedEntry _) told

/-- A batch tells of a pending declaration for whose target the host has no source. -/
lemma told_of_unlocated {id : DeclarationId}
    (pending : id ∈ (ranDirect session paths forced).pending)
    (unlocated : ((ranDirect session paths forced).turn id).located id = none) :
    ⟨.warning, .runningCascaded, "no source found for target", some id.text⟩
      ∈ (ranCascaded session paths forced).report.diagnostics := by
  refine told_of_turn pending ?_
  rw [runCascadedEntry_eq, unlocated]
  exact List.mem_append_right _ (List.mem_singleton_self _)

/-- When cascades run, it tells of an admitted source that is not there. -/
lemma told_of_missing (now : (ranDirect session paths forced).runsNow = true) {id : DeclarationId}
    (pending : id ∈ (ranDirect session paths forced).pending) {source : String}
    (located : ((ranDirect session paths forced).turn id).located id = some source)
    (admitted : ((ranDirect session paths forced).turn id).admits source = true)
    (missing : ((ranDirect session paths forced).turn id).pathExists source = false) :
    ⟨.warning, .runningCascaded, "source does not exist", some source⟩
      ∈ (ranCascaded session paths forced).report.diagnostics := by
  refine told_of_turn pending ?_
  generalize (ranDirect session paths forced).turn id = turn at located admitted missing ⊢
  have admitted : (turn.asked id).admits source = true := admitted
  have missing : (turn.asked id).pathExists source = false := missing
  rw [runCascadedEntry_eq, located, now]
  dsimp only
  rw [runOrDefer_absent admitted missing]
  exact List.mem_append_right _ (List.mem_singleton_self _)

end Batch

end SourceGen
