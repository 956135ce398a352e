import SourceGen.Proofs.Batch.Plugins

/-!
# What collecting does

Collecting goes over the distinct paths of a notification one by one, and each step reads the two
sets of the engine that the steps before have written. But a step removes no path other than its
own, and no path comes twice, so what becomes of a path is decided by the sets as they were at the
beginning: collecting is one update of the batch (`afterCollecting`, `foldl_collectPath`). An
unforced batch *absorbs* the paths that wait for their reimport; the others are taken off the
deferred ones, and they *count* unless automatic generation passes over them.
-/

namespace SourceGen

namespace Batch

variable {H : Type}

/-- Whether collecting absorbs the path as the reimport of an output. -/
def absorbs (batch : Batch H) (path : String) : Bool :=
  !batch.forced && path ∈ batch.engine.suppressed

/-- Whether the path is collected. -/
def counts (batch : Batch H) (path : String) : Bool :=
  !batch.absorbs path && !batch.isPassedOver path

/-- The batch with distinct paths collected, all of them at once. -/
def afterCollecting (batch : Batch H) (paths : List String) : Batch H :=
  { batch with
    session.engine.suppressed := batch.engine.suppressed.eraseAll (paths.filter batch.absorbs)
    session.engine.deferred :=
      batch.engine.deferred.eraseAll (paths.filter fun p => !batch.absorbs p)
    collected := batch.collected ++ paths.filter batch.counts
    deferredHits := batch.deferredHits.insertAll
      (paths.filter fun p => batch.counts p && decide (p ∈ batch.engine.deferred))
    report.suppressed := batch.report.suppressed ++ paths.filter batch.absorbs }

lemma collectPath_eq (batch : Batch H) (path : String) :
    batch.collectPath path = batch.afterCollecting [path] := by
  change (if batch.absorbs path = true then _
    else if batch.isPassedOver path = true then _ else _) = _
  cases waits : batch.absorbs path with
  | true =>
    have none : batch.counts path = false := by simp [counts, waits]
    rw [if_pos rfl]
    simp [afterCollecting, waits, none, engine]
  | false =>
    rw [if_neg Bool.false_ne_true]
    cases passed : batch.isPassedOver path with
    | true =>
      have none : batch.counts path = false := by simp [counts, passed]
      rw [if_pos rfl]
      simp [afterCollecting, waits, none, engine]
    | false =>
      have one : batch.counts path = true := by simp [counts, waits, passed]
      rw [if_neg Bool.false_ne_true]
      by_cases put : path ∈ batch.engine.deferred
      · simp only [afterCollecting, List.filter_cons, List.filter_nil, waits, one,
          decide_eq_true put]
        simp [engine]
      · simp only [afterCollecting, List.filter_cons, List.filter_nil, waits, one,
          decide_eq_false put]
        simp [engine]

/-- Collecting a path decides nothing about another one. -/
lemma absorbs_afterCollecting {batch : Batch H} {paths : List String} {path : String}
    (other : path ∉ paths) : (batch.afterCollecting paths).absorbs path = batch.absorbs path := by
  have kept : path ∈ (batch.afterCollecting paths).engine.suppressed
      ↔ path ∈ batch.engine.suppressed := by
    simp [afterCollecting, engine, other]
  simp only [absorbs, kept]
  rfl

lemma afterCollecting_afterCollecting (batch : Batch H) {paths more : List String}
    (disjoint : ∀ path ∈ more, path ∉ paths) :
    (batch.afterCollecting paths).afterCollecting more = batch.afterCollecting (paths ++ more) := by
  have absorbed : more.filter (batch.afterCollecting paths).absorbs = more.filter batch.absorbs :=
    List.filter_congr fun path listed => absorbs_afterCollecting (disjoint path listed)
  have others : more.filter (fun p => !(batch.afterCollecting paths).absorbs p)
      = more.filter fun p => !batch.absorbs p :=
    List.filter_congr fun path listed => by rw [absorbs_afterCollecting (disjoint path listed)]
  have same : ∀ path ∈ more, (batch.afterCollecting paths).counts path = batch.counts path := by
    intro path listed
    rw [counts, absorbs_afterCollecting (disjoint path listed)]
    rfl
  have hits : more.filter (fun p => (batch.afterCollecting paths).counts p
        && decide (p ∈ (batch.afterCollecting paths).engine.deferred))
      = more.filter fun p => batch.counts p && decide (p ∈ batch.engine.deferred) := by
    refine List.filter_congr fun path listed => ?_
    have kept : path ∈ (batch.afterCollecting paths).engine.deferred
        ↔ path ∈ batch.engine.deferred := by
      simp [afterCollecting, engine, disjoint path listed]
    rw [same path listed]
    simp only [kept]
  rw [afterCollecting, absorbed, others, List.filter_congr same, hits]
  simp only [afterCollecting, engine, List.filter_append, OrderedSet.eraseAll_append,
    OrderedSet.insertAll_append, List.append_assoc]

/-- Collecting distinct paths one by one decides on each as if it were alone. -/
theorem foldl_collectPath {paths : List String} (distinct : paths.Nodup) (batch : Batch H) :
    paths.foldl collectPath batch = batch.afterCollecting paths := by
  induction paths generalizing batch with
  | nil => simp [afterCollecting, engine]
  | cons path rest ih =>
    obtain ⟨absent, distinct⟩ := List.nodup_cons.mp distinct
    rw [List.foldl_cons, ih distinct, collectPath_eq, afterCollecting_afterCollecting]
    · rfl
    · intro other listed same
      rw [List.mem_singleton] at same
      exact absent (same ▸ listed)

/-! ## The paths of a notification -/

lemma nodup_distinctPaths (paths : List String) : (distinctPaths paths).Nodup :=
  OrderedSet.nodup _

@[simp] lemma mem_distinctPaths {paths : List String} {path : String} :
    path ∈ distinctPaths paths ↔ path ≠ "" ∧ ∃ notified ∈ paths, SourcePath.normalize notified
      = path := by
  rw [distinctPaths, ← OrderedSet.mem_iff, OrderedSet.mem_ofList, List.mem_filter, List.mem_map,
    decide_eq_true_eq, and_comm]

variable {session : Session H} {paths : List String} {forced : Bool}

/-- What collecting leaves of a session. -/
theorem gathered_eq (session : Session H) (paths : List String) (forced : Bool) :
    gathered session paths forced = (start session forced).afterCollecting (distinctPaths paths) :=
  foldl_collectPath (nodup_distinctPaths paths) _

lemma absorbs_start {path : String} :
    (start session forced).absorbs path = true ↔ forced = false ∧
    path ∈ session.engine.suppressed := by
  rw [absorbs, Bool.and_eq_true, Bool.not_eq_true', decide_eq_true_eq]
  rfl

lemma mem_collected_gathered {path : String} :
    path ∈ (gathered session paths forced).collected ↔
      path ∈ distinctPaths paths ∧ (start session forced).counts path = true := by
  simp [gathered_eq, afterCollecting, start]

lemma mem_deferredHits_gathered {path : String} :
    path ∈ (gathered session paths forced).deferredHits ↔
      path ∈ (gathered session paths forced).collected ∧ path ∈ session.engine.deferred := by
  rw [mem_collected_gathered, gathered_eq, and_assoc]
  simp only [afterCollecting, OrderedSet.mem_insertAll, List.mem_filter, Bool.and_eq_true,
    decide_eq_true_eq]
  exact or_iff_right (OrderedSet.not_mem_empty path)

variable (session paths forced) in
lemma nodup_collected_gathered : (gathered session paths forced).collected.Nodup := by
  rw [gathered_eq]
  exact (nodup_distinctPaths paths).filter _

lemma pathExists_gathered (path : String) :
    (gathered session paths forced).pathExists path = (start session forced).pathExists path := by
  rw [gathered_eq]
  rfl

lemma suppressed_gathered :
    (gathered session paths forced).engine.suppressed
      = session.engine.suppressed.eraseAll (gathered session paths forced).report.suppressed := by
  simp [gathered_eq, afterCollecting, start, engine]

/-- An absorbed path was waiting, and only an unforced batch absorbs. -/
lemma absorbed_gathered :
    (gathered session paths forced).report.suppressed
      = (distinctPaths paths).filter (start session forced).absorbs := by
  simp [gathered_eq, afterCollecting, start]

lemma mem_deferred_gathered {path : String} :
    path ∈ (gathered session paths forced).engine.deferred ↔
      path ∈ session.engine.deferred ∧
        (path ∈ distinctPaths paths → (start session forced).absorbs path = true) := by
  simp only [gathered_eq, afterCollecting, engine, OrderedSet.mem_eraseAll, List.mem_filter,
    Bool.not_eq_true', not_and, Bool.not_eq_false]
  rfl

end Batch

end SourceGen
