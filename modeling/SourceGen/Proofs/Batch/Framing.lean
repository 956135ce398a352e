import SourceGen.Proofs.Batch.Frames

/-!
# Batches under an earlier report

The steps of the first four phases never read the report, and all that they do to it is to append to
its lists and to set a flag. So a step does the same whatever the report holds already, and leaves
that in front of what it adds (`Framed`). A step that does so cannot be influenced through the
report: what it does to the rest of a batch is the same when the report is blanked out before.

The requests for reimports are the only work that looks at the report, for whether a cascade ran; so
the last two phases are not framed, and what becomes of them is told in
`SourceGen.Proofs.Batch.Plugins`.
-/

namespace SourceGen

/-- The report with an earlier one in front of it. -/
def BatchReport.after (report earlier : BatchReport) : BatchReport where
  forced := earlier.forced
  ran := earlier.ran ++ report.ran
  written := earlier.written ++ report.written
  skipped := earlier.skipped ++ report.skipped
  suppressed := earlier.suppressed ++ report.suppressed
  deferred := earlier.deferred ++ report.deferred
  cascaded := earlier.cascaded || report.cascaded
  refreshRequested := earlier.refreshRequested || report.refreshRequested
  diagnostics := earlier.diagnostics ++ report.diagnostics

namespace Batch

variable {H : Type}

/-- The batch with an earlier report in front of its own, and with other calls of plugins on
record. -/
def under (batch : Batch H) (earlier : BatchReport) (calls : List HookCall) : Batch H :=
  { batch with session.world.hookCalls := calls, report := batch.report.after earlier }

/-- The step does the same under any earlier report, and leaves that where it is. -/
def Framed (step : Batch H → Batch H) : Prop :=
  ∀ batch earlier calls, step (batch.under earlier calls) = (step batch).under earlier calls

lemma Framed.comp {first second : Batch H → Batch H} (hs : Framed second) (hf : Framed first) :
    Framed fun batch => second (first batch) := by
  intro batch earlier calls
  dsimp only
  rw [hf, hs]

lemma Framed.foldl {α : Type} {step : Batch H → α → Batch H}
    (framed : ∀ a, Framed fun b => step b a) (items : List α) :
    Framed fun batch => items.foldl step batch := by
  induction items with
  | nil => exact fun _ _ _ => rfl
  | cons a rest ih => exact Framed.comp ih (framed a)

/-! ## Collecting and resolving -/

lemma framed_note (severity : Severity) (phase : Phase) (message location : String) :
    Framed fun batch : Batch H => batch.note severity phase message location := by
  intro batch earlier calls
  simp [note, under, BatchReport.after, BatchReport.add]

lemma framed_collectPath (path : String) :
    Framed fun batch : Batch H => batch.collectPath path := by
  intro batch earlier calls
  by_cases waits : (!batch.forced && path ∈ batch.engine.suppressed) = true
  · have same : (!(batch.under earlier calls).forced
        && path ∈ (batch.under earlier calls).engine.suppressed) = true := waits
    simp only [collectPath, if_pos waits, if_pos same]
    simp [under, BatchReport.after, engine]
  · have same : ¬ (!(batch.under earlier calls).forced
        && path ∈ (batch.under earlier calls).engine.suppressed) = true := waits
    simp only [collectPath, if_neg waits, if_neg same]
    rw [apply_ite (fun b : Batch H => b.under earlier calls)]
    rfl

lemma framed_collect (paths : List String) : Framed (collect (H := H) paths) :=
  Framed.foldl framed_collectPath _

lemma framed_scheduleDirect (target : TypeName) (path : String) (fanOut : Bool)
    (registration : Registration) :
    Framed fun batch : Batch H => batch.scheduleDirect target path fanOut registration := by
  intro batch earlier calls
  cases fanOut <;> rfl

lemma framed_schedule (path : String) (classification : Classification) :
    Framed fun batch : Batch H => batch.schedule path classification := by
  intro batch earlier calls
  have sameForced : (batch.under earlier calls).forced = batch.forced := rfl
  cases classification with
  | direct target => exact Framed.foldl (framed_scheduleDirect target path _) _ batch earlier calls
  | generated generator =>
    simp only [schedule, sameForced]
    split <;> rfl
  | generatorSource type => rfl
  | irrelevant =>
    simp only [schedule, sameForced]
    split
    · exact framed_note _ _ _ _ batch earlier calls
    · rfl

lemma framed_answered (lookups : Lookups) (host : H) :
    Framed fun batch : Batch H => { batch with lookups }.setHost host :=
  fun _ _ _ => rfl

/-! ## Running -/

lemma framed_settle (id : DeclarationId) (phase : Phase) (outcome : Except EmitError EmitOutcome) :
    Framed fun batch : Batch H => batch.settle id phase outcome := by
  intro batch earlier calls
  rcases outcome with error | path | _ | path
  · exact framed_note _ _ _ _ batch earlier calls
  · have same : (batch.under earlier calls).written = batch.written := rfl
    simp only [settle, same]
    split
    · rfl
    · simp [under, BatchReport.after]
  · rfl
  · simp [settle, under, BatchReport.after]

/-- Whether an emission wrote does not depend on the report either. -/
lemma framed_emit (batch : Batch H) (id : DeclarationId) (source : String) (phase : Phase)
    (earlier : BatchReport) (calls : List HookCall) :
    ((batch.under earlier calls).emit id source phase).1
        = (batch.emit id source phase).1.under earlier calls ∧
      ((batch.under earlier calls).emit id source phase).2 = (batch.emit id source phase).2 := by
  have same : (batch.under earlier calls).engine = batch.engine := rfl
  have sameForced : (batch.under earlier calls).forced = batch.forced := rfl
  have sameSite : (batch.under earlier calls).session.world.site = batch.session.world.site := rfl
  simp only [emit, same, sameForced, sameSite]
  split
  · exact ⟨rfl, rfl⟩
  · refine ⟨?_, rfl⟩
    rw [← framed_settle]
    simp [under, BatchReport.after]

lemma framed_runDirectEntry (entry : DeclarationId × String) :
    Framed fun batch : Batch H => batch.runDirectEntry entry := by
  intro batch earlier calls
  obtain ⟨same, wrote⟩ := framed_emit batch entry.1 entry.2 .runningDirect earlier calls
  simp only [runDirectEntry, same, wrote]
  rfl

lemma framed_runDirect : Framed (runDirect (H := H)) :=
  fun batch => Framed.foldl framed_runDirectEntry batch.direct.entries batch

lemma framed_runOrDefer (now : Bool) (id : DeclarationId) (source : String) :
    Framed fun batch : Batch H => batch.runOrDefer now id source := by
  intro batch earlier calls
  have sameForced : (batch.under earlier calls).forced = batch.forced := rfl
  have sameEngine : (batch.under earlier calls).engine = batch.engine := rfl
  have sameFiles : (batch.under earlier calls).pathExists source = batch.pathExists source := rfl
  have flagged : Framed fun b : Batch H => { b with report.cascaded := true } := by
    intro b earlier calls
    simp [under, BatchReport.after]
  have emitted : Framed fun b : Batch H => (b.emit id source .runningCascaded).1 :=
    fun b earlier calls => (framed_emit b id source .runningCascaded earlier calls).1
  simp only [runOrDefer, sameForced, sameEngine, sameFiles]
  split
  · rfl
  · split
    · rfl
    · split
      · exact emitted.comp flagged batch earlier calls
      · exact framed_note _ _ _ _ batch earlier calls

variable [Host H]

lemma framed_resolvePath (path : String) :
    Framed fun batch : Batch H => batch.resolvePath path := by
  intro batch earlier calls
  have sameEngine : (batch.under earlier calls).engine = batch.engine := rfl
  have sameForced : (batch.under earlier calls).forced = batch.forced := rfl
  have sameFiles : (batch.under earlier calls).files = batch.files := rfl
  have sameLookups : (batch.under earlier calls).lookups = batch.lookups := rfl
  have sameHost : (batch.under earlier calls).host = batch.host := rfl
  have sameExists : (batch.under earlier calls).pathExists path = batch.pathExists path := rfl
  simp only [resolvePath, sameEngine, sameForced, sameFiles, sameLookups, sameHost, sameExists]
  split
  · exact (framed_schedule path _).comp (framed_answered _ _) batch earlier calls
  · split
    · exact framed_note _ _ _ _ batch earlier calls
    · rfl

lemma framed_resolveTargets : Framed (resolveTargets (H := H)) :=
  fun batch => Framed.foldl framed_resolvePath batch.collected batch

lemma framed_runCascadedEntry (now : Bool) (id : DeclarationId) :
    Framed fun batch : Batch H => batch.runCascadedEntry now id := by
  intro batch earlier calls
  have sameLookups : (batch.under earlier calls).lookups = batch.lookups := rfl
  have sameHost : (batch.under earlier calls).host = batch.host := rfl
  have sameFiles : (batch.under earlier calls).files = batch.files := rfl
  simp only [runCascadedEntry, sameLookups, sameHost, sameFiles]
  split
  · exact (framed_runOrDefer now id _).comp (framed_answered _ _) batch earlier calls
  · exact (framed_note _ _ _ _).comp (framed_answered _ _) batch earlier calls

lemma framed_runCascaded : Framed (runCascaded (H := H)) :=
  fun batch => Framed.foldl (framed_runCascadedEntry batch.runsNow) batch.pending batch

end Batch

end SourceGen
