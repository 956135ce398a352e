import SourceGen.Proofs.Batch.Requesting
import SourceGen.Proofs.FileSystem.Growth

/-!
# A batch loses no files

Of all steps of a batch only emissions change files, and they lose nothing
(`Registration.grows_emit`). So a path that names anything when the batch begins does so at every
turn of a cascaded declaration (`pathExists_turn`) and when the batch is over (`files_run`).
-/

namespace SourceGen

namespace Batch

variable {H : Type}

/-! ## One step -/

lemma files_settle (id : DeclarationId) (phase : Phase) (outcome : Except EmitError EmitOutcome) :
    Keeps files fun batch : Batch H => batch.settle id phase outcome := by
  intro batch
  rcases outcome with error | path | _ | path
  · rfl
  · simp only [settle]
    split <;> rfl
  · rfl
  · rfl

lemma grows_emit (batch : Batch H) (id : DeclarationId) (source : String) (phase : Phase) :
    batch.files.Grows (batch.emit id source phase).1.files := by
  simp only [emit]
  split
  · exact .refl _
  · rw [files_settle]
    exact Registration.grows_emit _ _ _ _ source batch.session.world.site

lemma grows_runDirectEntry (batch : Batch H) (entry : DeclarationId × String) :
    batch.files.Grows (batch.runDirectEntry entry).files :=
  grows_emit batch entry.1 entry.2 .runningDirect

lemma grows_runOrDefer (batch : Batch H) (now : Bool) (id : DeclarationId) (source : String) :
    batch.files.Grows (batch.runOrDefer now id source).files := by
  simp only [runOrDefer]
  split
  · exact .refl _
  · split
    · exact .refl _
    · split
      · exact grows_emit { batch with report.cascaded := true } id source .runningCascaded
      · exact .refl _

lemma grows_foldl {α : Type} {step : Batch H → α → Batch H}
    (grows : ∀ (batch : Batch H) a, batch.files.Grows (step batch a).files) (items : List α)
    (batch : Batch H) :
    batch.files.Grows (items.foldl step batch).files := by
  induction items generalizing batch with
  | nil => exact .refl _
  | cons a rest ih => exact (grows batch a).trans (ih (step batch a))

variable [Host H]

lemma grows_runCascadedEntry (now : Bool) (batch : Batch H) (id : DeclarationId) :
    batch.files.Grows (batch.runCascadedEntry now id).files := by
  rw [runCascadedEntry_eq]
  cases batch.located id with
  | none => exact .refl _
  | some source => exact grows_runOrDefer (batch.asked id) now id source

/-! ## A whole batch -/

variable {session : Session H} {paths : List String} {forced : Bool}

lemma files_ranDirect :
    session.world.site.files.Grows (ranDirect session paths forced).files := by
  have began : (resolved session paths forced).files = session.world.site.files :=
    congrArg Site.files site_resolved
  rw [← began]
  exact grows_foldl grows_runDirectEntry _ _

/-- Files that are there when the batch begins are there at every turn. -/
theorem pathExists_turn (id : DeclarationId) {path : String}
    (present : (start session forced).pathExists path = true) :
    ((ranDirect session paths forced).turn id).pathExists path = true := by
  have root : ((ranDirect session paths forced).turn id).engine.root = session.engine.root :=
    congrArg Foundation.root (foundation_turn id)
  have taken : (ranDirect session paths forced).files.Grows
      ((ranDirect session paths forced).turn id).files := grows_foldl (grows_runCascadedEntry _) _ _
  rw [pathExists, root]
  exact (files_ranDirect.trans taken).pathExists present

/-- Files that are there when the batch begins are there when it is over. -/
theorem files_run (observers : ∀ plugin ∈ session.engine.plugins, plugin.AppendsOnly) :
    session.world.site.files.Grows (run session paths forced).files := by
  have site : (run session paths forced).files = (ranCascaded session paths forced).files :=
    congrArg (fun l : Ledger => l.site.files) (ledger_run observers)
  rw [site]
  exact files_ranDirect.trans (grows_foldl (grows_runCascadedEntry _) _ _)

end Batch

end SourceGen
