import SourceGen.Proofs.Batch.Cascading

/-!
# What a batch writes, in order

A batch keeps the outputs it has written as a set, which does not tell when each was written. The
writes themselves are spelled out here, one after the other as declarations run (`Session.writes`),
and the set is shown to list them in the order of the first write of each (`written_ranCascaded`).
-/

namespace SourceGen

namespace Batch

variable {H : Type}

/-- The output that was written, if that is what came of an emission. -/
def writtenPath? : Except EmitError EmitOutcome → Option String
  | .ok (.written path) => some path
  | _ => none

lemma writtenPath?_eq_some_iff {outcome : Except EmitError EmitOutcome} {path : String} :
    writtenPath? outcome = some path ↔ outcome = .ok (.written path) := by
  rcases outcome with error | other | _ | other <;> simp [writtenPath?]

/-- The output that running a declaration for a source writes, as things stand. -/
def write? (batch : Batch H) (id : DeclarationId) (source : String) : Option String :=
  (batch.engine.registry.get? id).bind fun registration =>
    writtenPath? (registration.emit batch.engine.root batch.engine.settings batch.forced source
      batch.session.world.site).2

lemma written_settle (batch : Batch H) (id : DeclarationId) (phase : Phase)
    (outcome : Except EmitError EmitOutcome) :
    (batch.settle id phase outcome).written = batch.written.insertAll
      (writtenPath? outcome).toList := by
  rcases outcome with error | path | _ | path
  · rfl
  · by_cases known : path ∈ batch.written
    · simp [settle, writtenPath?, known, OrderedSet.insert_of_mem]
    · simp [settle, writtenPath?, known]
  · rfl
  · rfl

lemma written_emit (batch : Batch H) (id : DeclarationId) (source : String) (phase : Phase) :
    (batch.emit id source phase).1.written = batch.written.insertAll
      (batch.write? id source).toList := by
  cases found : batch.engine.registry.get? id with
  | none => simp [emit, write?, found]
  | some registration =>
    simp only [emit, write?, found, written_settle]
    rfl

/-- The writes of a run of steps, given those of one. -/
def writesAlong {α : Type} (step : Batch H → α → Batch H) (write? : Batch H → α → Option String) :
    Batch H → List α → List String
  | _, [] => []
  | batch, a :: rest => (write? batch a).toList ++ writesAlong step write? (step batch a) rest

lemma written_foldl {α : Type} {step : Batch H → α → Batch H} {write? : Batch H → α → Option String}
    (one : ∀ batch a, (step batch a).written = batch.written.insertAll (write? batch a).toList)
    (items : List α) (batch : Batch H) :
    (items.foldl step batch).written = batch.written.insertAll
      (writesAlong step write? batch items) := by
  induction items generalizing batch with
  | nil => rfl
  | cons a rest ih => rw [List.foldl_cons, ih, one, writesAlong, OrderedSet.insertAll_append]

lemma written_runDirectEntry (batch : Batch H) (entry : DeclarationId × String) :
    (batch.runDirectEntry entry).written
      = batch.written.insertAll (batch.write? entry.1 entry.2).toList :=
  written_emit batch entry.1 entry.2 .runningDirect

/-- The output that a cascaded declaration writes for a source, when cascades run now. -/
def writeIfDue? (now : Bool) (id : DeclarationId) (source : String) (batch : Batch H) :
    Option String :=
  if batch.admits source && now && batch.pathExists source then batch.write? id source else none

lemma written_runOrDefer (now : Bool) (id : DeclarationId) (source : String) (batch : Batch H) :
    (batch.runOrDefer now id source).written
      = batch.written.insertAll (batch.writeIfDue? now id source).toList := by
  rw [runOrDefer, writeIfDue?, not_admits]
  cases batch.admits source with
  | false => rfl
  | true =>
    cases now with
    | false => rfl
    | true =>
      cases batch.pathExists source with
      | false => rfl
      | true => exact written_emit { batch with report.cascaded := true } id source .runningCascaded

variable [Host H]

/-- The output that a cascaded declaration writes at its turn. -/
def cascadedWrite? (now : Bool) (batch : Batch H) (id : DeclarationId) : Option String :=
  (batch.located id).bind fun source => (batch.asked id).writeIfDue? now id source

lemma written_runCascadedEntry (now : Bool) (batch : Batch H) (id : DeclarationId) :
    (batch.runCascadedEntry now id).written
      = batch.written.insertAll (batch.cascadedWrite? now id).toList := by
  rw [runCascadedEntry_eq, cascadedWrite?]
  cases batch.located id with
  | none => rfl
  | some source => exact written_runOrDefer now id source (batch.asked id)

end Batch

open Batch

/-- The outputs that a batch on the session writes, one after the other: those of the direct
declarations, and those of the cascaded ones. -/
def Session.writes {H : Type} [Host H] (session : Session H) (paths : List String) (forced : Bool) :
    List String :=
  writesAlong runDirectEntry (fun batch entry => batch.write? entry.1 entry.2)
      (resolved session paths forced) (resolved session paths forced).direct.entries
    ++ writesAlong (runCascadedEntry (ranDirect session paths forced).runsNow)
      (cascadedWrite? (ranDirect session paths forced).runsNow) (ranDirect session paths forced)
      (ranDirect session paths forced).pending

/-- The set of outputs lists the writes in the order of the first of each. -/
theorem Batch.written_ranCascaded {H : Type} [Host H] (session : Session H) (paths : List String)
    (forced : Bool) :
    (ranCascaded session paths forced).written = .ofList (session.writes paths forced) := by
  have direct : (ranDirect session paths forced).written = _ :=
    written_foldl written_runDirectEntry (resolved session paths forced).direct.entries
      (resolved session paths forced)
  rw [written_resolved] at direct
  have cascaded : (ranCascaded session paths forced).written = _ :=
    written_foldl (written_runCascadedEntry (ranDirect session paths forced).runsNow)
      (ranDirect session paths forced).pending (ranDirect session paths forced)
  rw [cascaded, direct, ← OrderedSet.insertAll_append]
  rfl

end SourceGen
