import Mathlib.Tactic.Lemma
import SourceGen.Engine.Session

/-!
# What the steps of a batch leave alone

A batch is one large record, and each of its steps writes to a few fields. Instead of one lemma per
step and field, the fields are gathered into *views* by how long they stay as they are:

* `Foundation`, what no phase changes: the engine without its two sets, and whether the batch is
  forced;
* `Gathering`, what resolving leaves alone: all but the work sets and what the host has answered;
* `Plan`, what stands once the targets are resolved: the engine, the collected paths with the types
  that the host has told of them, the two work sets, and what the report says of absorbed and of
  deferred paths and of the refresh;
* `Standing`, what one emission leaves alone besides: the host with its answers, the sources put
  off, and whether cascades ran.

A step that `Keeps` a view keeps each of its fields, and so does any run of such steps.
-/

namespace SourceGen

namespace Batch

variable {H : Type}

/-- The step does not change what is seen through the view. -/
def Keeps {γ : Type} (view : Batch H → γ) (step : Batch H → Batch H) : Prop :=
  ∀ batch, view (step batch) = view batch

lemma Keeps.foldl {γ α : Type} {view : Batch H → γ} {step : Batch H → α → Batch H}
    (keeps : ∀ a, Keeps view fun batch => step batch a) (items : List α) :
    Keeps view fun batch => items.foldl step batch := by
  induction items with
  | nil => exact fun _ => rfl
  | cons a rest ih => exact fun batch => (ih (step batch a)).trans (keeps a batch)

/-! ## The views -/

/-- What no phase changes. -/
structure Foundation where
  forced : Bool
  root : String
  settings : Settings
  registry : Registry
  plugins : List Plugin

/-- What no phase changes, as the batch has it. -/
def foundation (batch : Batch H) : Foundation where
  forced := batch.forced
  root := batch.engine.root
  settings := batch.engine.settings
  registry := batch.engine.registry
  plugins := batch.engine.plugins

/-- What stands once the paths are collected. -/
structure Gathering where
  forced : Bool
  engine : Engine
  site : Site
  collected : List String
  deferredHits : OrderedSet String
  written : OrderedSet String
  deferred : OrderedSet String
  updated : Bool
  report : BatchReport

/-- What no phase changes, seen through what stands once the paths are collected. -/
def Gathering.foundation (gathering : Gathering) : Foundation where
  forced := gathering.forced
  root := gathering.engine.root
  settings := gathering.engine.settings
  registry := gathering.engine.registry
  plugins := gathering.engine.plugins

/-- What stands once the paths are collected, as the batch has it. -/
def gathering (batch : Batch H) : Gathering where
  forced := batch.forced
  engine := batch.engine
  site := batch.session.world.site
  collected := batch.collected
  deferredHits := batch.deferredHits
  written := batch.written
  deferred := batch.deferred
  updated := batch.updated
  report := { batch.report with diagnostics := [] }

/-- What stands once the targets are resolved. -/
structure Plan where
  forced : Bool
  engine : Engine
  collected : List String
  types : OrderedMap String (Option TypeName)
  deferredHits : OrderedSet String
  direct : OrderedMap DeclarationId String
  cascaded : OrderedSet DeclarationId
  absorbed : List String
  announced : List String
  refresh : Bool

/-- What no phase changes, seen through what stands once the targets are resolved. -/
def Plan.foundation (plan : Plan) : Foundation where
  forced := plan.forced
  root := plan.engine.root
  settings := plan.engine.settings
  registry := plan.engine.registry
  plugins := plan.engine.plugins

/-- What stands once the targets are resolved, as the batch has it. -/
def plan (batch : Batch H) : Plan where
  forced := batch.forced
  engine := batch.engine
  collected := batch.collected
  types := batch.lookups.types
  deferredHits := batch.deferredHits
  direct := batch.direct
  cascaded := batch.cascaded
  absorbed := batch.report.suppressed
  announced := batch.report.deferred
  refresh := batch.report.refreshRequested

/-- What an emission leaves alone. -/
structure Standing (H : Type) where
  plan : Plan
  host : H
  lookups : Lookups
  deferred : OrderedSet String
  cascades : Bool

/-- What an emission leaves alone, as the batch has it. -/
def standing (batch : Batch H) : Standing H where
  plan := batch.plan
  host := batch.host
  lookups := batch.lookups
  deferred := batch.deferred
  cascades := batch.report.cascaded

/-! ## Collecting and resolving -/

lemma foundation_collectPath (path : String) :
    Keeps foundation fun batch : Batch H => batch.collectPath path := by
  intro batch
  simp only [collectPath]
  split
  · rfl
  · split <;> rfl

lemma foundation_collect (paths : List String) : Keeps (foundation (H := H)) (collect paths) :=
  Keeps.foldl foundation_collectPath _

lemma gathering_scheduleDirect (target : TypeName) (path : String) (fanOut : Bool)
    (registration : Registration) :
    Keeps gathering fun batch : Batch H =>
      batch.scheduleDirect target path fanOut registration := by
  intro batch
  cases fanOut <;> rfl

lemma gathering_schedule (path : String) (classification : Classification) :
    Keeps gathering fun batch : Batch H => batch.schedule path classification := by
  intro batch
  cases classification with
  | direct target => exact Keeps.foldl (gathering_scheduleDirect target path _) _ batch
  | generated generator =>
    simp only [schedule]
    split <;> rfl
  | generatorSource type => rfl
  | irrelevant =>
    simp only [schedule]
    split <;> rfl

lemma gathering_answered (lookups : Lookups) (host : H) :
    Keeps gathering fun batch : Batch H => { batch with lookups }.setHost host :=
  fun _ => rfl

section Hosted

variable [Host H]

lemma gathering_resolvePath (path : String) :
    Keeps gathering fun batch : Batch H => batch.resolvePath path := by
  intro batch
  simp only [resolvePath]
  split
  · rw [gathering_schedule, gathering_answered]
  · split <;> rfl

/-- Resolving a path changes nothing that its meaning is computed from but the record. -/
lemma resolvePath_keeps (batch : Batch H) (path : String) :
    (batch.resolvePath path).engine = batch.engine ∧ (batch.resolvePath path).forced
      = batch.forced ∧
      (batch.resolvePath path).files = batch.files ∧
      (batch.resolvePath path).deferredHits = batch.deferredHits := by
  have same : (batch.resolvePath path).gathering = batch.gathering :=
    gathering_resolvePath path batch
  exact ⟨congrArg Gathering.engine same, congrArg Gathering.forced same,
    congrArg (fun g => g.site.files) same, congrArg Gathering.deferredHits same⟩

lemma gathering_resolveTargets : Keeps (gathering (H := H)) resolveTargets :=
  fun batch => Keeps.foldl gathering_resolvePath batch.collected batch

end Hosted

/-! ## Running -/

lemma standing_settle (id : DeclarationId) (phase : Phase)
    (outcome : Except EmitError EmitOutcome) :
    Keeps standing fun batch : Batch H => batch.settle id phase outcome := by
  intro batch
  rcases outcome with error | path | _ | path
  · rfl
  · simp only [settle]
    split <;> rfl
  · rfl
  · rfl

lemma updated_settle (id : DeclarationId) (phase : Phase) (outcome : Except EmitError EmitOutcome) :
    Keeps Batch.updated fun batch : Batch H => batch.settle id phase outcome := by
  intro batch
  rcases outcome with error | path | _ | path
  · rfl
  · simp only [settle]
    split <;> rfl
  · rfl
  · rfl

lemma standing_emit (id : DeclarationId) (source : String) (phase : Phase) :
    Keeps standing fun batch : Batch H => (batch.emit id source phase).1 := by
  intro batch
  simp only [emit]
  split
  · rfl
  · rw [standing_settle]
    rfl

lemma updated_emit (id : DeclarationId) (source : String) (phase : Phase) :
    Keeps Batch.updated fun batch : Batch H => (batch.emit id source phase).1 := by
  intro batch
  simp only [emit]
  split
  · rfl
  · rw [updated_settle]

lemma standing_runDirectEntry (entry : DeclarationId × String) :
    Keeps standing fun batch : Batch H => batch.runDirectEntry entry :=
  fun batch => standing_emit entry.1 entry.2 .runningDirect batch

lemma standing_runDirect : Keeps (standing (H := H)) runDirect :=
  fun batch => Keeps.foldl standing_runDirectEntry batch.direct.entries batch

section Hosted

variable [Host H]

omit [Host H] in
lemma plan_runOrDefer (now : Bool) (id : DeclarationId) (source : String) :
    Keeps plan fun batch : Batch H => batch.runOrDefer now id source := by
  intro batch
  simp only [runOrDefer]
  split
  · rfl
  · split
    · rfl
    · split
      · exact congrArg Standing.plan (standing_emit id source .runningCascaded _)
      · rfl

lemma types_pathOfType (lookups : Lookups) (host : H) (files : FileSystem) (type : TypeName) :
    (lookups.pathOfType host files type).2.1.types = lookups.types := by
  unfold Lookups.pathOfType
  split <;> rfl

omit [Host H] in
lemma plan_answered (batch : Batch H) {lookups : Lookups} (host : H)
    (same : lookups.types = batch.lookups.types) :
    plan ({ batch with lookups }.setHost host) = batch.plan := by
  simp only [plan, setHost, engine, same]

lemma plan_runCascadedEntry (now : Bool) (id : DeclarationId) :
    Keeps plan fun batch : Batch H => batch.runCascadedEntry now id := by
  intro batch
  have answered :=
    plan_answered batch (batch.lookups.pathOfType batch.host batch.files id.target).2.2
    (types_pathOfType batch.lookups batch.host batch.files id.target)
  simp only [runCascadedEntry]
  split
  · rw [plan_runOrDefer, answered]
  · exact answered

lemma plan_runCascaded : Keeps (plan (H := H)) runCascaded :=
  fun batch => Keeps.foldl (plan_runCascadedEntry batch.runsNow) batch.pending batch

/-! ## Requesting -/

lemma foundation_requestWritten (path : String) :
    Keeps foundation fun batch : Batch H => batch.requestWritten path :=
  fun _ => rfl

lemma foundation_requestDeferred (path : String) :
    Keeps foundation fun batch : Batch H => batch.requestDeferred path :=
  fun _ => rfl

lemma foundation_requestRefresh : Keeps (foundation (H := H)) requestRefresh := by
  intro batch
  simp only [requestRefresh]
  split <;> rfl

lemma foundation_requestReimports : Keeps (foundation (H := H)) requestReimports := by
  intro batch
  simp only [requestReimports]
  split
  · rfl
  · rw [foundation_requestRefresh, Keeps.foldl foundation_requestDeferred,
      Keeps.foldl foundation_requestWritten]

lemma foundation_work (paths : List String) (phase : Phase) :
    Keeps foundation fun batch : Batch H => work paths phase batch := by
  intro batch
  cases phase with
  | collecting => exact foundation_collect paths batch
  | resolvingTargets => exact congrArg Gathering.foundation (gathering_resolveTargets batch)
  | runningDirect => exact congrArg (Plan.foundation ∘ Standing.plan) (standing_runDirect batch)
  | runningCascaded => exact congrArg Plan.foundation (plan_runCascaded batch)
  | requestingReimport => exact foundation_requestReimports batch
  | done => rfl

end Hosted

end Batch

end SourceGen
