import SourceGen.Proofs.Batch.Requesting

/-!
# The same batch on another host

Most of what a batch does has nothing to do with its host, and the work of its phases never reads
the list of its plugins. So a batch can be looked at with another host in the place of its own,
with other answers on record and with other plugins (`Batch.recast`), and the steps that neither ask
the host nor send it requests go on as before (`Batch.Recasts`).

Those that ask it go on as before when the other host answers as the first one does, and is led by
each question and each request to the place of where the first one is led (`Host.Follows`). Then
the work of every phase does (`Batch.recasts_work`), and whole batches correspond when the plugins
called between are the same (`Batch.run_recast`).
-/

namespace SourceGen

/-- The host that knows nothing. -/
instance : Host Unit where
  typeOfPath _ _ _ := (none, ())
  pathOfType _ _ _ := (none, ())
  requestReimport _ _ := ()
  requestRefresh _ := ()
  isBuilding _ := false

/-- Requests lead what stands for a host to what stands for the host after them. -/
structure Host.TakesRequests {K H : Type} [Host K] [Host H] (f : K → H) : Prop where
  requestReimport : ∀ host path, Host.requestReimport (f host) path
    = f (Host.requestReimport host path)
  requestRefresh : ∀ host, Host.requestRefresh (f host) = f (Host.requestRefresh host)

/-- What stands for a host answers as the host does, and is led by questions and requests to what
stands for the host after them. -/
structure Host.Follows {K H : Type} [Host K] [Host H] (f : K → H) :
    Prop extends Host.TakesRequests f where
  typeOfPath : ∀ host files path, Host.typeOfPath (f host) files path
    = ((Host.typeOfPath host files path).1, f (Host.typeOfPath host files path).2)
  pathOfType : ∀ host files type, Host.pathOfType (f host) files type
    = ((Host.pathOfType host files type).1, f (Host.pathOfType host files type).2)
  isBuilding : ∀ host, Host.isBuilding (f host) = Host.isBuilding host

section Follows

variable {K H : Type} [Host K] [Host H] {f : K → H} (follows : Host.Follows f)

include follows

lemma Host.Follows.lookups_typeOfPath (lookups : Lookups) (host : K) (files : FileSystem)
    (path : String) :
    lookups.typeOfPath (f host) files path
      = ((lookups.typeOfPath host files path).1, (lookups.typeOfPath host files path).2.1,
          f (lookups.typeOfPath host files path).2.2) := by
  unfold Lookups.typeOfPath
  split
  · rfl
  · rw [follows.typeOfPath]

lemma Host.Follows.lookups_pathOfType (lookups : Lookups) (host : K) (files : FileSystem)
    (type : TypeName) :
    lookups.pathOfType (f host) files type
      = ((lookups.pathOfType host files type).1, (lookups.pathOfType host files type).2.1,
          f (lookups.pathOfType host files type).2.2) := by
  unfold Lookups.pathOfType
  split
  · rfl
  · rw [follows.pathOfType]

lemma Host.Follows.ofPath (registry : Registry) (settings : Settings) (forced : Bool)
    (files : FileSystem) (path : String) (lookups : Lookups) (host : K) :
    let known := Classification.ofPath registry settings forced files path lookups host
    Classification.ofPath registry settings forced files path lookups (f host)
      = (known.1, known.2.1, f known.2.2) := by
  unfold Classification.ofPath
  dsimp only
  split
  · rfl
  split
  · rfl
  · rw [follows.lookups_typeOfPath]

end Follows

lemma Host.takesRequests_unit {K : Type} [Host K] : Host.TakesRequests fun _ : K => () :=
  ⟨fun _ _ => rfl, fun _ => rfl⟩

/-- The session on another host, with other plugins. -/
def Session.recast {K H : Type} (f : K → H) (p : List Plugin → List Plugin) (session : Session K) :
    Session H where
  engine := { session.engine with plugins := p session.engine.plugins }
  world :=
    { host :=
      f session.world.host, site := session.world.site, hookCalls := session.world.hookCalls }

namespace Batch

variable {K H : Type}

/-- The batch on another host, with other answers on record and other plugins. -/
def recast (f : K → H) (g : Lookups → Lookups) (p : List Plugin → List Plugin) (batch : Batch K) :
    Batch H :=
  { batch with session := batch.session.recast f p, lookups := g batch.lookups }

/-- The second step does on the other batch what the first does on the one. -/
def Recasts (f : K → H) (g : Lookups → Lookups) (p : List Plugin → List Plugin)
    (step : Batch K → Batch K) (other : Batch H → Batch H) : Prop :=
  ∀ batch, other (batch.recast f g p) = (step batch).recast f g p

variable {f : K → H} {g : Lookups → Lookups} {p : List Plugin → List Plugin}

lemma Recasts.comp {first second : Batch K → Batch K} {first' second' : Batch H → Batch H}
    (later : Recasts f g p second second') (earlier : Recasts f g p first first') :
    Recasts f g p (fun batch => second (first batch)) fun batch => second' (first' batch) := by
  intro batch
  dsimp only
  rw [earlier, later]

lemma Recasts.foldl {α : Type} {step : Batch K → α → Batch K} {other : Batch H → α → Batch H}
    (recasts : ∀ a, Recasts f g p (fun batch => step batch a) fun batch => other batch a)
    (items : List α) :
    Recasts f g p (fun batch => items.foldl step batch) fun batch => items.foldl other batch := by
  induction items with
  | nil => exact fun _ => rfl
  | cons a rest ih => exact ih.comp (recasts a)

/-! ## Steps without the host -/

lemma recasts_note (severity : Severity) (phase : Phase) (message location : String) :
    Recasts f g p (fun batch => batch.note severity phase message location) fun batch =>
      batch.note severity phase message location :=
  fun _ => rfl

lemma recasts_collectPath (path : String) :
    Recasts f g p (fun batch => batch.collectPath path) fun batch => batch.collectPath path := by
  intro batch
  have waits : (!(batch.recast f g p).forced && path ∈ (batch.recast f g p).engine.suppressed)
      = (!batch.forced && path ∈ batch.engine.suppressed) := rfl
  simp only [collectPath, waits]
  split
  · rfl
  · rw [apply_ite (recast f g p)]
    rfl

lemma recasts_collect (paths : List String) : Recasts f g p (collect paths) (collect paths) :=
  Recasts.foldl recasts_collectPath _

lemma recasts_scheduleDirect (target : TypeName) (path : String) (fanOut : Bool)
    (registration : Registration) :
    Recasts f g p (fun batch => batch.scheduleDirect target path fanOut registration) fun batch =>
      batch.scheduleDirect target path fanOut registration := by
  intro batch
  cases fanOut <;> rfl

lemma recasts_schedule (path : String) (classification : Classification) :
    Recasts f g p (fun batch => batch.schedule path classification) fun batch =>
      batch.schedule path classification := by
  intro batch
  have sameForced : (batch.recast f g p).forced = batch.forced := rfl
  cases classification with
  | direct target => exact Recasts.foldl (recasts_scheduleDirect target path _) _ batch
  | generated generator =>
    simp only [schedule, sameForced]
    split <;> rfl
  | generatorSource type => rfl
  | irrelevant =>
    simp only [schedule, sameForced]
    split <;> rfl

lemma recasts_settle (id : DeclarationId) (phase : Phase) (outcome : Except EmitError EmitOutcome) :
    Recasts f g p (fun batch => batch.settle id phase outcome) fun batch =>
      batch.settle id phase outcome := by
  intro batch
  have sameWritten : (batch.recast f g p).written = batch.written := rfl
  rcases outcome with error | path | _ | path
  · rfl
  · simp only [settle, sameWritten]
    split <;> rfl
  · rfl
  · rfl

/-- Whether an emission wrote does not depend on the host either. -/
lemma recasts_emit (batch : Batch K) (id : DeclarationId) (source : String) (phase : Phase) :
    ((batch.recast f g p).emit id source phase).1 = (batch.emit id source phase).1.recast f g p ∧
      ((batch.recast f g p).emit id source phase).2 = (batch.emit id source phase).2 := by
  have sameRegistry : (batch.recast f g p).engine.registry = batch.engine.registry := rfl
  simp only [emit, sameRegistry]
  split
  · exact ⟨rfl, rfl⟩
  · refine ⟨?_, rfl⟩
    rw [← recasts_settle]
    rfl

lemma recasts_runDirectEntry (entry : DeclarationId × String) :
    Recasts f g p (fun batch => batch.runDirectEntry entry) fun batch =>
      batch.runDirectEntry entry := by
  intro batch
  obtain ⟨same, wrote⟩ : _ ∧ ((batch.recast f g p).emit entry.1 entry.2 .runningDirect).2 = _ :=
    recasts_emit batch entry.1 entry.2 .runningDirect
  simp only [runDirectEntry, same, wrote]
  rfl

lemma recasts_runDirect : Recasts f g p runDirect runDirect :=
  fun batch => Recasts.foldl recasts_runDirectEntry batch.direct.entries batch

lemma recasts_runOrDefer (now : Bool) (id : DeclarationId) (source : String) :
    Recasts f g p (fun batch => batch.runOrDefer now id source) fun batch =>
      batch.runOrDefer now id source := by
  intro batch
  have sameForced : (batch.recast f g p).forced = batch.forced := rfl
  have sameSettings : (batch.recast f g p).engine.settings = batch.engine.settings := rfl
  have sameFiles : (batch.recast f g p).pathExists source = batch.pathExists source := rfl
  simp only [runOrDefer, sameForced, sameSettings, sameFiles]
  split
  · rfl
  split
  · rfl
  split
  · exact (recasts_emit { batch with report.cascaded := true } id source .runningCascaded).1
  · rfl

lemma recasts_callPlugins (point : HookPoint) :
    Recasts f g id (fun batch => batch.callPlugins point) fun batch => batch.callPlugins point :=
  fun batch => Recasts.foldl (fun _ _ => rfl) batch.engine.plugins batch

lemma Recasts.runPhase {work : Batch K → Batch K} {other : Batch H → Batch H}
    (recasts : Recasts f g id work other) (phase : Phase) :
    Recasts f g id (fun batch => batch.runPhase phase work) fun batch =>
      batch.runPhase phase other :=
  ((recasts_callPlugins (.after phase)).comp recasts).comp (recasts_callPlugins (.before phase))

/-! ## Requests -/

section Requests

variable [Host K] [Host H] (takes : Host.TakesRequests f)

include takes

lemma recasts_requestWritten (path : String) :
    Recasts f g p (fun batch => batch.requestWritten path) fun batch =>
      batch.requestWritten path := by
  intro batch
  have host : Host.requestReimport (batch.recast f g p).host path
      = f (Host.requestReimport batch.host path) :=
    takes.requestReimport _ _
  simp only [requestWritten, host]
  rfl

lemma recasts_requestDeferred (path : String) :
    Recasts f g p (fun batch => batch.requestDeferred path) fun batch =>
      batch.requestDeferred path := by
  intro batch
  have host : Host.requestReimport (batch.recast f g p).host path
      = f (Host.requestReimport batch.host path) :=
    takes.requestReimport _ _
  simp only [requestDeferred, host]
  rfl

lemma recasts_requestRefresh : Recasts f g p requestRefresh requestRefresh := by
  intro batch
  have host : Host.requestRefresh (batch.recast f g p).host = f (Host.requestRefresh batch.host) :=
    takes.requestRefresh _
  simp only [requestRefresh, host]
  rw [apply_ite (recast f g p)]
  rfl

/-- The requests are sent when both hosts say the same of whether they are building. -/
lemma recast_requestReimports {batch : Batch K}
    (building : Host.isBuilding (f batch.host) = Host.isBuilding batch.host) :
    (batch.recast f g p).requestReimports = batch.requestReimports.recast f g p := by
  have sameHost : Host.isBuilding (batch.recast f g p).host = Host.isBuilding batch.host := building
  have written : Recasts f g p (fun b : Batch K => b.written.toList.foldl requestWritten b) fun b =>
      b.written.toList.foldl requestWritten b :=
    fun b => Recasts.foldl (recasts_requestWritten takes) b.written.toList b
  have deferred : Recasts f g p (fun b : Batch K => b.deferred.toList.foldl requestDeferred b)
      fun b =>
      b.deferred.toList.foldl requestDeferred b :=
    fun b => Recasts.foldl (recasts_requestDeferred takes) b.deferred.toList b
  simp only [requestReimports, sameHost]
  split
  · rfl
  · exact ((recasts_requestRefresh takes).comp (deferred.comp written)) batch

end Requests

/-! ## Questions -/

section Questions

variable [Host K] [Host H] (follows : Host.Follows f)

include follows

lemma classify_recast (batch : Batch K) (path : String) :
    (batch.recast f id p).classify path
      = ((batch.classify path).1, (batch.classify path).2.1, f (batch.classify path).2.2) :=
  follows.ofPath _ _ _ _ _ _ _

lemma recasts_resolvePath (path : String) :
    Recasts f id p (fun batch => batch.resolvePath path) fun batch => batch.resolvePath path := by
  intro batch
  dsimp only
  cases present : batch.pathExists path with
  | true =>
    have stillPresent : (batch.recast f id p).pathExists path = true := present
    rw [resolvePath_of_present stillPresent, resolvePath_of_present present,
      classify_recast follows]
    generalize batch.classify path = known
    have scheduled : ((batch.informed known.2.1 known.2.2).recast f id p).schedule path known.1
        = ((batch.informed known.2.1 known.2.2).schedule path known.1).recast f id p :=
      recasts_schedule path known.1 _
    exact scheduled
  | false =>
    have stillAbsent : (batch.recast f id p).pathExists path = false := present
    have sameForced : (batch.recast f id p).forced = batch.forced := rfl
    simp only [resolvePath, present, stillAbsent, sameForced, Bool.false_eq_true, if_false]
    rw [apply_ite (recast f id p)]
    rfl

lemma recasts_resolveTargets : Recasts f id p resolveTargets resolveTargets :=
  fun batch => Recasts.foldl (recasts_resolvePath follows) batch.collected batch

lemma located_recast (batch : Batch K) (declaration : DeclarationId) :
    (batch.recast f id p).located declaration = batch.located declaration ∧
      (batch.recast f id p).asked declaration = (batch.asked declaration).recast f id p := by
  have same := follows.lookups_pathOfType batch.lookups batch.host batch.files declaration.target
  have answered : (batch.recast f id p).lookups.pathOfType (batch.recast f id p).host
      (batch.recast f id p).files declaration.target = _ := same
  rw [located, asked, answered]
  exact ⟨rfl, rfl⟩

lemma recasts_runCascadedEntry (now : Bool) (declaration : DeclarationId) :
    Recasts f id p (fun batch => batch.runCascadedEntry now declaration) fun batch =>
      batch.runCascadedEntry now declaration := by
  intro batch
  obtain ⟨located, asked⟩ := located_recast follows batch declaration
  dsimp only
  rw [runCascadedEntry_eq, runCascadedEntry_eq, located, asked]
  cases batch.located declaration with
  | none => rfl
  | some source => exact recasts_runOrDefer now declaration source (batch.asked declaration)

lemma runsNow_recast (batch : Batch K) : (batch.recast f id p).runsNow = batch.runsNow := by
  have building : Host.isBuilding (batch.recast f id p).host = Host.isBuilding batch.host :=
    follows.isBuilding batch.host
  rw [runsNow, runsNow, building]
  rfl

lemma recasts_runCascaded : Recasts f id p runCascaded runCascaded := by
  intro batch
  rw [runCascaded, runsNow_recast follows]
  exact Recasts.foldl (recasts_runCascadedEntry follows batch.runsNow) batch.pending batch

lemma recasts_requestReimports : Recasts f id p requestReimports requestReimports :=
  fun batch => recast_requestReimports follows.toTakesRequests (follows.isBuilding batch.host)

lemma recasts_work (paths : List String) (phase : Phase) :
    Recasts f id p (fun batch => work paths phase batch) fun batch => work paths phase batch := by
  cases phase with
  | collecting => exact recasts_collect paths
  | resolvingTargets => exact recasts_resolveTargets follows
  | runningDirect => exact recasts_runDirect
  | runningCascaded => exact recasts_runCascaded follows
  | requestingReimport => exact recasts_requestReimports follows
  | done => exact fun _ => rfl

lemma ranDirect_recast (session : Session K) (paths : List String) (forced : Bool) :
    ranDirect (session.recast f p) paths forced = (ranDirect session paths forced).recast f id p :=
  (recasts_runDirect.comp ((recasts_resolveTargets follows).comp (recasts_collect paths)))
    (start session forced)

/-- **Whole batches correspond**, when both call the same plugins. -/
theorem run_recast (session : Session K) (paths : List String) (forced : Bool) :
    run (session.recast f id) paths forced = (run session paths forced).recast f id id :=
  Recasts.foldl (fun phase => (recasts_work follows paths phase).runPhase phase) Phase.all
    (start session forced)

end Questions

end Batch

end SourceGen
