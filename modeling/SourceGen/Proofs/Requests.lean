import SourceGen.Host.Recording
import SourceGen.Proofs.Batch.Answering
import SourceGen.Proofs.Batch.Writing
import SourceGen.Proofs.Suppression

/-!
# Requests and books

An engine keeps two books across its batches: the outputs whose reimport it will absorb, and the
sources put off. Either is of use only if the host was asked for the reimport; an output that waits
without a request would swallow the next change that the user makes to it.

So the requests of a round are told apart from the questions that its host is asked along the way
(`Host.Questioned`), and compared with the books and the report entry by entry
(`Round.SendsRequests`, `Round.SendsNone`). Whether the host is building is read twice, for the
cascades and for the requests, and a host may start or end a build in between; each reading settles
its own part.
-/

namespace SourceGen

namespace Host

variable {H : Type} [Host H]

/-- The second host is the first one after some questions. -/
inductive Questioned (host : H) : H → Prop where
  | refl : Questioned host host
  | typeOfPath {later : H} (earlier : Questioned host later) (files : FileSystem) (path : String) :
      Questioned host (Host.typeOfPath later files path).2
  | pathOfType {later : H} (earlier : Questioned host later) (files : FileSystem)
      (type : TypeName) :
      Questioned host (Host.pathOfType later files type).2

/-- What a host may be asked to do: to process a file again, or to refresh its index. -/
inductive Request where
  | reimport (path : String)
  | refresh
deriving DecidableEq

/-- The host after a request. -/
def request (host : H) : Request → H
  | .reimport path => Host.requestReimport host path
  | .refresh => Host.requestRefresh host

lemma Questioned.trans {host later last : H} (first : Questioned host later)
    (second : Questioned later last) :
    Questioned host last := by
  induction second with
  | refl => exact first
  | typeOfPath _ files path ih => exact .typeOfPath ih files path
  | pathOfType _ files type ih => exact .pathOfType ih files type

lemma questioned_afterAsking (host : H) (files : FileSystem) (asked : List String) :
    Questioned host (afterAsking host files asked) := by
  induction asked using List.reverseRecOn with
  | nil => exact .refl
  | append_singleton asked path ih =>
    rw [afterAsking_append]
    exact .typeOfPath ih files path

lemma foldl_requestReimport (host : H) (paths : List String) :
    paths.foldl Host.requestReimport host = (paths.map Request.reimport).foldl request host := by
  rw [List.foldl_map]
  rfl

end Host

/-- A recording host has the requests on record, and questions leave its record alone. -/
lemma RecordingHost.recorded {host later : RecordingHost} (asked : Host.Questioned host later)
    (requests : List Host.Request) :
    (requests.foldl Host.request later).reimports
        = host.reimports ++ requests.filterMap
          (fun | .reimport path => some path | .refresh => none) ∧
      (requests.foldl Host.request later).refreshes = host.refreshes + requests.count .refresh := by
  have kept : later.reimports = host.reimports ∧ later.refreshes = host.refreshes := by
    induction asked with
    | refl => exact ⟨rfl, rfl⟩
    | typeOfPath _ _ _ ih | pathOfType _ _ _ ih => exact ih
  rw [← kept.1, ← kept.2]
  clear kept asked
  induction requests generalizing later with
  | nil => simp
  | cons request rest ih =>
    obtain ⟨reimports, refreshes⟩ := @ih (Host.request later request)
    rw [List.foldl_cons, reimports, refreshes]
    cases request with
    | reimport path => simp [Host.request, Host.requestReimport]
    | refresh =>
      refine ⟨by simp [Host.request, Host.requestRefresh], ?_⟩
      rw [List.count_cons_self]
      show later.refreshes + 1 + _ = _
      omega

namespace Batch

variable {H : Type} [Host H]

/-! ## The host until the requests -/

lemma questioned_asked (batch : Batch H) (id : DeclarationId) :
    Host.Questioned batch.host (batch.asked id).host := by
  show Host.Questioned batch.host (batch.lookups.pathOfType batch.host batch.files id.target).2.2
  unfold Lookups.pathOfType
  split
  · exact .refl
  · exact .pathOfType .refl _ _

lemma questioned_foldl_runCascadedEntry (now : Bool) (ids : List DeclarationId) (batch : Batch H) :
    Host.Questioned batch.host (ids.foldl (runCascadedEntry now) batch).host := by
  induction ids generalizing batch with
  | nil => exact .refl
  | cons id rest ih =>
    have same : (batch.runCascadedEntry now id).host = (batch.asked id).host :=
      congrArg Prod.snd (lookups_runCascadedEntry now batch id)
    have first : Host.Questioned batch.host (batch.runCascadedEntry now id).host := by
      rw [same]
      exact questioned_asked batch id
    exact first.trans (ih (batch.runCascadedEntry now id))

lemma questioned_ranDirect (session : Session H) (paths : List String) (forced : Bool) :
    Host.Questioned session.world.host (ranDirect session paths forced).host := by
  obtain ⟨asked, host⟩ : ∃ asked, (resolved session paths forced).host
      = Host.afterAsking session.world.host session.world.site.files asked := host_resolved
  have direct : (ranDirect session paths forced).host = (resolved session paths forced).host :=
    congrArg Standing.host standing_ranDirect
  rw [direct, host]
  exact Host.questioned_afterAsking _ _ _

/-- Until the requests are due, a batch only asks its host questions. -/
theorem questioned_ranCascaded (session : Session H) (paths : List String) (forced : Bool) :
    Host.Questioned session.world.host (ranCascaded session paths forced).host :=
  (questioned_ranDirect session paths forced).trans
    (questioned_foldl_runCascadedEntry _ _ (ranDirect session paths forced))

/-! ## The requests -/

/-- Whether a batch has reason to ask for a refresh. -/
def wantsRefresh (batch : Batch H) : Bool :=
  !batch.written.isEmpty || batch.report.cascaded || !batch.deferred.isEmpty

omit [Host H] in
lemma wantsRefresh_iff {batch : Batch H} :
    batch.wantsRefresh = true ↔
      batch.written.toList ≠ [] ∨ batch.deferred.toList ≠ [] ∨ batch.report.cascaded = true := by
  rw [wantsRefresh, Bool.or_eq_true, Bool.or_eq_true, Bool.not_eq_true', Bool.not_eq_true',
    OrderedSet.isEmpty, OrderedSet.isEmpty, List.isEmpty_eq_false_iff, List.isEmpty_eq_false_iff]
  tauto

/-- The requests that a batch makes when they are due. -/
def requests (batch : Batch H) : List Host.Request :=
  if Host.isBuilding batch.host then []
  else batch.written.toList.map .reimport ++ batch.deferred.toList.map .reimport
    ++ if batch.wantsRefresh then [.refresh] else []

lemma requestRefresh_eq (batch : Batch H) :
    batch.requestRefresh.host
      = (if batch.wantsRefresh then Host.requestRefresh batch.host else batch.host) ∧
      batch.requestRefresh.report.refreshRequested
        = (batch.report.refreshRequested || batch.wantsRefresh) := by
  have decides : batch.requestRefresh = if batch.wantsRefresh then
      { batch with report.refreshRequested := true }.setHost (Host.requestRefresh batch.host)
    else batch := rfl
  rw [decides]
  cases batch.wantsRefresh with
  | true => exact ⟨rfl, (Bool.or_true _).symm⟩
  | false => exact ⟨rfl, (Bool.or_false _).symm⟩

lemma host_requestReimports (batch : Batch H) :
    batch.requestReimports.host = batch.requests.foldl Host.request batch.host := by
  rw [requestReimports_eq, requests]
  split
  · rfl
  · have wants : batch.afterRequests.wantsRefresh = batch.wantsRefresh := rfl
    have host : batch.afterRequests.host
        = (batch.written.toList ++ batch.deferred.toList).foldl Host.requestReimport
          batch.host := rfl
    rw [(requestRefresh_eq _).1, wants, host, Host.foldl_requestReimport, List.map_append]
    cases batch.wantsRefresh with
    | true =>
      rw [if_pos rfl, if_pos rfl, List.foldl_concat]
      rfl
    | false => rw [if_neg Bool.false_ne_true, if_neg Bool.false_ne_true, List.append_nil]

lemma refresh_requestReimports (batch : Batch H) :
    batch.requestReimports.report.refreshRequested
      = (batch.report.refreshRequested || !Host.isBuilding batch.host && batch.wantsRefresh) := by
  rw [requestReimports_eq]
  cases Host.isBuilding batch.host with
  | true => exact (Bool.or_false _).symm
  | false => exact (requestRefresh_eq batch.afterRequests).2

section Run

variable {session : Session H} {paths : List String} {forced : Bool}
  (observers : ∀ plugin ∈ session.engine.plugins, plugin.AppendsOnly)

include observers

/-- A batch makes its requests, and nothing else of its host is changed by then. -/
lemma host_run_eq_requests :
    (run session paths forced).host
      = (ranCascaded session paths forced).requests.foldl Host.request
          (ranCascaded session paths forced).host := by
  rw [view_run observers Batch.host fun _ => rfl, requested, host_requestReimports]

/-- The report tells whether a refresh was requested. -/
lemma refresh_run :
    (run session paths forced).report.refreshRequested
      = (!Host.isBuilding (ranCascaded session paths forced).host
          && (ranCascaded session paths forced).wantsRefresh) := by
  have none : (ranCascaded session paths forced).report.refreshRequested = false :=
    (congrArg Plan.refresh plan_ranCascaded).trans (fresh_resolved session paths forced).2.2.2.2
  rw [view_run observers (fun batch => batch.report.refreshRequested) fun _ => rfl, requested,
    refresh_requestReimports, none, Bool.false_or]

/-- A cascade ran when the report lists a pending declaration. -/
lemma cascaded_iff (indexed : session.engine.registry.Indexed) :
    (ranCascaded session paths forced).report.cascaded = true ↔
      ∃ id ∈ (ranDirect session paths forced).pending,
        id ∈ (run session paths forced).report.ran := by
  cases decided : (ranDirect session paths forced).runsNow with
  | false =>
    rw [(run_later observers indexed decided).1, (ranCascaded_later indexed decided).2.1]
    refine iff_of_false Bool.false_ne_true ?_
    rintro ⟨id, pending, direct⟩
    exact (mem_pending.mp pending).2 direct
  | true =>
    rw [(run_now observers indexed decided).1, (ranCascaded_now indexed decided).2.1,
      Bool.not_eq_true', List.isEmpty_eq_false_iff]
    constructor
    · intro some
      obtain ⟨id, due⟩ := List.exists_mem_of_ne_nil _ some
      exact ⟨id, List.mem_of_mem_filter due, List.mem_append_right _ due⟩
    · rintro ⟨id, pending, ran⟩
      have due := (List.mem_append.mp ran).resolve_left (mem_pending.mp pending).2
      exact List.ne_nil_of_mem due

end Run

end Batch

/-! ## Rounds -/

namespace Round

/-- The batch of a round when its requests are due. -/
def beforeRequests (round : Round) : Batch round.H :=
  .ranCascaded round.session round.paths round.forced

/-- The requests of a round. -/
def requests (round : Round) : List Host.Request :=
  round.beforeRequests.requests

/-- A round whose host takes requests asks for the reimport of its outputs and of the sources that
it puts off, and for one refresh if it has done anything. Of these paths, and of no others, it then
has the outputs among those that wait and the sources among those put off. -/
structure SendsRequests (round : Round) : Prop where
  requests : round.requests
    = round.batch.report.written.map .reimport ++ round.batch.report.deferred.map .reimport
      ++ if round.batch.report.refreshRequested then [.refresh] else []
  refresh : round.batch.report.refreshRequested = true ↔
    round.batch.report.written ≠ [] ∨ round.batch.report.deferred ≠ [] ∨
      ∃ id ∈ (Batch.ranDirect round.session round.paths round.forced).pending,
        id ∈ round.batch.report.ran
  awaited : ∀ path ∈ round.batch.report.written, path ∈ round.batch.engine.suppressed
  onlyAwaited : ∀ path ∈ round.batch.engine.suppressed,
    path ∈ round.session.engine.suppressed ∨ path ∈ round.batch.report.written
  putOff : ∀ path ∈ round.batch.report.deferred, path ∈ round.batch.engine.deferred
  onlyPutOff : ∀ path ∈ round.batch.engine.deferred,
    path ∈ round.session.engine.deferred ∨ path ∈ round.batch.report.deferred

/-- A round whose host is building asks for nothing and enters nothing into its books. -/
structure SendsNone (round : Round) : Prop where
  requests : round.requests = []
  refresh : round.batch.report.refreshRequested = false
  deferred : round.batch.report.deferred = []
  onlyAwaited : ∀ path ∈ round.batch.engine.suppressed, path ∈ round.session.engine.suppressed
  onlyPutOff : ∀ path ∈ round.batch.engine.deferred, path ∈ round.session.engine.deferred

lemma suppressed_beforeRequests (round : Round) {path : String}
    (waits : path ∈ round.beforeRequests.engine.suppressed) :
      path ∈ round.session.engine.suppressed := by
  rw [beforeRequests, Batch.engine_ranCascaded, Batch.suppressed_gathered,
    OrderedSet.mem_eraseAll] at waits
  exact waits.1

lemma deferred_beforeRequests (round : Round) {path : String}
    (putOff : path ∈ round.beforeRequests.engine.deferred) :
      path ∈ round.session.engine.deferred := by
  rw [beforeRequests, Batch.engine_ranCascaded, Batch.mem_deferred_gathered] at putOff
  exact putOff.1

section Observed

variable {round : Round} (observers : ∀ plugin ∈ round.session.engine.plugins, plugin.AppendsOnly)

include observers

lemma sendsRequests (indexed : round.session.engine.registry.Indexed)
    (idle : round.wasBuilding = false) :
    round.SendsRequests := by
  have idle : Host.isBuilding round.beforeRequests.host = false := idle
  have written : round.batch.report.written = round.beforeRequests.written.toList :=
    Batch.written_run observers
  have deferred : round.batch.report.deferred = round.beforeRequests.deferred.toList := by
    rw [batch, Batch.announced_run observers, ← beforeRequests, idle, if_neg Bool.false_ne_true]
  have refresh : round.batch.report.refreshRequested = round.beforeRequests.wantsRefresh := by
    rw [batch, Batch.refresh_run observers, ← beforeRequests, idle, Bool.not_false, Bool.true_and]
  have engine : round.batch.engine = { round.beforeRequests.engine with
      suppressed := round.beforeRequests.engine.suppressed.insertAll round.batch.report.written
      deferred := round.beforeRequests.engine.deferred.insertAll round.batch.report.deferred } := by
    rw [written, deferred, batch, Batch.engine_run_eq_requested, Batch.requested,
      Batch.engine_requestReimports, ← beforeRequests, idle, if_neg Bool.false_ne_true]
  refine ⟨?_, ?_, fun path listed => ?_, fun path waits => ?_, fun path listed => ?_,
    fun path waits => ?_⟩
  · rw [requests, Batch.requests, idle, if_neg Bool.false_ne_true, written, deferred, refresh]
  · rw [refresh, Batch.wantsRefresh_iff, written, deferred]
    exact or_congr_right (or_congr_right (Batch.cascaded_iff observers indexed))
  · rw [engine]
    exact OrderedSet.mem_insertAll.mpr (.inr listed)
  · rw [engine] at waits
    exact (OrderedSet.mem_insertAll.mp waits).imp_left round.suppressed_beforeRequests
  · rw [engine]
    exact OrderedSet.mem_insertAll.mpr (.inr listed)
  · rw [engine] at waits
    exact (OrderedSet.mem_insertAll.mp waits).imp_left round.deferred_beforeRequests

lemma sendsNone (building : round.wasBuilding = true) : round.SendsNone := by
  have building : Host.isBuilding round.beforeRequests.host = true := building
  have engine : round.batch.engine = round.beforeRequests.engine := by
    rw [batch, Batch.engine_run_eq_requested, Batch.requested, Batch.engine_requestReimports,
      ← beforeRequests, building, if_pos rfl]
  refine ⟨?_, ?_, ?_, fun path waits => ?_, fun path waits => ?_⟩
  · rw [requests, Batch.requests, building, if_pos rfl]
  · rw [batch, Batch.refresh_run observers, ← beforeRequests, building]
    rfl
  · rw [batch, Batch.announced_run observers, ← beforeRequests, building, if_pos rfl]
  · rw [engine] at waits
    exact round.suppressed_beforeRequests waits
  · rw [engine] at waits
    exact round.deferred_beforeRequests waits

lemma ran_of_building (indexed : round.session.engine.registry.Indexed)
    (building : Host.isBuilding (Batch.ranDirect round.session round.paths round.forced).host
      = true)
    {id : DeclarationId}
    (pending : id ∈ (Batch.ranDirect round.session round.paths round.forced).pending)
    {source : String}
    (located : ((Batch.ranDirect round.session round.paths round.forced).turn id).located id
      = some source)
    (admitted : (round.forced || round.session.engine.settings.isAutomaticSource source) = true)
    (present : ((Batch.ranDirect round.session round.paths round.forced).turn id).pathExists source
      = true) :
    id ∈ round.batch.report.ran := by
  have now : (Batch.ranDirect round.session round.paths round.forced).runsNow = true := by
    rw [Batch.runsNow, building, Bool.or_true]
  rw [batch, (Batch.run_now observers indexed now).1]
  exact List.mem_append_right _ (Batch.mem_due_ranDirect pending located admitted present)

end Observed

end Round

namespace History

/-- **Requests and books stay in step.** Whatever is called on a new engine whose plugins only
append diagnostics, each of its rounds first only asks its host questions, and then sends its
requests and nothing else. The report lists the outputs in the order in which they were first
written, and each source put off once. If the host is not building when the requests are due, they
are for these outputs, then for these sources, and for one refresh if there are any or a cascade
ran, which the report tells; the outputs then wait, the sources are put off, and nothing else is
added to either. If it is building, nothing is requested, put off or added; and if it is building
when the cascades are decided on, every pending declaration runs whose source is found, there and
admitted.

So whatever waits for its reimport at the end, some round has asked for that reimport, and no later
unforced round was notified of it. Within a round, the waiting outputs become fewer until the
requests are due, and then more by one with each request. -/
theorem requests_in_step (root : String) (settings : Settings) {plugins : List Plugin}
    (observers : ∀ plugin ∈ plugins, plugin.AppendsOnly) (calls : List Call) :
    let history := ofCalls { root, settings, plugins } calls
    (∀ round ∈ history.rounds,
      let decided := Batch.ranDirect round.session round.paths round.forced
      let report := round.batch.report
      Host.Questioned round.session.world.host round.beforeRequests.host ∧
      round.batch.host = round.requests.foldl Host.request round.beforeRequests.host ∧
      report.written = (OrderedSet.ofList (round.session.writes round.paths round.forced)).toList ∧
      report.deferred.Nodup ∧
      (round.wasBuilding = false → round.SendsRequests) ∧
      (round.wasBuilding = true → round.SendsNone) ∧
      (Host.isBuilding decided.host = true → ∀ id ∈ decided.pending, ∀ source,
        (decided.turn id).located id = some source →
        (round.forced || round.session.engine.settings.isAutomaticSource source) = true →
        (decided.turn id).pathExists source = true → id ∈ report.ran) ∧
      (∀ path ∈ round.beforeRequests.engine.suppressed, path ∈ round.session.engine.suppressed) ∧
      ∀ sent, sent <+: report.written →
        let during := sent.foldl Batch.requestWritten round.beforeRequests
        during.host = (sent.map .reimport).foldl Host.request round.beforeRequests.host ∧
          ∀ path ∈ during.engine.suppressed, path ∈ round.session.engine.suppressed ∨ path ∈ sent) ∧
    ∀ path ∈ history.engine.suppressed, ∃ earlier round later,
      history.rounds = earlier ++ round :: later ∧ .reimport path ∈ round.requests ∧
        ∀ other ∈ later, ¬other.Consumes path := by
  intro history
  have sound : history.Sound := sound_new observers calls
  have registries := discovered root settings plugins calls
  constructor
  · intro round listed decided report
    have observers := sound.rounds round listed
    have indexed := (registries round listed).indexed
    refine ⟨Batch.questioned_ranCascaded _ _ _, Batch.host_run_eq_requests observers, ?_, ?_,
      Round.sendsRequests observers indexed, Round.sendsNone observers, ?_,
      fun path => round.suppressed_beforeRequests, fun sent _ => ?_⟩
    · exact (Batch.written_run observers).trans
        (congrArg OrderedSet.toList (Batch.written_ranCascaded _ _ _))
    · show round.batch.report.deferred.Nodup
      rw [Round.batch, Batch.announced_run observers]
      split
      · exact List.nodup_nil
      · exact OrderedSet.nodup _
    · exact fun building id pending source located admitted present =>
        Round.ran_of_building observers indexed building pending located admitted present
    · rw [Batch.foldl_requestWritten]
      refine ⟨Host.foldl_requestReimport _ _, fun path waits => ?_⟩
      exact (OrderedSet.mem_insertAll.mp waits).imp_left round.suppressed_beforeRequests
  · intro path waits
    obtain ⟨earlier, round, later, split, idle, written, silent⟩ := (sound.awaits path).mp waits
    have listed : round ∈ history.rounds := by
      rw [split]
      exact List.mem_append_right _ List.mem_cons_self
    have sends :=
      Round.sendsRequests (sound.rounds round listed) (registries round listed).indexed idle
    refine ⟨earlier, round, later, split, ?_, ?_⟩
    · rw [sends.requests, List.append_assoc]
      exact List.mem_append_left _ (List.mem_map.mpr ⟨path, written, rfl⟩)
    · rintro other after ⟨unforced, notified, listed, same⟩
      exact silent other after unforced notified listed same

/-- The round that is notified of the player, with both sources there and a plugin that leaves
notes. -/
def roundOfPlayer : Round where
  session := ⟨(ofCalls { root := "p", plugins := [.noting] }
      [.discover TwoTargets.catalog TwoTargets.manifest.declarations]).engine,
    TwoTargets.recordingWorld "Player.cs" "Enemy.cs" ["Enemy.cs", "Player.cs"]⟩
  paths := ["Player.cs"]
  forced := false

/-- Its host is asked to process the note of the player again and the enemy, and to refresh the
index once. -/
theorem requests_in_step_player :
    let host : RecordingHost := roundOfPlayer.batch.host
    host.reimports = ["altgen.g/Note.Player.Note.g.txt", "Enemy.cs"] ∧ host.refreshes = 1 := by
  have observers : ∀ plugin ∈ [Plugin.noting], plugin.AppendsOnly :=
    List.forall_mem_singleton.mpr Plugin.appendsOnly_noting
  obtain ⟨rounds, _⟩ := requests_in_step "p" {} observers
    ([.discover TwoTargets.catalog TwoTargets.manifest.declarations]
      ++ [.notify roundOfPlayer.session.world roundOfPlayer.paths])
  rw [ofCalls_append] at rounds
  obtain ⟨questioned, host, _, _, sends, _⟩ := rounds roundOfPlayer
    (List.mem_append_right _ (List.mem_singleton_self roundOfPlayer))
  obtain ⟨reimports, refreshes⟩ := RecordingHost.recorded questioned roundOfPlayer.requests
  obtain ⟨idle, written, deferred, refresh⟩ : roundOfPlayer.wasBuilding = false ∧
      roundOfPlayer.batch.report.written = ["altgen.g/Note.Player.Note.g.txt"] ∧
      roundOfPlayer.batch.report.deferred = ["Enemy.cs"] ∧
      roundOfPlayer.batch.report.refreshRequested = true := by decide +kernel
  have requests := (sends idle).requests
  rw [written, deferred, refresh] at requests
  rw [requests] at reimports refreshes host
  intro last
  have same : last = _ := host
  rw [same]
  exact ⟨reimports, refreshes⟩

end History

end SourceGen
