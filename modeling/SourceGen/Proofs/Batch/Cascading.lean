import Mathlib.Data.List.Induction
import SourceGen.Proofs.Batch.Running

/-!
# What becomes of cascaded declarations

Whether a cascaded declaration runs is settled when its *turn* comes, by the host and the files as
the declarations before it have left them (`turn`): a generator may write the source of a later
declaration, and a host may answer differently from question to question. When cascades run now, a
declaration runs whose source is there and admitted (`isDue`); when they are put off, nothing runs
and the admitted sources are kept (`putOff?`).

Both lists are computed by an induction on the pending declarations from the end, since the turn of
a declaration depends only on those before it.
-/

namespace SourceGen

namespace Batch

variable {H : Type}

/-- Whether the batch lets a cascaded declaration run for the source: automatic generation has to
admit it, unless the batch is forced. -/
def admits (batch : Batch H) (source : String) : Bool :=
  batch.forced || batch.engine.settings.isAutomaticSource source

lemma not_admits (batch : Batch H) (source : String) :
    (!batch.forced && !batch.engine.settings.isAutomaticSource source) = !batch.admits source := by
  rw [admits, Bool.not_or]

/-! ## Running or putting off -/

lemma runOrDefer_refused {batch : Batch H} {source : String} (refused : batch.admits source = false)
    (now : Bool) (id : DeclarationId) : batch.runOrDefer now id source = batch := by
  rw [runOrDefer, not_admits, refused]
  rfl

lemma runOrDefer_absent {batch : Batch H} {source : String} (admitted : batch.admits source = true)
    (absent : batch.pathExists source = false) (id : DeclarationId) :
    batch.runOrDefer true id source
      = batch.note .warning .runningCascaded "source does not exist" source := by
  rw [runOrDefer, not_admits, admitted, absent]
  rfl

lemma runOrDefer_due {batch : Batch H} {source : String} (admitted : batch.admits source = true)
    (present : batch.pathExists source = true) (id : DeclarationId) :
    batch.runOrDefer true id source
      = ({ batch with report.cascaded := true }.emit id source .runningCascaded).1 := by
  rw [runOrDefer, not_admits, admitted, present]
  rfl

lemma runOrDefer_now (batch : Batch H) {id : DeclarationId}
    (registered : id ∈ batch.engine.registry.registrations.keys) (source : String) :
    let due := batch.admits source && batch.pathExists source
    (batch.runOrDefer true id source).report.ran = batch.report.ran ++ (if due then [id] else []) ∧
      (batch.runOrDefer true id source).report.cascaded = (batch.report.cascaded || due) ∧
      (batch.runOrDefer true id source).deferred = batch.deferred := by
  dsimp only
  rw [runOrDefer, not_admits]
  cases batch.admits source with
  | false => exact ⟨by simp, by simp, rfl⟩
  | true =>
    cases batch.pathExists source with
    | false => exact ⟨(List.append_nil _).symm, (Bool.or_false _).symm, rfl⟩
    | true =>
      have standing :=
        standing_emit id source .runningCascaded { batch with report.cascaded := true }
      refine ⟨ran_emit { batch with report.cascaded := true } registered
        source .runningCascaded, ?_,
        congrArg Standing.deferred standing⟩
      exact (congrArg Standing.cascades standing).trans (Bool.or_true _).symm

lemma runOrDefer_later (batch : Batch H) (id : DeclarationId) (source : String) :
    batch.runOrDefer false id source
      = { batch with
          deferred :=
            batch.deferred.insertAll (if batch.admits source then [source] else []) } := by
  rw [runOrDefer, not_admits]
  cases batch.admits source <;> rfl

lemma recorded_runOrDefer {batch : Batch H} (recorded : batch.Recorded) (now : Bool)
    (id : DeclarationId) (source : String) : (batch.runOrDefer now id source).Recorded := by
  have entered : Recorded { batch with report.cascaded := true } :=
    ⟨recorded.listed, recorded.named⟩
  simp only [runOrDefer]
  split
  · exact recorded
  · split
    · exact ⟨recorded.listed, recorded.named⟩
    · split
      · exact (recorded_emit entered id source .runningCascaded).1
      · exact ⟨recorded.listed, recorded.named⟩

lemma lookups_runOrDefer (now : Bool) (id : DeclarationId) (source : String) :
    Keeps (fun batch : Batch H => (batch.lookups, batch.host)) fun batch =>
      batch.runOrDefer now id source := by
  intro batch
  simp only [runOrDefer]
  split
  · rfl
  · split
    · rfl
    · split
      · have standing :=
          standing_emit id source .runningCascaded { batch with report.cascaded := true }
        exact congrArg (fun s : Standing H => (s.lookups, s.host)) standing
      · rfl

/-! ## The turn of a declaration -/

variable [Host H]

/-- The source that the host has, as things stand, for the target of a declaration. -/
def located (batch : Batch H) (id : DeclarationId) : Option String :=
  (batch.lookups.pathOfType batch.host batch.files id.target).1

/-- The batch once it has asked for that source. -/
def asked (batch : Batch H) (id : DeclarationId) : Batch H :=
  { batch with lookups := (batch.lookups.pathOfType batch.host batch.files id.target).2.1 }.setHost
    (batch.lookups.pathOfType batch.host batch.files id.target).2.2

lemma runCascadedEntry_eq (now : Bool) (batch : Batch H) (id : DeclarationId) :
    batch.runCascadedEntry now id
      = match batch.located id with
        | some source => (batch.asked id).runOrDefer now id source
        | none =>
          (batch.asked id).note .warning .runningCascaded "no source found for target" id.text :=
  rfl

/-- Whether a cascaded declaration runs, as things stand, when cascades run at all. -/
def isDue (batch : Batch H) (id : DeclarationId) : Bool :=
  (batch.located id).any fun source => batch.admits source && batch.pathExists source

/-- The source that is kept, as things stand, when a cascaded declaration is put off. -/
def putOff? (batch : Batch H) (id : DeclarationId) : Option String :=
  (batch.located id).filter batch.admits

lemma runCascadedEntry_now (batch : Batch H) {id : DeclarationId}
    (registered : id ∈ batch.engine.registry.registrations.keys) :
    let after := batch.runCascadedEntry true id
    after.report.ran = batch.report.ran ++ (if batch.isDue id then [id] else []) ∧
      after.report.cascaded = (batch.report.cascaded || batch.isDue id) ∧
      after.deferred = batch.deferred := by
  rw [runCascadedEntry_eq, isDue]
  cases batch.located id with
  | none => exact ⟨(List.append_nil _).symm, (Bool.or_false _).symm, rfl⟩
  | some source => exact runOrDefer_now (batch.asked id) registered source

lemma recorded_runCascadedEntry {batch : Batch H} (recorded : batch.Recorded) (now : Bool)
    (id : DeclarationId) : (batch.runCascadedEntry now id).Recorded := by
  have asked : (batch.asked id).Recorded := ⟨recorded.listed, recorded.named⟩
  rw [runCascadedEntry_eq]
  cases batch.located id with
  | none => exact ⟨recorded.listed, recorded.named⟩
  | some source => exact recorded_runOrDefer asked now id source

lemma runCascadedEntry_later (batch : Batch H) (id : DeclarationId) :
    let after := batch.runCascadedEntry false id
    after.deferred = batch.deferred.insertAll (batch.putOff? id).toList ∧
      after.written = batch.written ∧ after.report.ran = batch.report.ran ∧
      after.report.cascaded = batch.report.cascaded ∧
      after.session.world.site = batch.session.world.site := by
  rw [runCascadedEntry_eq, putOff?]
  cases batch.located id with
  | none => exact ⟨rfl, rfl, rfl, rfl, rfl⟩
  | some source =>
    have same : (batch.asked id).admits source = batch.admits source := rfl
    dsimp only
    rw [runOrDefer_later, same]
    refine ⟨?_, rfl, rfl, rfl, rfl⟩
    rw [Option.filter_some]
    cases batch.admits source <;> rfl

lemma lookups_runCascadedEntry (now : Bool) (batch : Batch H) (id : DeclarationId) :
    ((batch.runCascadedEntry now id).lookups, (batch.runCascadedEntry now id).host)
      = ((batch.asked id).lookups, (batch.asked id).host) := by
  rw [runCascadedEntry_eq]
  cases batch.located id with
  | none => rfl
  | some source => exact lookups_runOrDefer now id source (batch.asked id)

/-- The batch when the turn of a declaration comes, which is listed among those to go through. -/
def turnAmong (now : Bool) (ids : List DeclarationId) (batch : Batch H) (id : DeclarationId) :
    Batch H :=
  (ids.takeWhile (· ≠ id)).foldl (runCascadedEntry now) batch

omit [Host H] in
lemma takeWhile_append_of_mem {id : DeclarationId} {ids : List DeclarationId} (listed : id ∈ ids)
    (more : List DeclarationId) : (ids ++ more).takeWhile (· ≠ id) = ids.takeWhile (· ≠ id) := by
  induction ids with
  | nil => cases listed
  | cons first rest ih =>
    by_cases same : first = id
    · simp [same]
    · have later := (List.mem_cons.mp listed).resolve_left (Ne.symm same)
      simpa [same] using ih later

omit [Host H] in
lemma takeWhile_append_self {id : DeclarationId} {ids : List DeclarationId} (absent : id ∉ ids) :
    (ids ++ [id]).takeWhile (· ≠ id) = ids := by
  rw [List.takeWhile_append_of_pos fun other listed => ?_]
  · simp
  · simpa using fun same : other = id => absent (same ▸ listed)

/-- A declaration that is already listed does not mind what comes after the others. -/
lemma turnAmong_append_of_mem (now : Bool) {ids : List DeclarationId} {id : DeclarationId}
    (listed : id ∈ ids) (more : List DeclarationId) (batch : Batch H) :
    turnAmong now (ids ++ more) batch id = turnAmong now ids batch id := by
  rw [turnAmong, takeWhile_append_of_mem listed, turnAmong]

lemma turnAmong_append_self (now : Bool) {ids : List DeclarationId} {id : DeclarationId}
    (absent : id ∉ ids) (batch : Batch H) :
    turnAmong now (ids ++ [id]) batch id = ids.foldl (runCascadedEntry now) batch := by
  rw [turnAmong, takeWhile_append_self absent]

lemma plan_foldl_runCascadedEntry (now : Bool) (ids : List DeclarationId) :
    Keeps (plan (H := H)) fun batch => ids.foldl (runCascadedEntry now) batch :=
  Keeps.foldl (plan_runCascadedEntry now) ids

/-! ## The cascaded phase -/

/-- When cascades run now, those run that are due at their turn. -/
lemma foldl_runCascadedEntry_now {batch : Batch H} {ids : List DeclarationId} (distinct : ids.Nodup)
    (registered : ∀ id ∈ ids, id ∈ batch.engine.registry.registrations.keys) :
    let after := ids.foldl (runCascadedEntry true) batch
    let due := ids.filter fun id => (turnAmong true ids batch id).isDue id
    after.report.ran = batch.report.ran ++ due ∧
      after.report.cascaded = (batch.report.cascaded || !due.isEmpty) ∧
      after.deferred = batch.deferred := by
  induction ids using List.reverseRecOn with
  | nil => exact ⟨(List.append_nil _).symm, (Bool.or_false _).symm, rfl⟩
  | append_singleton ids id ih =>
    have absent : id ∉ ids := List.disjoint_singleton.mp (List.disjoint_of_nodup_append distinct)
    obtain ⟨ran, cascaded, kept⟩ := ih (List.Nodup.of_append_left distinct)
      fun other listed => registered other (List.mem_append_left [id] listed)
    have engine : (ids.foldl (runCascadedEntry true) batch).engine = batch.engine :=
      congrArg Plan.engine (plan_foldl_runCascadedEntry true ids batch)
    obtain ⟨ranNext, cascadedNext, keptNext⟩ :=
      runCascadedEntry_now (ids.foldl (runCascadedEntry true) batch) (by
        rw [engine]
        exact registered id (List.mem_append_right ids (List.mem_singleton_self id)))
    have before : ids.filter (fun other => (turnAmong true (ids ++ [id]) batch other).isDue other)
        = ids.filter fun other => (turnAmong true ids batch other).isDue other :=
      List.filter_congr fun other listed => by rw [turnAmong_append_of_mem true listed]
    dsimp only at ran cascaded kept ranNext cascadedNext keptNext ⊢
    rw [List.foldl_append, List.filter_append, before, List.filter_singleton,
      turnAmong_append_self true absent, List.foldl_cons, List.foldl_nil]
    refine ⟨?_, ?_, keptNext.trans kept⟩
    · rw [ranNext, ran, List.append_assoc, Bool.cond_eq_ite]
    · rw [cascadedNext, cascaded, Bool.or_assoc]
      cases (ids.foldl (runCascadedEntry true) batch).isDue id <;> simp

/-- When cascades are put off, nothing runs and the sources are kept that are admitted at their
turn. -/
lemma foldl_runCascadedEntry_later (batch : Batch H) {ids : List DeclarationId}
    (distinct : ids.Nodup) :
    let after := ids.foldl (runCascadedEntry false) batch
    after.deferred
        = batch.deferred.insertAll
          (ids.filterMap fun id => (turnAmong false ids batch id).putOff? id) ∧
      after.written = batch.written ∧ after.report.ran = batch.report.ran ∧
      after.report.cascaded = batch.report.cascaded ∧
      after.session.world.site = batch.session.world.site := by
  induction ids using List.reverseRecOn with
  | nil => exact ⟨rfl, rfl, rfl, rfl, rfl⟩
  | append_singleton ids id ih =>
    have absent : id ∉ ids := List.disjoint_singleton.mp (List.disjoint_of_nodup_append distinct)
    obtain ⟨kept, written, ran, cascaded, site⟩ := ih (List.Nodup.of_append_left distinct)
    obtain ⟨keptNext, writtenNext, ranNext, cascadedNext, siteNext⟩ :=
      runCascadedEntry_later (ids.foldl (runCascadedEntry false) batch) id
    have before : ids.filterMap (fun other =>
      (turnAmong false (ids ++ [id]) batch other).putOff? other)
        = ids.filterMap fun other => (turnAmong false ids batch other).putOff? other :=
      List.filterMap_congr fun other listed => by rw [turnAmong_append_of_mem false listed]
    dsimp only at kept ⊢
    rw [List.foldl_append, List.filterMap_append, before, List.foldl_cons, List.foldl_nil]
    refine ⟨?_, writtenNext.trans written, ranNext.trans ran, cascadedNext.trans cascaded,
      siteNext.trans site⟩
    rw [keptNext, kept, OrderedSet.insertAll_append]
    simp only [List.filterMap_cons, List.filterMap_nil, turnAmong_append_self false absent]
    cases (ids.foldl (runCascadedEntry false) batch).putOff? id <;> rfl

/-- The batch when the turn of a pending declaration comes. -/
def turn (batch : Batch H) (id : DeclarationId) : Batch H :=
  turnAmong batch.runsNow batch.pending batch id

omit [Host H] in
lemma nodup_pending (batch : Batch H) : batch.pending.Nodup :=
  batch.cascaded.nodup.filter _

omit [Host H] in
lemma mem_pending {batch : Batch H} {id : DeclarationId} :
    id ∈ batch.pending ↔ id ∈ batch.cascaded ∧ id ∉ batch.direct.keys := by
  rw [pending, List.mem_filter, Bool.not_eq_true', ← Bool.not_eq_true, OrderedMap.contains_iff,
    OrderedSet.mem_iff]

/-- The pending declarations that run when cascades run now. -/
def due (batch : Batch H) : List DeclarationId :=
  batch.pending.filter fun id => (batch.turn id).isDue id

/-- The sources that are kept when cascades are put off, without repeats. -/
def putOff (batch : Batch H) : OrderedSet String :=
  .ofList (batch.pending.filterMap fun id => (batch.turn id).putOff? id)

variable {session : Session H} {paths : List String} {forced : Bool}

lemma plan_ranCascaded :
    (ranCascaded session paths forced).plan = (resolved session paths forced).plan :=
  (plan_runCascaded _).trans (congrArg Standing.plan standing_ranDirect)

lemma direct_ranDirect :
    (ranDirect session paths forced).direct = (resolved session paths forced).direct :=
  congrArg (fun s : Standing H => s.plan.direct) standing_ranDirect

/-- The pending declarations of a batch are known once its targets are resolved. -/
lemma mem_pending_ranDirect {id : DeclarationId} :
    id ∈ (ranDirect session paths forced).pending ↔
      id ∈ (resolved session paths forced).cascaded ∧
        id ∉ (resolved session paths forced).direct.keys := by
  have cascaded : (ranDirect session paths forced).cascaded
      = (resolved session paths forced).cascaded :=
    congrArg (fun s : Standing H => s.plan.cascaded) standing_ranDirect
  rw [mem_pending, cascaded, direct_ranDirect]

lemma registered_of_mem_pending (indexed : session.engine.registry.Indexed) {id : DeclarationId}
    (pending : id ∈ (ranDirect session paths forced).pending) :
    id ∈ session.engine.registry.registrations.keys :=
  registered_of_mem_cascaded indexed (mem_pending_ranDirect.mp pending).1

/-! ## The decision -/

lemma forced_ranDirect : (ranDirect session paths forced).forced = forced :=
  (congrArg (fun s : Standing H => s.plan.forced) standing_ranDirect).trans forced_resolved

/-- Cascades are put off exactly when the batch is unforced, has written, and the host is not
building. -/
lemma runsNow_ranDirect_eq_false_iff :
    (ranDirect session paths forced).runsNow = false ↔
      forced = false ∧ (ranDirect session paths forced).written.toList ≠ [] ∧
        Host.isBuilding (ranDirect session paths forced).host = false := by
  rw [runsNow, forced_ranDirect, flagged_ranDirect.flag, Bool.not_not, Bool.or_eq_false_iff,
    Bool.or_eq_false_iff, and_assoc, OrderedSet.isEmpty, List.isEmpty_eq_false_iff]

lemma foundation_turn (id : DeclarationId) :
    ((ranDirect session paths forced).turn id).foundation = (start session forced).foundation := by
  have taken : ((ranDirect session paths forced).turn id).plan
      = (ranDirect session paths forced).plan :=
    plan_foldl_runCascadedEntry _ _ _
  have direct : (ranDirect session paths forced).plan = (resolved session paths forced).plan :=
    congrArg Standing.plan standing_ranDirect
  exact (congrArg Plan.foundation (taken.trans direct)).trans foundation_resolved

/-- What the batch admits does not change while cascaded declarations take their turns. -/
lemma admits_turn (id : DeclarationId) (source : String) :
    ((ranDirect session paths forced).turn id).admits source
      = (forced || session.engine.settings.isAutomaticSource source) := by
  have same : ((ranDirect session paths forced).turn id).foundation = _ := foundation_turn id
  have sameForced : ((ranDirect session paths forced).turn id).forced = forced :=
    congrArg Foundation.forced same
  have settings : ((ranDirect session paths forced).turn id).engine.settings
      = session.engine.settings :=
    congrArg Foundation.settings same
  rw [admits, sameForced, settings]

lemma due_ranDirect :
    (ranDirect session paths forced).due = (ranDirect session paths forced).pending.filter fun id =>
      (((ranDirect session paths forced).turn id).located id).any fun source =>
        (forced || session.engine.settings.isAutomaticSource source)
          && ((ranDirect session paths forced).turn id).pathExists source := by
  simp only [due, isDue, admits_turn]

lemma putOff_ranDirect (unforced : forced = false) :
    (ranDirect session paths forced).putOff
      = .ofList ((ranDirect session paths forced).pending.filterMap fun id =>
          (((ranDirect session paths forced).turn id).located id).filter
            session.engine.settings.isAutomaticSource) := by
  have admitted : ∀ id, ((ranDirect session paths forced).turn id).admits
      = session.engine.settings.isAutomaticSource := by
    intro id
    funext source
    rw [admits_turn, unforced, Bool.false_or]
  simp only [putOff, putOff?, admitted]

lemma mem_due_ranDirect {id : DeclarationId}
    (pending : id ∈ (ranDirect session paths forced).pending) {source : String}
    (located : ((ranDirect session paths forced).turn id).located id = some source)
    (admitted : (forced || session.engine.settings.isAutomaticSource source) = true)
    (present : ((ranDirect session paths forced).turn id).pathExists source = true) :
    id ∈ (ranDirect session paths forced).due := by
  rw [due_ranDirect, List.mem_filter, located, Option.any_some, admitted, present]
  exact ⟨pending, rfl⟩

lemma mem_putOff_ranDirect (unforced : forced = false) {source : String} :
    source ∈ (ranDirect session paths forced).putOff ↔
      ∃ id ∈ (ranDirect session paths forced).pending,
        ((ranDirect session paths forced).turn id).located id = some source ∧
          session.engine.settings.isAutomaticSource source = true := by
  rw [putOff_ranDirect unforced, OrderedSet.mem_ofList, List.mem_filterMap]
  simp only [Option.filter_eq_some_iff]

/-! ## After the cascaded phase -/

lemma recorded_ranCascaded : (ranCascaded session paths forced).Recorded :=
  List.foldlRecOn _ _ flagged_ranDirect.toRecorded fun _ recorded id _ =>
    recorded_runCascadedEntry recorded _ id

/-- No cascade has run or is put off before the cascaded phase. -/
lemma fresh_ranDirect :
    (ranDirect session paths forced).report.cascaded = false ∧
      (ranDirect session paths forced).deferred = ∅ := by
  obtain ⟨_, cascaded, _, deferred, _⟩ := fresh_resolved session paths forced
  exact ⟨(congrArg Standing.cascades standing_ranDirect).trans cascaded,
    (congrArg Standing.deferred standing_ranDirect).trans deferred⟩

/-- The cascaded phase when cascades run now. -/
theorem ranCascaded_now (indexed : session.engine.registry.Indexed)
    (now : (ranDirect session paths forced).runsNow = true) :
    (ranCascaded session paths forced).report.ran
        = (resolved session paths forced).direct.keys ++ (ranDirect session paths forced).due ∧
      (ranCascaded session paths forced).report.cascaded
        = !(ranDirect session paths forced).due.isEmpty ∧
      (ranCascaded session paths forced).deferred = ∅ := by
  have registered : ∀ id ∈ (ranDirect session paths forced).pending,
      id ∈ (ranDirect session paths forced).engine.registry.registrations.keys := by
    rw [registry_ranDirect]
    exact fun id pending => registered_of_mem_pending indexed pending
  obtain ⟨ran, cascaded, deferred⟩ := foldl_runCascadedEntry_now (nodup_pending _) registered
  rw [ranCascaded, runCascaded, now]
  unfold due turn
  rw [now]
  refine ⟨?_, ?_, ?_⟩
  · rw [ran, ran_ranDirect indexed]
  · rw [cascaded, fresh_ranDirect.1, Bool.false_or]
  · rw [deferred, fresh_ranDirect.2]

/-- The cascaded phase when cascades are put off. -/
theorem ranCascaded_later (indexed : session.engine.registry.Indexed)
    (later : (ranDirect session paths forced).runsNow = false) :
    (ranCascaded session paths forced).report.ran = (resolved session paths forced).direct.keys ∧
      (ranCascaded session paths forced).report.cascaded = false ∧
      (ranCascaded session paths forced).deferred = (ranDirect session paths forced).putOff ∧
      (ranCascaded session paths forced).written = (ranDirect session paths forced).written ∧
      (ranCascaded session paths forced).session.world.site
        = (ranDirect session paths forced).session.world.site := by
  obtain ⟨deferred, written, ran, cascaded, site⟩ :=
    foldl_runCascadedEntry_later (ranDirect session paths forced) (nodup_pending _)
  rw [ranCascaded, runCascaded, later]
  unfold putOff turn
  rw [later]
  refine ⟨?_, ?_, ?_, written, site⟩
  · rw [ran, ran_ranDirect indexed]
  · rw [cascaded, fresh_ranDirect.1]
  · rw [deferred, fresh_ranDirect.2]
    rfl

/-- A pending declaration with a source that is there and admitted at its turn runs or is put
off. -/
theorem ran_or_putOff (indexed : session.engine.registry.Indexed) {id : DeclarationId}
    (pending : id ∈ (ranDirect session paths forced).pending) {source : String}
    (located : ((ranDirect session paths forced).turn id).located id = some source)
    (admitted : (forced || session.engine.settings.isAutomaticSource source) = true)
    (present : ((ranDirect session paths forced).turn id).pathExists source = true) :
    id ∈ (ranCascaded session paths forced).report.ran ∨
      source ∈ (ranCascaded session paths forced).deferred := by
  cases decided : (ranDirect session paths forced).runsNow with
  | true =>
    left
    rw [(ranCascaded_now indexed decided).1]
    exact List.mem_append_right _ (mem_due_ranDirect pending located admitted present)
  | false =>
    right
    have unforced : forced = false := (runsNow_ranDirect_eq_false_iff.mp decided).1
    rw [unforced, Bool.false_or] at admitted
    rw [(ranCascaded_later indexed decided).2.2.1, mem_putOff_ranDirect unforced]
    exact ⟨id, pending, located, admitted⟩

end Batch

end SourceGen
