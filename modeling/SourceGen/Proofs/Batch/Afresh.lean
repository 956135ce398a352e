import SourceGen.Proofs.Batch.Recasting
import SourceGen.Proofs.Requests

/-!
# Asking the host afresh

A batch asks its host each question once and keeps the answer. Here it is compared with a batch
that keeps nothing and asks afresh at every use (`Batch.runAfresh`).

Nothing is needed for the first phases: the collected paths are distinct, so no type is asked for
twice, and the two batches part only in what they have on record (`forget_resolveTargets`). In the
cascade one target may stand for several declarations. The second question for it can be spared
when the answers of the host do not change during the batch (`Session.AnswersStay`): as long as
everything on record is what the host answered first, one turn does the same with the record and
without it (`Alike.runCascadedEntry`), and so does the cascade (`Alike.foldl_runCascadedEntry`).
Whatever the plugins do, they do it to both batches, since the reports agree at every point. So the
batches agree to the end (`bare_runAfresh`).
-/

namespace SourceGen

/-! ## Questions that were not asked yet -/

namespace Lookups

variable {H : Type} [Host H] (lookups : Lookups) (host : H) (files : FileSystem)

lemma typeOfPath_of_unasked {path : String} (unasked : lookups.types.get? path = none) :
    lookups.typeOfPath host files path
      = ((Host.typeOfPath host files path).1,
          { lookups with types := lookups.types.insert path (Host.typeOfPath host files path).1 },
          (Host.typeOfPath host files path).2) := by
  rw [typeOfPath, unasked]

lemma pathOfType_of_unasked {type : TypeName} (unasked : lookups.paths.get? type = none) :
    let answer := (Host.pathOfType host files type).1.map SourcePath.normalize
    lookups.pathOfType host files type
      = (answer, { lookups with paths := lookups.paths.insert type answer },
        (Host.pathOfType host files type).2) := by
  rw [pathOfType, unasked]

end Lookups

/-! ## Hosts whose answers stay -/

namespace Host

variable {H : Type} [Host H]

/-- The second host is the first one after questions for sources, the first of which is asked at the
given files and the others at files of the time. -/
inductive Consulted (host : H) (files : FileSystem) (during : FileSystem → Prop) : H → Prop where
  | once (type : TypeName) : Consulted host files during (Host.pathOfType host files type).2
  | again {later : H} (earlier : Consulted host files during later) {now : FileSystem}
    (current : during now)
    (type : TypeName) : Consulted host files during (Host.pathOfType later now type).2

lemma Consulted.follows {K : Type} [Host K] {f : K → H} (follows : Host.Follows f) {host later : K}
    {files : FileSystem} {during meanwhile : FileSystem → Prop} (within : ∀ now,
      during now → meanwhile now)
    (consulted : Consulted host files during later) : Consulted (f host)
      files meanwhile (f later) := by
  have led : ∀ host files type, f (Host.pathOfType host files type).2
      = (Host.pathOfType (f host) files type).2 :=
    fun host files type => (congrArg Prod.snd (follows.pathOfType host files type)).symm
  induction consulted with
  | once type =>
    rw [led]
    exact .once type
  | again _ current type ih =>
    rw [led]
    exact .again ih (within _ current) type

/-- Whatever the host is asked during some time, and in whatever order, it has the source for a type
that it has at the beginning, and goes on building or not. -/
structure Constant (host : H) (files : FileSystem) (during : FileSystem → Prop) : Prop where
  pathOfType : ∀ later, Consulted host files during later → ∀ now, during now → ∀ type,
    (Host.pathOfType later now type).1 = (Host.pathOfType host files type).1
  isBuilding : ∀ later, Consulted host files during later →
    Host.isBuilding later = Host.isBuilding host

/-- The host as it is when a question for a source is due: the one at the beginning, or one that was
asked already. -/
def Due (host : H) (files : FileSystem) (during : FileSystem → Prop) (later : H)
    (now : FileSystem) : Prop :=
  (later = host ∧ now = files) ∨ (Consulted host files during later ∧ during now)

variable {host later : H} {files now : FileSystem} {during : FileSystem → Prop}

lemma Due.consulted (due : Due host files during later now) (type : TypeName) :
    Consulted host files during (Host.pathOfType later now type).2 := by
  obtain ⟨rfl, rfl⟩ | ⟨earlier, current⟩ := due
  · exact .once type
  · exact .again earlier current type

lemma Constant.pathOfType_due (constant : Constant host files during)
    (due : Due host files during later now) (type : TypeName) :
    (Host.pathOfType later now type).1 = (Host.pathOfType host files type).1 := by
  obtain ⟨rfl, rfl⟩ | ⟨earlier, current⟩ := due
  · rfl
  · exact constant.pathOfType later earlier now current type

lemma Constant.isBuilding_due (constant : Constant host files during)
    (due : Due host files during later now) :
    Host.isBuilding later = Host.isBuilding host := by
  obtain ⟨rfl, _⟩ | ⟨earlier, _⟩ := due
  · rfl
  · exact constant.isBuilding later earlier

lemma Consulted.questioned (consulted : Consulted host files during later) :
    Questioned host later := by
  induction consulted with
  | once type => exact .pathOfType .refl files type
  | again _ _ type ih => exact .pathOfType ih _ type

lemma Due.questioned (due : Due host files during later now) : Questioned host later := by
  obtain ⟨rfl, _⟩ | ⟨earlier, _⟩ := due
  · exact .refl
  · exact earlier.questioned

end Host

/-- The files when some of the pending declarations have had their turns. -/
def Batch.AtTurn {H : Type} [Host H] (batch : Batch H) (now : FileSystem) : Prop :=
  ∃ front, front <+: batch.pending ∧
  now = (front.foldl (Batch.runCascadedEntry batch.runsNow) batch).files

/-- During a batch on the session, the answers of the host do not change: from the end of the direct
phase on, it has the same sources at every turn of the cascade and after it. -/
def Session.AnswersStay {H : Type} [Host H] (session : Session H) (paths : List String)
    (forced : Bool) : Prop :=
  let batch := Batch.ranDirect session paths forced
  Host.Constant batch.host batch.files batch.AtTurn

namespace Batch

variable {H : Type}

/-- The batch without its answers on record. -/
def forget (batch : Batch H) : Batch H :=
  batch.recast (fun host => host) (fun _ => {}) id

lemma view_of_forget {γ : Type} (view : Batch H → γ)
    (unseen : ∀ batch : Batch H, view batch.forget = view batch) {batch other : Batch H}
    (same : batch.forget = other.forget) : view batch = view other := by
  rw [← unseen, same, unseen]

/-- The batch but for its host and its answers on record. -/
def bare (batch : Batch H) : Batch Unit :=
  batch.recast (fun _ => ()) (fun _ => {}) id

/-! ## The batch that asks afresh -/

section Afresh

variable [Host H]

/-- Resolves one path, for which the host is asked in any case. -/
def resolvePathAfresh (batch : Batch H) (path : String) : Batch H :=
  batch.forget.resolvePath path

/-- Runs one cascaded declaration or puts it off; the host is asked for its source in any case. -/
def runCascadedEntryAfresh (now : Bool) (batch : Batch H) (id : DeclarationId) : Batch H :=
  batch.forget.runCascadedEntry now id

/-- The work of a phase when the host is asked afresh at every use. -/
def workAfresh (paths : List String) : Phase → Batch H → Batch H
  | .resolvingTargets => fun batch => batch.collected.foldl resolvePathAfresh batch
  | .runningCascaded =>
    fun batch => batch.pending.foldl (runCascadedEntryAfresh batch.runsNow) batch
  | phase => work paths phase

/-- The batch after all its phases when the host is asked afresh at every use. -/
def runAfresh (session : Session H) (paths : List String) (forced : Bool) : Batch H :=
  Phase.all.foldl (fun batch phase => batch.runPhase phase (workAfresh paths phase))
    (start session forced)

end Afresh

/-! ## On another host -/

section Follows

variable {K : Type} [Host K] [Host H] {f : K → H} (follows : Host.Follows f)

include follows

lemma recasts_workAfresh (paths : List String) (phase : Phase) :
    Recasts f id id (fun batch => workAfresh paths phase batch) fun batch =>
      workAfresh paths phase batch := by
  cases phase with
  | resolvingTargets =>
    have recasts : ∀ path, Recasts f id id (fun batch => batch.resolvePathAfresh path) fun batch =>
        batch.resolvePathAfresh path :=
          fun path batch => recasts_resolvePath follows path batch.forget
    exact fun batch => Recasts.foldl recasts batch.collected batch
  | runningCascaded =>
    have recasts : ∀ now declaration,
        Recasts f id id (fun batch => batch.runCascadedEntryAfresh now declaration)
        fun batch => batch.runCascadedEntryAfresh now declaration :=
      fun now declaration batch => recasts_runCascadedEntry follows now declaration batch.forget
    intro batch
    have later : ((batch.recast f id id).pending.foldl (runCascadedEntryAfresh batch.runsNow)
        (batch.recast f id id))
        = (batch.pending.foldl (runCascadedEntryAfresh batch.runsNow) batch).recast f id id :=
      Recasts.foldl (recasts batch.runsNow) batch.pending batch
    simp only [workAfresh, runsNow_recast follows, later]
  | collecting => exact recasts_work follows paths .collecting
  | runningDirect => exact recasts_work follows paths .runningDirect
  | requestingReimport => exact recasts_work follows paths .requestingReimport
  | done => exact recasts_work follows paths .done

lemma runAfresh_recast (session : Session K) (paths : List String) (forced : Bool) :
    runAfresh (session.recast f id) paths forced
      = (runAfresh session paths forced).recast f id id :=
  Recasts.foldl (fun phase => (recasts_workAfresh follows paths phase).runPhase phase) Phase.all
    (start session forced)

lemma AtTurn.recast {batch : Batch K} {now : FileSystem} (turn : batch.AtTurn now) :
    (batch.recast f id id).AtTurn now := by
  obtain ⟨front, taken, rfl⟩ := turn
  have same : front.foldl (runCascadedEntry batch.runsNow) (batch.recast f id id)
      = (front.foldl (runCascadedEntry batch.runsNow) batch).recast f id id :=
    Recasts.foldl (recasts_runCascadedEntry follows batch.runsNow) front batch
  refine ⟨front, taken, ?_⟩
  rw [runsNow_recast follows, same]
  rfl

lemma answersStay_of_recast {session : Session K} {paths : List String} {forced : Bool}
    (stay : (session.recast f id).AnswersStay paths forced) : session.AnswersStay paths forced := by
  have same : ranDirect (session.recast f id) paths forced
      = (ranDirect session paths forced).recast f id id :=
    ranDirect_recast follows session paths forced
  unfold Session.AnswersStay at stay ⊢
  rw [same] at stay
  generalize ranDirect session paths forced = batch at stay ⊢
  have constant : Host.Constant (f batch.host) batch.files (batch.recast f id id).AtTurn := stay
  have told : ∀ host files type, (Host.pathOfType (f host) files type).1
      = (Host.pathOfType host files type).1 :=
    fun host files type => congrArg Prod.fst (follows.pathOfType host files type)
  refine ⟨fun later consulted now turn type => ?_, fun later consulted => ?_⟩
  · have first :=
      constant.pathOfType _ (consulted.follows follows fun _ => AtTurn.recast follows) now
      (turn.recast follows) type
    rw [← told, first, told]
  · have first := constant.isBuilding _ (consulted.follows follows fun _ => AtTurn.recast follows)
    rw [← follows.isBuilding, first, follows.isBuilding]

end Follows

/-! ## Resolving -/

section Resolving

variable [Host H]

/-- An answer that is missing from the record is the same without the record. -/
lemma classify_forget {batch : Batch H} {path : String}
    (unasked : batch.lookups.types.get? path = none) :
    (batch.forget.classify path).1 = (batch.classify path).1 ∧
      (batch.forget.classify path).2.2 = (batch.classify path).2.2 := by
  have blank : ({} : Lookups).types.get? path = none := rfl
  have known := batch.lookups.typeOfPath_of_unasked batch.host batch.files unasked
  have forgotten := Lookups.typeOfPath_of_unasked {} batch.host batch.files blank
  have afresh : batch.forget.classify path = Classification.ofPath batch.engine.registry
      batch.engine.settings batch.forced batch.files path {} batch.host := rfl
  rw [afresh, classify]
  unfold Classification.ofPath
  rw [known, forgotten]
  dsimp only
  split
  · exact ⟨rfl, rfl⟩
  split
  · exact ⟨rfl, rfl⟩
  · exact ⟨rfl, rfl⟩

omit [Host H] in
lemma forget_schedule (path : String) (classification : Classification) (batch : Batch H) :
    batch.forget.schedule path classification = (batch.schedule path classification).forget := by
  have recasts : Recasts (fun host : H => host) (fun _ => {}) id
      (fun b => b.schedule path classification)
      fun b => b.schedule path classification := recasts_schedule path classification
  exact recasts batch

lemma forget_resolvePath {batch : Batch H} {path : String}
    (unasked : batch.lookups.types.get? path = none) :
    (batch.resolvePath path).forget = (batch.resolvePathAfresh path).forget := by
  have sameExists : batch.forget.pathExists path = batch.pathExists path := rfl
  cases present : batch.pathExists path with
  | false =>
    have sameForced : batch.forget.forced = batch.forced := rfl
    simp only [resolvePathAfresh, resolvePath, sameExists, present, sameForced, Bool.false_eq_true,
      if_false]
    split <;> rfl
  | true =>
    obtain ⟨means, host⟩ := classify_forget unasked
    rw [resolvePathAfresh, resolvePath_of_present present,
      resolvePath_of_present (sameExists.trans present), means, ← forget_schedule,
      ← forget_schedule]
    generalize batch.forget.classify path = afresh at host ⊢
    generalize batch.classify path = known at host ⊢
    obtain ⟨meant, lookups, later⟩ := known
    obtain ⟨_, others, _⟩ := afresh
    subst host
    rfl

/-- Of distinct paths, none of which is on record, no answer is wanted twice. -/
lemma forget_foldl_resolvePath {paths : List String} (distinct : paths.Nodup)
    {batch other : Batch H} (unasked : ∀ path ∈ paths, batch.lookups.types.get? path = none)
    (same : batch.forget = other.forget) :
    (paths.foldl resolvePath batch).forget = (paths.foldl resolvePathAfresh other).forget := by
  induction paths generalizing batch other with
  | nil => exact same
  | cons path rest ih =>
    obtain ⟨absent, distinctRest⟩ := List.nodup_cons.mp distinct
    refine ih distinctRest (fun later listed => ?_) ?_
    · rw [(resolvePath_spec batch path).2.2 later fun eq => absent (eq ▸ listed)]
      exact unasked later (List.mem_cons_of_mem path listed)
    · rw [forget_resolvePath (unasked path List.mem_cons_self), resolvePathAfresh,
        resolvePathAfresh, same]

lemma forget_resolveTargets {batch : Batch H} (distinct : batch.collected.Nodup)
    (blank : batch.lookups = {}) (paths : List String) :
    (batch.resolveTargets).forget = (workAfresh paths .resolvingTargets batch).forget := by
  refine forget_foldl_resolvePath distinct (fun path _ => ?_) rfl
  rw [blank]
  rfl

end Resolving

/-! ## The cascade -/

section Cascading

variable [Host H] {host : H} {files : FileSystem} {during : FileSystem → Prop}

omit [Host H] in
/-- What becomes of a cascaded declaration once its source is looked for. -/
def followUp (now : Bool) (id : DeclarationId) (source : Option String) (batch : Batch H) :
    Batch H :=
  match source with
  | some source => batch.runOrDefer now id source
  | none => batch.note .warning .runningCascaded "no source found for target" id.text

omit [Host H] in
lemma recasts_followUp {K : Type} {f : K → H} {g : Lookups → Lookups}
    {p : List Plugin → List Plugin} (now : Bool) (id : DeclarationId) (source : Option String) :
    Recasts f g p (fun batch => batch.followUp now id source) fun batch =>
      batch.followUp now id source := by
  cases source with
  | some source => exact recasts_runOrDefer now id source
  | none => exact recasts_note _ _ _ _

/-- A turn does, but for the host and the record, what becomes of its declaration by the source that
is found. -/
lemma bare_runCascadedEntry (now : Bool) (batch : Batch H) (id : DeclarationId) :
    (batch.runCascadedEntry now id).bare = batch.bare.followUp now id (batch.located id) := by
  have turn : batch.runCascadedEntry now id = (batch.asked id).followUp
      now id (batch.located id) := by
    rw [runCascadedEntry_eq]
    cases batch.located id <;> rfl
  have followed : (batch.asked id).bare.followUp now id (batch.located id)
      = ((batch.asked id).followUp now id (batch.located id)).bare := recasts_followUp now id _ _
  rw [turn, ← followed]
  rfl

variable (host files during) in
/-- The batch has on record what the host answered first, and its host is at a point where that is
still so. -/
structure Faithful (batch : Batch H) : Prop where
  recorded : ∀ type answer, batch.lookups.paths.get? type = some answer →
    Host.Consulted host files during batch.host ∧
      answer = (Host.pathOfType host files type).1.map SourcePath.normalize
  due : Host.Due host files during batch.host batch.files

/-- With nothing on record, a batch is faithful as long as its host is. -/
lemma Faithful.of_due {batch : Batch H} (due : Host.Due host files during batch.host batch.files) :
    Faithful host files during batch.forget :=
  ⟨fun _ _ known => (nomatch known), due⟩

/-- Asked or not, the host has the source that it has at first. -/
lemma Faithful.ask (constant : Host.Constant host files during) {batch : Batch H}
    (faithful : Faithful host files during batch) (id : DeclarationId) :
    batch.located id = (Host.pathOfType host files id.target).1.map SourcePath.normalize ∧
      Host.Consulted host files during (batch.asked id).host ∧
      ∀ type answer, (batch.asked id).lookups.paths.get? type = some answer →
        answer = (Host.pathOfType host files type).1.map SourcePath.normalize := by
  cases known : batch.lookups.paths.get? id.target with
  | some answer =>
    obtain ⟨consulted, first⟩ := faithful.recorded id.target answer known
    have unasked : batch.lookups.pathOfType batch.host batch.files id.target
        = (answer, batch.lookups, batch.host) := by
      rw [Lookups.pathOfType, known]
    have standing : batch.asked id = batch := by
      rw [asked, unasked]
      rfl
    rw [located, unasked, standing]
    exact ⟨first, consulted, fun type answer known => (faithful.recorded type answer known).2⟩
  | none =>
    have first := constant.pathOfType_due faithful.due id.target
    have answered := batch.lookups.pathOfType_of_unasked batch.host batch.files known
    rw [first] at answered
    rw [located, asked, answered]
    refine ⟨rfl, faithful.due.consulted id.target, fun type answer known => ?_⟩
    rcases OrderedMap.of_get?_insert known with ⟨rfl, rfl⟩ | old
    · rfl
    · exact (faithful.recorded type answer old).2

/-- A turn of a faithful batch does what the first answer of the host calls for. -/
lemma Faithful.bare_runCascadedEntry (constant : Host.Constant host files during) {batch : Batch H}
    (faithful : Faithful host files during batch) (now : Bool) (id : DeclarationId) :
    (batch.runCascadedEntry now id).bare = batch.bare.followUp now id
      ((Host.pathOfType host files id.target).1.map SourcePath.normalize) := by
  rw [Batch.bare_runCascadedEntry, (faithful.ask constant id).1]

lemma Faithful.runCascadedEntry (constant : Host.Constant host files during) {batch : Batch H}
    (faithful : Faithful host files during batch) (now : Bool) (id : DeclarationId)
    (current : during (batch.runCascadedEntry now id).files) :
    Faithful host files during (batch.runCascadedEntry now id) := by
  obtain ⟨_, consulted, recorded⟩ := faithful.ask constant id
  have same := lookups_runCascadedEntry now batch id
  have lookups : (batch.runCascadedEntry now id).lookups = (batch.asked id).lookups :=
    congrArg Prod.fst same
  have kept : (batch.runCascadedEntry now id).host = (batch.asked id).host := congrArg Prod.snd same
  rw [← kept] at consulted
  refine ⟨fun type answer known => ?_, .inr ⟨consulted, current⟩⟩
  rw [lookups] at known
  exact ⟨consulted, recorded type answer known⟩

variable (host files during) in
/-- A faithful batch, and one that agrees with it but for its record and for its host, which stays
as well. -/
structure Alike (batch other : Batch H) : Prop where
  faithful : Faithful host files during batch
  due : Host.Due host files during other.host other.files
  bare : batch.bare = other.bare

lemma Alike.runCascadedEntry (constant : Host.Constant host files during) {batch other : Batch H}
    (alike : Alike host files during batch other) (now : Bool) (id : DeclarationId)
    (current : during (batch.runCascadedEntry now id).files) :
    Alike host files during (batch.runCascadedEntry now id)
      (other.runCascadedEntryAfresh now id) := by
  have sameBare : other.forget.bare = batch.bare := alike.bare.symm
  have bare : (batch.runCascadedEntry now id).bare
      = (other.runCascadedEntryAfresh now id).bare := by
    rw [runCascadedEntryAfresh, alike.faithful.bare_runCascadedEntry constant,
      (Faithful.of_due alike.due).bare_runCascadedEntry constant, sameBare]
  have sameFiles : (batch.runCascadedEntry now id).files
      = (other.runCascadedEntryAfresh now id).files :=
    congrArg (fun b : Batch Unit => b.files) bare
  refine ⟨alike.faithful.runCascadedEntry constant now id current, ?_, bare⟩
  exact ((Faithful.of_due alike.due).runCascadedEntry constant now id (sameFiles ▸ current)).due

lemma Alike.foldl_runCascadedEntry (constant : Host.Constant host files during) (now : Bool)
    {ids : List DeclarationId} {batch other : Batch H} (alike : Alike host files during batch other)
    (current : ∀ front, front <+: ids →
      during (front.foldl (Batch.runCascadedEntry now) batch).files) :
    Alike host files during (ids.foldl (Batch.runCascadedEntry now) batch)
      (ids.foldl (runCascadedEntryAfresh now) other) := by
  induction ids generalizing batch other with
  | nil => exact alike
  | cons id rest ih =>
    have turn := alike.runCascadedEntry constant now id
      (current [id] (List.cons_prefix_cons.mpr ⟨rfl, List.nil_prefix⟩))
    refine ih turn fun front later => ?_
    exact current (id :: front) (List.cons_prefix_cons.mpr ⟨rfl, later⟩)

end Cascading

/-! ## A whole batch -/

section Whole

variable [Host H] {session : Session H} {paths : List String} {forced : Bool}

/-- The batch when its cascades are due, with the given work in its phases. -/
def untilCascades (works : Phase → Batch H → Batch H) (session : Session H) (forced : Bool) :
    Batch H :=
  ((((start session forced).runPhase .collecting (works .collecting)).runPhase .resolvingTargets
    (works .resolvingTargets)).runPhase .runningDirect (works .runningDirect)).callPlugins
      (.before .runningCascaded)

/-- The batch when its requests are due. -/
def untilRequests (works : Phase → Batch H → Batch H) (session : Session H) (forced : Bool) :
    Batch H :=
  ((works .runningCascaded (untilCascades works session forced)).callPlugins
    (.after .runningCascaded)).callPlugins (.before .requestingReimport)

/-- The requests of a batch and what follows them. -/
def finish (batch : Batch H) : Batch H :=
  (batch.requestReimports.callPlugins (.after .requestingReimport)).runPhase .done id

lemma run_eq_finish (session : Session H) (paths : List String) (forced : Bool) :
    run session paths forced = (untilRequests (work paths) session forced).finish := by
  simp only [run, untilRequests, untilCascades, Phase.all, List.foldl_cons, List.foldl_nil, finish,
    runPhase, work]

lemma runAfresh_eq_finish (session : Session H) (paths : List String) (forced : Bool) :
    runAfresh session paths forced = (untilRequests (workAfresh paths) session forced).finish := by
  simp only [runAfresh, untilRequests, untilCascades, Phase.all, List.foldl_cons, List.foldl_nil,
    finish, runPhase, workAfresh, work]

/-! ### Calls of plugins -/

omit [Host H] in
lemma forget_callPlugins (point : HookPoint) (batch : Batch H) :
    (batch.callPlugins point).forget = batch.forget.callPlugins point := by
  have recasts : Recasts (fun host : H => host) (fun _ => {}) id (fun b => b.callPlugins point)
      fun b => b.callPlugins point := recasts_callPlugins point
  exact (recasts batch).symm

omit [Host H] in
lemma bare_callPlugins (point : HookPoint) (batch : Batch H) :
    (batch.callPlugins point).bare = batch.bare.callPlugins point := by
  have recasts : Recasts (fun _ : H => ()) (fun _ => {}) id (fun b => b.callPlugins point)
      fun b => b.callPlugins point := recasts_callPlugins point
  exact (recasts batch).symm

lemma Faithful.of_mute {host : H} {files : FileSystem} {during : FileSystem → Prop}
    {batch other : Batch H} (same : batch.mute = other.mute)
    (faithful : Faithful host files during other) :
    Faithful host files during batch := by
  have lookups : batch.lookups = other.lookups := view_of_mute Batch.lookups (fun _ => rfl) same
  have sameHost : batch.host = other.host := view_of_mute Batch.host (fun _ => rfl) same
  have sameFiles : batch.files = other.files := view_of_mute Batch.files (fun _ => rfl) same
  refine ⟨?_, ?_⟩
  · rw [lookups, sameHost]
    exact faithful.recorded
  · rw [sameHost, sameFiles]
    exact faithful.due

lemma Alike.callPlugins {host : H} {files : FileSystem} {during : FileSystem → Prop}
    {batch other : Batch H} (alike : Alike host files during batch other) (point : HookPoint) :
    Alike host files during (batch.callPlugins point) (other.callPlugins point) := by
  have muted := mute_callPlugins point other
  have sameHost : (other.callPlugins point).host = other.host :=
    view_of_mute Batch.host (fun _ => rfl) muted
  have sameFiles : (other.callPlugins point).files = other.files :=
    view_of_mute Batch.files (fun _ => rfl) muted
  refine ⟨.of_mute (mute_callPlugins point batch) alike.faithful, ?_, ?_⟩
  · rw [sameHost, sameFiles]
    exact alike.due
  · rw [bare_callPlugins, bare_callPlugins, alike.bare]

/-! ### The phases -/

lemma mute_untilCascades :
    (untilCascades (work paths) session forced).mute = (ranDirect session paths forced).mute := by
  have collected := (framed_collect paths).mute_runPhase .collecting
    (rfl : (start session forced).mute = _)
  have resolved := framed_resolveTargets.mute_runPhase .resolvingTargets collected
  have direct := framed_runDirect.mute_runPhase .runningDirect resolved
  simp only [untilCascades, work]
  exact (mute_callPlugins (.before .runningCascaded) _).trans direct

variable (session paths forced) in
lemma forget_resolvingTargets :
    let collected := (start session forced).runPhase .collecting (collect paths)
    (collected.runPhase .resolvingTargets resolveTargets).forget
      = (collected.runPhase .resolvingTargets (workAfresh paths .resolvingTargets)).forget := by
  intro collected
  have muted : (collected.callPlugins (.before .resolvingTargets)).mute
      = (gathered session paths forced).mute :=
    (mute_callPlugins _ collected).trans ((framed_collect paths).mute_runPhase .collecting rfl)
  have sameCollected : (collected.callPlugins (.before .resolvingTargets)).collected
      = (gathered session paths forced).collected :=
        view_of_mute Batch.collected (fun _ => rfl) muted
  have blank : (collected.callPlugins (.before .resolvingTargets)).lookups
      = (gathered session paths forced).lookups := view_of_mute Batch.lookups (fun _ => rfl) muted
  have distinct := nodup_collected_gathered session paths forced
  rw [← sameCollected] at distinct
  rw [gathered_eq] at blank
  rw [runPhase, runPhase, forget_callPlugins, forget_callPlugins,
    forget_resolveTargets distinct blank paths]

omit [Host H] in
lemma forget_runningDirect (batch : Batch H) :
    (batch.runPhase .runningDirect runDirect).forget
      = batch.forget.runPhase .runningDirect runDirect := by
  have recasts : Recasts (fun host : H => host) (fun _ => {}) id
      (fun b => b.runPhase .runningDirect runDirect)
      fun b => b.runPhase .runningDirect runDirect := recasts_runDirect.runPhase .runningDirect
  exact (recasts batch).symm

/-- Until its cascades, the batch that asks afresh parts in nothing but its record. -/
lemma forget_untilCascades :
    (untilCascades (work paths) session forced).forget
      = (untilCascades (workAfresh paths) session forced).forget := by
  simp only [untilCascades, work, workAfresh]
  rw [forget_callPlugins, forget_callPlugins, forget_runningDirect, forget_runningDirect,
    forget_resolvingTargets]
  rfl

lemma faithful_untilCascades (during : FileSystem → Prop) :
    Faithful (ranDirect session paths forced).host (ranDirect session paths forced).files during
      (untilCascades (work paths) session forced) := by
  refine .of_mute mute_untilCascades ⟨fun type answer known => ?_, .inl ⟨rfl, rfl⟩⟩
  rw [paths_ranDirect] at known
  cases known

lemma atTurn_untilCascades {front : List DeclarationId}
    (taken : front <+: (untilCascades (work paths) session forced).pending) :
    (ranDirect session paths forced).AtTurn (front.foldl
      (runCascadedEntry (untilCascades (work paths) session forced).runsNow)
      (untilCascades (work paths) session forced)).files := by
  have muted : (untilCascades (work paths) session forced).mute
      = (ranDirect session paths forced).mute :=
    mute_untilCascades
  have pending : (untilCascades (work paths) session forced).pending
      = (ranDirect session paths forced).pending :=
    view_of_mute Batch.pending (fun _ => rfl) muted
  have now : (untilCascades (work paths) session forced).runsNow
      = (ranDirect session paths forced).runsNow :=
    view_of_mute Batch.runsNow (fun _ => rfl) muted
  rw [pending] at taken
  rw [now]
  refine ⟨front, taken, view_of_mute Batch.files (fun _ => rfl) ?_⟩
  have framed : Framed fun batch : Batch H =>
      front.foldl (runCascadedEntry (ranDirect session paths forced).runsNow) batch :=
    Framed.foldl (framed_runCascadedEntry _) front
  rw [framed.mute, muted, ← framed.mute]

/-- When their requests are due, the batches agree but for their hosts and records. -/
theorem alike_untilRequests (stay : session.AnswersStay paths forced) :
    Alike (ranDirect session paths forced).host (ranDirect session paths forced).files
      (ranDirect session paths forced).AtTurn (untilRequests (work paths) session forced)
      (untilRequests (workAfresh paths) session forced) := by
  have turns : ∀ front, front <+: (untilCascades (work paths) session forced).pending → _ :=
    fun front taken => atTurn_untilCascades taken
  have faithful : Faithful _ _ _ (untilCascades (work paths) session forced) :=
    faithful_untilCascades (ranDirect session paths forced).AtTurn
  have same : (untilCascades (work paths) session forced).forget
    = (untilCascades (workAfresh paths) session forced).forget := forget_untilCascades
  simp only [untilRequests]
  generalize untilCascades (work paths) session forced = batch at turns faithful same ⊢
  generalize untilCascades (workAfresh paths) session forced = other at same ⊢
  have host : batch.host = other.host := view_of_forget Batch.host (fun _ => rfl) same
  have files : batch.files = other.files := view_of_forget Batch.files (fun _ => rfl) same
  have pending : batch.pending = other.pending := view_of_forget Batch.pending (fun _ => rfl) same
  have now : batch.runsNow = other.runsNow := view_of_forget Batch.runsNow (fun _ => rfl) same
  have due := faithful.due
  rw [host, files] at due
  have alike : Alike _ _ _ batch other :=
    ⟨faithful, due, view_of_forget Batch.bare (fun _ => rfl) same⟩
  have cascade := alike.foldl_runCascadedEntry stay batch.runsNow turns
  simp only [work, workAfresh, runCascaded]
  rw [← pending, ← now]
  exact (cascade.callPlugins _).callPlugins _

/-! ### The requests -/

/-- Batches that are building alike, and agree but for their hosts and records, send the same
requests. -/
lemma bare_requestReimports {batch other : Batch H} (same : batch.bare = other.bare)
    (building : Host.isBuilding batch.host = Host.isBuilding other.host) :
    batch.requestReimports.bare = other.requestReimports.bare ∧
    batch.requests = other.requests := by
  have wants : batch.wantsRefresh = other.wantsRefresh :=
    congrArg (fun b : Batch Unit => b.wantsRefresh) same
  have written : batch.written = other.written := congrArg (fun b : Batch Unit => b.written) same
  have deferred : batch.deferred = other.deferred :=
    congrArg (fun b : Batch Unit => b.deferred) same
  refine ⟨?_, by rw [requests, requests, building, wants, written, deferred]⟩
  cases idle : Host.isBuilding other.host with
  | true => rw [requestReimports, requestReimports, building, idle, if_pos rfl, if_pos rfl, same]
  | false =>
    have sent : ∀ b : Batch H, Host.isBuilding b.host = false →
        b.requestReimports.bare = b.bare.requestReimports :=
      fun b idle => (recast_requestReimports Host.takesRequests_unit idle.symm).symm
    rw [sent batch (building.trans idle), sent other idle, same]

lemma bare_finish (batch : Batch H) :
    batch.finish.bare = (batch.requestReimports.bare.callPlugins
      (.after .requestingReimport)).runPhase .done id := by
  simp only [finish, runPhase, bare_callPlugins, id]

lemma host_finish (batch : Batch H) :
    batch.finish.host = batch.requests.foldl Host.request batch.host := by
  have called : ∀ (point : HookPoint) (b : Batch H), (b.callPlugins point).host = b.host :=
    fun point b => view_of_mute Batch.host (fun _ => rfl) (mute_callPlugins point b)
  simp only [finish, runPhase, called, id, host_requestReimports]

/-- **Keeping the answers is transparent.** When the answers of the host do not change during a
batch, asking it afresh at every use changes nothing but what is on record and what the host was
asked: both batches send the same requests, each after questions of its own. -/
theorem bare_runAfresh (stay : session.AnswersStay paths forced) :
    (runAfresh session paths forced).bare = (run session paths forced).bare ∧
      ∃ (requests : List Host.Request) (later laterAfresh : H),
        Host.Questioned session.world.host later ∧ Host.Questioned session.world.host laterAfresh ∧
        (run session paths forced).host = requests.foldl Host.request later ∧
        (runAfresh session paths forced).host = requests.foldl Host.request laterAfresh := by
  have alike := alike_untilRequests stay
  have direct := questioned_ranDirect session paths forced
  have building := (Host.Constant.isBuilding_due stay alike.faithful.due).trans
    (Host.Constant.isBuilding_due stay alike.due).symm
  obtain ⟨bare, requests⟩ := bare_requestReimports alike.bare building
  rw [run_eq_finish, runAfresh_eq_finish, bare_finish, bare_finish, bare, host_finish, host_finish,
    requests]
  exact ⟨rfl, _, _, _, direct.trans alike.faithful.due.questioned,
    direct.trans alike.due.questioned, rfl, rfl⟩

end Whole

end Batch

end SourceGen
