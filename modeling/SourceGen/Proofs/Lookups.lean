import Mathlib.Data.List.Count
import SourceGen.Proofs.Batch.Afresh
import SourceGen.Proofs.Host.Directory
import SourceGen.Proofs.Manifest.Names

/-!
# One question each

A batch asks its host for the type of a collected path, and for the source of a target whose
declarations are cascaded. Both are kept on record for the rest of the batch. This is seen from
outside by a host that keeps a record of its calls (`ObservedHost`) and otherwise does what the host
does that it holds.

Until the requests are due, the calls are the keys of what the batch has on record, each of them
once (`Batch.Tallied`). So the calls can be counted by telling which paths and which types are on
record in the end (`Batch.mem_types_resolved`, `Batch.mem_paths_ranCascaded`). That holds for every
host. For a host whose answers do not change during the batch, keeping them also changes nothing of
what the batch does (`Session.lookups_transparent_and_minimal`).
-/

namespace SourceGen

/-! ## Hosts under observation -/

namespace Host

/-- A call of a host: the question for the type that a source declares, the question for the source
that declares a type, or a request. -/
inductive Call where
  | typeOfPath (path : String)
  | pathOfType (type : TypeName)
  | request (sent : Request)
deriving DecidableEq

/-- The request that a call makes, if it makes one. -/
def Call.request? : Call → Option Request
  | .request sent => some sent
  | .typeOfPath _ | .pathOfType _ => none

end Host

/-- A host with the calls it has had, oldest first. -/
structure ObservedHost (H : Type) where
  host : H
  calls : List Host.Call := []

namespace ObservedHost

variable {H : Type} [Host H]

instance : Host (ObservedHost H) where
  typeOfPath observed files path :=
    ((Host.typeOfPath observed.host files path).1,
      { host := (Host.typeOfPath observed.host files path).2, calls :=
        observed.calls ++ [.typeOfPath path] })
  pathOfType observed files type :=
    ((Host.pathOfType observed.host files type).1,
      { host := (Host.pathOfType observed.host files type).2, calls :=
        observed.calls ++ [.pathOfType type] })
  requestReimport observed path :=
    { host := Host.requestReimport observed.host path
      calls := observed.calls ++ [.request (.reimport path)] }
  requestRefresh observed :=
    { host := Host.requestRefresh observed.host, calls := observed.calls ++ [.request .refresh] }
  isBuilding observed := Host.isBuilding observed.host

lemma follows : Host.Follows (ObservedHost.host : ObservedHost H → H) where
  requestReimport _ _ := rfl
  requestRefresh _ := rfl
  typeOfPath _ _ _ := rfl
  pathOfType _ _ _ := rfl
  isBuilding _ := rfl

lemma calls_foldl_request (requests : List Host.Request) (observed : ObservedHost H) :
    (requests.foldl Host.request observed).calls = observed.calls ++ requests.map .request := by
  induction requests generalizing observed with
  | nil => exact (List.append_nil _).symm
  | cons request rest ih =>
    have first : (Host.request observed request).calls = observed.calls ++ [.request request] := by
      cases request <;> rfl
    rw [List.foldl_cons, ih, first, List.append_assoc]
    rfl

lemma requests_of_questioned {observed later : ObservedHost H}
    (asked : Host.Questioned observed later) :
    later.calls.filterMap Host.Call.request? = observed.calls.filterMap Host.Call.request? := by
  induction asked with
  | refl => rfl
  | typeOfPath _ _ _ ih | pathOfType _ _ _ ih =>
    rw [← ih]
    exact List.filterMap_append.trans (List.append_nil (List.filterMap _ _))

end ObservedHost

/-- The batch on the host that was under observation. -/
def Batch.unobserved {H : Type} (batch : Batch (ObservedHost H)) : Batch H :=
  batch.recast ObservedHost.host id id

namespace Session

variable {H : Type} [Host H]

/-- The session with its host under observation. -/
def observed (session : Session H) : Session (ObservedHost H) :=
  session.recast (fun host => { host }) id

/-- The calls of the host in a batch, oldest first. -/
def calls (session : Session H) (paths : List String) (forced : Bool) : List Host.Call :=
  (Batch.run session.observed paths forced).host.calls

/-- The calls of the host in a batch that asks it afresh at every use. -/
def callsAfresh (session : Session H) (paths : List String) (forced : Bool) : List Host.Call :=
  (Batch.runAfresh session.observed paths forced).host.calls

end Session

/-! ## Calls and records -/

/-- The calls of a host that had only questions are those for what is on record, first the paths and
then the types. -/
def Lookups.Tallied {H : Type} (lookups : Lookups) (observed : ObservedHost H) : Prop :=
  observed.calls = lookups.types.keys.map .typeOfPath ++ lookups.paths.keys.map .pathOfType

namespace Lookups

variable {H : Type} [Host H]

section Questions

variable {lookups : Lookups} {observed : ObservedHost H}

lemma Tallied.typeOfPath (tallied : lookups.Tallied observed) (sourceless : lookups.paths = ∅)
    (files : FileSystem) (path : String) :
    (lookups.typeOfPath observed files path).2.1.Tallied
      (lookups.typeOfPath observed files path).2.2 := by
  cases known : lookups.types.get? path with
  | some answer =>
    rw [Lookups.typeOfPath, known]
    exact tallied
  | none =>
    have keys : ∀ answer, (lookups.types.insert path answer).keys = lookups.types.keys ++ [path] :=
      fun answer => OrderedMap.keys_update_of_not_mem _ _ (OrderedMap.get?_eq_none_iff.mp known)
    rw [typeOfPath_of_unasked _ _ _ known, Tallied, keys, sourceless, List.map_append,
      OrderedMap.keys_empty, List.map_nil, List.append_nil]
    rw [Tallied, sourceless, OrderedMap.keys_empty, List.map_nil, List.append_nil] at tallied
    exact congrArg (· ++ [Host.Call.typeOfPath path]) tallied

lemma Tallied.pathOfType (tallied : lookups.Tallied observed) (files : FileSystem)
    (type : TypeName) :
    (lookups.pathOfType observed files type).2.1.Tallied
      (lookups.pathOfType observed files type).2.2 := by
  cases known : lookups.paths.get? type with
  | some answer =>
    rw [Lookups.pathOfType, known]
    exact tallied
  | none =>
    have keys : ∀ answer, (lookups.paths.insert type answer).keys = lookups.paths.keys ++ [type] :=
      fun answer => OrderedMap.keys_update_of_not_mem _ _ (OrderedMap.get?_eq_none_iff.mp known)
    rw [pathOfType_of_unasked _ _ _ known, Tallied, keys, List.map_append, ← List.append_assoc]
    exact congrArg (· ++ [Host.Call.pathOfType type]) tallied

end Questions

lemma mem_types_typeOfPath (lookups : Lookups) (host : H) (files : FileSystem)
    (path other : String) :
    other ∈ (lookups.typeOfPath host files path).2.1.types.keys ↔ other ∈ lookups.types.keys ∨
    other = path := by
  cases known : lookups.types.get? path with
  | some answer =>
    have listed : path ∈ lookups.types.keys := OrderedMap.get?_isSome_iff.mp (known ▸ rfl)
    rw [typeOfPath, known]
    exact (or_iff_left_of_imp fun same => same ▸ listed).symm
  | none =>
    rw [typeOfPath_of_unasked _ _ _ known]
    exact OrderedMap.mem_keys_update

lemma mem_paths_pathOfType (lookups : Lookups) (host : H) (files : FileSystem)
    (type other : TypeName) :
    other ∈ (lookups.pathOfType host files type).2.1.paths.keys ↔ other ∈ lookups.paths.keys ∨
    other = type := by
  cases known : lookups.paths.get? type with
  | some answer =>
    have listed : type ∈ lookups.paths.keys := OrderedMap.get?_isSome_iff.mp (known ▸ rfl)
    rw [pathOfType, known]
    exact (or_iff_left_of_imp fun same => same ▸ listed).symm
  | none =>
    rw [pathOfType_of_unasked _ _ _ known]
    exact OrderedMap.mem_keys_update

end Lookups

/-- Whether a path is asked for: it is no generated file, and passes the source filters unless they
are lifted. -/
def Settings.asksFor (settings : Settings) (forced : Bool) (path : String) : Bool :=
  !isGeneratedFileName (SourcePath.fileName path) && (forced || settings.isSourceCandidate path)

namespace Classification

variable {H : Type} [Host H] (registry : Registry) (settings : Settings) (forced : Bool)
  (files : FileSystem)

/-- A path that is asked for is looked up, and no other. -/
lemma ofPath_answers (path : String) (lookups : Lookups) (host : H) :
    (ofPath registry settings forced files path lookups host).2
      = if settings.asksFor forced path then (lookups.typeOfPath host files path).2 else (lookups,
        host) := by
  unfold ofPath Settings.asksFor
  dsimp only
  cases isGeneratedFileName (SourcePath.fileName path) with
  | true => rfl
  | false => cases forced <;> cases settings.isSourceCandidate path <;> rfl

end Classification

namespace Batch

variable {H : Type} [Host H]

/-! ### Paths -/

/-- Whether resolving a path asks for its type. -/
def asksFor (batch : Batch H) (path : String) : Bool :=
  batch.pathExists path && batch.engine.settings.asksFor batch.forced path

lemma answers_resolvePath_eq (batch : Batch H) (path : String) :
    ((batch.resolvePath path).lookups, (batch.resolvePath path).host)
      = if batch.asksFor path then (batch.lookups.typeOfPath batch.host batch.files path).2
        else (batch.lookups, batch.host) := by
  rw [asksFor]
  cases present : batch.pathExists path with
  | false =>
    obtain ⟨report, unchanged⟩ := resolvePath_of_absent present
    rw [unchanged]
    rfl
  | true => rw [answers_resolvePath present, classify, Classification.ofPath_answers, Bool.true_and]

lemma asksFor_resolvePath (batch : Batch H) (path : String) :
    (batch.resolvePath path).asksFor = batch.asksFor := by
  obtain ⟨engine, forced, files, _⟩ := batch.resolvePath_keeps path
  funext other
  rw [asksFor, pathExists, engine, forced, files]
  rfl

lemma mem_types_resolvePath (batch : Batch H) (path other : String) :
    other ∈ (batch.resolvePath path).lookups.types.keys ↔
      other ∈ batch.lookups.types.keys ∨ other = path ∧ batch.asksFor path = true := by
  have answers : (batch.resolvePath path).lookups = _ :=
    congrArg Prod.fst (answers_resolvePath_eq batch path)
  rw [answers]
  cases batch.asksFor path with
  | true =>
    rw [if_pos rfl, Lookups.mem_types_typeOfPath]
    simp
  | false => simp

lemma mem_types_foldl_resolvePath (paths : List String) (batch : Batch H) (other : String) :
    other ∈ (paths.foldl resolvePath batch).lookups.types.keys ↔
      other ∈ batch.lookups.types.keys ∨ other ∈ paths ∧ batch.asksFor other = true := by
  induction paths generalizing batch with
  | nil => simp
  | cons path rest ih =>
    rw [List.foldl_cons, ih, asksFor_resolvePath, mem_types_resolvePath, List.mem_cons, or_assoc,
      or_and_right]
    refine or_congr_right (or_congr_left ⟨?_, ?_⟩)
    · rintro ⟨rfl, asked⟩
      exact ⟨rfl, asked⟩
    · rintro ⟨rfl, asked⟩
      exact ⟨rfl, asked⟩

variable {session : Session H} {paths : List String} {forced : Bool}

/-- Of the collected paths, those are on record in the end that are asked for. -/
theorem mem_types_resolved {path : String} :
    path ∈ (resolved session paths forced).lookups.types.keys ↔
      path ∈ (gathered session paths forced).collected ∧ (start session forced).asksFor path
        = true := by
  have blank : (gathered session paths forced).lookups.types.keys = [] := by
    rw [gathered_eq]
    rfl
  have same : (gathered session paths forced).asksFor path
      = (start session forced).asksFor path := by
    rw [gathered_eq]
    rfl
  rw [resolved, resolveTargets, mem_types_foldl_resolvePath, blank, same]
  exact or_iff_right List.not_mem_nil

/-! ### Types -/

lemma answers_runCascadedEntry (now : Bool) (batch : Batch H) (id : DeclarationId) :
    ((batch.runCascadedEntry now id).lookups, (batch.runCascadedEntry now id).host)
      = (batch.lookups.pathOfType batch.host batch.files id.target).2 :=
  lookups_runCascadedEntry now batch id

lemma mem_paths_foldl_runCascadedEntry (now : Bool) (ids : List DeclarationId) (batch : Batch H)
    (type : TypeName) :
    type ∈ (ids.foldl (runCascadedEntry now) batch).lookups.paths.keys ↔
      type ∈ batch.lookups.paths.keys ∨ type ∈ ids.map DeclarationId.target := by
  induction ids generalizing batch with
  | nil => simp
  | cons id rest ih =>
    have answers : (batch.runCascadedEntry now id).lookups = _ :=
      congrArg Prod.fst (answers_runCascadedEntry now batch id)
    rw [List.foldl_cons, ih, answers, Lookups.mem_paths_pathOfType, List.map_cons, List.mem_cons,
      or_assoc]

/-- The targets of the pending declarations are on record in the end. -/
theorem mem_paths_ranCascaded {type : TypeName} :
    type ∈ (ranCascaded session paths forced).lookups.paths.keys ↔
      type ∈ (ranDirect session paths forced).pending.map DeclarationId.target := by
  rw [ranCascaded, runCascaded, mem_paths_foldl_runCascadedEntry, paths_ranDirect,
    OrderedMap.keys_empty]
  exact or_iff_right List.not_mem_nil

lemma pending_run :
    (run session paths forced).pending = (ranDirect session paths forced).pending := by
  have cascaded : (ranDirect session paths forced).cascaded
      = (resolved session paths forced).cascaded :=
    congrArg (fun s : Standing H => s.plan.cascaded) standing_ranDirect
  rw [pending, pending, cascaded_run, direct_run, cascaded, direct_ranDirect]

/-! ### Tallying a batch -/

lemma tallied_resolvePath {batch : Batch (ObservedHost H)}
    (tallied : batch.lookups.Tallied batch.host) (sourceless : batch.lookups.paths = ∅)
    (path : String) :
    (batch.resolvePath path).lookups.Tallied (batch.resolvePath path).host := by
  have answers := answers_resolvePath_eq batch path
  have lookups : (batch.resolvePath path).lookups = _ := congrArg Prod.fst answers
  have host : (batch.resolvePath path).host = _ := congrArg Prod.snd answers
  rw [lookups, host]
  split
  · exact tallied.typeOfPath sourceless batch.files path
  · exact tallied

lemma tallied_runCascadedEntry {batch : Batch (ObservedHost H)}
    (tallied : batch.lookups.Tallied batch.host) (now : Bool) (id : DeclarationId) :
    (batch.runCascadedEntry now id).lookups.Tallied (batch.runCascadedEntry now id).host := by
  have answers := answers_runCascadedEntry now batch id
  have lookups : (batch.runCascadedEntry now id).lookups = _ := congrArg Prod.fst answers
  have host : (batch.runCascadedEntry now id).host = _ := congrArg Prod.snd answers
  rw [lookups, host]
  exact tallied.pathOfType batch.files id.target

/-- Until the requests are due, the calls of the host are those for what is on record. -/
theorem tallied_ranCascaded (session : Session H) (paths : List String) (forced : Bool) :
    (ranCascaded session.observed paths forced).lookups.Tallied
      (ranCascaded session.observed paths forced).host := by
  have blank : (gathered session.observed paths forced).lookups.Tallied
        (gathered session.observed paths forced).host ∧
      (gathered session.observed paths forced).lookups.paths = ∅ := by
    rw [gathered_eq]
    exact ⟨rfl, rfl⟩
  have resolve : (resolved session.observed paths forced).lookups.Tallied
      (resolved session.observed paths forced).host := by
    refine (List.foldlRecOn (motive := fun batch : Batch (ObservedHost H) =>
      batch.lookups.Tallied batch.host ∧ batch.lookups.paths = ∅) _ _ blank ?_).1
    intro batch ⟨tallied, sourceless⟩ path _
    exact ⟨tallied_resolvePath tallied sourceless path,
      (paths_resolvePath path batch).trans sourceless⟩
  have host : (ranDirect session.observed paths forced).host
      = (resolved session.observed paths forced).host :=
    congrArg Standing.host standing_ranDirect
  have lookups : (ranDirect session.observed paths forced).lookups
      = (resolved session.observed paths forced).lookups :=
        congrArg Standing.lookups standing_ranDirect
  have direct : (ranDirect session.observed paths forced).lookups.Tallied
      (ranDirect session.observed paths forced).host := by
    rw [host, lookups]
    exact resolve
  exact List.foldlRecOn (motive := fun batch : Batch (ObservedHost H) =>
    batch.lookups.Tallied batch.host) _ _
    direct fun _ tallied id _ => tallied_runCascadedEntry tallied _ id

/-- The calls of the host in a whole batch: those for what is on record, and the requests. -/
theorem calls_eq (session : Session H) (paths : List String) (forced : Bool) :
    ∃ requests : List Host.Request, session.calls paths forced
      = (ranCascaded session.observed paths forced).lookups.types.keys.map .typeOfPath
        ++ (ranCascaded session.observed paths forced).lookups.paths.keys.map .pathOfType
        ++ requests.map .request := by
  obtain ⟨batch, same, whole⟩ := mute_run session.observed paths forced
  have host : (run session.observed paths forced).host = batch.requestReimports.host :=
    view_of_mute Batch.host (fun _ => rfl) whole
  have before : batch.host = (ranCascaded session.observed paths forced).host :=
    view_of_mute Batch.host (fun _ => rfl) same
  refine ⟨batch.requests, ?_⟩
  rw [Session.calls, host, host_requestReimports, ObservedHost.calls_foldl_request, before,
    tallied_ranCascaded session paths forced]

end Batch

/-! ## Hosts whose answers stay -/

/-- A recording host answers from its table. -/
lemma RecordingHost.answersStay (session : Session RecordingHost) (paths : List String)
    (forced : Bool) :
    session.AnswersStay paths forced := by
  unfold Session.AnswersStay
  generalize Batch.ranDirect session paths forced = batch
  have kept : ∀ later, Host.Consulted batch.host batch.files batch.AtTurn later →
      later.types = batch.host.types ∧ later.building = batch.host.building := by
    intro later consulted
    induction consulted with
    | once => exact ⟨rfl, rfl⟩
    | again _ _ _ ih => exact ih
  refine ⟨fun later consulted now _ type => ?_, fun later consulted => (kept later consulted).2⟩
  change later.pathOf? type = batch.host.pathOf? type
  rw [RecordingHost.pathOf?, RecordingHost.pathOf?, (kept later consulted).1]

/-- A directory host answers from the index that it has or builds when it is first asked, though
files may be written in the meantime. -/
lemma DirectoryHost.answersStay (session : Session DirectoryHost) (paths : List String)
    (forced : Bool) :
    session.AnswersStay paths forced := by
  unfold Session.AnswersStay
  generalize Batch.ranDirect session paths forced = batch
  have built : ∀ later, Host.Consulted batch.host batch.files batch.AtTurn later →
      later.sources = some batch.sourceIndex := by
    intro later consulted
    induction consulted with
    | once type =>
      change (batch.host.indexed batch.files).2.sources = _
      rw [DirectoryHost.indexed_eq]
      rfl
    | @again later _ now _ type ih =>
      change (later.indexed now).2.sources = _
      rw [DirectoryHost.indexed_of_built ih]
      exact ih
  refine ⟨fun later consulted now _ type => ?_, fun _ _ => rfl⟩
  change (later.indexed now).1.get? type.shortName
    = (batch.host.indexed batch.files).1.get? type.shortName
  rw [DirectoryHost.indexed_of_built (built later consulted)]
  rfl

/-! ## Counting the calls -/

namespace Session

variable {H : Type} [Host H] (session : Session H) (paths : List String) (forced : Bool)

lemma run_observed :
    (Batch.run session.observed paths forced).unobserved = Batch.run session paths forced := by
  have same : session.observed.recast ObservedHost.host id = session := rfl
  rw [Batch.unobserved, ← Batch.run_recast ObservedHost.follows, same]

lemma runAfresh_observed :
    (Batch.runAfresh session.observed paths forced).unobserved
      = Batch.runAfresh session paths forced := by
  have same : session.observed.recast ObservedHost.host id = session := rfl
  rw [Batch.unobserved, ← Batch.runAfresh_recast ObservedHost.follows, same]

/-- The calls of a batch for types: one for each collected path that is asked for. -/
lemma count_typeOfPath (path : String) :
    (session.calls paths forced).count (.typeOfPath path)
      = if path ∈ (Batch.run session paths forced).collected ∧
          (Batch.start session forced).asksFor path = true then 1 else 0 := by
  have types : (Batch.ranCascaded session.observed paths forced).lookups.types
      = (Batch.resolved session.observed paths forced).lookups.types :=
    congrArg Batch.Plan.types Batch.plan_ranCascaded
  have collected : (Batch.run session paths forced).collected
      = (Batch.gathered session.observed paths forced).collected := by
    have observed : (Batch.run session.observed paths forced).collected
        = (Batch.gathered session.observed paths forced).collected := Batch.collected_run
    rw [← run_observed]
    exact observed
  have same : (Batch.start session forced).asksFor path
      = (Batch.start session.observed forced).asksFor path := rfl
  have once : (Batch.resolved session.observed paths forced).lookups.types.keys.Nodup :=
    (Batch.resolved session.observed paths forced).lookups.types.nodup
  obtain ⟨requests, calls⟩ := Batch.calls_eq session paths forced
  rw [calls, types, List.count_append, List.count_append,
    List.count_map_of_injective _ _ fun _ _ => Host.Call.typeOfPath.inj, once.count,
    List.count_eq_zero_of_not_mem (by simp), List.count_eq_zero_of_not_mem (by simp),
      collected, same]
  simp only [Batch.mem_types_resolved, Nat.add_zero]

/-- The calls of a batch for sources: one for each target of a pending declaration. -/
lemma count_pathOfType (type : TypeName) :
    (session.calls paths forced).count (.pathOfType type)
      = if type ∈ (Batch.run session paths forced).pending.map
        DeclarationId.target then 1 else 0 := by
  have pending : (Batch.run session paths forced).pending
      = (Batch.ranDirect session.observed paths forced).pending := by
    have observed : (Batch.run session.observed paths forced).pending
        = (Batch.ranDirect session.observed paths forced).pending := Batch.pending_run
    rw [← run_observed]
    exact observed
  have once : (Batch.ranCascaded session.observed paths forced).lookups.paths.keys.Nodup :=
    (Batch.ranCascaded session.observed paths forced).lookups.paths.nodup
  obtain ⟨requests, calls⟩ := Batch.calls_eq session paths forced
  rw [calls, List.count_append, List.count_append, List.count_eq_zero_of_not_mem (by simp),
    List.count_map_of_injective _ _ fun _ _ => Host.Call.pathOfType.inj, once.count,
    List.count_eq_zero_of_not_mem (by simp), pending]
  simp only [Batch.mem_paths_ranCascaded, Nat.zero_add, Nat.add_zero]

/-- When the answers of the host do not change, the same requests are sent as when it is asked
afresh. -/
lemma requests_callsAfresh (stay : session.AnswersStay paths forced) :
    (session.callsAfresh paths forced).filterMap Host.Call.request?
      = (session.calls paths forced).filterMap Host.Call.request? := by
  have stays : session.observed.AnswersStay paths forced :=
    Batch.answersStay_of_recast ObservedHost.follows stay
  obtain ⟨_, requests, later, laterAfresh, asked, askedAfresh, host, hostAfresh⟩ :=
    Batch.bare_runAfresh stays
  rw [callsAfresh, calls, host, hostAfresh, ObservedHost.calls_foldl_request,
    ObservedHost.calls_foldl_request, List.filterMap_append, List.filterMap_append,
    ObservedHost.requests_of_questioned asked, ObservedHost.requests_of_questioned askedAfresh]

/-- **Lookups are transparent and minimal.** The calls of the host in a batch are told by a host
that does the same under observation. When the answers of the host do not change during the batch,
then asking it afresh at every use leads to the same report, the same files and requests to
generators, the same engine and the same requests to the host. And whatever the host, it is asked
once for the type of each collected path that names anything, is no generated file, and passes the
source filters unless the batch is forced, and never for another one; and once for the source of
each target of the pending declarations, and never for another one. -/
theorem lookups_transparent_and_minimal :
    let batch := Batch.run session paths forced
    let afresh := Batch.runAfresh session paths forced
    (Batch.run session.observed paths forced).unobserved = batch ∧
      (Batch.runAfresh session.observed paths forced).unobserved = afresh ∧
      (session.AnswersStay paths forced →
        afresh.report = batch.report ∧ afresh.session.world.site = batch.session.world.site ∧
          afresh.engine = batch.engine ∧
          (session.callsAfresh paths forced).filterMap Host.Call.request?
            = (session.calls paths forced).filterMap Host.Call.request?) ∧
      (∀ path, (session.calls paths forced).count (.typeOfPath path)
        = if path ∈ batch.collected ∧ (Batch.start session forced).pathExists path = true ∧
            isGeneratedFileName (SourcePath.fileName path) = false ∧
            (forced = true ∨ session.engine.settings.isSourceCandidate path = true) then 1 else 0) ∧
      ∀ type, (session.calls paths forced).count (.pathOfType type)
        = if type ∈ batch.pending.map DeclarationId.target then 1 else 0 := by
  intro batch afresh
  refine ⟨run_observed session paths forced, runAfresh_observed session paths forced,
    fun stay => ?_, fun path => ?_,
    count_pathOfType session paths forced⟩
  · obtain ⟨same, _⟩ := Batch.bare_runAfresh stay
    exact ⟨congrArg (fun b : Batch Unit => b.report) same,
      congrArg (fun b : Batch Unit => b.session.world.site) same,
      congrArg (fun b : Batch Unit => b.engine) same,
        requests_callsAfresh session paths forced stay⟩
  · have asked : (Batch.start session forced).asksFor path = true ↔
        (Batch.start session forced).pathExists path = true ∧
          isGeneratedFileName (SourcePath.fileName path) = false ∧
          (forced = true ∨ session.engine.settings.isSourceCandidate path = true) := by
      rw [Batch.asksFor, Settings.asksFor, Bool.and_eq_true, Bool.and_eq_true, Bool.not_eq_true',
        Bool.or_eq_true]
      rfl
    rw [count_typeOfPath]
    simp only [asked]
    rfl

end Session

namespace TwoTargets

/-- The engine of a project in which both targets use two generators. -/
def doubledEngine : Engine :=
  let logName : TypeName := ⟨"Gen.Log"⟩
  let catalog : Catalog :=
    .ofList [(noteName, note), (logName, { note with fileName := fun _ => .ok "Log.txt" })]
  (({ root := "p" } : Engine).discover catalog
    [{ target := player.target, generator := some noteName },
      { target := player.target, generator := some logName },
      { target := enemy.target, generator := some noteName },
      { target := enemy.target, generator := some logName }]).2

/-- Its session with a host that knows the two sources. -/
def doubledSession : Session RecordingHost where
  engine := doubledEngine
  world := recordingWorld "Player.cs" "Enemy.cs" ["Enemy.cs", "Player.cs"]

end TwoTargets

/-- A change of the player concerns two declarations of the enemy, for whose source the host is
asked once. Asked afresh it would be asked twice, for the same report. -/
theorem Session.lookups_transparent_and_minimal_doubled :
    let session := TwoTargets.doubledSession
    let paths := ["Player.cs", "./Player.cs", "Gone.cs"]
    (session.calls paths false).count (.typeOfPath "Player.cs") = 1 ∧
      (session.calls paths false).count (.typeOfPath "Gone.cs") = 0 ∧
      (session.calls paths false).count (.pathOfType TwoTargets.enemy.target) = 1 ∧
      (session.callsAfresh paths false).count (.pathOfType TwoTargets.enemy.target) = 2 ∧
      (Batch.runAfresh session paths false).report = (Batch.run session paths false).report := by
  intro session paths
  obtain ⟨_, _, transparent, types, sources⟩ := session.lookups_transparent_and_minimal paths false
  obtain ⟨collected, pending, twice⟩ : (Batch.run session paths false).collected
    = ["Player.cs", "Gone.cs"] ∧
      TwoTargets.enemy.target ∈ (Batch.run session paths false).pending.map DeclarationId.target ∧
      (session.callsAfresh paths false).count (.pathOfType TwoTargets.enemy.target) = 2 := by
        decide +kernel
  rw [types, types, sources, collected, if_pos (by decide +kernel), if_neg (by decide +kernel),
    if_pos pending]
  exact ⟨rfl, rfl, rfl, twice, (transparent (RecordingHost.answersStay _ _ _)).1⟩

end SourceGen
