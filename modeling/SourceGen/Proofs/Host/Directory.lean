import SourceGen.Host.Directory
import SourceGen.Proofs.Batch.Answering
import SourceGen.Proofs.Batch.Requesting

/-!
# Batches on a directory host

A directory host answers by file stem. Targets come before generators among its types, so the stem
of a target's source is never taken for that of a generator (`isTarget_of_get?`); and its index
holds no generated files and each source under its own stem (`indexOf_spec`).

Its index is built at the first question for a source and never again. Within a batch all questions
for sources come from the cascade, so the index of the batch is the one it has, or would build,
after the direct phase (`Batch.sourceIndex`): every turn sees the same sources, although the files
may change from turn to turn (`located_turn`, `host_ranCascaded`). Questions for types change
nothing, so the meaning of a collected path is that of its stem (`meaning_of_stem`).
-/

namespace SourceGen

namespace DirectoryHost

/-! ## The types of a registry -/

lemma get?_types (root : String) (registry : Registry) (name : String) :
    (ofRegistry root registry).types.get? name
      = (registry.targets ++ registry.generators).find? (·.shortName = name) := by
  have types : (ofRegistry root registry).types = OrderedMap.insertNewAll ∅
      ((registry.targets ++ registry.generators).map fun type => (type.shortName, type)) := by
    rw [OrderedMap.insertNewAll, List.foldl_map]
    rfl
  rw [types, OrderedMap.get?_insertNewAll, OrderedMap.get?_empty, Option.none_or, List.find?_map,
    Option.map_map]
  simp only [Function.comp_def, Option.map_id']

/-- A short name of a target is known as that of a target. -/
lemma isTarget_of_get? (root : String) {registry : Registry} {target : TypeName}
    (registered : registry.isTarget target = true) :
    ∃ other, (ofRegistry root registry).types.get? target.shortName = some other ∧
      registry.isTarget other = true := by
  have listed : target ∈ registry.targets := OrderedMap.contains_iff.mp registered
  have known : (registry.targets.find? (·.shortName = target.shortName)).isSome :=
    List.find?_isSome.mpr ⟨target, listed, decide_eq_true rfl⟩
  obtain ⟨other, found⟩ := Option.isSome_iff_exists.mp known
  refine ⟨other, ?_, OrderedMap.contains_iff.mpr (List.mem_of_find?_eq_some found)⟩
  rw [get?_types, List.find?_append, found, Option.some_or]

/-! ## The index of sources -/

/-- An index has the first source of a stem that is no generated file. -/
lemma get?_indexOf (sources : List String) (stem : String) :
    (indexOf sources).get? stem = sources.find? fun source =>
      !isGeneratedFileName (SourcePath.fileName source) ∧ SourcePath.fileStem source = stem := by
  have index : indexOf sources = OrderedMap.insertNewAll ∅
      ((sources.filter fun source => !isGeneratedFileName (SourcePath.fileName source)).map
        fun source => (SourcePath.fileStem source, source)) := by
    rw [OrderedMap.insertNewAll, List.foldl_map]
    rfl
  rw [index, OrderedMap.get?_insertNewAll, OrderedMap.get?_empty, Option.none_or, List.find?_map,
    Option.map_map, List.find?_filter]
  simp only [Function.comp_def, Option.map_id', decide_eq_true_eq]

/-- An index has sources under their stems, and no generated files. -/
lemma indexOf_spec {sources : List String} {stem source : String}
    (found : (indexOf sources).get? stem = some source) :
    SourcePath.fileStem source = stem ∧ isGeneratedFileName (SourcePath.fileName source)
      = false := by
  rw [get?_indexOf] at found
  have passes := List.find?_some found
  obtain ⟨kept, stemmed⟩ := of_decide_eq_true passes
  exact ⟨stemmed, by simpa using kept⟩

/-- The source that the index has for a type, once it is built. -/
def sourceOf? (host : DirectoryHost) (type : TypeName) : Option String :=
  host.sources.bind fun index => index.get? type.shortName

/-- What all questions of a batch leave of a host: its index, if it is built, is that of some
sources. -/
def IsIndexed (host : DirectoryHost) : Prop :=
  ∀ index, host.sources = some index → ∃ sources, index = indexOf sources

/-- The source of a type has its short name for a stem, and is no generated file. -/
lemma IsIndexed.sourceOf? {host : DirectoryHost} (known : host.IsIndexed) {type : TypeName}
    {source : String} (found : host.sourceOf? type = some source) :
    SourcePath.fileStem source = type.shortName ∧
      isGeneratedFileName (SourcePath.fileName source) = false := by
  obtain ⟨index, built, listed⟩ := Option.bind_eq_some_iff.mp found
  obtain ⟨sources, rfl⟩ := known index built
  exact indexOf_spec listed

lemma forall_sourceOf? {host : DirectoryHost} {P : String → Prop}
    (all : ∀ index, host.sources = some index → ∀ entry ∈ index.entries,
      P entry.2) (type : TypeName)
    (source : String) (found : host.sourceOf? type = some source) : P source := by
  obtain ⟨index, built, listed⟩ := Option.bind_eq_some_iff.mp found
  exact all index built _ (OrderedMap.mem_entries_iff.mpr listed)

lemma isIndexed_indexed {host : DirectoryHost} (known : host.IsIndexed) (files : FileSystem) :
    (host.indexed files).2.IsIndexed ∧ ∃ sources, (host.indexed files).1 = indexOf sources := by
  unfold indexed
  split
  · next index built => exact ⟨known, known index built⟩
  · exact ⟨fun index built => ⟨_, (Option.some.inj built).symm⟩, _, rfl⟩

lemma indexed_eq (host : DirectoryHost) (files : FileSystem) :
    (host.indexed files).2 = { host with sources := some (host.indexed files).1 } := by
  unfold indexed
  split
  · next index built => rw [← built]
  · rfl

lemma indexed_of_built {host : DirectoryHost} {index : OrderedMap String String}
    (built : host.sources = some index) (files : FileSystem) : host.indexed files
      = (index, host) := by
  unfold indexed
  rw [built]

end DirectoryHost

namespace DirectoryHost

/-! ## Questions for types -/

/-- A question for a type leaves a directory host as it is. -/
lemma afterAsking_eq (host : DirectoryHost) (files : FileSystem) (asked : List String) :
    Host.afterAsking host files asked = host := by
  induction asked with
  | nil => rfl
  | cons path rest ih => exact ih

lemma steady (host : DirectoryHost) (files : FileSystem) : Host.Steady host files := by
  intro asked path
  rw [afterAsking_eq]

end DirectoryHost

namespace Batch

section Session

variable {session : Session DirectoryHost} {paths : List String} {forced : Bool}

/-- A collected path that names anything means what its stem means to the host. -/
theorem meaning_of_stem {path : String}
    (collected : path ∈ (gathered session paths forced).collected)
    (present : (start session forced).pathExists path = true) :
    (resolved session paths forced).meaning path
      = .ofAnswer session.engine.registry session.engine.settings forced path
          (session.world.host.types.get? (SourcePath.fileStem path)) :=
  meaning_resolved_of_steady (DirectoryHost.steady _ _) collected present

lemma host_ranDirect : (ranDirect session paths forced).host = session.world.host := by
  have direct : (ranDirect session paths forced).host = (resolved session paths forced).host :=
    congrArg Standing.host standing_ranDirect
  obtain ⟨asked, resolve⟩ : ∃ asked, (resolved session paths forced).host
      = Host.afterAsking session.world.host session.world.site.files asked := host_resolved
  rw [direct, resolve, DirectoryHost.afterAsking_eq]

end Session

/-! ## Sources -/

/-- The index that the host has, or would build. -/
def sourceIndex (batch : Batch DirectoryHost) : OrderedMap String String :=
  (batch.host.indexed batch.files).1

/-- Every answer for a source comes from the index: those on record, and those to come. -/
structure Answers (index : OrderedMap String String) (batch : Batch DirectoryHost) : Prop where
  recorded : ∀ type answer, batch.lookups.paths.get? type = some answer →
    batch.host.sources = some index ∧
      answer = (index.get? type.shortName).map SourcePath.normalize
  built : batch.sourceIndex = index

/-- An index that is built is the one that answers. -/
lemma sourceIndex_of_built {batch : Batch DirectoryHost} {index : OrderedMap String String}
    (built : batch.host.sources = some index) : batch.sourceIndex = index := by
  rw [sourceIndex, DirectoryHost.indexed_of_built built]

/-- A look at the record answers as the index does. So do all answers that are on record then, and
the host has built the index. -/
lemma Answers.pathOfType {index : OrderedMap String String} {batch : Batch DirectoryHost}
    (answers : Answers index batch) (type : TypeName) :
    let looked := batch.lookups.pathOfType batch.host batch.files type
    looked.1 = (index.get? type.shortName).map SourcePath.normalize ∧
      (∀ other answer, looked.2.1.paths.get? other = some answer →
        answer = (index.get? other.shortName).map SourcePath.normalize) ∧
      looked.2.2 = { batch.host with sources := some index } := by
  cases known : batch.lookups.paths.get? type with
  | some answer =>
    obtain ⟨built, same⟩ := answers.recorded type answer known
    rw [Lookups.pathOfType, known]
    refine ⟨same, fun other answer known => (answers.recorded other answer known).2, ?_⟩
    rw [← built]
  | none =>
    have fromHost : Host.pathOfType batch.host batch.files type
        = (index.get? type.shortName, { batch.host with sources := some index }) := by
      have atHost : (batch.host.indexed batch.files).1 = index := answers.built
      change ((batch.host.indexed batch.files).1.get? type.shortName,
        (batch.host.indexed batch.files).2) = _
      rw [DirectoryHost.indexed_eq, atHost]
    rw [Lookups.pathOfType, known, fromHost]
    refine ⟨rfl, fun other answer known => ?_, rfl⟩
    rcases OrderedMap.of_get?_insert known with ⟨rfl, rfl⟩ | old
    · rfl
    · exact (answers.recorded other answer old).2

/-- The host answers from its index, and has built it then. -/
lemma Answers.ask {index : OrderedMap String String} {batch : Batch DirectoryHost}
    (answers : Answers index batch) (id : DeclarationId) :
    batch.located id = (index.get? id.target.shortName).map SourcePath.normalize ∧
      (batch.asked id).host = { batch.host with sources := some index } ∧
      Answers index (batch.asked id) := by
  obtain ⟨located, recorded, host⟩ := answers.pathOfType id.target
  have host : (batch.asked id).host = { batch.host with sources := some index } := host
  have built : (batch.asked id).host.sources = some index := congrArg DirectoryHost.sources host
  exact ⟨located, host, fun type answer known =>
    ⟨built, recorded type answer known⟩, sourceIndex_of_built built⟩

lemma Answers.runCascadedEntry {index : OrderedMap String String} {batch : Batch DirectoryHost}
    (answers : Answers index batch) (now : Bool) (id : DeclarationId) :
    (batch.runCascadedEntry now id).host = { batch.host with sources := some index } ∧
      Answers index (batch.runCascadedEntry now id) := by
  obtain ⟨_, host, later⟩ := answers.ask id
  have same := lookups_runCascadedEntry now batch id
  have lookups : (batch.runCascadedEntry now id).lookups = (batch.asked id).lookups :=
    congrArg Prod.fst same
  have kept : (batch.runCascadedEntry now id).host = (batch.asked id).host := congrArg Prod.snd same
  refine ⟨kept.trans host, ?_, ?_⟩
  · rw [lookups, kept]
    exact later.recorded
  · refine sourceIndex_of_built ?_
    rw [kept, host]

lemma Answers.foldl {index : OrderedMap String String} {batch : Batch DirectoryHost}
    (answers : Answers index batch) (now : Bool) (ids : List DeclarationId) :
    Answers index (ids.foldl (Batch.runCascadedEntry now) batch) ∧
      (ids.foldl (Batch.runCascadedEntry now) batch).host
        = if ids.isEmpty then batch.host else { batch.host with sources := some index } := by
  induction ids generalizing batch with
  | nil => exact ⟨answers, rfl⟩
  | cons id rest ih =>
    obtain ⟨host, later⟩ := answers.runCascadedEntry now id
    obtain ⟨last, hostRest⟩ := ih later
    refine ⟨last, ?_⟩
    rw [List.foldl_cons, hostRest, host]
    cases rest <;> rfl

variable {session : Session DirectoryHost} {paths : List String} {forced : Bool}

lemma answers_ranDirect :
    Answers (ranDirect session paths forced).sourceIndex (ranDirect session paths forced) where
  recorded type answer known := by
    rw [paths_ranDirect] at known
    cases known
  built := rfl

/-- Every turn sees the sources of one index. -/
theorem located_turn (id other : DeclarationId) :
    ((ranDirect session paths forced).turn id).located other
      = ((ranDirect session paths forced).sourceIndex.get? other.target.shortName).map
          SourcePath.normalize :=
  ((answers_ranDirect.foldl _ _).1.ask other).1

/-- The index is built as soon as a cascaded declaration is pending. -/
theorem host_ranCascaded :
    (ranCascaded session paths forced).host
      = if (ranDirect session paths forced).pending.isEmpty then session.world.host
        else { session.world.host with sources := some (ranDirect session paths forced).sourceIndex
          } := by
  rw [ranCascaded, runCascaded, (answers_ranDirect.foldl _ _).2, host_ranDirect]

lemma foldl_requestReimport (items : List String) (host : DirectoryHost) :
    items.foldl Host.requestReimport host = { host with reimports := host.reimports ++ items } := by
  induction items generalizing host with
  | nil => rw [List.append_nil]; rfl
  | cons path rest ih =>
    rw [List.foldl_cons, ih, ← List.singleton_append, ← List.append_assoc]
    rfl

/-- A batch requests the reimport of what it has written and of what it puts off. -/
theorem host_run (observers : ∀ plugin ∈ session.engine.plugins, plugin.AppendsOnly) :
    (run session paths forced).host
      = { (ranCascaded session paths forced).host with
          reimports := session.world.host.reimports
            ++ ((run session paths forced).report.written
              ++ (run session paths forced).report.deferred) } := by
  have sameReimports : (ranCascaded session paths forced).host.reimports
      = session.world.host.reimports := by
    rw [host_ranCascaded]
    split <;> rfl
  have idle : Host.isBuilding (ranCascaded session paths forced).host = false := rfl
  have refresh : ∀ batch : Batch DirectoryHost, batch.requestRefresh.host = batch.host := by
    intro batch
    simp only [requestRefresh]
    split <;> rfl
  rw [written_run observers, announced_run observers, idle, if_neg Bool.false_ne_true,
    view_run observers Batch.host fun _ => rfl, requested, requestReimports_eq, idle,
    if_neg Bool.false_ne_true, refresh, ← sameReimports]
  exact foldl_requestReimport _ _

end Batch

end SourceGen
