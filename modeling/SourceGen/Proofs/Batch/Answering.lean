import SourceGen.Proofs.Batch.Resolving

/-!
# What the host is asked about paths

Resolving asks the host for the type of one path after the other, and any question may change the
host. So the type of a path is the one that the host tells after some questions about other paths
(`meaning_resolved`). A host is *steady* when those make no difference (`Host.Steady`); a batch
then takes a path to mean what the host as it is at the beginning tells of it, whatever else it is
notified of (`meaning_resolved_of_steady`).
-/

namespace SourceGen

namespace Host

variable {H : Type} [Host H]

/-- The host after questions for the types of paths. -/
def afterAsking (host : H) (files : FileSystem) (asked : List String) : H :=
  asked.foldl (fun host path => (Host.typeOfPath host files path).2) host

/-- What the host tells of a path does not depend on the paths it was asked about before. -/
def Steady (host : H) (files : FileSystem) : Prop :=
  ∀ asked path, (Host.typeOfPath (afterAsking host files asked) files path).1
    = (Host.typeOfPath host files path).1

lemma afterAsking_append (host : H) (files : FileSystem) (asked more : List String) :
    afterAsking host files (asked ++ more) = afterAsking (afterAsking host files asked)
      files more :=
  List.foldl_append

end Host

namespace Batch

variable {H : Type} [Host H]

/-! ## One path -/

lemma host_classify (batch : Batch H) (path : String) :
    ∃ asked, (batch.classify path).2.2 = Host.afterAsking batch.host batch.files asked := by
  unfold classify Classification.ofPath Lookups.typeOfPath
  dsimp only
  split
  · exact ⟨[], rfl⟩
  · split
    · exact ⟨[], rfl⟩
    · split
      · exact ⟨[], rfl⟩
      · exact ⟨[path], rfl⟩

lemma host_resolvePath (batch : Batch H) (path : String) :
    ∃ asked, (batch.resolvePath path).host = Host.afterAsking batch.host batch.files asked := by
  by_cases present : batch.pathExists path = true
  · obtain ⟨asked, same⟩ := host_classify batch path
    exact ⟨asked, (congrArg Prod.snd (answers_resolvePath present)).trans same⟩
  · obtain ⟨report, unchanged⟩ := resolvePath_of_absent (eq_false_of_ne_true present)
    rw [unchanged]
    exact ⟨[], rfl⟩

lemma meaning_resolvePath {batch : Batch H} {path : String} (present : batch.pathExists path = true)
    (fresh : batch.lookups.types.get? path = none) :
    (batch.resolvePath path).meaning path
      = .ofAnswer batch.engine.registry batch.engine.settings batch.forced path
          (Host.typeOfPath batch.host batch.files path).1 := by
  obtain ⟨engine, forced, _, _⟩ := batch.resolvePath_keeps path
  have asked : (batch.lookups.typeOfPath batch.host batch.files path).2.1.answer path
      = (Host.typeOfPath batch.host batch.files path).1 := by
    rw [← Lookups.typeOfPath_answer, Lookups.typeOfPath, fresh]
  rw [meaning, engine, forced, lookups_resolvePath present]
  unfold Classification.ofAnswer classify Classification.ofPath
  dsimp only
  split
  · rfl
  · split
    · rfl
    · rw [asked]

/-! ## All paths -/

lemma host_foldl_resolvePath (paths : List String) (batch : Batch H) :
    ∃ asked, (paths.foldl resolvePath batch).host
      = Host.afterAsking batch.host batch.files asked := by
  induction paths generalizing batch with
  | nil => exact ⟨[], rfl⟩
  | cons first rest ih =>
    obtain ⟨_, _, files, _⟩ := batch.resolvePath_keeps first
    obtain ⟨asked, host⟩ := host_resolvePath batch first
    obtain ⟨more, later⟩ := ih (batch.resolvePath first)
    refine ⟨asked ++ more, ?_⟩
    rw [List.foldl_cons, later, host, files, Host.afterAsking_append]

/-- Of distinct paths that were not asked for yet, each means what the host tells of it at its
turn. -/
lemma meaning_foldl_resolvePath {paths : List String} (distinct : paths.Nodup) {batch : Batch H}
    (fresh : ∀ path ∈ paths, batch.lookups.types.get? path = none) {path : String}
    (listed : path ∈ paths) (present : batch.pathExists path = true) :
    ∃ asked, (paths.foldl resolvePath batch).meaning path
      = .ofAnswer batch.engine.registry batch.engine.settings batch.forced path
          (Host.typeOfPath (Host.afterAsking batch.host batch.files asked) batch.files path).1 := by
  induction paths generalizing batch with
  | nil => cases listed
  | cons first rest ih =>
    obtain ⟨absent, distinctRest⟩ := List.nodup_cons.mp distinct
    obtain ⟨engine, forced, files, _⟩ := batch.resolvePath_keeps first
    rw [List.foldl_cons]
    rcases List.mem_cons.mp listed with rfl | later
    · -- The answer for the first path stays on record.
      have kept := (foldl_resolvePath distinctRest (batch.resolvePath path)).2.2 path absent
      rw [meaning_congr (Keeps.foldl gathering_resolvePath rest (batch.resolvePath path)) kept]
      exact ⟨[], meaning_resolvePath present (fresh path List.mem_cons_self)⟩
    · have unasked : ∀ other ∈ rest, (batch.resolvePath first).lookups.types.get? other = none := by
        intro other listed
        rw [(resolvePath_spec batch first).2.2 other fun same => absent (same ▸ listed)]
        exact fresh other (List.mem_cons_of_mem first listed)
      have exist : (batch.resolvePath first).pathExists path = true := by
        rw [pathExists, engine, files]
        exact present
      obtain ⟨asked, host⟩ := host_resolvePath batch first
      obtain ⟨more, means⟩ := ih distinctRest unasked later exist
      refine ⟨asked ++ more, ?_⟩
      rw [means, engine, forced, files, host, Host.afterAsking_append]

/-! ## A whole batch -/

variable {session : Session H} {paths : List String} {forced : Bool}

lemma host_resolved :
    ∃ asked, (resolved session paths forced).host
      = Host.afterAsking session.world.host session.world.site.files asked := by
  obtain ⟨asked, host⟩ := host_foldl_resolvePath (gathered session paths forced).collected
    (gathered session paths forced)
  refine ⟨asked, ?_⟩
  rw [resolved, resolveTargets, host, gathered_eq]
  rfl

/-- A collected path that names anything means what the host tells of it after some questions. -/
theorem meaning_resolved {path : String}
    (collected : path ∈ (gathered session paths forced).collected)
    (present : (start session forced).pathExists path = true) :
    ∃ asked, (resolved session paths forced).meaning path
      = .ofAnswer session.engine.registry session.engine.settings forced path
          (Host.typeOfPath (Host.afterAsking session.world.host session.world.site.files asked)
            session.world.site.files path).1 := by
  have unasked : ∀ path ∈ (gathered session paths forced).collected,
      (gathered session paths forced).lookups.types.get? path = none := by
    rw [gathered_eq]
    exact fun _ _ => rfl
  have exist : (gathered session paths forced).pathExists path = true :=
    (pathExists_gathered path).trans present
  obtain ⟨asked, means⟩ := meaning_foldl_resolvePath (nodup_collected_gathered session paths forced)
    unasked collected exist
  refine ⟨asked, means.trans ?_⟩
  rw [gathered_eq]
  rfl

lemma meaning_resolved_of_first {path : String} {rest : List String}
    (collected : (gathered session paths forced).collected = path :: rest)
    (present : (start session forced).pathExists path = true) :
    (resolved session paths forced).meaning path
      = .ofAnswer session.engine.registry session.engine.settings forced path
          (Host.typeOfPath session.world.host session.world.site.files path).1 := by
  have distinct := nodup_collected_gathered session paths forced
  rw [collected] at distinct
  obtain ⟨absent, distinct⟩ := List.nodup_cons.mp distinct
  have exist : (gathered session paths forced).pathExists path = true :=
    (pathExists_gathered path).trans present
  have unasked : (gathered session paths forced).lookups.types.get? path = none := by
    rw [gathered_eq]
    rfl
  have kept :=
    (foldl_resolvePath distinct ((gathered session paths forced).resolvePath path)).2.2 path absent
  have means := meaning_resolvePath exist unasked
  rw [resolved, resolveTargets, collected, List.foldl_cons,
    meaning_congr (Keeps.foldl gathering_resolvePath rest _) kept]
  refine means.trans ?_
  rw [gathered_eq]
  rfl

/-- A collected path means what a steady host tells of it at the beginning. -/
theorem meaning_resolved_of_steady
    (steady : Host.Steady session.world.host session.world.site.files) {path : String}
    (collected : path ∈ (gathered session paths forced).collected)
    (present : (start session forced).pathExists path = true) :
    (resolved session paths forced).meaning path
      = .ofAnswer session.engine.registry session.engine.settings forced path
          (Host.typeOfPath session.world.host session.world.site.files path).1 := by
  obtain ⟨asked, means⟩ := meaning_resolved collected present
  rw [means, steady asked path]

end Batch

end SourceGen
