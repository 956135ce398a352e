import SourceGen.Proofs.Batch.Scheduling
import SourceGen.Proofs.Host.Directory
import SourceGen.Proofs.Manifest.Names

/-!
# The work sets of a batch

Resolving fills an ordered map and an ordered set in one loop over the collected paths, with a host
that may change from question to question. What comes out of it is nevertheless a plain set of
declarations each, described by the paths that count and by what each of them means
(`Batch.work_sets`).

A notification enters into that description by the set of its normalized paths, so neither order nor
repeats matter to the work sets, as long as the host tells the same of each path; which a steady
host does.
-/

namespace SourceGen

namespace Batch

variable {H : Type} [Host H] {session : Session H}

/-! ## Notifications of the same paths -/

section SamePaths

variable {paths other : List String}
  (same : ∀ path, path ∈ distinctPaths other ↔ path ∈ distinctPaths paths)

include same

omit [Host H] in
lemma mem_counted_congr (path : String) :
    path ∈ session.counted other ↔ path ∈ session.counted paths := by
  rw [mem_counted, mem_counted, same]

omit [Host H] in
lemma engine_gathered_congr :
    (gathered session other false).engine = (gathered session paths false).engine := by
  have filtered : ∀ (keep : String → Bool) (path : String),
      path ∈ (distinctPaths other).filter keep ↔ path ∈ (distinctPaths paths).filter keep := by
    intro keep path
    rw [List.mem_filter, List.mem_filter, same]
  have collected : ∀ list, ((start session false).afterCollecting list).engine
      = { session.engine with
          suppressed :=
            session.engine.suppressed.eraseAll (list.filter (start session false).absorbs)
          deferred := session.engine.deferred.eraseAll
            (list.filter fun p => !(start session false).absorbs p) } := fun _ => rfl
  rw [gathered_eq, gathered_eq, collected, collected, OrderedSet.eraseAll_congr (filtered _),
    OrderedSet.eraseAll_congr (filtered _)]

lemma meaning_congr_of_steady (steady : Host.Steady session.world.host session.world.site.files)
    {path : String} (counted : path ∈ session.counted paths) :
    (run session other false).meaning path = (run session paths false).meaning path := by
  have means : ∀ {list : List String}, path ∈ session.counted list →
      (run session list false).meaning path
        = .ofAnswer session.engine.registry session.engine.settings false path
            (Host.typeOfPath session.world.host session.world.site.files path).1 := by
    intro list listed
    rw [counted_eq, List.mem_filter] at listed
    rw [meaning_run]
    exact meaning_resolved_of_steady steady listed.1 listed.2
  rw [means counted, means ((mem_counted_congr same path).mpr counted)]

/-- Where the same paths mean the same, they call for the same. -/
lemma work_congr_of_meaning (indexed : session.engine.registry.Indexed)
    (means : ∀ path ∈ session.counted paths,
      (run session other false).meaning path = (run session paths false).meaning path)
    (id : DeclarationId) :
    (id ∈ (run session other false).direct.keys ↔ id ∈ (run session paths false).direct.keys) ∧
      (id ∈ (run session other false).cascaded ↔ id ∈ (run session paths false).cascaded) := by
  have exchange : ∀ P : String → Classification → Prop,
      (∃ path ∈ session.counted other, P path ((run session other false).meaning path)) ↔
        ∃ path ∈ session.counted paths, P path ((run session paths false).meaning path) := by
    intro P
    refine exists_congr fun path => ?_
    rw [mem_counted_congr same]
    refine and_congr_right fun counted => ?_
    rw [means path counted]
  constructor
  · rw [mem_direct_run indexed, mem_direct_run indexed]
    exact and_congr_right fun _ => exchange fun _ meant => meant = .direct id.target
  · rw [mem_cascaded_run indexed, mem_cascaded_run indexed]
    refine and_congr_right fun _ => or_congr ?_ ?_
    · exact exchange fun path meant => path ∉ session.engine.deferred ∧
        ∃ other ∈ session.engine.registry.registrations.keys, meant = .direct other.target ∧
          other.generator = id.generator ∧ id.target ≠ other.target
    · exact exchange fun _ meant => meant = .generatorSource id.generator

end SamePaths

/-! ## The work sets -/

/-- **The work sets are exact.** In an unforced batch, the direct declarations are the registered
ones whose target is what a path that counts means, each for the first such path, and the batch
begins by asking their generators in this order. The cascaded ones are those registered that share
the generator with a declaration of another target, meant by a path that counts and was not put off,
and those of a generator that a path that counts holds the source of. What a path means, the host
tells after some questions about other paths.

So only the set of notified paths matters: for another notification with the same paths, collecting
takes the same off the waiting outputs and off the sources put off, and if the host is steady, or at
least happens to tell the same, the same declarations are scheduled. -/
theorem work_sets (discovered : session.engine.registry.Discovered) (paths : List String) :
    let world := session.world
    let registered := session.engine.registry.registrations.keys
    let counted := session.counted paths
    let batch := run session paths false
    (∀ id source, batch.direct.get? id = some source ↔
      id ∈ registered ∧
        counted.find? (fun path => batch.meaning path = .direct id.target) = some source) ∧
    (∃ more, batch.session.world.site.since world.site
      = batch.direct.entries.filterMap (start session false).requestFor? ++ more) ∧
    (∀ id, id ∈ batch.cascaded ↔
      id ∈ registered ∧
        ((∃ path ∈ counted, path ∉ session.engine.deferred ∧
            ∃ other ∈ registered, batch.meaning path = .direct other.target ∧
              other.generator = id.generator ∧ id.target ≠ other.target) ∨
          ∃ path ∈ counted, batch.meaning path = .generatorSource id.generator)) ∧
    (∀ path ∈ counted, ∃ asked, batch.meaning path
      = .ofAnswer session.engine.registry session.engine.settings false path
          (Host.typeOfPath (Host.afterAsking world.host world.site.files asked)
            world.site.files path).1) ∧
    ∀ other, (∀ path, path ∈ distinctPaths other ↔ path ∈ distinctPaths paths) →
      (gathered session other false).engine = (gathered session paths false).engine ∧
        ((Host.Steady world.host world.site.files ∨
            ∀ path ∈ counted, (run session other false).meaning path = batch.meaning path) →
          ∀ id, (id ∈ (run session other false).direct.keys ↔ id ∈ batch.direct.keys) ∧
            (id ∈ (run session other false).cascaded ↔ id ∈ batch.cascaded)) := by
  intro world registered counted batch
  have indexed := discovered.indexed
  refine ⟨fun id source => get?_direct_run indexed, ?_, fun id => mem_cascaded_run indexed, ?_, ?_⟩
  · have direct : batch.direct = (resolved session paths false).direct := direct_run
    rw [direct]
    exact (since_run indexed).1
  · intro path listed
    have listed : path ∈ session.counted paths := listed
    rw [counted_eq, List.mem_filter] at listed
    obtain ⟨asked, means⟩ := meaning_resolved listed.1 listed.2
    exact ⟨asked, (meaning_run paths false path).trans means⟩
  · intro other same
    refine ⟨engine_gathered_congr same, fun tells id => work_congr_of_meaning same indexed ?_ id⟩
    rcases tells with steady | tells
    · exact fun path => meaning_congr_of_steady same steady
    · exact tells

/-- In the project with two targets of one generator, a change of the player schedules the player
for its source and the enemy besides, also when it is notified twice. -/
theorem work_sets_player :
    let session := TwoTargets.project.session
    (run session ["Player.cs"] false).direct.get? TwoTargets.player = some "Player.cs" ∧
      TwoTargets.enemy ∈ (run session ["./Player.cs", "Player.cs"] false).cascaded := by
  intro session
  have discovered : session.engine.registry.Discovered := ⟨TwoTargets.catalog, _, rfl⟩
  obtain ⟨direct, _, cascaded, _, others⟩ := work_sets discovered ["Player.cs"]
  have same : ∀ path, path ∈ distinctPaths ["./Player.cs", "Player.cs"]
      ↔ path ∈ distinctPaths ["Player.cs"] := by
    have listed : distinctPaths ["./Player.cs", "Player.cs"] = distinctPaths ["Player.cs"] := by
      decide +kernel
    exact fun path => by rw [listed]
  have again := (others ["./Player.cs", "Player.cs"] same).2 (.inl (DirectoryHost.steady _ _))
  constructor
  · rw [direct]
    exact ⟨by decide +kernel, by decide +kernel⟩
  · rw [(again TwoTargets.enemy).2, cascaded]
    refine ⟨by decide +kernel, .inl ⟨"Player.cs", by decide +kernel, by decide +kernel, ?_⟩⟩
    exact ⟨TwoTargets.player, by decide +kernel, by decide +kernel, rfl, by decide⟩

end Batch

end SourceGen
