import SourceGen.Proofs.Batch.Requesting
import SourceGen.Proofs.Manifest.Names

/-!
# The policy for cascades

A batch that has run its direct declarations decides once what becomes of the *pending* ones, the
cascaded declarations that are not among the direct ones. If it is unforced, has written something
and the host is not building, none of them runs, and the sources of those it could run are put off
to a later batch, which then sees what was written. Otherwise they run now, each if its source is
there when its turn comes.

The decision is read off the batch after the direct phase (`Batch.ranDirect`): its pending
declarations, the one source for each that the host has at its turn (`Batch.located`), and whether
automatic generation admits that (`Batch.admits`).
-/

namespace SourceGen

namespace Batch

variable {H : Type} [Host H] {session : Session H} {paths : List String} {forced : Bool}

lemma registered_of_scheduled (indexed : session.engine.registry.Indexed) {id : DeclarationId}
    (scheduled : id ∈ (ranDirect session paths forced).direct.keys
      ++ (ranDirect session paths forced).pending) :
    (session.engine.registry.get? id).isSome := by
  rcases List.mem_append.mp scheduled with direct | pending
  · rw [direct_ranDirect] at direct
    exact OrderedMap.get?_isSome_iff.mpr (registered_of_mem_direct indexed direct)
  · exact OrderedMap.get?_isSome_iff.mpr (registered_of_mem_pending indexed pending)

/-- **The policy for cascades.** An unforced batch that has written puts its pending declarations
off, as long as the host is not building: nothing more runs, and the report announces the sources
that the host has for them and that automatic generation admits, each once and in the order of the
cascade.  (A host that has come to be building by the time of the requests is sent none.)  In all
other cases nothing is put off, and those pending declarations run, after the direct ones and in the
order of the cascade, whose source the host has, is admitted unless the batch is forced, and exists
when their turn comes. Nothing runs twice, and only registered declarations are scheduled. -/
theorem cascade_policy (discovered : session.engine.registry.Discovered)
    (observers : ∀ plugin ∈ session.engine.plugins, plugin.AppendsOnly) (paths : List String)
    (forced : Bool) :
    let settings := session.engine.settings
    let decided := ranDirect session paths forced
    let report := (run session paths forced).report
    let due := decided.pending.filter fun id =>
      ((decided.turn id).located id).any fun source =>
        (forced || settings.isAutomaticSource source) && (decided.turn id).pathExists source
    let putOff := decided.pending.filterMap fun id =>
      ((decided.turn id).located id).filter settings.isAutomaticSource
    (forced = false ∧ decided.written.toList ≠ [] ∧ Host.isBuilding decided.host = false →
      report.ran = decided.direct.keys ∧ (∀ id ∈ decided.pending, id ∉ report.ran) ∧
        report.cascaded = false ∧
        report.deferred = if Host.isBuilding (ranCascaded session paths forced).host then []
          else (OrderedSet.ofList putOff).toList) ∧
    (¬(forced = false ∧ decided.written.toList ≠ [] ∧ Host.isBuilding decided.host = false) →
      report.deferred = [] ∧ report.ran = decided.direct.keys ++ due ∧
        report.cascaded = !due.isEmpty) ∧
    report.ran.Nodup ∧ (∀ id ∈ report.ran, (session.engine.registry.get? id).isSome) ∧
    ∀ id ∈ decided.direct.keys ++ decided.pending, (session.engine.registry.get? id).isSome := by
  intro settings decided report due putOff
  have indexed := discovered.indexed
  have apart : ∀ id ∈ decided.pending, id ∉ decided.direct.keys :=
    fun id pending => (mem_pending.mp pending).2
  have registered : ∀ id ∈ decided.direct.keys ++ decided.pending,
      (session.engine.registry.get? id).isSome := fun id => registered_of_scheduled indexed
  obtain ⟨more, sublist, ran⟩ : ∃ more, more.Sublist decided.pending ∧
      report.ran = decided.direct.keys ++ more := ran_run observers indexed
  refine ⟨?_, ?_, nodup_ran_run observers indexed, ?_, registered⟩
  · intro condition
    obtain ⟨direct, cascaded, deferred⟩ :=
      run_later observers indexed (runsNow_ranDirect_eq_false_iff.mpr condition)
    rw [putOff_ranDirect condition.1] at deferred
    exact ⟨direct, fun id pending => by rw [direct]; exact apart id pending, cascaded, deferred⟩
  · intro condition
    have now : decided.runsNow = true :=
      Bool.not_eq_false _ ▸ mt runsNow_ranDirect_eq_false_iff.mp condition
    obtain ⟨direct, cascaded, deferred⟩ := run_now observers indexed now
    rw [due_ranDirect] at direct cascaded
    exact ⟨deferred, direct, cascaded⟩
  · rw [ran]
    intro id listed
    refine registered id (List.mem_append.mpr ?_)
    exact (List.mem_append.mp listed).imp_right fun pending => sublist.subset pending

/-- In the project with two targets of one generator, with a plugin that leaves notes, a change of
the player puts the enemy off. -/
theorem cascade_policy_player :
    let project := TwoTargets.project.session
    let session : Session DirectoryHost :=
      ⟨{ project.engine with plugins := [.noting] }, project.world⟩
    let report := (run session ["Player.cs"] false).report
    report.ran = [TwoTargets.player] ∧ report.cascaded = false ∧
    report.deferred = ["Enemy.cs"] := by
  intro project session
  have discovered : session.engine.registry.Discovered := ⟨TwoTargets.catalog, _, rfl⟩
  have observers : ∀ plugin ∈ session.engine.plugins, plugin.AppendsOnly :=
    List.forall_mem_singleton.mpr Plugin.appendsOnly_noting
  obtain ⟨later, _⟩ := cascade_policy discovered observers ["Player.cs"] false
  obtain ⟨ran, _, cascaded, deferred⟩ := later ⟨rfl, by decide +kernel, rfl⟩
  exact ⟨ran.trans (by decide +kernel), cascaded, deferred.trans (by decide +kernel)⟩

end Batch

end SourceGen
