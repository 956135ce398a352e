import SourceGen.Proofs.Batch.Scheduling
import SourceGen.Proofs.Histories
import SourceGen.Proofs.Manifest.Names

/-!
# What is put off is run

A batch that puts cascaded declarations off leaves their sources in a set of the engine and asks for
their reimport. The batch that is notified of them has filters of its own, and by then the host,
the files and the registry may be others. Nothing is lost all the same: a source is put off only if
automatic generation is on and admits it (`Batch.automatic_of_putOff`), the settings of an engine
never change, and so whatever the set holds passes the filters of every later batch
(`Engine.Honours`, kept by every call).

The later batch then takes the source off the set and runs its declarations, and the source does not
fan out a second time (`History.deferrals_honoured`).
-/

namespace SourceGen

namespace Batch

variable {H : Type} [Host H] {session : Session H} {paths : List String} {forced : Bool}

/-! ## One batch -/

/-- Only an unforced batch puts sources off, with automatic generation on, and only sources that it
admits. -/
lemma automatic_of_putOff (indexed : session.engine.registry.Indexed) {path : String}
    (putOff : path ∈ (ranCascaded session paths forced).deferred) :
    forced = false ∧ session.engine.settings.autoEmit = true ∧
      session.engine.settings.isAutomaticSource path = true := by
  have later : (ranDirect session paths forced).runsNow = false := by
    by_contra now
    rw [(ranCascaded_now indexed (eq_true_of_ne_false now)).2.2] at putOff
    exact OrderedSet.not_mem_empty path putOff
  have unforced : forced = false := (runsNow_ranDirect_eq_false_iff.mp later).1
  subst unforced
  rw [(ranCascaded_later indexed later).2.2.1, mem_putOff_ranDirect rfl] at putOff
  obtain ⟨id, pending, _, automatic⟩ := putOff
  have cascaded := (mem_pending_ranDirect.mp pending).1
  obtain ⟨cause, collected, _⟩ := (mem_cascaded_resolved session paths false).mp cascaded
  have counts := (mem_collected_gathered.mp collected).2
  exact ⟨rfl, (counts_start.mp counts).2.1, automatic⟩

/-- What is put off after a batch: sources that it did not take off the set, and those it puts
off. -/
lemma mem_deferred_run {path : String} :
    path ∈ (run session paths forced).engine.deferred ↔
      (path ∈ session.engine.deferred ∧
          (path ∈ distinctPaths paths → (start session forced).absorbs path = true)) ∨
        (Host.isBuilding (ranCascaded session paths forced).host = false ∧
          path ∈ (run session paths forced).deferred) := by
  rw [deferred_run, deferred_eq_ranCascaded, ← mem_deferred_gathered]
  cases Host.isBuilding (ranCascaded session paths forced).host with
  | true => simp
  | false =>
    rw [if_neg Bool.false_ne_true, OrderedSet.mem_insertAll, and_iff_right rfl]
    rfl

end Batch

/-! ## The invariant -/

/-- What the engine has put off, it will run when notified: automatic generation is on and admits
it. -/
structure Engine.Honours (engine : Engine) : Prop where
  discovered : engine.registry.Discovered
  automatic : ∀ path ∈ engine.deferred,
    engine.settings.autoEmit = true ∧ engine.settings.isAutomaticSource path = true

namespace Engine.Honours

lemma discover {engine : Engine} (honours : engine.Honours) (catalog : Catalog)
    (declarations : List Declaration) : (engine.discover catalog declarations).2.Honours where
  discovered := ⟨catalog, declarations, rfl⟩
  automatic := honours.automatic

lemma round {round : Round} (honours : round.session.engine.Honours) :
    round.batch.engine.Honours := by
  obtain ⟨_, settings, registry, _⟩ := Batch.engine_run round.session round.paths round.forced
  have discovered : round.batch.engine.registry.Discovered := by
    rw [Round.batch, registry]
    exact honours.discovered
  refine ⟨discovered, fun path listed => ?_⟩
  rw [Round.batch, settings]
  rcases Batch.mem_deferred_run.mp listed with ⟨before, _⟩ | ⟨_, putOff⟩
  · exact honours.automatic path before
  · rw [Batch.deferred_eq_ranCascaded] at putOff
    exact (Batch.automatic_of_putOff honours.discovered.indexed putOff).2

lemma ofCalls (root : String) (settings : Settings) (plugins : List Plugin) (calls : List Call) :
    let history := History.ofCalls { root, settings, plugins } calls
    history.engine.Honours ∧ ∀ round ∈ history.rounds, round.session.engine.Honours := by
  have begins : Engine.Honours { root, settings, plugins } :=
    ⟨⟨.ofList [], [], rfl⟩, fun path listed => absurd listed (OrderedSet.not_mem_empty path)⟩
  exact History.invariant begins
    (fun _ catalog declarations honours => honours.discover catalog declarations)
    (fun _ honours => honours.round) calls

end Engine.Honours

/-! ## The batch that is notified -/

namespace Round

variable {round : Round} (honours : round.session.engine.Honours) (unforced : round.forced = false)
  {path : String} (put : path ∈ round.session.engine.deferred) (named : path ≠ "")
  (notified : ∃ notified ∈ round.paths, SourcePath.normalize notified = path)
  (fresh : path ∉ round.session.engine.suppressed)

include named notified fresh

/-- The batch takes the source off the set. -/
lemma deferred_iff_putOff :
    path ∈ round.batch.engine.deferred ↔ round.wasBuilding = false ∧
    path ∈ round.batch.deferred := by
  have taken : ¬(path ∈ Batch.distinctPaths round.paths →
      (Batch.start round.session round.forced).absorbs path = true) := by
    rw [Batch.mem_distinctPaths, Batch.absorbs_start]
    exact fun absorbs => fresh (absorbs ⟨named, notified⟩).2
  rw [batch, Batch.mem_deferred_run, or_iff_right (fun kept => taken kept.2)]
  rfl

include honours unforced put

/-- The filters do not drop it. -/
lemma collected_of_deferred :
    path ∈ (Batch.gathered round.session round.paths round.forced).collected := by
  obtain ⟨on, automatic⟩ := honours.automatic path put
  rw [Settings.isAutomaticSource, Bool.and_eq_true, Bool.not_eq_true'] at automatic
  rw [Batch.mem_collected_gathered, Batch.mem_distinctPaths, unforced, Batch.counts_start]
  exact ⟨⟨named, notified⟩, fresh, on, automatic.2⟩

section Direct

variable (present : (Batch.start round.session round.forced).pathExists path = true)
  {target : TypeName} (means : round.batch.meaning path = .direct target)

include present

lemma counted_of_deferred : path ∈ round.session.counted round.paths := by
  have collected := collected_of_deferred honours unforced put named notified fresh
  rw [unforced] at collected
  rw [Batch.counted_eq]
  exact List.mem_filter.mpr ⟨collected, present⟩

include means

lemma ranIn_of_deferred {id : DeclarationId}
    (registered : id ∈ round.session.engine.registry.registrations.keys)
    (same : id.target = target) :
    id ∈ round.session.ranIn round.paths round.forced := by
  have counted := counted_of_deferred honours unforced put named notified fresh present
  have indexed := honours.discovered.indexed
  rw [batch, unforced, ← same] at means
  rw [unforced]
  exact Batch.ranIn_of_direct indexed
    ((Batch.mem_direct_run indexed).mpr ⟨registered, path, counted, means⟩)

/-- A source that was put off does not fan out when it comes back. -/
lemma besides_of_deferred :
    (Batch.resolved round.session round.paths round.forced).besides path = [] := by
  have counted := counted_of_deferred honours unforced put named notified fresh present
  rw [batch, unforced] at means
  rw [unforced, List.eq_nil_iff_forall_not_mem]
  intro id calls
  obtain ⟨_, ⟨again, _⟩ | source⟩ :=
    (Batch.mem_besides_resolved honours.discovered.indexed counted).mp calls
  · exact again put
  · rw [means] at source
    cases source

end Direct

end Round

namespace History

/-- **What is put off is run when it is notified, and does not fan out again.** Whatever is called
on a new engine, if it has put anything off then automatic generation is on, and what it has put off
can be a source and is not excluded. Let an unforced round be notified of a path that is put off,
has a name and does not wait for its reimport. The round collects the path and takes it off the
set, so that it is there afterwards only if the round has put it off anew, for a host that was not
building. And if the path names something and means a target, then all registered declarations of
this target run, and the path calls for nothing besides: every cascaded declaration is called for by
another collected path. -/
theorem deferrals_honoured (root : String) (settings : Settings) (plugins : List Plugin)
    (calls : List Call) :
    let history := ofCalls { root, settings, plugins } calls
    (history.engine.deferred.toList ≠ [] → history.engine.settings.autoEmit = true) ∧
      (∀ path ∈ history.engine.deferred, history.engine.settings.isSourceCandidate path = true ∧
        history.engine.settings.isDisabled path = false) ∧
      ∀ round ∈ history.rounds, round.forced = false →
        ∀ path ∈ round.session.engine.deferred, path ≠ "" →
          (∃ notified ∈ round.paths, SourcePath.normalize notified = path) →
          path ∉ round.session.engine.suppressed →
          path ∈ round.batch.collected ∧
          (path ∈ round.batch.engine.deferred ↔
            round.wasBuilding = false ∧ path ∈ round.batch.deferred) ∧
          ∀ target, (Batch.start round.session round.forced).pathExists path = true →
            round.batch.meaning path = .direct target →
            (∀ id ∈ round.session.engine.registry.registrations.keys, id.target = target →
              id ∈ round.session.ranIn round.paths round.forced) ∧
            (Batch.resolved round.session round.paths round.forced).besides path = [] ∧
            ∀ id ∈ round.batch.cascaded, ∃ other ∈ round.batch.collected, other ≠ path ∧
              id ∈ (Batch.resolved round.session round.paths round.forced).besides other := by
  intro history
  obtain ⟨last, rounds⟩ := Engine.Honours.ofCalls root settings plugins calls
  refine ⟨fun some => ?_, fun path listed => ?_, ?_⟩
  · obtain ⟨path, listed⟩ := List.exists_mem_of_ne_nil _ some
    exact (last.automatic path listed).1
  · have automatic := (last.automatic path listed).2
    rwa [Settings.isAutomaticSource, Bool.and_eq_true, Bool.not_eq_true'] at automatic
  intro round listed unforced path put named notified fresh
  have honours := rounds round listed
  refine ⟨?_, Round.deferred_iff_putOff named notified fresh, fun target present means => ?_⟩
  · rw [Round.batch, Batch.collected_run]
    exact Round.collected_of_deferred honours unforced put named notified fresh
  have none := Round.besides_of_deferred honours unforced put named notified fresh present means
  refine ⟨fun id registered same =>
    Round.ranIn_of_deferred honours unforced put named notified fresh present means registered same,
    none, fun id cascaded => ?_⟩
  rw [Round.batch, Batch.cascaded_run] at cascaded
  obtain ⟨other, collected, calls⟩ := (Batch.mem_cascaded_resolved _ _ _).mp cascaded
  rw [Round.batch, Batch.collected_run]
  refine ⟨other, collected, ?_, calls⟩
  rintro rfl
  rw [none] at calls
  cases calls

/-! ### Two targets of one generator -/

/-- Discovers the two targets, and notifies the engine of the source of the player, which puts the
enemy off. -/
def callsPuttingOff (enemyPath : String) (files : List String) : List Call :=
  [.discover TwoTargets.catalog TwoTargets.manifest.declarations,
    .notify (TwoTargets.recordingWorld "Player.cs" enemyPath files) ["Player.cs"]]

/-- The round that is notified of the enemy once it is put off. -/
def roundOfEnemy : Round where
  session :=
    ⟨(ofCalls { root := "p" } (callsPuttingOff "Enemy.cs" ["Enemy.cs", "Player.cs"])).engine,
      TwoTargets.recordingWorld "Player.cs" "Enemy.cs" ["Enemy.cs", "Player.cs"]⟩
  paths := ["./Enemy.cs"]
  forced := false

/-- The enemy that is put off runs when it is notified, and does not fan out. -/
theorem deferrals_honoured_enemy :
    "Enemy.cs" ∈ roundOfEnemy.session.engine.deferred ∧ "Enemy.cs" ∈ roundOfEnemy.batch.collected ∧
      TwoTargets.enemy ∈ roundOfEnemy.session.ranIn roundOfEnemy.paths roundOfEnemy.forced ∧
      (Batch.resolved roundOfEnemy.session roundOfEnemy.paths roundOfEnemy.forced).besides
        "Enemy.cs" = [] := by
  obtain ⟨_, _, rounds⟩ := deferrals_honoured "p" {} []
    (callsPuttingOff "Enemy.cs" ["Enemy.cs", "Player.cs"]
      ++ [.notify roundOfEnemy.session.world roundOfEnemy.paths])
  rw [ofCalls_append] at rounds
  obtain ⟨put, fresh, present, means, registered⟩ :
      "Enemy.cs" ∈ roundOfEnemy.session.engine.deferred ∧
        "Enemy.cs" ∉ roundOfEnemy.session.engine.suppressed ∧
        (Batch.start roundOfEnemy.session roundOfEnemy.forced).pathExists "Enemy.cs" = true ∧
        roundOfEnemy.batch.meaning "Enemy.cs" = .direct TwoTargets.enemy.target ∧
        TwoTargets.enemy ∈ roundOfEnemy.session.engine.registry.registrations.keys := by
    decide +kernel
  obtain ⟨collected, _, direct⟩ := rounds roundOfEnemy
    (List.mem_append_right _ (List.mem_singleton_self roundOfEnemy)) rfl "Enemy.cs" put (by decide)
    ⟨"./Enemy.cs", List.mem_singleton_self _, by decide +kernel⟩ fresh
  obtain ⟨ran, besides, _⟩ := direct TwoTargets.enemy.target present means
  exact ⟨put, collected, ran TwoTargets.enemy registered rfl, besides⟩

/-- A source that is put off may be put off still after an unforced batch was notified of it: when
its path is empty, such a path being dropped from every notification; and when it is missing by then
and the batch puts it off anew. -/
theorem deferral_remains :
    let unnamed := callsPuttingOff "" ["Player.cs"]
    let missing := callsPuttingOff "Enemy.cs" ["Enemy.cs", "Player.cs"]
    let notifyUnnamed : Call :=
      .notify (TwoTargets.recordingWorld "Player.cs" "" ["Player.cs"]) [""]
    let notifyMissing : Call :=
      .notify (TwoTargets.recordingWorld "Player.cs" "Enemy.cs" ["Player.cs"])
        ["Enemy.cs", "Player.cs"]
    ("" ∈ (ofCalls { root := "p" } unnamed).engine.deferred ∧
      "" ∉ (ofCalls { root := "p" } unnamed).engine.suppressed ∧
      "" ∈ (ofCalls { root := "p" } (unnamed ++ [notifyUnnamed])).engine.deferred) ∧
    "Enemy.cs" ∈ (ofCalls { root := "p" } missing).engine.deferred ∧
      "Enemy.cs" ∉ (ofCalls { root := "p" } missing).engine.suppressed ∧
      "Enemy.cs" ∈ (ofCalls { root := "p" } (missing ++ [notifyMissing])).engine.deferred := by
  decide +kernel

end History

end SourceGen
