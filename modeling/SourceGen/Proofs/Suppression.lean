import SourceGen.Proofs.Histories
import SourceGen.Proofs.Manifest.Names

/-!
# Each output is absorbed once

The set of outputs waiting for their reimport is a function of the rounds of a history: a path waits
exactly when some round has written it, not during a build, and no later unforced round was notified
of it. One round settles this by one equivalence (`Batch.mem_suppressed_run`), and the rest is an
induction on the calls from the end, since a round at the end is later than all others.
-/

namespace SourceGen

namespace Round

/-- The batch takes no notice of the path: it does not collect it and does not ask the host about
it, whatever it runs is called for by another path that it has collected, and a deferral stays. -/
structure Ignores (round : Round) (path : String) : Prop where
  uncollected : path ∉ round.batch.collected
  unasked : path ∉ round.batch.lookups.types.keys
  direct : ∀ id source, round.batch.direct.get? id = some source →
    source ≠ path ∧ source ∈ round.batch.collected
  cascaded : ∀ id ∈ round.batch.cascaded, ∃ other ∈ round.batch.collected, other ≠ path ∧
    id ∈ (Batch.resolved round.session round.paths round.forced).besides other
  deferral : path ∈ round.session.engine.deferred → path ∈ round.batch.engine.deferred

end Round

namespace Round

variable {round : Round} (observers : ∀ plugin ∈ round.session.engine.plugins, plugin.AppendsOnly)

include observers

/-- An unforced round absorbs the notified paths that were waiting, in the order of their first
appearance. -/
lemma absorbed_of_unforced (unforced : round.forced = false) :
    round.batch.report.suppressed
      = (Batch.distinctPaths round.paths).filter (· ∈ round.session.engine.suppressed) := by
  rw [batch, Batch.absorbed_run observers]
  refine List.filter_congr fun path _ => ?_
  rw [Bool.eq_iff_iff, Batch.absorbs_start, decide_eq_true_eq, and_iff_right unforced]

lemma absorbed_of_forced (forced : round.forced = true) : round.batch.report.suppressed = [] := by
  rw [batch, Batch.absorbed_run observers, List.filter_eq_nil_iff]
  intro path _ absorbs
  rw [Batch.absorbs_start, forced] at absorbs
  exact Bool.noConfusion absorbs.1

lemma suppressed_of_forced (forced : round.forced = true) {path : String}
    (waits : path ∈ round.session.engine.suppressed) : path ∈ round.batch.engine.suppressed := by
  have none := absorbed_of_forced observers forced
  rw [batch, Batch.absorbed_run observers] at none
  have kept : path ∈ (Batch.gathered round.session round.paths round.forced).engine.suppressed := by
    rw [Batch.suppressed_gathered, Batch.absorbed_gathered, none]
    exact waits
  rw [batch, Batch.suppressed_run observers]
  split
  · exact kept
  · exact OrderedSet.mem_insertAll.mpr (.inl kept)

/-- A round takes no notice of what it absorbs. -/
theorem ignores_of_absorbed {path : String} (absorbed : path ∈ round.batch.report.suppressed) :
    round.Ignores path := by
  rw [batch, Batch.absorbed_run observers] at absorbed
  have absorbs := (List.mem_filter.mp absorbed).2
  have uncollected : path ∉ (Batch.gathered round.session round.paths round.forced).collected := by
    rw [Batch.mem_collected_gathered, Batch.counts, absorbs]
    exact fun both => Bool.noConfusion both.2
  refine ⟨?_, ?_, ?_, ?_, ?_⟩
  · rw [batch, Batch.collected_run]
    exact uncollected
  · rw [batch, Batch.types_run]
    exact fun asked => uncollected (Batch.collected_of_asked _ _ _ asked)
  · intro id source scheduled
    rw [batch, Batch.direct_run] at scheduled
    have counted := Batch.collected_of_direct _ _ _ scheduled
    rw [batch, Batch.collected_run]
    exact ⟨fun same => uncollected (same ▸ counted), counted⟩
  · intro id listed
    rw [batch, Batch.cascaded_run] at listed
    obtain ⟨other, counted, calls⟩ := (Batch.mem_cascaded_resolved _ _ _).mp listed
    rw [batch, Batch.collected_run]
    exact ⟨other, counted, fun same => uncollected (same ▸ counted), calls⟩
  · intro put
    have kept : path ∈ (Batch.gathered round.session round.paths round.forced).engine.deferred :=
      Batch.mem_deferred_gathered.mpr ⟨put, fun _ => absorbs⟩
    rw [batch, Batch.deferred_run]
    split
    · exact kept
    · exact OrderedSet.mem_insertAll.mpr (.inl kept)

end Round

namespace History

/-- Some round has written the path, not during a build, and no later unforced round was notified of
it. -/
def Awaits (rounds : List Round) (path : String) : Prop :=
  ∃ earlier round later, rounds = earlier ++ round :: later ∧ round.wasBuilding = false ∧
    path ∈ round.batch.report.written ∧
    ∀ other ∈ later, other.forced = false →
      ∀ notified ∈ other.paths, SourcePath.normalize notified ≠ path

lemma awaits_snoc {rounds : List Round} {round : Round} {path : String} :
    Awaits (rounds ++ [round]) path ↔
      (round.wasBuilding = false ∧ path ∈ round.batch.report.written) ∨
        (Awaits rounds path ∧ ¬round.Consumes path) := by
  constructor
  · rintro ⟨earlier, other, later, split, idle, written, silent⟩
    rcases List.eq_nil_or_concat later with rfl | ⟨later, last, rfl⟩
    · obtain rfl := List.singleton_inj.mp (List.append_inj' split rfl).2
      exact .inl ⟨idle, written⟩
    · rw [List.concat_eq_append, ← List.cons_append, ← List.append_assoc] at split
      obtain ⟨rfl, same⟩ := List.append_inj' split rfl
      obtain rfl := List.singleton_inj.mp same
      refine .inr ⟨⟨earlier, other, later, rfl, idle, written, fun next listed => ?_⟩, ?_⟩
      · exact silent next (by simp [listed])
      · rintro ⟨unforced, notified, listed, same⟩
        exact silent round (by simp) unforced notified listed same
  · rintro (⟨idle, written⟩ | ⟨⟨earlier, other, later, rfl, idle, written, silent⟩, spared⟩)
    · exact ⟨rounds, round, [], rfl, idle, written, fun _ listed => absurd listed List.not_mem_nil⟩
    · refine ⟨earlier, other, later ++ [round], by simp, idle, written, fun next listed => ?_⟩
      rcases List.mem_append.mp listed with old | new
      · exact silent next old
      · obtain rfl := List.mem_singleton.mp new
        exact fun unforced notified listed same => spared ⟨unforced, notified, listed, same⟩

end History

namespace History

/-- What holds of a history all along. -/
structure Sound (history : History) : Prop where
  observers : ∀ plugin ∈ history.engine.plugins, plugin.AppendsOnly
  named : "" ∉ history.engine.suppressed
  awaits : ∀ path, path ∈ history.engine.suppressed ↔ Awaits history.rounds path
  rounds : ∀ round ∈ history.rounds, ∀ plugin ∈ round.session.engine.plugins, plugin.AppendsOnly

/-- One more round, which begins with the engine as the history has left it. -/
lemma Sound.run {history : History} (sound : history.Sound) {round : Round}
    (began : round.session.engine = history.engine) :
    Sound ⟨round.batch.engine, history.rounds ++ [round]⟩ := by
  have observers : ∀ plugin ∈ round.session.engine.plugins, plugin.AppendsOnly :=
    began ▸ sound.observers
  have named : "" ∉ round.session.engine.suppressed := began ▸ sound.named
  have plugins : round.batch.engine.plugins = round.session.engine.plugins :=
    congrArg Batch.Foundation.plugins (Batch.foundation_run _ _ _)
  refine ⟨?_, Batch.empty_not_mem_suppressed observers named, fun path =>
    ?_, fun other listed => ?_⟩
  · rw [plugins]
    exact observers
  · rw [awaits_snoc, ← sound.awaits, ← began]
    exact Batch.mem_suppressed_run observers fun waits same => named (same ▸ waits)
  · rcases List.mem_append.mp listed with old | new
    · exact sound.rounds other old
    · exact List.mem_singleton.mp new ▸ observers

/-- The history of a new engine is sound: at first it has been through nothing, and a discovery
changes neither its plugins nor what waits. -/
lemma sound_new {root : String} {settings : Settings} {plugins : List Plugin}
    (observers : ∀ plugin ∈ plugins, plugin.AppendsOnly) (calls : List Call) :
    (ofCalls { root, settings, plugins } calls).Sound := by
  refine induction ⟨observers, OrderedSet.not_mem_empty _, fun path => ?_, ?_⟩
    (fun _ _ _ sound => ⟨sound.observers, sound.named, sound.awaits, sound.rounds⟩)
    (fun _ _ began sound => sound.run began) calls
  · refine iff_of_false (OrderedSet.not_mem_empty path) ?_
    rintro ⟨earlier, round, later, split, _⟩
    simp at split
  · exact fun _ listed => absurd listed List.not_mem_nil

/-- **Each output is absorbed once.** Whatever is called on a new engine whose plugins only append
diagnostics, a path waits for its reimport at the end exactly when some round has written it, not
during a build, and no later unforced round was notified of it. An unforced round absorbs exactly
the distinct notified paths that were waiting when it began, in the order of their first appearance,
and takes no notice of them; a forced round absorbs nothing, and all that was waiting still waits
after it. -/
theorem absorbs_once (root : String) (settings : Settings) {plugins : List Plugin}
    (observers : ∀ plugin ∈ plugins, plugin.AppendsOnly) (calls : List Call) :
    let history := ofCalls { root, settings, plugins } calls
    (∀ path, path ∈ history.engine.suppressed ↔ Awaits history.rounds path) ∧
      ∀ round ∈ history.rounds,
        (round.forced = false →
          round.batch.report.suppressed
              = (Batch.distinctPaths round.paths).filter (· ∈ round.session.engine.suppressed) ∧
            ∀ path ∈ round.batch.report.suppressed, round.Ignores path) ∧
        (round.forced = true →
          round.batch.report.suppressed = [] ∧
            ∀ path ∈ round.session.engine.suppressed, path ∈ round.batch.engine.suppressed) := by
  intro history
  have sound : history.Sound := sound_new observers calls
  refine ⟨sound.awaits, fun round listed => ?_⟩
  have observers := sound.rounds round listed
  refine ⟨fun unforced => ⟨?_, fun path => Round.ignores_of_absorbed observers⟩,
    fun forced => ⟨?_, fun path => Round.suppressed_of_forced observers forced⟩⟩
  · exact Round.absorbed_of_unforced observers unforced
  · exact Round.absorbed_of_forced observers forced

/-- Discovers the project with two targets of one generator, and notifies its engine of one
source. -/
def callsOfTwoTargets : List Call :=
  [.discover TwoTargets.catalog TwoTargets.manifest.declarations,
    .notify TwoTargets.project.session.world ["Player.cs"]]

/-- The note waits after it was written, and no longer when it was notified. -/
theorem absorbs_once_note :
    let engine : Engine := { root := "p", plugins := [.noting] }
    let reimport : Call :=
      .notify TwoTargets.project.session.world ["altgen.g/Note.Player.Note.g.txt"]
    Awaits (ofCalls engine callsOfTwoTargets).rounds "altgen.g/Note.Player.Note.g.txt" ∧
      ¬Awaits (ofCalls engine (callsOfTwoTargets ++ [reimport])).rounds
        "altgen.g/Note.Player.Note.g.txt" := by
  have observers : ∀ plugin ∈ [Plugin.noting], plugin.AppendsOnly :=
    List.forall_mem_singleton.mpr Plugin.appendsOnly_noting
  constructor
  · exact ((absorbs_once "p" {} observers callsOfTwoTargets).1 _).mp (by decide +kernel)
  · exact ((absorbs_once "p" {} observers (callsOfTwoTargets ++ [_])).1 _).not.mp
      (by decide +kernel)

end History

end SourceGen
