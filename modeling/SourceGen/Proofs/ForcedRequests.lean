import SourceGen.Proofs.Batch.Scheduling
import SourceGen.Proofs.Batch.Telling
import SourceGen.Proofs.Manifest.Names

/-!
# A forced request is never dropped

A forced batch is given paths. Some of them may name nothing, or mean nothing to the registry; the
others stand for declarations (`Classification.StandsFor`): those of the target whose source they
are, or those of the generator of which they are the source or an output. There is at least one of
these, since a registry lists a type only for what it has registered
(`Classification.exists_standsFor`). All of them are scheduled, and each scheduled declaration runs
unless its source cannot be found or is not there.

Whatever falls by the wayside is told of in the report, and for none of it the settings are the
reason: a forced batch does not ask whether a path is open to automatic generation, and neither does
it ask that of the source of a declaration.
-/

namespace SourceGen

namespace Classification

/-- What a path means, once the host has told its type, where the source filters are not asked. -/
def unfiltered (registry : Registry) (path : String) (answer : Option TypeName) : Classification :=
  if isGeneratedFileName (SourcePath.fileName path) then ofGeneratedFile
    registry (SourcePath.fileName path)
  else ofType registry answer

/-- A path with this meaning stands for the declaration: it is the source of its target, or the
source or an output of its generator. -/
def StandsFor : Classification → DeclarationId → Prop
  | direct target, id => id.target = target
  | generated generator, id | generatorSource generator, id => id.generator = generator
  | irrelevant, _ => False

lemma ofAnswer_forced (registry : Registry) (settings : Settings) (path : String)
    (answer : Option TypeName) :
    ofAnswer registry settings true path answer = unfiltered registry path answer :=
  rfl

variable {registry : Registry} (indexed : registry.Indexed)

include indexed

/-- The generator of a generated file is that of something registered. -/
lemma exists_id_of_generatorOfFile? {fileName : String} {generator : TypeName}
    (owned : registry.generatorOfFile? fileName = some generator) :
    ∃ id ∈ registry.registrations.keys, id.generator = generator := by
  unfold Registry.generatorOfFile? at owned
  split at owned
  · next registration found =>
    have listed := List.mem_of_find?_eq_some found
    exact ⟨registration.id, (Registry.mem_keys_iff_exists indexed).mpr ⟨registration, listed, rfl⟩,
      Option.some.inj owned⟩
  · obtain ⟨owner, _, found⟩ := Option.bind_eq_some_iff.mp owned
    exact indexed.generators.mem_keys_iff.mp (List.mem_of_find?_eq_some found)

/-- What means anything stands for something registered. -/
theorem exists_standsFor {path : String} {answer : Option TypeName}
    (relevant : unfiltered registry path answer ≠ irrelevant) :
    ∃ id ∈ registry.registrations.keys, (unfiltered registry path answer).StandsFor id := by
  unfold unfiltered at relevant ⊢
  split at relevant
  · next marked =>
    rw [if_pos marked]
    unfold ofGeneratedFile at relevant ⊢
    split at relevant
    · next generator owned => exact exists_id_of_generatorOfFile? indexed owned
    · exact absurd rfl relevant
  · next plain =>
    rw [if_neg plain]
    cases answer with
    | none => exact absurd rfl relevant
    | some type =>
      unfold ofType at relevant ⊢
      dsimp only at relevant ⊢
      split at relevant
      · next target => rw [if_pos target]; exact (Registry.isTarget_iff indexed).mp target
      · split at relevant
        · next other generator =>
          rw [if_neg other, if_pos generator]
          exact (Registry.isGenerator_iff indexed).mp generator
        · exact absurd rfl relevant

end Classification

namespace Batch

variable {H : Type} [Host H] {session : Session H} {paths : List String}

section

variable (indexed : session.engine.registry.Indexed)

include indexed

lemma scheduled_of_standsFor {path : String} (listed : path ∈ distinctPaths paths)
    (present : (start session true).pathExists path = true) {id : DeclarationId}
    (registered : id ∈ session.engine.registry.registrations.keys)
    (stands : ((resolved session paths true).meaning path).StandsFor id) :
    id ∈ (resolved session paths true).direct.keys ∨
    id ∈ (resolved session paths true).cascaded := by
  have collected : path ∈ (gathered session paths true).collected := by rwa [collected_of_forced]
  have besides : id ∈ besidesFor session.engine.registry true
      (path ∈ (resolved session paths true).deferredHits)
      ((resolved session paths true).meaning path) →
      id ∈ (resolved session paths true).cascaded := by
    intro calls
    refine (mem_cascaded_resolved session paths true).mpr ⟨path, collected, ?_⟩
    rwa [Batch.besides, pathExists_resolved, if_pos present, registry_resolved, forced_resolved]
  cases meant : (resolved session paths true).meaning path with
  | direct target =>
    rw [meant] at stands
    obtain rfl : id.target = target := stands
    refine .inl ((mem_direct_resolved session paths true).mpr ⟨path, collected, ?_⟩)
    rw [directly, pathExists_resolved, if_pos present, registry_resolved, meant]
    exact (mem_directlyFor indexed).mpr ⟨registered, rfl⟩
  | generated generator | generatorSource generator =>
    rw [meant] at stands besides
    exact .inr (besides ((Registry.mem_ids_forGenerator indexed).mpr ⟨registered, stands⟩))
  | irrelevant =>
    rw [meant] at stands
    exact stands.elim

/-- What a forced batch has scheduled runs, unless its source cannot be found or is not there. -/
lemma ran_or_told (observers : ∀ plugin ∈ session.engine.plugins, plugin.AppendsOnly)
    {id : DeclarationId}
    (scheduled : id ∈ (resolved session paths true).direct.keys ∨
      id ∈ (resolved session paths true).cascaded) :
    id ∈ (run session paths true).report.ran ∨
      ((ranDirect session paths true).turn id).located id = none ∧
        ⟨.warning, .runningCascaded, "no source found for target", some id.text⟩
          ∈ (run session paths true).report.diagnostics ∨
      ∃ source, ((ranDirect session paths true).turn id).located id = some source ∧
        ((ranDirect session paths true).turn id).pathExists source = false ∧
        ⟨.warning, .runningCascaded, "source does not exist", some source⟩
          ∈ (run session paths true).report.diagnostics := by
  have now : (ranDirect session paths true).runsNow = true := runsNow_of_forced
  have ran := (run_now observers indexed now).1
  rw [direct_ranDirect] at ran
  by_cases direct : id ∈ (resolved session paths true).direct.keys
  · exact .inl (ran ▸ List.mem_append_left _ direct)
  have pending := mem_pending_ranDirect.mpr ⟨scheduled.resolve_left direct, direct⟩
  cases located : ((ranDirect session paths true).turn id).located id with
  | none => exact .inr (.inl ⟨rfl, told_run observers (told_of_unlocated pending located)⟩)
  | some source =>
    cases present : ((ranDirect session paths true).turn id).pathExists source with
    | true =>
      exact .inl (ran ▸ List.mem_append_right _ (mem_due_ranDirect pending located rfl present))
    | false =>
      have admitted : ((ranDirect session paths true).turn id).admits source = true := by
        rw [admits_turn, Bool.true_or]
      have told := told_of_missing now pending located admitted present
      exact .inr (.inr ⟨source, rfl, present, told_run observers told⟩)

end

/-- **A forced request is never dropped.** Let the registry be one that some discovery made,
whatever the settings and the host, and let the plugins of the engine only append diagnostics. Each
of the distinct paths of a forced batch names nothing, and the report tells that it does not exist;
or it means nothing to the registry, and the report tells that; or it stands for at least one
registered declaration, and all that it stands for are scheduled. What a path means, the host
tells, and the source filters are not asked. Each declaration that is scheduled is registered, and
it runs; or the host has no source for its target when its turn comes, and the report tells that of
the declaration; or the source is not there then, and the report tells that of the source. -/
theorem forced_requests_told (discovered : session.engine.registry.Discovered)
    (observers : ∀ plugin ∈ session.engine.plugins, plugin.AppendsOnly) (paths : List String) :
    let world := session.world
    let registered := session.engine.registry.registrations.keys
    let batch := run session paths true
    let report := (session.forcePaths paths).1
    (∀ path ∈ distinctPaths paths,
      (start session true).pathExists path = false ∧
          ⟨.warning, .resolvingTargets, "path does not exist", some path⟩ ∈ report.diagnostics ∨
        (start session true).pathExists path = true ∧
          (∃ asked, batch.meaning path = .unfiltered session.engine.registry path
            (Host.typeOfPath (Host.afterAsking world.host world.site.files asked)
              world.site.files path).1) ∧
          (batch.meaning path = .irrelevant ∧
              ⟨.warning, .resolvingTargets, "not a registered target or generator", some path⟩
                ∈ report.diagnostics ∨
            (∃ id ∈ registered, (batch.meaning path).StandsFor id) ∧
              ∀ id ∈ registered, (batch.meaning path).StandsFor id →
                id ∈ batch.direct.keys ∨ id ∈ batch.cascaded)) ∧
      ∀ id, id ∈ batch.direct.keys ∨ id ∈ batch.cascaded →
        let turn := (ranDirect session paths true).turn id
        id ∈ registered ∧
          (id ∈ report.ran ∨
            turn.located id = none ∧
              ⟨.warning, .runningCascaded, "no source found for target",
                some id.text⟩ ∈ report.diagnostics ∨
            ∃ source, turn.located id = some source ∧ turn.pathExists source = false ∧
              ⟨.warning, .runningCascaded, "source does not exist",
                some source⟩ ∈ report.diagnostics) := by
  intro world registered batch report
  have indexed := discovered.indexed
  have told : ∀ diagnostic ∈ (resolved session paths true).report.diagnostics,
      diagnostic ∈ report.diagnostics :=
    fun diagnostic told => told_run observers (told_of_resolved told)
  have direct : batch.direct = (resolved session paths true).direct := direct_run
  have cascaded : batch.cascaded = (resolved session paths true).cascaded := cascaded_run
  have means : ∀ path, batch.meaning path = (resolved session paths true).meaning path :=
    meaning_run paths true
  rw [direct, cascaded]
  refine ⟨fun path listed => ?_, fun id scheduled => ⟨?_, ran_or_told indexed observers scheduled⟩⟩
  · rw [means]
    cases present : (start session true).pathExists path with
    | false => exact .inl ⟨rfl, told _ (told_of_absent listed present)⟩
    | true =>
      have collected : path ∈ (gathered session paths true).collected := by
        rwa [collected_of_forced]
      obtain ⟨asked, meant⟩ := meaning_resolved collected present
      rw [Classification.ofAnswer_forced] at meant
      refine .inr ⟨rfl, ⟨asked, meant⟩, ?_⟩
      by_cases irrelevant : (resolved session paths true).meaning path = .irrelevant
      · exact .inl ⟨irrelevant, told _ (told_of_irrelevant listed present irrelevant)⟩
      · refine .inr ⟨?_,
          fun id known stands => scheduled_of_standsFor indexed listed present known stands⟩
        rw [meant] at irrelevant ⊢
        exact Classification.exists_standsFor indexed irrelevant
  · rcases scheduled with scheduled | scheduled
    · exact registered_of_mem_direct indexed scheduled
    · exact registered_of_mem_cascaded indexed scheduled

/-- The project with two targets of one generator and with a plugin that leaves notes, for which
nothing is open to automatic generation. -/
def closedSession : Session RecordingHost :=
  ⟨{ TwoTargets.project.session.engine with
      settings := { autoEmit := false, sourceExtensions := ["js"], disabledPaths := ["Player.cs"] }
      plugins := [.noting] },
    TwoTargets.recordingWorld "Player.cs" "Enemy.cs" ["Player.cs", "Notes.txt"]⟩

/-- A path that names nothing, one that means nothing, and the player. -/
def closedPaths : List String :=
  ["./Player.cs", "Gone.cs", "Notes.txt"]

/-- Forced for these, it runs the player; of the other two paths, and of the source of the enemy,
which is not there, it tells. -/
theorem forced_requests_told_player :
    let report := (closedSession.forcePaths closedPaths).1
    TwoTargets.player ∈ report.ran ∧
      ⟨.warning, .resolvingTargets, "path does not exist", some "Gone.cs"⟩ ∈ report.diagnostics ∧
      ⟨.warning, .resolvingTargets, "not a registered target or generator", some "Notes.txt"⟩
        ∈ report.diagnostics ∧
      ⟨.warning, .runningCascaded, "source does not exist", some "Enemy.cs"⟩
        ∈ report.diagnostics := by
  intro report
  have discovered : closedSession.engine.registry.Discovered := ⟨TwoTargets.catalog, _, rfl⟩
  have observers : ∀ plugin ∈ closedSession.engine.plugins, plugin.AppendsOnly :=
    List.forall_mem_singleton.mpr Plugin.appendsOnly_noting
  obtain ⟨requests, scheduled⟩ := forced_requests_told discovered observers closedPaths
  have distinct : distinctPaths closedPaths = ["Player.cs", "Gone.cs", "Notes.txt"] := by
    decide +kernel
  -- One evaluation for all, since each of these would run the batch again.
  obtain ⟨there, meant, located, remains, besides, skipped⟩ :
      ["Player.cs", "Gone.cs", "Notes.txt"].map (start closedSession true).pathExists
        = [true, false, true] ∧
      ["Player.cs", "Notes.txt"].map (run closedSession closedPaths true).meaning
        = [.direct TwoTargets.player.target, .irrelevant] ∧
      [TwoTargets.player, TwoTargets.enemy].map
        (fun id => ((ranDirect closedSession closedPaths true).turn id).located id)
          = [some "Player.cs", some "Enemy.cs"] ∧
      ((ranDirect closedSession closedPaths true).turn TwoTargets.player).pathExists "Player.cs"
        = true ∧
      TwoTargets.enemy ∈ (run closedSession closedPaths true).cascaded ∧
      TwoTargets.enemy ∉ (closedSession.forcePaths closedPaths).1.ran := by decide +kernel
  simp only [List.map_cons, List.map_nil, List.cons.injEq, and_true] at there meant located
  obtain ⟨therePlayer, thereGone, thereNotes⟩ := there
  obtain ⟨meantPlayer, meantNotes⟩ := meant
  obtain ⟨locatedPlayer, locatedEnemy⟩ := located
  rw [distinct] at requests
  refine ⟨?_, ?_, ?_, ?_⟩
  · have path := requests "Player.cs" (by decide)
    rw [therePlayer, meantPlayer] at path
    obtain ⟨absent, _⟩ | ⟨_, _, ⟨irrelevant, _⟩ | ⟨_, all⟩⟩ := path
    · cases absent
    · cases irrelevant
    have outcome := (scheduled TwoTargets.player (all TwoTargets.player (by decide +kernel) rfl)).2
    rw [locatedPlayer] at outcome
    obtain ran | ⟨unlocated, _⟩ | ⟨source, same, absent, _⟩ := outcome
    · exact ran
    · cases unlocated
    · obtain rfl := Option.some.inj same
      exact absurd remains (Bool.eq_false_iff.mp absent)
  · have path := requests "Gone.cs" (by decide)
    rw [thereGone] at path
    obtain ⟨_, told⟩ | ⟨present, _⟩ := path
    · exact told
    · cases present
  · have path := requests "Notes.txt" (by decide)
    rw [thereNotes, meantNotes] at path
    obtain ⟨absent, _⟩ | ⟨_, _, ⟨_, told⟩ | ⟨⟨_, _, stands⟩, _⟩⟩ := path
    · cases absent
    · exact told
    · exact stands.elim
  · have outcome := (scheduled TwoTargets.enemy (.inr besides)).2
    rw [locatedEnemy] at outcome
    obtain ran | ⟨unlocated, _⟩ | ⟨source, same, _, told⟩ := outcome
    · exact absurd ran skipped
    · cases unlocated
    · obtain rfl := Option.some.inj same
      exact told

end Batch

end SourceGen
