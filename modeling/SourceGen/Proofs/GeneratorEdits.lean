import SourceGen.Host.Recording
import SourceGen.Proofs.Batch.Scheduling
import SourceGen.Proofs.Manifest.Names

/-!
# Changes of generators

A change of a generator's source concerns every declaration that uses the generator. When the
generator is no target, its source means just that, and all its users are cascaded. When it is a
target as well, its source means the target; then the change runs the declarations that generate for
it, and fans out to what shares a generator with one of those. Its own users are among these only
if it generates for itself.

So whether the users are reached turns on one registration, that of the type for itself
(`Batch.generator_edit_reaches_users`).
-/

namespace SourceGen

namespace Batch

variable {H : Type} [Host H] {session : Session H} {paths : List String}

/-- The source of a type that the filters admit means what the type is registered as. -/
lemma meaning_of_told {path : String} {type : TypeName}
    (plain : isGeneratedFileName (SourcePath.fileName path) = false)
    (candidate : session.engine.settings.isSourceCandidate path = true)
    (told : (run session paths false).lookups.types.get? path = some (some type)) :
    (run session paths false).meaning path = .ofType session.engine.registry (some type) := by
  obtain ⟨_, settings, registry, _⟩ := engine_run session paths false
  have answer : (run session paths false).lookups.answer path = some type := by
    rw [Lookups.answer, told, Option.getD_some]
  rw [meaning, settings, registry, answer, Classification.ofAnswer]
  simp [plain, candidate]

lemma mem_of_selfMade {ids : List DeclarationId} {id : DeclarationId} {type : TypeName}
    (listed : id ∈ ids) (target : id.target = type) (generator : id.generator = type) :
    ⟨type, type⟩ ∈ ids := by
  have same : id = ⟨type, type⟩ :=
    calc id = ⟨id.target, id.generator⟩ := rfl
      _ = ⟨type, type⟩ := by rw [target, generator]
  exact same ▸ listed

section Users

variable (indexed : session.engine.registry.Indexed) {path : String} {id : DeclarationId}
  (counted : path ∈ session.counted paths)
  (registered : id ∈ session.engine.registry.registrations.keys)
  (means : (run session paths false).meaning path
    = .ofType session.engine.registry (some id.generator))

include indexed counted registered means

/-- The users of a type are cascaded when it is no target. -/
lemma mem_cascaded_of_no_target (noTarget : session.engine.registry.isTarget id.generator = false) :
    id ∈ (run session paths false).cascaded := by
  have generates : session.engine.registry.isGenerator id.generator = true :=
    (Registry.isGenerator_iff indexed).mpr ⟨id, registered, rfl⟩
  have source : (run session paths false).meaning path = .generatorSource id.generator := by
    rw [means, Classification.ofType, noTarget, generates]
    rfl
  exact (mem_cascaded_run indexed).mpr ⟨registered, .inr ⟨path, counted, source⟩⟩

/-- The users of a type are direct or cascaded when it generates for itself. -/
lemma mem_work_of_selfMade (fresh : path ∉ session.engine.deferred)
    (selfMade : ⟨id.generator, id.generator⟩ ∈ session.engine.registry.registrations.keys) :
    id ∈ (run session paths false).direct.keys ∨ id ∈ (run session paths false).cascaded := by
  have target : session.engine.registry.isTarget id.generator = true :=
    (Registry.isTarget_iff indexed).mpr ⟨_, selfMade, rfl⟩
  have direct : (run session paths false).meaning path = .direct id.generator := by
    rw [means, Classification.ofType, if_pos target]
  by_cases itself : id.target = id.generator
  · left
    rw [← itself] at direct
    exact (mem_direct_run indexed).mpr ⟨registered, path, counted, direct⟩
  · right
    exact (mem_cascaded_run indexed).mpr
      ⟨registered, .inl ⟨path, counted, fresh, _, selfMade, direct, rfl, itself⟩⟩

/-- The source of a target that does not generate for itself calls for none of its users. -/
lemma not_called_of_target (target : session.engine.registry.isTarget id.generator = true)
    (notSelfMade : ⟨id.generator, id.generator⟩ ∉ session.engine.registry.registrations.keys) :
    id ∉ (resolved session paths false).directly path ∧
      id ∉ (resolved session paths false).besides path := by
  have direct : (run session paths false).meaning path = .direct id.generator := by
    rw [means, Classification.ofType, if_pos target]
  rw [mem_directly_resolved indexed, mem_besides_resolved indexed counted, direct]
  constructor
  · rintro ⟨_, _, same⟩
    exact notSelfMade (mem_of_selfMade registered (Classification.direct.inj same).symm rfl)
  · rintro ⟨_, ⟨_, other, known, same, shared, _⟩ | same⟩
    · exact notSelfMade (mem_of_selfMade known (Classification.direct.inj same).symm shared)
    · cases same

end Users

/-- **A change of a generator reaches its users.** Let a notified path count and not have been put
off, let it have no generated file name and pass the source filters, and let the host tell that it
declares a type. If this type is no target, or generates for itself, then every registered
declaration that uses it runs, or its source is put off, unless the host has no source for it at its
turn, or that is missing or excluded from automatic generation.  (What is put off, the report lists,
if plugins leave it alone and the host is not building by the time of the requests.)  If the type is
a target and does not generate for itself, the path calls for none of its users. -/
theorem generator_edit_reaches_users (discovered : session.engine.registry.Discovered)
    {path : String} {id : DeclarationId} (counted : path ∈ session.counted paths)
    (fresh : path ∉ session.engine.deferred)
    (plain : isGeneratedFileName (SourcePath.fileName path) = false)
    (candidate : session.engine.settings.isSourceCandidate path = true)
    (told : (run session paths false).lookups.types.get? path = some (some id.generator))
    (registered : id ∈ session.engine.registry.registrations.keys) :
    let registry := session.engine.registry
    let batch := run session paths false
    let turn := (ranDirect session paths false).turn id
    (registry.isTarget id.generator = false ∨
        ⟨id.generator, id.generator⟩ ∈ registry.registrations.keys →
      ∀ source, turn.located id = some source → turn.pathExists source = true →
        session.engine.settings.isAutomaticSource source = true →
        id ∈ session.ranIn paths false ∨
          source ∈ batch.deferred ∧
            ((∀ plugin ∈ session.engine.plugins, plugin.AppendsOnly) →
              Host.isBuilding (ranCascaded session paths false).host = false →
              source ∈ batch.report.deferred)) ∧
    (registry.isTarget id.generator = true ∧
        ⟨id.generator, id.generator⟩ ∉ registry.registrations.keys →
      id ∉ (resolved session paths false).directly path ∧
        id ∉ (resolved session paths false).besides path) := by
  intro registry batch turn
  have indexed := discovered.indexed
  have means := meaning_of_told plain candidate told
  constructor
  · intro reaches source located present automatic
    have work : id ∈ batch.direct.keys ∨ id ∈ batch.cascaded := by
      rcases reaches with noTarget | selfMade
      · exact .inr (mem_cascaded_of_no_target indexed counted registered means noTarget)
      · exact mem_work_of_selfMade indexed counted registered means fresh selfMade
    rcases work with direct | cascaded
    · exact .inl (ranIn_of_direct indexed direct)
    · refine (ranIn_or_deferred indexed cascaded located automatic present).imp_right
        fun putOff => ?_
      refine ⟨putOff, fun observers idle => ?_⟩
      rw [deferred_eq_ranCascaded] at putOff
      show source ∈ (run session paths false).report.deferred
      rw [announced_run observers, idle]
      exact putOff
  · rintro ⟨target, notSelfMade⟩
    exact not_called_of_target indexed counted registered means target notSelfMade

end Batch

/-! ## A generator that is generated

`Gen.Base` generates `Gen.Derived`, which generates for `App.Player`. -/

namespace TwoRoles

/-- The declaration of the derived generator. -/
def derived : DeclarationId := ⟨⟨"Gen.Derived"⟩, ⟨"Gen.Base"⟩⟩

/-- The declaration of the player. -/
def player : DeclarationId := ⟨⟨"App.Player"⟩, ⟨"Gen.Derived"⟩⟩

/-- A session in which the sources of all three are there. -/
def session : Session RecordingHost where
  engine := (Engine.discover { root := "p" }
    (.ofList [(derived.generator, TwoTargets.note), (player.generator, TwoTargets.note)])
    [{ target := derived.target, generator := some derived.generator },
      { target := player.target, generator := some player.generator }]).2
  world.host := ((({} : RecordingHost).declare "Base.cs" derived.generator).declare "Derived.cs"
    derived.target).declare "Player.cs" player.target
  world.site.files.top := .directory [("p", .directory
    [("Base.cs", .file []), ("Derived.cs", .file []), ("Player.cs", .file [])])]

end TwoRoles

namespace Batch

/-- A change of the base reaches the derived generator. -/
theorem generator_edit_reaches_derived :
    TwoRoles.derived ∈ TwoRoles.session.ranIn ["Base.cs"] false ∨
      "Derived.cs" ∈ (run TwoRoles.session ["Base.cs"] false).deferred := by
  have discovered : TwoRoles.session.engine.registry.Discovered := ⟨_, _, rfl⟩
  have counted : "Base.cs" ∈ TwoRoles.session.counted ["Base.cs"] := by decide +kernel
  have told : (run TwoRoles.session ["Base.cs"] false).lookups.types.get? "Base.cs"
      = some (some TwoRoles.derived.generator) := by decide +kernel
  have registered : TwoRoles.derived ∈ TwoRoles.session.engine.registry.registrations.keys := by
    decide +kernel
  obtain ⟨reaches, _⟩ := generator_edit_reaches_users discovered counted (by decide +kernel)
    (by decide +kernel) (by decide +kernel) told registered
  have noTarget : TwoRoles.session.engine.registry.isTarget TwoRoles.derived.generator = false := by
    decide +kernel
  exact (reaches (.inl noTarget) "Derived.cs" (by decide +kernel) (by decide +kernel)
    (by decide +kernel)).imp_right And.left

/-- A change of the derived generator does not reach the player, although the host has its source,
which is there and open to automatic generation. -/
theorem generator_edit_misses_player :
    let batch := run TwoRoles.session ["Derived.cs"] false
    let turn := (ranDirect TwoRoles.session ["Derived.cs"] false).turn TwoRoles.player
    "Derived.cs" ∈ TwoRoles.session.counted ["Derived.cs"] ∧
      "Derived.cs" ∉ TwoRoles.session.engine.deferred ∧
      isGeneratedFileName (SourcePath.fileName "Derived.cs") = false ∧
      TwoRoles.session.engine.settings.isSourceCandidate "Derived.cs" = true ∧
      batch.lookups.types.get? "Derived.cs" = some (some TwoRoles.player.generator) ∧
      TwoRoles.player ∈ TwoRoles.session.engine.registry.registrations.keys ∧
      turn.located TwoRoles.player = some "Player.cs" ∧ turn.pathExists "Player.cs" = true ∧
      TwoRoles.session.engine.settings.isAutomaticSource "Player.cs" = true ∧
      TwoRoles.player ∉ TwoRoles.session.ranIn ["Derived.cs"] false ∧
      "Player.cs" ∉ batch.deferred ∧ "Player.cs" ∉ batch.report.deferred := by
  decide +kernel

end Batch

end SourceGen
