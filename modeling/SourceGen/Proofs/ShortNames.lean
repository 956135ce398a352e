import SourceGen.Proofs.Project.Regeneration

/-!
# Targets of one short name

The stem of a source tells only the short name of the type that it declares, and a directory host
keeps one type for each short name: the first target, and a generator only where no target has the
name. Where several targets share a short name (`App.Player` and `Game.Player`), a source therefore
stands for the first of them.

So the declarations of the first run whenever a source of that name is collected, whoever else has
the name, and those of the others are never run directly, whatever is notified: they run when they
are cascaded, or not at all (`Session.source_declares_first`). This is stated for attached
sessions, which those of loaded projects are, from the start (`Project.attached_load`) and after
every batch (`Session.Attached.next`).
-/

namespace SourceGen

/-- The first target of a short name, in the order of discovery. -/
def Registry.firstNamed? (registry : Registry) (name : String) : Option TypeName :=
  registry.targets.find? (·.shortName = name)

lemma Registry.exists_firstNamed? {registry : Registry} {target : TypeName}
    (registered : registry.isTarget target = true) :
    ∃ first, registry.firstNamed? target.shortName = some first ∧
    registry.isTarget first = true := by
  have known : (registry.firstNamed? target.shortName).isSome :=
    List.find?_isSome.mpr ⟨target, OrderedMap.contains_iff.mp registered, decide_eq_true rfl⟩
  obtain ⟨first, found⟩ := Option.isSome_iff_exists.mp known
  exact ⟨first, found, OrderedMap.contains_iff.mpr (List.mem_of_find?_eq_some found)⟩

/-- A short name that some target has is known as that of the first one. -/
lemma DirectoryHost.get?_types_of_firstNamed? (root : String) {registry : Registry} {name : String}
    {first : TypeName} (named : registry.firstNamed? name = some first) :
    (ofRegistry root registry).types.get? name = some first := by
  rw [get?_types, List.find?_append, ← Registry.firstNamed?, named, Option.some_or]

namespace Session

open Batch

variable {session : Session DirectoryHost} {paths : List String}

/-- A collected source means the first target of its stem. -/
lemma Attached.meaning_of_firstNamed? (attached : session.Attached) {target first : TypeName}
    {path : String} (named : session.engine.registry.firstNamed? target.shortName = some first)
    (isTarget : session.engine.registry.isTarget first = true)
    (collected : path ∈ (gathered session paths false).collected)
    (source : session.IsSourceFor target path) :
    (resolved session paths false).meaning path = .direct first := by
  rw [meaning_of_stem collected source.present, attached.types, source.stem,
    DirectoryHost.get?_types_of_firstNamed? _ named, Classification.ofAnswer]
  simp [source.authored, source.candidate, Classification.ofType, isTarget]

/-- What runs directly is declared for the first target of its short name. -/
lemma Attached.firstNamed?_of_direct (attached : session.Attached) {id : DeclarationId}
    (direct : id ∈ (resolved session paths false).direct.keys) :
    session.engine.registry.firstNamed? id.target.shortName = some id.target := by
  have indexed := attached.discovered.indexed
  rw [mem_direct_resolved] at direct
  obtain ⟨path, collected, calls⟩ := direct
  rw [directly, pathExists_resolved, registry_resolved] at calls
  split at calls
  · next present =>
    rw [meaning_of_stem collected present, attached.types] at calls
    obtain ⟨_, _, type, known, calls⟩ := named_of_directlyFor calls
    obtain ⟨registered, rfl⟩ := (Registry.mem_ids_forTarget indexed).mp calls
    -- The host may know a generator under the stem, but not when a target has the name.
    obtain ⟨first, named, _⟩ :=
      Registry.exists_firstNamed? ((Registry.isTarget_iff indexed).mpr ⟨id, registered, rfl⟩)
    have stem : id.target.shortName = SourcePath.fileStem path := by
      rw [DirectoryHost.get?_types] at known
      have same := List.find?_some known
      exact of_decide_eq_true same
    rw [← stem, DirectoryHost.get?_types_of_firstNamed? _ named] at known
    rw [named, known]
  · cases calls

lemma Attached.direct_or_cascaded_of_ran (attached : session.Attached) {id : DeclarationId}
    (ran : id ∈ (Batch.run session paths false).report.ran) :
    id ∈ (resolved session paths false).direct.keys ∨
    id ∈ (resolved session paths false).cascaded := by
  obtain ⟨more, pending, whole⟩ : ∃ more,
    List.Sublist more (ranDirect session paths false).pending ∧ _ :=
    ran_run attached.observers attached.discovered.indexed
  rw [whole, List.mem_append] at ran
  rcases ran with direct | later
  · rw [direct_ranDirect] at direct
    exact .inl direct
  · exact .inr (mem_pending_ranDirect.mp (pending.subset later)).1

/-- **A source declares the first target of its short name.** Let an unforced batch collect a path
that is a source for a registered target. Of the targets that have its short name, one is the
first. All declarations of this one run in the batch, and none of the others is scheduled for any
path to run directly: they run only if they are cascaded. -/
theorem source_declares_first (attached : session.Attached) {target : TypeName} {path : String}
    (registered : session.engine.registry.isTarget target = true)
    (collected : path ∈ (gathered session paths false).collected)
    (source : session.IsSourceFor target path) :
    ∃ first, session.engine.registry.firstNamed? target.shortName = some first ∧
      ∀ id ∈ session.engine.registry.registrations.keys, id.target.shortName = target.shortName →
        (id.target = first → id ∈ (Batch.run session paths false).report.ran) ∧
        (id.target ≠ first → id ∉ (Batch.run session paths false).direct.keys ∧
          (id ∈ (Batch.run session paths false).report.ran →
            id ∈ (Batch.run session paths false).cascaded)) := by
  have indexed := attached.discovered.indexed
  obtain ⟨first, named, isTarget⟩ := Registry.exists_firstNamed? registered
  have means := attached.meaning_of_firstNamed? named isTarget collected source
  refine ⟨first, named, fun id known same => ⟨?_, fun other => ?_⟩⟩
  · rintro rfl
    refine attached.ran_of_direct ?_
    rw [direct_ranDirect, mem_direct_resolved]
    refine ⟨path, collected, ?_⟩
    rw [directly, pathExists_resolved, if_pos source.pathExists, registry_resolved, means,
      directlyFor, Registry.mem_ids_forTarget indexed]
    exact ⟨known, rfl⟩
  · have idle : id ∉ (resolved session paths false).direct.keys := fun direct => by
      have own := attached.firstNamed?_of_direct direct
      rw [same, named] at own
      exact other (Option.some.inj own).symm
    rw [direct_run, cascaded_run]
    exact ⟨idle, fun ran => (attached.direct_or_cascaded_of_ran ran).resolve_left idle⟩

end Session

/-! ## Two players

`A.Player` and `B.Player` have one short name, and generators of their own. -/

namespace TwoPlayers

/-- The manifest as a text. -/
def text : String :=
  "[[declarations]]\ntarget = 'A.Player'\ngenerator = 'A.Note'\n"
    ++ "[[declarations]]\ntarget = 'B.Player'\ngenerator = 'B.Mark'\n"

/-- The declaration of the first player. -/
def noted : DeclarationId := ⟨⟨"A.Player"⟩, ⟨"A.Note"⟩⟩

/-- The declaration of the second player. -/
def marked : DeclarationId := ⟨⟨"B.Player"⟩, ⟨"B.Mark"⟩⟩

/-- The manifest with its file. -/
def file : ManifestFile where
  path := "p/altgen.toml"
  content := text
  manifest.declarations :=
    [{ target := noted.target, generator := some noted.generator },
      { target := marked.target, generator := some marked.generator }]

/-- The directory of the project, with a source of both players. -/
def site : Site where
  files.top := .directory [("p", .directory
    [("Player.cs", .file []), ("altgen.toml", .file text.toUTF8.data.toList)])]

/-- The project, with both generators at hand. -/
def project : Project :=
  .load file
    (.ofList [(noted.generator, TwoTargets.note), (marked.generator, TwoTargets.note)]) site

lemma opened : ManifestFile.openAt site.files "p/altgen.toml" = .ok file :=
  ManifestFile.openAt_eq_ok (by decide +kernel) (by decide +kernel)

/-- `Player.cs` is a source for either player, as far as its name tells. -/
lemma isSourceFor (id : DeclarationId) (player : id.target.shortName = "Player") :
    project.session.IsSourceFor id.target "Player.cs" where
  present := by decide +kernel
  candidate := by decide +kernel
  authored := by decide +kernel
  stem := by
    rw [player]
    decide +kernel

end TwoPlayers

namespace Session

open Batch TwoPlayers

/-- A source of the second player declares the first. -/
theorem source_declares_first_player :
    noted ∈ (Batch.run project.session ["Player.cs"] false).report.ran ∧
      marked ∉ (Batch.run project.session ["Player.cs"] false).direct.keys := by
  have attached : project.session.Attached := Project.attached_load ..
  have registered : project.session.engine.registry.isTarget marked.target = true := by
    decide +kernel
  have collected : "Player.cs" ∈ (gathered project.session ["Player.cs"] false).collected := by
    decide +kernel
  obtain ⟨first, named, declares⟩ :=
    source_declares_first attached registered collected (isSourceFor marked (by decide +kernel))
  obtain rfl : noted.target = first := by
    have same : project.session.engine.registry.firstNamed? marked.target.shortName
        = some noted.target := by
      decide +kernel
    exact Option.some.inj (same.symm.trans named)
  exact ⟨(declares noted (by decide +kernel) (by decide +kernel)).1 rfl,
    ((declares marked (by decide +kernel) (by decide +kernel)).2 (by decide +kernel)).1⟩

/-- The declaration of the second player does not run, although its target is registered and a
source of that name is collected. -/
theorem source_misses_second_player :
    ManifestFile.openAt site.files "p/altgen.toml" = .ok file ∧
      marked ∈ project.session.engine.registry.registrations.keys ∧
      "Player.cs" ∈ (gathered project.session ["Player.cs"] false).collected ∧
      project.session.IsSourceFor marked.target "Player.cs" ∧
      marked ∉ (Batch.run project.session ["Player.cs"] false).report.ran :=
  ⟨opened, by decide +kernel, by decide +kernel,
    isSourceFor marked (by decide +kernel), by decide +kernel⟩

end Session

end SourceGen
