import SourceGen.Proofs.Project.Revisiting

/-!
# Processing twice changes no file

Processing paths with the reimports followed leaves a project in which processing them again writes
nothing new: no file appears and no file changes (`process_idempotent`).

The second run need not take the way of the first. An output that is there now and may not be
replaced is not written again, so that what was put off in the first run may run at once in the
second. But it is never more that runs: each attempt of the second run repeats one of the first
(`Revisits.repeats_first`, `Revisits.repeats_second`), and what it writes is what the file holds
since the first (`Site.Leads.contentAt_of_repeated`).
-/

namespace SourceGen

open FilePath (join)

/-! ## A loaded project is regular -/

/-- The directory of a manifest file that can be read is there. -/
lemma ManifestFile.holds_root {files : FileSystem} {path : String} {file : ManifestFile}
    (opened : openAt files path = .ok file) : files.Holds file.root := by
  obtain ⟨placed, read, _⟩ := openAt_eq_ok_iff.mp opened
  have root : file.root = FileSystem.parentOf path := by
    rw [ManifestFile.root, placed]
    rfl
  rw [root]
  obtain ⟨bytes, looked⟩ : ∃ bytes, files.lookup path = .ok (.file bytes) := by
    rw [FileSystem.readText, FileSystem.readBytes] at read
    rcases looked : files.lookup path with error | (bytes | entries)
    · rw [looked] at read
      cases read
    · exact ⟨bytes, rfl⟩
    · rw [looked] at read
      cases read
  exact FileSystem.holds_parentOf looked

namespace Project

open Batch Session

lemma regular_load {path : String} {file : ManifestFile} {site : Site}
    (opened : ManifestFile.openAt site.files path = .ok file) {catalog : Catalog}
    (apart : (load file catalog site).registry.NamesApart)
    (steady : ∀ registration ∈ (load file catalog site).registry.all,
      registration.generator.Steady) :
    (load file catalog site).session.Regular := by
  have attached : (load file catalog site).session.Attached := attached_load file catalog site
  have indexed := attached.discovered.indexed
  have valid : ∀ declaration ∈ file.manifest.declarations ++ Samples.declarations,
      declaration.Valid :=
    List.forall_mem_append.mpr ⟨ManifestFile.valid_of_openAt opened, Samples.valid_declarations⟩
  refine ⟨attached, apart, ?_, fun _ => Registry.composed_of_mem_all valid, steady,
    ManifestFile.holds_root opened⟩
  intro type listed
  rcases List.mem_append.mp listed with isTarget | isGenerator
  · obtain ⟨id, registered, rfl⟩ :=
      (Registry.isTarget_iff indexed).mp (OrderedMap.contains_iff.mpr isTarget)
    exact (valid_of_registered opened catalog site registered).1.shortName_ne
  · obtain ⟨id, registered, rfl⟩ :=
      (Registry.isGenerator_iff indexed).mp (OrderedMap.contains_iff.mpr isGenerator)
    exact (valid_of_registered opened catalog site registered).2.shortName_ne

/-! ## The second run -/

variable {session again : Session DirectoryHost} {paths : List String}

lemma settles_of_regular (more : Nat) (regular : session.Regular)
    (straight : session.GoesStraight paths) (idle : session.world.host.reimports = []) :
    Settles session paths (follow (more + 2) paths session).1 (follow (more + 2) paths session).2 :=
  settles_of_fixes more regular.attached idle (regular.fixesTargets straight)
    fun _ _ => regular.next.fixesTargets (regular.straight_next straight)

/-- A run of one batch or of many is made of attempts of the first two. -/
lemma leads_process (project : Project) (settle : Bool) (regular : project.session.Regular)
    (straight : project.session.GoesStraight paths)
    (idle : project.session.world.host.reimports = [])
    (fresh : project.session.engine.suppressed = ∅ ∧ project.session.engine.deferred = ∅) :
    ∃ attempts, project.session.world.site.Leads attempts
      (project.process paths settle).2.session.world.site ∧
      ∀ attempt ∈ attempts, attempt ∈ project.session.settlingAttempts paths := by
  cases settle with
  | false =>
    have single : (project.process paths false).2.session = project.session.next paths := by
      rw [← follow_zero, process]
      rfl
    rw [single]
    exact ⟨_, leads_next project.session paths, fun _ => List.mem_append_left _⟩
  | true =>
    have settles := settles_of_regular 13 regular straight idle
    rw [(process_eq project paths).2, (settles.revisits regular straight fresh).site]
    exact ⟨_, leads_settled project.session paths, fun _ => id⟩

/-- Whatever the second run attempts was attempted in the first. -/
lemma repeats_settling (regular : session.Regular) (straight : session.GoesStraight paths)
    (fresh : session.engine.suppressed = ∅) (revisits : session.Revisits again paths)
    {attempt : Attempt} (made : attempt ∈ again.settlingAttempts paths) :
    ∃ earlier ∈ session.settlingAttempts paths,
      earlier.registration = attempt.registration ∧ earlier.source = attempt.source :=
  (List.mem_append.mp made).elim (revisits.repeats_first regular straight fresh)
    (revisits.repeats_second regular straight fresh)

/-- A regular session is as good as processed twice when it is processed once. -/
lemma contentAt_process_twice {project first : Project} (regular : project.session.Regular)
    (straight : project.session.GoesStraight paths)
    (fresh : project.session.engine.suppressed = ∅ ∧ project.session.engine.deferred = ∅)
    (revisits : project.session.Revisits first.session paths)
    (outputs : Emission.OutputsApart project.session.engine.root first.files
      (first.session.world.site.since project.session.world.site)) (settle : Bool)
        (place : List String) :
    (first.process paths settle).2.files.contentAt place = first.files.contentAt place := by
  have regularFirst := revisits.regular_again regular
  have straightFirst := revisits.straight_again regular straight
  obtain ⟨attempts, leads, within⟩ :=
    leads_process first settle regularFirst straightFirst revisits.idle
    (by rw [revisits.engine]; exact fresh)
  have sound : ∀ attempt ∈ project.session.settlingAttempts paths,
      attempt.IsSound (start project.session false).foundation := fun _ =>
    regular.sound_settling straight
  have settled := leads_settled project.session paths
  rw [← revisits.site] at settled
  rw [Site.since_eq (settled.emissions fun attempt made => (sound attempt made).genuine)] at outputs
  refine settled.contentAt_of_repeated sound (regular.once_settling straight)
    outputs regular.holds leads (fun attempt made => ?_) (fun attempt made => ?_) place
  · rw [← revisits.foundation]
    exact (regularFirst.sound_settling straightFirst (within attempt made)).genuine
  · exact repeats_settling regular straight fresh.1 revisits (within attempt made)

/-- **Processing is idempotent on disk.** Let a project be freshly loaded from a manifest whose
registered types have different short names, and let no generator redirect its output or depend on
anything but the request. Let the notified paths be straight, and the sources that the host has
found for registered targets, and let no two declarations that have run in the first run have their
outputs at one place. Then processing the same paths again, with the reimports followed or not,
leaves every file as it is and creates none. Overwrite policies and encodings may be any, and
generators may decline, fail or panic. -/
theorem process_idempotent {path : String} {file : ManifestFile} {site : Site}
    (opened : ManifestFile.openAt site.files path = .ok file) {catalog : Catalog}
    {paths : List String} (apart : (load file catalog site).registry.NamesApart)
    (steady : ∀ registration ∈ (load file catalog site).registry.all, registration.generator.Steady)
    (notified : ∀ path ∈ paths, SourcePath.IsStraight path)
    (sources : ∀ type, (load file catalog site).registry.isTarget type = true → ∀ source,
      ((load file catalog site).process paths true).2.session.world.host.sourceOf? type
        = some source →
        SourcePath.IsStraight source)
    (outputs : Emission.OutputsApart file.root ((load file catalog site).process paths true).2.files
      (((load file catalog site).process paths true).2.session.world.site.since site)) :
    let project := load file catalog site
    let first := (project.process paths true).2
    ∀ (settle : Bool) (place : List String),
      (first.process paths settle).2.files.contentAt place = first.files.contentAt place := by
  have regular := regular_load opened apart steady
  obtain ⟨suppressed, deferred, idle⟩ := fresh_load file catalog site
  have ended := (process_eq (load file catalog site) paths).2
  have straight : (load file catalog site).session.GoesStraight paths := by
    refine ⟨notified, fun type isTarget source found => sources type isTarget source ?_⟩
    rw [ended]
    exact sourceOf?_follow (13 + 2) regular.attached idle found
  have settles := settles_of_regular 13 regular straight idle
  have revisits := settles.revisits regular straight ⟨suppressed, deferred⟩
  rw [← ended] at revisits
  exact contentAt_process_twice regular straight ⟨suppressed, deferred⟩ revisits outputs

/-- In the project with two targets of one generator, the second run rewrites the notes of the first
with what they hold. -/
theorem process_idempotent_player :
    let first := (TwoTargets.project.process ["Player.cs"] true).2
    let note := ["p", "altgen.g", "Note.Enemy.Note.g.txt"]
    first.files.contentAt note = some ("seen\n".toUTF8.data.toList) ∧
      ∀ (settle : Bool) (place : List String),
        (first.process ["Player.cs"] settle).2.files.contentAt place
          = first.files.contentAt place := by
  have apart : (load TwoTargets.file TwoTargets.catalog TwoTargets.site).registry.NamesApart := by
    decide +kernel
  have steady :
      ∀ registration ∈ (load TwoTargets.file TwoTargets.catalog TwoTargets.site).registry.all,
      registration.generator.Steady := by
    intro registration registered
    have writes : registration.generator = TwoTargets.note :=
      Registry.generator_of_mem_all registered
    rw [writes]
    exact ⟨fun _ _ _ => rfl, fun _ _ _ _ _ finished => by cases finished; rfl⟩
  have straight : ∀ path ∈ ["Enemy.cs", "Player.cs", "altgen.toml"],
      SourcePath.IsStraight path := by
    decide +kernel
  obtain ⟨content, distinct⟩ :
      let first := (TwoTargets.project.process ["Player.cs"] true).2
      first.files.contentAt ["p", "altgen.g", "Note.Enemy.Note.g.txt"]
        = some ("seen\n".toUTF8.data.toList) ∧
        ((first.session.world.site.since TwoTargets.site).map fun request =>
          (first.files.locate
            (join TwoTargets.file.root request.context.outputPath)).toOption).Nodup := by
    decide +kernel
  have outputs : Emission.OutputsApart TwoTargets.file.root
      (TwoTargets.project.process ["Player.cs"] true).2.files
      ((TwoTargets.project.process ["Player.cs"] true).2.session.world.site.since
        TwoTargets.site) :=
    Emission.outputsApart_of_nodup distinct
  have sources : ∀ type source,
      (TwoTargets.project.process ["Player.cs"] true).2.session.world.host.sourceOf? type
        = some source →
        SourcePath.IsStraight source := by
    refine DirectoryHost.forall_sourceOf? fun index built => ?_
    obtain ⟨_, _, entries⟩ := process_player
    rw [built, Option.map_some, Option.some_inj] at entries
    rw [entries]
    exact List.forall_mem_map.mp straight
  unfold TwoTargets.project at content outputs sources ⊢
  exact ⟨content, process_idempotent TwoTargets.opened apart steady
    (List.forall_mem_singleton.mpr (straight _ (by decide))) (fun type _ => sources type) outputs⟩

end Project

end SourceGen
