import SourceGen.Proofs.Batch.Attempts
import SourceGen.Proofs.FileSystem.Frame
import SourceGen.Proofs.Manifest.Names

/-!
# The files that a batch touches

A batch touches the files named in the list of what it has written, and no others. Several
declarations may write to one file, by one path or by several that lead to the same place; the file
then holds what the last of them wrote. A declaration that ends in any other way than by writing
touches no file.

A step is an emission, which replaces one file when it writes and keeps all files when it does not
(`Registration.writes_emit`). Over the attempts of a batch this gives, for each place, the last
attempt that wrote there (`Site.Leads.contentAt`). Paths are taken to places by the files at the
end. That is where they led when they were written, since files only grow.
-/

namespace SourceGen

/-! ## One emission -/

namespace Registration

variable (registration : Registration) (root : String) (settings : Settings) (forced : Bool)
  (source : String) (site : Site)

/-- The generator has made this buffer, to be written to this project path. -/
def Offers (path buffer : String) : Prop :=
  ∃ context, registration.reply settings source site = .finished true context buffer ∧
    path = SourcePath.normalize context.outputPath

variable {registration settings source site} in
lemma offers_of_leaves {path buffer : String}
    (leaves : (registration.reply settings source site).Leaves (registration.headerLine settings)
      path buffer) :
    registration.Offers settings source site path buffer := by
  obtain ⟨context, finished, _, placed, _⟩ := leaves
  exact ⟨context, finished, placed⟩

lemma writes_persist (files : FileSystem) (path buffer : String) :
    let result := registration.persist root forced files path buffer
    (∀ other, result.2 = .ok (.written other) → other = path ∧
      FileSystem.Replaces (FilePath.join root path) (registration.encoding.encode buffer)
        files result.1) ∧
    (Batch.wrote result.2 = false → FileSystem.KeepsFiles files result.1) := by
  have writes := files.writes_writeUnless (FilePath.join root path) buffer registration.encoding
    (registration.policy forced)
  rw [← files_persist] at writes
  have written := registration.persist_eq_written_iff root forced files path buffer
  refine ⟨fun other done => ?_, fun idle => writes.keeps fun done => ?_⟩
  · obtain ⟨same, done⟩ := (written other).mp done
    exact ⟨same, writes.replaces done⟩
  · rw [(written path).mpr ⟨rfl, done⟩] at idle
    cases idle

/-- **An emission that writes replaces one file by the whole buffer**, and any other one touches no
file. -/
theorem writes_emit :
    let result := registration.emit root settings forced source site
    (∀ path, result.2 = .ok (.written path) → ∃ buffer,
      registration.Offers settings source site path buffer ∧
      FileSystem.Replaces (FilePath.join root path) (registration.encoding.encode buffer) site.files
        result.1.files) ∧
    (Batch.wrote result.2 = false → FileSystem.KeepsFiles site.files result.1.files) := by
  dsimp only
  obtain ⟨error, emitted⟩ | emitted | ⟨path, buffer, leaves, emitted⟩ :=
    registration.emit_cases root settings forced source site
  · rw [emitted]
    exact ⟨nofun, fun _ => .refl _⟩
  · rw [emitted]
    exact ⟨nofun, fun _ => .refl _⟩
  · obtain ⟨written, failed⟩ := registration.writes_persist root forced site.files path buffer
    rw [emitted]
    refine ⟨fun other same => ?_, failed⟩
    obtain ⟨rfl, replaces⟩ := written other same
    exact ⟨buffer, offers_of_leaves leaves, replaces⟩

end Registration

/-! ## The attempts of a batch -/

namespace Attempt

/-- The attempt wrote to the file at a place, by a path that leads there in these files. -/
def WroteTo (root : String) (files : FileSystem) (attempt : Attempt) (place : List String) : Prop :=
  ∃ path, attempt.outcome = .ok (.written path) ∧ files.locate (FilePath.join root path) = .ok place

/-- Of the attempts, this one was the last to write to the file at a place, and this buffer is what
its generator made. -/
structure IsLastWriter (root : String) (settings : Settings) (files : FileSystem)
    (place : List String) (attempts : List Attempt) (attempt : Attempt) (buffer : String) :
    Prop where
  wrote : ∃ path, attempt.outcome = .ok (.written path) ∧
    files.locate (FilePath.join root path) = .ok place ∧
    attempt.registration.Offers settings attempt.source attempt.before path buffer
  last : ∃ earlier later, attempts = earlier ++ attempt :: later ∧
    ∀ other ∈ later, ¬ other.WroteTo root files place

lemma IsLastWriter.cons {root : String} {settings : Settings} {files : FileSystem}
    {place : List String} {attempts : List Attempt} {attempt : Attempt} {buffer : String}
    (first : Attempt) (settled : IsLastWriter root settings files place attempts attempt buffer) :
    IsLastWriter root settings files place (first :: attempts) attempt buffer := by
  obtain ⟨earlier, later, rfl, silent⟩ := settled.last
  exact ⟨settled.wrote, first :: earlier, later, rfl, silent⟩

lemma grows_of_isOf {foundation : Batch.Foundation} {attempt : Attempt}
    (genuine : attempt.IsOf foundation) : attempt.before.files.Grows attempt.after.files := by
  have grows :=
    attempt.registration.grows_emit foundation.root foundation.settings foundation.forced
    attempt.source attempt.before
  rwa [genuine.result] at grows

lemma keeps_of_not_wrote {foundation : Batch.Foundation} {attempt : Attempt}
    (genuine : attempt.IsOf foundation) (idle : Batch.wrote attempt.outcome = false) :
    FileSystem.KeepsFiles attempt.before.files attempt.after.files := by
  have keeps :=
    (attempt.registration.writes_emit foundation.root foundation.settings foundation.forced
      attempt.source attempt.before).2
  rw [genuine.result] at keeps
  exact keeps idle

lemma replaces_of_written {foundation : Batch.Foundation} {attempt : Attempt}
    (genuine : attempt.IsOf foundation) {path : String}
    (written : attempt.outcome = .ok (.written path)) :
    ∃ buffer,
      attempt.registration.Offers foundation.settings attempt.source attempt.before path buffer ∧
      FileSystem.Replaces (FilePath.join foundation.root path)
        (attempt.registration.encoding.encode buffer) attempt.before.files attempt.after.files := by
  have replaces := (attempt.registration.writes_emit foundation.root foundation.settings
    foundation.forced attempt.source attempt.before).1
  rw [genuine.result] at replaces
  exact replaces path written

lemma wrote_or_written (attempt : Attempt) :
    Batch.wrote attempt.outcome = false ∨ ∃ path, attempt.outcome = .ok (.written path) := by
  rcases attempt.outcome with error | path | _ | path
  · exact .inl rfl
  · exact .inr ⟨path, rfl⟩
  · exact .inl rfl
  · exact .inl rfl

end Attempt

namespace Site.Leads

variable {foundation : Batch.Foundation} {made : List Attempt}
  (genuine : ∀ attempt ∈ made, attempt.IsOf foundation) {first last : Site}
  (leads : first.Leads made last)

include genuine leads

lemma grows : first.files.Grows last.files := by
  induction made generalizing first with
  | nil =>
    obtain rfl : last = first := leads
    exact .refl _
  | cons attempt rest ih =>
    obtain ⟨rfl, following⟩ := leads
    exact (Attempt.grows_of_isOf (genuine attempt List.mem_cons_self)).trans
      (ih (fun other listed => genuine other (List.mem_cons_of_mem _ listed)) following)

/-- **The last attempt that wrote to a place says what the file there holds**; where none wrote, the
file is as it was at the beginning. -/
theorem contentAt (place : List String) :
    ((∀ attempt ∈ made, ¬ attempt.WroteTo foundation.root last.files place) ∧
      last.files.contentAt place = first.files.contentAt place) ∨
    ∃ attempt buffer,
      Attempt.IsLastWriter foundation.root foundation.settings last.files
        place made attempt buffer ∧
      last.files.contentAt place = some (attempt.registration.encoding.encode buffer) := by
  induction made generalizing first with
  | nil =>
    obtain rfl : last = first := leads
    exact .inl ⟨fun _ none => absurd none List.not_mem_nil, rfl⟩
  | cons attempt rest ih =>
    obtain ⟨rfl, following⟩ := leads
    have own := genuine attempt List.mem_cons_self
    have others : ∀ other ∈ rest, other.IsOf foundation := fun other listed =>
      genuine other (List.mem_cons_of_mem _ listed)
    rcases ih others following with ⟨silent, same⟩ | ⟨writer, buffer, settled, holds⟩
    · rcases attempt.wrote_or_written with idle | ⟨path, outcome⟩
      · refine .inl ⟨List.forall_mem_cons.mpr ⟨?_, silent⟩,
          same.trans (Attempt.keeps_of_not_wrote own idle place)⟩
        rintro ⟨path, outcome, _⟩
        rw [outcome] at idle
        cases idle
      · obtain ⟨buffer, offers, reached, there, holds, elsewhere⟩ :=
          Attempt.replaces_of_written own outcome
        have there : last.files.locate (FilePath.join foundation.root path) = .ok reached :=
          (following.grows others).locate there
        by_cases here : place = reached
        · subst here
          exact .inr ⟨attempt, buffer, ⟨⟨path, outcome, there, offers⟩, [], rest, rfl, silent⟩,
            same.trans holds⟩
        · refine .inl ⟨List.forall_mem_cons.mpr ⟨?_, silent⟩, same.trans (elsewhere place here)⟩
          rintro ⟨other, also, leads⟩
          obtain rfl : path = other := by simpa [outcome] using also
          exact here (Except.ok.inj (leads.symm.trans there))
    · exact .inr ⟨writer, buffer, settled.cons attempt, holds⟩

lemma grows_of_mem {attempt : Attempt} (listed : attempt ∈ made) :
    first.files.Grows attempt.before.files ∧ attempt.after.files.Grows last.files := by
  obtain ⟨earlier, later, rfl⟩ := List.append_of_mem listed
  obtain ⟨leading, following⟩ := leads.split
  obtain ⟨before, after⟩ := List.forall_mem_append.mp genuine
  exact ⟨leading.grows before, following.grows fun other listed =>
    after other (List.mem_cons_of_mem _ listed)⟩

/-- What was written can be found at the end, at the place that it was written to. -/
lemma wroteTo_of_written {attempt : Attempt} (listed : attempt ∈ made) {path : String}
    (written : attempt.outcome = .ok (.written path)) :
    ∃ place, last.files.locate (FilePath.join foundation.root path) = .ok place ∧
      attempt.WroteTo foundation.root last.files place := by
  have grows := (leads.grows_of_mem genuine listed).2
  obtain ⟨_, _, place, there, _⟩ := Attempt.replaces_of_written (genuine attempt listed) written
  exact ⟨place, grows.locate there, path, written, grows.locate there⟩

end Site.Leads

/-! ## A whole batch -/

open Batch

/-- The regular file that a path leads to is read whole. -/
lemma FileSystem.readBytes_of_locate {system : FileSystem} {path : String} {place : List String}
    {bytes : List UInt8} (leads : system.locate path = .ok place)
    (holds : system.contentAt place = some bytes) : system.readBytes path = .ok bytes := by
  obtain ⟨tree, stands, content⟩ := Option.bind_eq_some_iff.mp holds
  cases tree with
  | directory entries => cases content
  | file inside =>
    obtain rfl : inside = bytes := Option.some.inj content
    simp [readBytes, lookup, leads, stands, bind, Except.bind]

section Session

variable {H : Type} [Host H]

lemma Session.mem_written {session : Session H} {paths : List String} {forced : Bool}
    {path : String} :
    path ∈ (run session paths forced).written ↔
      ∃ attempt ∈ session.attempts paths forced, attempt.outcome = .ok (.written path) := by
  rw [written_attempts, OrderedSet.mem_ofList, List.mem_filterMap]
  simp only [writtenPath?_eq_some_iff]

/-- **A batch touches the files that it lists as written, and no others.** The attempts of a batch
take the site from one state to the next, each by one emission.

1. Where the file at a place is not as before, it was created, changed or removed, and a path of the
list leads
   there. None is removed.
2. The file that a path of the list leads to holds the whole buffer, in the encoding of its
declaration, of the
   last attempt that wrote to this file.
3. An attempt that did not write, for whatever reason, has left every file as it was just before.

The list is that of the report, and the attempts are those of the declarations that the report lists
as run, where plugins only append diagnostics. -/
theorem Session.files_framed (session : Session H) (paths : List String) (forced : Bool) :
    let batch := run session paths forced
    let attempts := session.attempts paths forced
    let root := session.engine.root
    let settings := session.engine.settings
    let before := session.world.site
    let after := batch.session.world.site
    (before.Leads attempts after ∧ ∀ attempt ∈ attempts,
      attempt.registration.emit root settings forced attempt.source attempt.before
        = (attempt.after, attempt.outcome)) ∧
    (∀ place, after.files.contentAt place ≠ before.files.contentAt place →
      ∃ path ∈ batch.written, after.files.locate (FilePath.join root path) = .ok place) ∧
    (∀ place, (before.files.contentAt place).isSome = true →
      (after.files.contentAt place).isSome = true) ∧
    (∀ path ∈ batch.written, ∃ place attempt buffer,
      after.files.locate (FilePath.join root path) = .ok place ∧
      Attempt.IsLastWriter root settings after.files place attempts attempt buffer ∧
      after.files.readBytes (FilePath.join root path)
        = .ok (attempt.registration.encoding.encode buffer)) ∧
    (∀ attempt ∈ attempts, wrote attempt.outcome = false →
      FileSystem.KeepsFiles attempt.before.files attempt.after.files) ∧
    (session.engine.registry.Discovered → (∀ plugin ∈ session.engine.plugins, plugin.AppendsOnly) →
      batch.report.written = batch.written.toList ∧
        batch.report.ran = attempts.map fun attempt => attempt.registration.id) := by
  intro batch attempts root settings before after
  have leads : before.Leads attempts after := Session.leads_attempts
  have genuine : ∀ attempt ∈ attempts, attempt.IsOf (start session forced).foundation := fun _ =>
    Session.isOf_of_mem_attempts
  have settled := leads.contentAt genuine
  refine ⟨⟨leads, fun attempt made => (genuine attempt made).result⟩, ?_, ?_, ?_, ?_, ?_⟩
  · intro place touched
    rcases settled place with ⟨_, same⟩ | ⟨attempt, buffer, writer, _⟩
    · exact absurd same touched
    · obtain ⟨path, outcome, there, _⟩ := writer.wrote
      obtain ⟨_, _, cut, _⟩ := writer.last
      have made : attempt ∈ attempts := cut ▸ List.mem_append_right _ List.mem_cons_self
      exact ⟨path, Session.mem_written.mpr ⟨attempt, made, outcome⟩, there⟩
  · intro place stood
    rcases settled place with ⟨_, same⟩ | ⟨_, _, _, holds⟩
    · rwa [same]
    · rw [holds]
      rfl
  · intro path written
    obtain ⟨attempt, made, outcome⟩ := Session.mem_written.mp written
    obtain ⟨place, there, wrote⟩ := leads.wroteTo_of_written genuine made outcome
    rcases settled place with ⟨silent, _⟩ | ⟨writer, buffer, last, holds⟩
    · exact absurd wrote (silent attempt made)
    · exact ⟨place, writer, buffer, there, last, FileSystem.readBytes_of_locate there holds⟩
  · exact fun attempt made idle => Attempt.keeps_of_not_wrote (genuine attempt made) idle
  · intro discovered observers
    exact ⟨(written_run observers).trans (congrArg OrderedSet.toList written_eq_ranCascaded.symm),
      (ran_eq_ranIn discovered.indexed observers).trans Session.ranIn_attempts⟩

namespace TwoTargets

/-- Writes the names of all targets to one file. -/
def sharing : Generator where
  fileName := note.fileName
  emit _ request :=
    .finished true { request.context with outputPath := "Notes.txt" } request.context.target.text

/-- The project with the generator whose outputs share a file, and with a plugin that leaves
notes. -/
def sharingSession : Session DirectoryHost :=
  let session := (Project.load file (.ofList [(noteName, sharing)]) site).session
  { session with engine.plugins := [.noting] }

end TwoTargets

/-- A forced run for the player runs both declarations, which write to one file. It is listed once,
and it is the only one that is touched. -/
theorem Session.files_framed_notes :
    let batch := run TwoTargets.sharingSession ["Player.cs"] true
    let after := batch.session.world.site.files
    batch.report.ran = [TwoTargets.player, TwoTargets.enemy] ∧
    batch.report.written = ["Notes.txt"] ∧
      (∀ place, after.contentAt place ≠ TwoTargets.site.files.contentAt place →
        after.locate "p/Notes.txt" = .ok place) ∧
      ∃ attempt buffer, attempt ∈ TwoTargets.sharingSession.attempts ["Player.cs"] true ∧
        after.readBytes "p/Notes.txt" = .ok (attempt.registration.encoding.encode buffer) := by
  have discovered : TwoTargets.sharingSession.engine.registry.Discovered := ⟨_, _, rfl⟩
  have observers : ∀ plugin ∈ TwoTargets.sharingSession.engine.plugins, plugin.AppendsOnly :=
    List.forall_mem_singleton.mpr Plugin.appendsOnly_noting
  have ran : (run TwoTargets.sharingSession ["Player.cs"] true).report.ran
        = [TwoTargets.player, TwoTargets.enemy] ∧
      (run TwoTargets.sharingSession ["Player.cs"] true).report.written = ["Notes.txt"] := by
        decide +kernel
  have root : FilePath.join TwoTargets.sharingSession.engine.root "Notes.txt" = "p/Notes.txt" := by
    decide +kernel
  have framed := Session.files_framed TwoTargets.sharingSession ["Player.cs"] true
  generalize run TwoTargets.sharingSession ["Player.cs"] true = batch at ran framed ⊢
  obtain ⟨_, touched, _, holds, _, listed⟩ := framed
  have written : batch.written.toList = ["Notes.txt"] :=
    (listed discovered observers).1.symm.trans ran.2
  have only : ∀ path, path ∈ batch.written ↔ path = "Notes.txt" := fun path => by
    rw [OrderedSet.mem_iff, written, List.mem_singleton]
  refine ⟨ran.1, ran.2, fun place changed => ?_, ?_⟩
  · obtain ⟨path, listed, leads⟩ := touched place changed
    obtain rfl := (only path).mp listed
    exact root ▸ leads
  · obtain ⟨place, attempt, buffer, _, writer, reads⟩ := holds "Notes.txt" ((only _).mpr rfl)
    obtain ⟨_, _, cut, _⟩ := writer.last
    exact ⟨attempt, buffer, cut ▸ List.mem_append_right _ List.mem_cons_self, root ▸ reads⟩

end Session

end SourceGen
