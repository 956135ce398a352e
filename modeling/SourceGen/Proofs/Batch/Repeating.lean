import SourceGen.Proofs.FileFrame
import SourceGen.Proofs.OutputPaths

/-!
# Emissions repeated

A generator is *steady* when it goes by the request alone and leaves the output where the request
puts it. Then a declaration that is asked for a source once more makes the same buffer for the same
path, and if the write goes through now it would have gone through before, with fewer files there
(`written_emit_of_grows`).

So when every attempt of a run has a counterpart in an earlier run, and no two declarations of that
run share a file, the files that are written hold these very bytes already: the last writer of each
was the counterpart (`Site.Leads.contentAt_of_repeated`).
-/

namespace SourceGen

open FilePath (join)

/-- The generator goes by the request alone and leaves the output where it is asked for. -/
structure Generator.Steady (generator : Generator) : Prop where
  forgetful : ∀ earlier later request, generator.emit earlier request = generator.emit later request
  stays : ∀ earlier request keep context buffer,
    generator.emit earlier request = .finished keep context buffer →
      context.outputPath = request.context.outputPath

/-- A place of the name of a generated file, or of a directory of those. -/
def FileSystem.IsGenerated (place : List String) : Prop :=
  ∃ name, place.getLast? = some name ∧ isGeneratedFileName name = true

/-! ## One emission -/

namespace Registration

/-! ## Asking again -/

section Steady

variable {registration : Registration} {root : String} {settings : Settings} {forced : Bool}
  {source : String} {site : Site} (steady : registration.generator.Steady)

include steady

lemma reply_congr (other : Site) :
    registration.reply settings source site = registration.reply settings source other :=
  steady.forgetful ..

lemma Offers.buffer_eq {other : Site} {path buffer otherPath otherBuffer : String}
    (offers : registration.Offers settings source site path buffer)
    (again : registration.Offers settings source other otherPath otherBuffer) : buffer
      = otherBuffer := by
  obtain ⟨context, finished, _⟩ := offers
  obtain ⟨_, finishedAgain, _⟩ := again
  rw [reply_congr steady other, finishedAgain] at finished
  exact (Reply.finished.inj finished).2.2.symm

variable (composed : registration.outputName.Composed)
  (normal : SourcePath.normalize source = source)

include composed normal

lemma Offers.path_eq {path buffer : String}
    (offers : registration.Offers settings source site path buffer) :
    path = registration.outputPath source := by
  obtain ⟨context, finished, rfl⟩ := offers
  have requested : (registration.request settings source).context.outputPath
      = registration.outputPath source := by
    rw [request, normal]
  rw [steady.stays _ _ _ _ _ finished, requested, normalize_outputPath composed normal]

variable (holds : site.files.Holds root) (present : site.files.pathExists (join root source) = true)

include holds present

/-- **What is written now would have been written before**, when the source was there. -/
theorem written_emit_of_grows {later : Site} (grows : site.files.Grows later.files) {path : String}
    (written : (registration.emit root settings forced source later).2 = .ok (.written path)) :
    (registration.emit root settings forced source site).2 = .ok (.written path) := by
  obtain ⟨error, emitted⟩ | emitted | ⟨target, buffer, leaves, emitted⟩ :=
    registration.emit_cases root settings forced source later
  · rw [emitted] at written
    cases written
  · rw [emitted] at written
    cases written
  rw [emitted] at written
  obtain ⟨rfl, done⟩ :=
    (registration.persist_eq_written_iff root forced later.files target buffer path).mp written
  rw [reply_congr steady site] at leaves
  rw [emit_of_leaves root forced leaves]
  refine (registration.persist_eq_written_iff root forced site.files path buffer path).mpr ⟨rfl, ?_⟩
  rw [(offers_of_leaves leaves).path_eq steady composed normal] at done ⊢
  obtain ⟨ground, names⟩ := namesBelow_outputPath holds composed normal present
  exact names.writeUnless_of_grows grows done

lemma gainsOnly_emit : FileSystem.GainsOnly FileSystem.IsGenerated site.files
    (registration.emit root settings forced source site).1.files := by
  obtain ⟨error, emitted⟩ | emitted | ⟨path, buffer, leaves, emitted⟩ :=
    registration.emit_cases root settings forced source site
  · rw [emitted]
    exact .refl _ _
  · rw [emitted]
    exact .refl _ _
  · rw [emitted, files_persist, (offers_of_leaves leaves).path_eq steady composed normal]
    obtain ⟨ground, names⟩ := namesBelow_outputPath holds composed normal present
    refine (names.gainsOnly_writeUnless _ _ _).mono fun place made => ?_
    rcases made with rfl | rfl
    · exact ⟨_, List.getLast?_concat, by decide⟩
    · refine ⟨_, ?_, composed.isGeneratedFileName⟩
      rw [List.getLast?_append]
      rfl

end Steady

end Registration

/-! ## Attempts at sources -/

/-- An attempt of a declaration with a steady generator at a source of its target that is there. -/
structure Attempt.IsSound (foundation : Batch.Foundation) (attempt : Attempt) : Prop where
  genuine : attempt.IsOf foundation
  composed : attempt.registration.outputName.Composed
  steady : attempt.registration.generator.Steady
  straight : SourcePath.IsStraight attempt.source
  present : attempt.before.files.pathExists (join foundation.root attempt.source) = true

namespace Attempt.IsSound

variable {foundation : Batch.Foundation} {attempt : Attempt} (sound : attempt.IsSound foundation)

include sound

lemma path_eq {path : String} (written : attempt.outcome = .ok (.written path)) :
    path = attempt.registration.outputPath attempt.source := by
  obtain ⟨buffer, offers, _⟩ := Attempt.replaces_of_written sound.genuine written
  exact offers.path_eq sound.steady sound.composed sound.straight.normal

lemma gainsOnly (holds : attempt.before.files.Holds foundation.root) :
    FileSystem.GainsOnly FileSystem.IsGenerated attempt.before.files attempt.after.files := by
  have gains : FileSystem.GainsOnly FileSystem.IsGenerated attempt.before.files
      (attempt.registration.emit foundation.root foundation.settings foundation.forced
        attempt.source attempt.before).1.files :=
    Registration.gainsOnly_emit sound.steady sound.composed sound.straight.normal
      holds sound.present
  rwa [sound.genuine.result] at gains

/-- An attempt writes if a later one of the same declaration at the same source does. -/
lemma written_of_grows {later : Attempt} (genuine : later.IsOf foundation)
    (holds : attempt.before.files.Holds foundation.root)
    (sameRegistration : attempt.registration = later.registration)
    (sameSource : attempt.source = later.source)
    (grows : attempt.before.files.Grows later.before.files) {path : String}
    (written : later.outcome = .ok (.written path)) : attempt.outcome = .ok (.written path) := by
  have result := genuine.result
  rw [← sameRegistration, ← sameSource] at result
  have done : (attempt.registration.emit foundation.root foundation.settings
      foundation.forced attempt.source
      later.before).2 = .ok (.written path) := by rw [result, written]
  have before :=
    Registration.written_emit_of_grows sound.steady sound.composed sound.straight.normal holds
    sound.present grows done
  rwa [sound.genuine.result] at before

end Attempt.IsSound

namespace Site.Leads

variable {foundation : Batch.Foundation} {made : List Attempt}
  (sound : ∀ attempt ∈ made, attempt.IsSound foundation) {first last : Site}
  (leads : first.Leads made last)
  (holds : first.files.Holds foundation.root)

include sound leads holds

/-- Over a run, only outputs and directories of outputs appear. -/
lemma gainsOnly : FileSystem.GainsOnly FileSystem.IsGenerated first.files last.files := by
  induction made generalizing first with
  | nil =>
    obtain rfl : last = first := leads
    exact .refl _ _
  | cons attempt rest ih =>
    obtain ⟨rfl, following⟩ := leads
    have own := sound attempt List.mem_cons_self
    have grows := Attempt.grows_of_isOf own.genuine
    exact (own.gainsOnly holds).trans
      (ih (fun other listed => sound other (List.mem_cons_of_mem _ listed))
        following (holds.grows grows))

lemma gainsOnly_of_mem {attempt : Attempt} (listed : attempt ∈ made) :
    FileSystem.GainsOnly FileSystem.IsGenerated first.files attempt.before.files := by
  obtain ⟨earlier, later, rfl⟩ := List.append_of_mem listed
  exact leads.split.1.gainsOnly (List.forall_mem_append.mp sound).1 holds

end Site.Leads

/-! ## A run repeated -/

/-- Requests of two declarations have their outputs at different places. -/
def Emission.OutputsApart (root : String) (files : FileSystem) (requests : List Emission) : Prop :=
  ∀ one ∈ requests, ∀ other ∈ requests, ∀ place,
    files.locate (join root one.context.outputPath) = .ok place →
    files.locate (join root other.context.outputPath) = .ok place →
    one.declaration = other.declaration

/-- Outputs are apart when their places differ from request to request. -/
lemma Emission.outputsApart_of_nodup {root : String} {files : FileSystem} {requests : List Emission}
    (distinct : (requests.map fun request =>
      (files.locate (join root request.context.outputPath)).toOption).Nodup) :
    OutputsApart root files requests := by
  intro one listed other listed' place there there'
  have same : one = other :=
    List.inj_on_of_nodup_map distinct listed listed' (by rw [there, there'])
  rw [same]

section Repeated

variable {foundation : Batch.Foundation} {first middle : Site} {made : List Attempt}
  (sound : ∀ attempt ∈ made, attempt.IsSound foundation) (leads : first.Leads made middle)
  (once : (made.map fun attempt => attempt.registration.id).Nodup)
  (apart : Emission.OutputsApart foundation.root middle.files
    (made.map fun attempt => attempt.request foundation.settings))

include sound leads once apart

/-- After a run in which no two declarations share a file, the output of each holds what it
wrote. -/
lemma Site.Leads.contentAt_of_written {attempt : Attempt} (listed : attempt ∈ made) {path : String}
    (written : attempt.outcome = .ok (.written path)) :
    ∃ place buffer, middle.files.locate (join foundation.root path) = .ok place ∧
      attempt.registration.Offers foundation.settings attempt.source attempt.before path buffer ∧
      middle.files.contentAt place = some (attempt.registration.encoding.encode buffer) := by
  have genuine : ∀ attempt ∈ made, attempt.IsOf foundation :=
    fun attempt listed => (sound attempt listed).genuine
  obtain ⟨place, there, wrote⟩ := leads.wroteTo_of_written genuine listed written
  rcases leads.contentAt genuine place with ⟨silent, _⟩ | ⟨writer, buffer, settled, holds⟩
  · exact absurd wrote (silent attempt listed)
  -- The last writer to the place is the declaration itself.
  obtain ⟨other, outcome, reached, offers⟩ := settled.wrote
  obtain ⟨_, _, cut, _⟩ := settled.last
  have writerListed : writer ∈ made := cut ▸ List.mem_append_right _ List.mem_cons_self
  have target : ∀ attempt ∈ made, ∀ path, attempt.outcome = .ok (.written path) →
      (attempt.request foundation.settings).context.outputPath = path :=
        fun attempt listed path written => by
    have known := sound attempt listed
    rw [Attempt.request, Registration.request, known.straight.normal, known.path_eq written]
  have same : writer.registration.id = attempt.registration.id := by
    refine apart _ (List.mem_map_of_mem writerListed) _ (List.mem_map_of_mem listed) place ?_ ?_
    · rwa [target writer writerListed other outcome]
    · rwa [target attempt listed path written]
  obtain rfl := List.inj_on_of_nodup_map once writerListed listed same
  obtain rfl : other = path := by simpa [outcome] using written
  exact ⟨place, buffer, there, offers, holds⟩

/-- **A run whose attempts all repeat those of the run before changes no file.** -/
theorem Site.Leads.contentAt_of_repeated (holds : first.files.Holds foundation.root) {last : Site}
    {again : List Attempt} (follows : middle.Leads again last)
    (genuine : ∀ attempt ∈ again, attempt.IsOf foundation)
    (repeats : ∀ attempt ∈ again, ∃ earlier ∈ made,
      earlier.registration = attempt.registration ∧ earlier.source = attempt.source)
        (place : List String) :
    last.files.contentAt place = middle.files.contentAt place := by
  have madeGenuine : ∀ attempt ∈ made, attempt.IsOf foundation := fun attempt listed =>
    (sound attempt listed).genuine
  -- The files have grown since the end of the first run, and hold the same.
  suffices steps : ∀ (start : Site) (rest : List Attempt), (∀ attempt ∈ rest, attempt ∈ again) →
      start.Leads rest last → middle.files.Grows start.files →
      FileSystem.KeepsFiles middle.files start.files →
      FileSystem.KeepsFiles middle.files last.files from
    steps middle again (fun _ => id) follows (.refl _) (.refl _) place
  intro start rest
  induction rest generalizing start with
  | nil =>
    intro _ leads _ kept
    obtain rfl : last = start := leads
    exact kept
  | cons attempt rest ih =>
    rintro within ⟨rfl, following⟩ grown kept
    have listed := within attempt List.mem_cons_self
    have own := genuine attempt listed
    have grows := grown.trans (Attempt.grows_of_isOf own)
    refine ih attempt.after (fun other later => within other (List.mem_cons_of_mem _ later))
      following grows ?_
    rcases attempt.wrote_or_written with idle | ⟨path, written⟩
    · exact kept.trans (Attempt.keeps_of_not_wrote own idle)
    obtain ⟨earlier, counterpart, sameRegistration, sameSource⟩ := repeats attempt listed
    have known := sound earlier counterpart
    obtain ⟨found, left⟩ := leads.grows_of_mem madeGenuine counterpart
    have wrote := known.written_of_grows own (holds.grows found) sameRegistration sameSource
      (((Attempt.grows_of_isOf known.genuine).trans left).trans grown) written
    obtain ⟨reached, buffer, there, offers, bytes⟩ :=
      leads.contentAt_of_written sound once apart counterpart wrote
    obtain ⟨other, offersAgain, place, led, content, elsewhere⟩ :=
      Attempt.replaces_of_written own written
    rw [← sameRegistration, ← sameSource] at offersAgain
    obtain rfl := offers.buffer_eq known.steady offersAgain
    obtain rfl : reached = place := Except.ok.inj ((grows.locate there).symm.trans led)
    intro at_
    by_cases here : at_ = reached
    · rw [here, content, bytes, sameRegistration]
    · exact (elsewhere at_ here).trans (kept at_)

end Repeated

end SourceGen
