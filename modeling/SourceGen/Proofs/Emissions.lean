import SourceGen.Proofs.FileFrame

/-!
# What one emission comes to

The generator is handed a context and a buffer that starts with the header line, and may do to both
what it likes. What becomes of that is settled by its reply and by the files: for each outcome
there is one condition (`Registration.Ends`), and an emission has the outcome whose condition holds
(`Registration.outcome_emit_iff`). The conditions exclude one another because each of them
determines the outcome.

Of the reply, only the final buffer and the final output path count. How the file is encoded
depends on the declaration, which is out of the generator's reach.
-/

namespace SourceGen

namespace Registration

variable {registration : Registration} {root : String} {settings : Settings} {forced : Bool}
  {source : String} {site : Site} {path buffer : String}

/-! ## The write at the end -/

variable (registration root forced) in
/-- Overwriting is neither declared nor forced, and there is something at the project path. -/
def Bars (files : FileSystem) (path : String) : Prop :=
  registration.overwrite = false ∧ forced = false ∧
  files.pathExists (FilePath.join root path) = true

variable (registration root) in
/-- Writes a buffer to a project path in the encoding of the declaration, whatever is there. -/
def write (files : FileSystem) (path buffer : String) : FileSystem × Except WriteError Unit :=
  files.write (FilePath.join root path) buffer registration.encoding

lemma persist_of_bars {files : FileSystem} (bars : registration.Bars root forced files path) :
    registration.persist root forced files path buffer = (files, .ok (.kept path)) := by
  obtain ⟨declared, rfl, there⟩ := bars
  simp [persist, FileSystem.writeUnless, declared, there]

lemma outcome_persist_of_not_bars {files : FileSystem}
    (free : ¬ registration.Bars root forced files path) :
    (registration.persist root forced files path buffer).2
      = match (registration.write root files path buffer).2 with
        | .ok () => .ok (.written path)
        | .error cause => .error (.write cause) := by
  have unguarded : ¬ ((if registration.overwrite || forced then Overwrite.always else .ifMissing)
      = .ifMissing && files.pathExists (FilePath.join root path)) = true := by
    intro guarded
    obtain ⟨policy, there⟩ := Bool.and_eq_true_iff.mp guarded
    cases overwriting : registration.overwrite || forced with
    | true => simp [overwriting] at policy
    | false =>
      obtain ⟨declared, unforced⟩ := Bool.or_eq_false_iff.mp overwriting
      exact free ⟨declared, unforced, there⟩
  rw [persist, FileSystem.writeUnless, if_neg unguarded, write]
  rcases files.write (FilePath.join root path) buffer registration.encoding with ⟨after,
    cause | _⟩ <;> rfl

/-! ## The outcome -/

variable (registration root settings forced source site) in
/-- The condition for each outcome of an emission. -/
def Ends : Except EmitError EmitOutcome → Prop
  | .error (.panicked panic) => registration.reply settings source site = .panicked panic
  | .error (.failed generator chain) =>
    generator = registration.id.generator ∧ registration.reply settings source site = .failed chain
  | .error (.write cause) => ∃ path buffer,
    (registration.reply settings source site).Leaves (registration.headerLine settings)
      path buffer ∧
      ¬ registration.Bars root forced site.files path ∧
      (registration.write root site.files path buffer).2 = .error cause
  | .ok .discarded =>
    (registration.reply settings source site).Discards (registration.headerLine settings)
  | .ok (.kept path) => ∃ buffer,
    (registration.reply settings source site).Leaves (registration.headerLine settings)
      path buffer ∧
      registration.Bars root forced site.files path
  | .ok (.written path) => ∃ buffer,
    (registration.reply settings source site).Leaves (registration.headerLine settings)
      path buffer ∧
      ¬ registration.Bars root forced site.files path ∧
      (registration.write root site.files path buffer).2 = .ok ()

variable (registration root settings forced source site) in
lemma exists_ends : ∃ outcome, registration.Ends root settings forced source site outcome := by
  cases replied : registration.reply settings source site with
  | panicked panic => exact ⟨.error (.panicked panic), replied⟩
  | failed chain => exact ⟨.error (.failed _ chain), rfl, replied⟩
  | finished keep context buffer =>
    have either := Reply.discards_or_leaves (registration.headerLine settings) keep context buffer
    rw [← replied] at either
    obtain discards | leaves := either
    · exact ⟨.ok .discarded, discards⟩
    by_cases bars : registration.Bars root forced site.files
      (SourcePath.normalize context.outputPath)
    · exact ⟨.ok (.kept _), buffer, leaves, bars⟩
    cases done :
      (registration.write root site.files (SourcePath.normalize context.outputPath) buffer).2 with
    | ok => exact ⟨.ok (.written _), buffer, leaves, bars, done⟩
    | error cause => exact ⟨.error (.write cause), _, buffer, leaves, bars, done⟩

lemma outcome_of_ends {outcome : Except EmitError EmitOutcome}
    (ends : registration.Ends root settings forced source site outcome) :
    (registration.emit root settings forced source site).2 = outcome := by
  match outcome, ends with
  | .error (.panicked panic), panicked => rw [emit_of_panicked root forced panicked]
  | .error (.failed generator chain), ⟨same, failed⟩ => rw [emit_of_failed root forced failed, same]
  | .error (.write cause), ⟨path, buffer, leaves, free, refused⟩ =>
    rw [emit_of_leaves root forced leaves, outcome_persist_of_not_bars free, refused]
  | .ok .discarded, discards => rw [emit_of_discards root forced discards]
  | .ok (.kept path), ⟨buffer, leaves, bars⟩ =>
    rw [emit_of_leaves root forced leaves, persist_of_bars bars]
  | .ok (.written path), ⟨buffer, leaves, free, done⟩ =>
    rw [emit_of_leaves root forced leaves, outcome_persist_of_not_bars free, done]

/-- An emission has the one outcome whose condition holds. -/
lemma outcome_emit_iff {outcome : Except EmitError EmitOutcome} :
    (registration.emit root settings forced source site).2 = outcome ↔
      registration.Ends root settings forced source site outcome := by
  refine ⟨fun emitted => ?_, outcome_of_ends⟩
  obtain ⟨other, ends⟩ := exists_ends registration root settings forced source site
  rwa [← emitted, outcome_of_ends ends]

/-! ## What stands in the file -/

lemma readBytes_of_written
    (written : (registration.emit root settings forced source site).2 = .ok (.written path))
    {keep : Bool} {context : EmissionContext}
    (finished : registration.reply settings source site = .finished keep context buffer) :
    (registration.emit root settings forced source site).1.files.readBytes (FilePath.join root path)
      = .ok (registration.encoding.encode buffer) := by
  obtain ⟨made, ⟨_, offered, _⟩, place, leads, holds, _⟩ :=
    (registration.writes_emit root settings forced source site).1 path written
  obtain ⟨_, _, rfl⟩ := Reply.finished.inj (finished.symm.trans offered)
  exact FileSystem.readBytes_of_locate leads holds

/-- Of the context that a generator leaves, only the output path counts. -/
lemma emit_congr {other : Generator} {keep : Bool} {context edited : EmissionContext}
    (finished : registration.reply settings source site = .finished keep context buffer)
    (otherwise : other.emit site.emissions (registration.request settings source)
      = .finished keep edited buffer)
    (same : edited.outputPath = context.outputPath) :
    ({ registration with generator := other } : Registration).emit root settings forced source site
      = registration.emit root settings forced source site := by
  have request : ({ registration with generator := other } : Registration).request settings source
      = registration.request settings source := rfl
  rw [reply] at finished
  rw [emit, emit, request, otherwise, finished]
  dsimp only
  rw [same]
  rfl

lemma headerLine_eq : registration.headerLine settings
    = (settings.renderHeader? registration.id.generator).elim "" (· ++ "\n") := by
  unfold headerLine
  split <;> next rendered => rw [rendered]; rfl

/-! ## End to end -/

/-- **What one emission comes to.** For every declaration, directory, settings, force flag, source
and site:

* The outcome is the one whose condition holds. It is an error if and only if the generator panics
  or fails or the final write fails; it is discarded if and only if the generator declines, nothing
  but blanks stands behind the header line, or the final output path comes to nothing; otherwise the
  output is kept if and only if overwriting is neither declared nor forced and it exists, and else
  it is written, at the normalized final output path.
* What is written can be read back: it is the final buffer in the encoding of the declaration, and
  no other file is touched. If nothing is written, no file is touched at all.
* A generator that leaves another target and another source path in the context, but the same output
  path and buffer, brings about the same.
* What a generator has only appended a text to is discarded if the text is nothing but blanks,
  whatever the header; and if it is written, the file holds the header line and the text. -/
theorem emission_outcomes (registration : Registration) (root : String) (settings : Settings)
    (forced : Bool) (source : String) (site : Site) :
    let request := registration.request settings source
    let reply := registration.reply settings source site
    let result := registration.emit root settings forced source site
    (∀ outcome, result.2 = outcome ↔ registration.Ends root settings forced source site outcome) ∧
    (∀ path, result.2 = .ok (.written path) → ∃ context buffer,
      reply = .finished true context buffer ∧
      path = SourcePath.normalize context.outputPath ∧
      FileSystem.Replaces (FilePath.join root path) (registration.encoding.encode buffer) site.files
        result.1.files ∧
      result.1.files.readBytes (FilePath.join root path)
        = .ok (registration.encoding.encode buffer)) ∧
    ((∀ path, result.2 ≠ .ok (.written path)) → FileSystem.KeepsFiles site.files result.1.files) ∧
    (∀ keep context buffer target sourcePath (other : Generator),
      reply = .finished keep context buffer →
      other.emit site.emissions request = .finished keep { context with target, sourcePath }
        buffer →
      ({ registration with generator := other } : Registration).emit root
        settings forced source site = result) ∧
    ∀ keep context text, reply = .finished keep context (request.buffer ++ text) →
      ((∀ c ∈ text.toList, Text.isBlank c = true) → result.2 = .ok .discarded) ∧
      ∀ path, result.2 = .ok (.written path) →
        result.1.files.readBytes (FilePath.join root path) = .ok (registration.encoding.encode
          ((settings.renderHeader? registration.id.generator).elim "" (· ++ "\n") ++ text)) := by
  intro request reply result
  refine ⟨fun _ => outcome_emit_iff, fun path written => ?_, fun unwritten => ?_, ?_, ?_⟩
  · obtain ⟨buffer, ⟨context, finished, placed⟩, replaces⟩ :=
      (registration.writes_emit root settings forced source site).1 path written
    exact ⟨context, buffer, finished, placed, replaces, readBytes_of_written written finished⟩
  · refine (registration.writes_emit root settings forced source site).2 ?_
    rcases emitted : result.2 with error | path | _ | path
    · rfl
    · exact absurd emitted (unwritten path)
    · rfl
    · rfl
  · intro keep context buffer target sourcePath other finished otherwise
    exact emit_congr finished otherwise rfl
  · intro keep context text finished
    refine ⟨fun blank => outcome_of_ends ?_, fun path written => ?_⟩
    · exact ⟨keep, context, _, finished, .inr (.inl (isBlankBehind_append.mpr blank))⟩
    · rw [← headerLine_eq]
      exact readBytes_of_written written finished

/-- Appends a text, and edits all of its context. -/
def appending (text : String) : Generator where
  fileName _ := .ok "Note.txt"
  emit _ request :=
    .finished true ⟨⟨"App.Other"⟩, "Other.cs", "./Custom.txt"⟩ (request.buffer ++ text)

/-- The declaration of a note for the player, by a generator that appends a text. -/
def appendingFor (text : String) : Registration where
  id := TwoTargets.player
  overwrite := false
  encoding := .utf16Little
  outputName :=
    { base := "Note", target := "Player", generator := some "Note", extension := ".txt" }
  generator := appending text

/-- Settings with a header that names the generator. -/
def headed : Settings where
  header := some "// \x7bgenerator\x7d"

/-- The text that starts like the header is appended to it and written to where the generator put
it; blanks are not written. -/
theorem emission_outcomes_note :
    let site : Site := { files.top := .directory [("p", .directory [])] }
    let noted := (appendingFor "// Note\nseen\n").emit "p" headed false "Player.cs" site
    noted.2 = .ok (.written "Custom.txt") ∧
      noted.1.files.readBytes "p/Custom.txt"
        = .ok (Encoding.utf16Little.encode "// Note\n// Note\nseen\n") ∧
      ((appendingFor " \n").emit "p" headed false "Player.cs" site).2 = .ok .discarded := by
  intro site noted
  obtain ⟨outcome, _, _, _, appended⟩ :=
    emission_outcomes (appendingFor "// Note\nseen\n") "p" headed false "Player.cs" site
  have written : noted.2 = .ok (.written "Custom.txt") := by
    refine (outcome _).mpr ⟨_, ⟨_, rfl, isBlankBehind_append.not.mpr ?_, ?_, ?_⟩, ?_, ?_⟩
    · exact fun blank => absurd (List.all_eq_true.mpr blank) (by decide)
    · decide
    · decide
    · exact fun bars => absurd bars.2.2 (by decide)
    · decide
  refine ⟨written, ?_, ?_⟩
  · have text : (headed.renderHeader? (appendingFor "").id.generator).elim "" (· ++ "\n")
        ++ "// Note\nseen\n" = "// Note\n// Note\nseen\n" := by decide
    have path : FilePath.join "p" "Custom.txt" = "p/Custom.txt" := by decide
    rw [← text, ← path]
    exact (appended true _ _ rfl).2 "Custom.txt" written
  · obtain ⟨_, _, _, _, blank⟩ :=
      emission_outcomes (appendingFor " \n") "p" headed false "Player.cs" site
    exact (blank true _ _ rfl).1 (List.all_eq_true.mp (by decide))

end Registration

end SourceGen
