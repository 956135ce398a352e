import Mathlib.Tactic.Lemma
import SourceGen.Emit

/-!
# Emissions by their replies

An emission asks its generator once, and goes by the reply. Unless the generator has failed, either
nothing is left to be written (`Reply.Discards`), or one buffer is, for one project path
(`Reply.Leaves`); and then the emission is one `Registration.persist` of them. What is shown of
emissions elsewhere goes by these cases (`Registration.emit_cases`).

The header line is told from the rest of the final buffer by comparing their beginnings. For a
generator that only appends, this takes off the header that it was given and nothing of its own,
even if what it appends starts with the header once more (`isBlankBehind_append`).
-/

namespace SourceGen

/-! ## Behind the header -/

/-- Nothing but blanks is left of the buffer once the header is off its front. A buffer that does
not start with the header is looked at as a whole. -/
def IsBlankBehind (header buffer : String) : Prop :=
  ∃ body, (buffer = header ++ body ∨ ¬ header.toList <+: buffer.toList ∧ buffer = body) ∧
    ∀ c ∈ body.toList, Text.isBlank c = true

/-- Behind a header stands what was appended to it. -/
lemma isBlankBehind_append {header text : String} :
    IsBlankBehind header (header ++ text) ↔ ∀ c ∈ text.toList, Text.isBlank c = true := by
  constructor
  · rintro ⟨body, same | ⟨apart, _⟩, blank⟩
    · rwa [(String.append_right_inj header).mp same]
    · exact absurd (String.toList_append ▸ List.prefix_append _ _) apart
  · exact fun blank => ⟨text, .inl rfl, blank⟩

lemma Registration.isVoid_iff {header buffer : String} :
    isVoid header buffer = true ↔ IsBlankBehind header buffer := by
  rw [isVoid, Text.isBlankText]
  cases left : Text.dropPrefix? header.toList buffer.toList with
  | some body =>
    have front := Text.dropPrefix?_eq_some_iff.mp left
    obtain rfl : buffer = header ++ String.ofList body := by
      rw [← String.toList_inj, front, String.toList_append, String.toList_ofList]
    rw [isBlankBehind_append, String.toList_ofList]
    exact List.all_eq_true
  | none =>
    have apart : ¬ header.toList <+: buffer.toList := by
      rintro ⟨body, front⟩
      rw [Text.dropPrefix?_eq_some_iff.mpr front.symm] at left
      cases left
    rw [Option.getD_none, List.all_eq_true]
    constructor
    · exact fun blank => ⟨buffer, .inr ⟨apart, rfl⟩, blank⟩
    · rintro ⟨body, rfl | ⟨_, rfl⟩, blank⟩
      · exact absurd (String.toList_append ▸ List.prefix_append _ _) apart
      · exact blank

/-! ## What a reply leaves to be written -/

namespace Reply

/-- The generator finished, and nothing is to be written: it declined, there are only blanks behind
the header, or no output path is left. -/
def Discards (header : String) (reply : Reply) : Prop :=
  ∃ keep context buffer, reply = .finished keep context buffer ∧
    (keep = false ∨ IsBlankBehind header buffer ∨ SourcePath.normalize context.outputPath = "")

/-- The generator finished, and this buffer is to be written to this project path. -/
def Leaves (header : String) (reply : Reply) (path buffer : String) : Prop :=
  ∃ context, reply = .finished true context buffer ∧ ¬ IsBlankBehind header buffer ∧
    path = SourcePath.normalize context.outputPath ∧ path ≠ ""

lemma discards_or_leaves (header : String) (keep : Bool) (context : EmissionContext)
    (buffer : String) :
    (finished keep context buffer).Discards header ∨
      (finished keep context buffer).Leaves header (SourcePath.normalize context.outputPath)
        buffer := by
  by_cases nothing : keep = false ∨ IsBlankBehind header buffer ∨
    SourcePath.normalize context.outputPath = ""
  · exact .inl ⟨keep, context, buffer, rfl, nothing⟩
  · obtain ⟨kept, filled, placed⟩ := by simpa only [not_or] using nothing
    obtain rfl : keep = true := Bool.not_eq_false keep ▸ kept
    exact .inr ⟨context, rfl, filled, rfl, placed⟩

end Reply

namespace Registration

/-! ## The write at the end -/

section

variable (registration : Registration) (root : String) (forced : Bool) (files : FileSystem)
  (path buffer : String)

/-- What the overwrite policy of a declaration comes to in a batch. -/
def policy : Overwrite :=
  if registration.overwrite || forced then .always else .ifMissing

lemma files_persist : (registration.persist root forced files path buffer).1
    = (files.writeUnless (FilePath.join root path) buffer registration.encoding
      (registration.policy forced)).1 := by
  rw [persist, policy]
  rcases files.writeUnless _ _ _ _ with ⟨after, error | _ | _⟩ <;> rfl

lemma persist_eq_written_iff (other : String) :
    (registration.persist root forced files path buffer).2 = .ok (.written other) ↔
      other = path ∧ (files.writeUnless (FilePath.join root path) buffer registration.encoding
        (registration.policy forced)).2 = .ok .written := by
  rw [persist, policy]
  rcases files.writeUnless _ _ _ _ with ⟨after, error | _ | _⟩ <;> simp [eq_comm]

end

/-! ## The emission -/

section

variable (registration : Registration) (settings : Settings) (source : String) (site : Site)

/-- The site once the generator has been asked. -/
def askedOn : Site :=
  { site with emissions := registration.request settings source :: site.emissions }

/-- The reply to the request. -/
def reply : Reply :=
  registration.generator.emit site.emissions (registration.request settings source)

end

section

variable {registration : Registration} {settings : Settings} {source : String} {site : Site}
  (root : String) (forced : Bool)

lemma emit_of_panicked {panic : Panic}
    (panicked : registration.reply settings source site = .panicked panic) :
    registration.emit root settings forced source site
      = (registration.askedOn settings source site, .error (.panicked panic)) := by
  rw [reply] at panicked
  rw [emit, panicked]
  rfl

lemma emit_of_failed {chain : List String}
    (failed : registration.reply settings source site = .failed chain) :
    registration.emit root settings forced source site
      = (registration.askedOn settings source site,
        .error (.failed registration.id.generator chain)) := by
  rw [reply] at failed
  rw [emit, failed]
  rfl

lemma emit_of_discards
    (discards : (registration.reply settings source site).Discards
      (registration.headerLine settings)) :
    registration.emit root settings forced source site
      = (registration.askedOn settings source site, .ok .discarded) := by
  obtain ⟨keep, context, buffer, finished, nothing⟩ := discards
  rw [reply] at finished
  rw [emit, finished]
  dsimp only
  rw [if_pos ?_]
  · rfl
  · rw [Bool.or_eq_true, Bool.or_eq_true, Bool.not_eq_true', isVoid_iff, String.isEmpty_iff,
      or_assoc]
    exact nothing

lemma emit_of_leaves {path buffer : String}
    (leaves : (registration.reply settings source site).Leaves (registration.headerLine settings)
      path buffer) :
    registration.emit root settings forced source site
      = ({ registration.askedOn settings source site with
            files := (registration.persist root forced site.files path buffer).1 },
          (registration.persist root forced site.files path buffer).2) := by
  obtain ⟨context, finished, filled, rfl, placed⟩ := leaves
  rw [reply] at finished
  rw [emit, finished]
  dsimp only
  rw [if_neg ?_]
  · rfl
  · rw [Bool.or_eq_true, Bool.or_eq_true, isVoid_iff, String.isEmpty_iff]
    simp [filled, placed]

end

/-- **An emission fails or is discarded, with nothing but the request on record, or it is one
write.** -/
theorem emit_cases (registration : Registration) (root : String) (settings : Settings)
    (forced : Bool) (source : String) (site : Site) :
    let result := registration.emit root settings forced source site
    (∃ error, result = (registration.askedOn settings source site, .error error)) ∨
      result = (registration.askedOn settings source site, .ok .discarded) ∨
      ∃ path buffer,
        (registration.reply settings source site).Leaves (registration.headerLine settings)
          path buffer ∧
          result = ({ registration.askedOn settings source site with
              files := (registration.persist root forced site.files path buffer).1 },
            (registration.persist root forced site.files path buffer).2) := by
  cases replied : registration.reply settings source site with
  | panicked panic => exact .inl ⟨_, emit_of_panicked root forced replied⟩
  | failed chain => exact .inl ⟨_, emit_of_failed root forced replied⟩
  | finished keep context buffer =>
    have either := Reply.discards_or_leaves (registration.headerLine settings) keep context buffer
    rw [← replied] at either ⊢
    obtain discards | leaves := either
    · exact .inr (.inl (emit_of_discards root forced discards))
    · exact .inr (.inr ⟨_, _, leaves, emit_of_leaves root forced leaves⟩)

end Registration

end SourceGen
