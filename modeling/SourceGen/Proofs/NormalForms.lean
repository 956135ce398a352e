import SourceGen.Proofs.Batch.Collecting
import SourceGen.Proofs.Manifest.Names
import SourceGen.Proofs.OutputPaths

/-!
# The normal form of a normal form

`SourcePath.normalize` trims a path once, before it takes `./` off its front. What stands behind
the last `./` may be a blank, and that blank is then the first character of the normal form, which a
second normalization would trim. So the normal form of a path is its own normal form exactly when
the path hides no blank behind its leading `./` (`SourcePath.HidesBlank`).

The engine keeps the outputs that wait for their reimport under their normal forms, and compares
them with the normal form of what it is notified of. An output whose path hides a blank is
therefore not recognised when the host tells the engine of exactly the path whose reimport was
requested.
-/

namespace SourceGen

namespace SourcePath

/-- A text that is `./` a number of times over. -/
def dotSlashes (count : Nat) : List Char :=
  (List.replicate count ['.', '/']).flatten

/-- The trimmed path has a blank behind its leading `./`, written with either slash. -/
def HidesBlank (path : String) : Prop :=
  ∃ count c rest, Text.isBlank c = true ∧
    ((Text.trim path.toList).map fun c => if c = '\\' then '/' else c)
      = dotSlashes count ++ c :: rest

/-! ## Leading dots and slashes -/

lemma dropDotSlashes_append (count : Nat) (rest : List Char) :
    dropDotSlashes (dotSlashes count ++ rest) = dropDotSlashes rest := by
  induction count with
  | zero => rfl
  | succ count ih => exact ih

/-- All that is taken off the front is `./` a number of times over. -/
lemma eq_dotSlashes_append (path : List Char) :
    ∃ count, path = dotSlashes count ++ dropDotSlashes path := by
  fun_induction dropDotSlashes path with
  | case1 rest ih =>
    obtain ⟨count, whole⟩ := ih
    refine ⟨count + 1, ?_⟩
    rw [show dotSlashes (count + 1) = '.' :: '/' :: dotSlashes count from rfl, List.cons_append,
      List.cons_append, ← whole]
  | case2 path _ => exact ⟨0, rfl⟩

lemma dropDotSlashes_idem (path : List Char) :
    dropDotSlashes (dropDotSlashes path) = dropDotSlashes path := by
  fun_induction dropDotSlashes path with
  | case1 rest ih => exact ih
  | case2 path other =>
    rw [dropDotSlashes_eq_self_iff]
    rintro ⟨rest, rfl⟩
    exact other rest rfl

/-! ## What a normal form is like -/

/-- The blank that a path hides comes to stand at the front of its normal form. -/
lemma hidesBlank_iff {path : String} :
    HidesBlank path ↔ ∃ c, (normalizeChars path.toList).head? = some c ∧ Text.isBlank c = true := by
  constructor
  · rintro ⟨count, c, rest, blank, whole⟩
    have other : c ≠ '.' := by
      rintro rfl
      exact absurd blank (by decide)
    have kept : dropDotSlashes (c :: rest) = c :: rest := by
      rw [dropDotSlashes_eq_self_iff]
      rintro ⟨_, same⟩
      exact other (List.cons.inj same).1.symm
    refine ⟨c, ?_, blank⟩
    rw [normalizeChars, whole, dropDotSlashes_append, kept, List.head?_cons]
  · rintro ⟨c, first, blank⟩
    obtain ⟨count, whole⟩ :=
      eq_dotSlashes_append ((Text.trim path.toList).map fun c => if c = '\\' then '/' else c)
    obtain ⟨rest, normal⟩ := List.head?_eq_some_iff.mp first
    rw [← normalizeChars, normal] at whole
    exact ⟨count, c, rest, blank, whole⟩

lemma backslash_not_mem_normalizeChars (path : List Char) : '\\' ∉ normalizeChars path := by
  intro listed
  obtain ⟨c, _, swapped⟩ := List.mem_map.mp ((dropDotSlashes_suffix _).subset listed)
  split at swapped
  · cases swapped
  · next other => exact other swapped

/-- A normal form does not end in a blank. -/
lemma isBlank_of_getLast?_normalizeChars {path : List Char} {c : Char}
    (last : (normalizeChars path).getLast? = some c) : Text.isBlank c = false := by
  obtain ⟨front, whole⟩ :=
    dropDotSlashes_suffix ((Text.trim path).map fun c => if c = '\\' then '/' else c)
  rw [← normalizeChars] at whole
  have swapped := congrArg List.getLast? whole
  rw [List.getLast?_append, last, Option.some_or, List.getLast?_map] at swapped
  obtain ⟨d, ends, same⟩ := Option.map_eq_some_iff.mp swapped.symm
  split at same
  · rw [← same]
    decide
  · rw [← same]
    exact Text.isBlank_of_getLast?_trim ends

/-- What a normal form may lack is a trimmed front, and nothing else. -/
lemma normalize_normalize_iff {path : String} :
    normalize (normalize path) = normalize path ↔ ¬HidesBlank path := by
  have noDot : ¬ ['.', '/'] <+: normalizeChars path.toList :=
    dropDotSlashes_eq_self_iff.mp (dropDotSlashes_idem _)
  rw [normalize_eq_self_iff, normalize, String.toList_ofList, normalizeChars_eq_self_iff,
    Text.trim_eq_self_iff, hidesBlank_iff, not_exists]
  constructor
  · rintro ⟨⟨first, _⟩, _⟩ c ⟨head, blank⟩
    rw [first c head] at blank
    cases blank
  · intro shows
    refine ⟨⟨fun c head => ?_, fun c last => isBlank_of_getLast?_normalizeChars last⟩,
      backslash_not_mem_normalizeChars _, noDot⟩
    exact Bool.eq_false_iff.mpr fun blank => shows c ⟨head, blank⟩

/-! ## Outputs that wait -/

/-- The notification of a path that waits takes it off, unless it has another normal form. -/
lemma mem_suppressed_gathered_self {H : Type} {session : Session H} {path : String}
    (named : path ≠ "") (waits : path ∈ session.engine.suppressed) :
    path ∈ (Batch.gathered session [path] false).engine.suppressed ↔ normalize path ≠ path := by
  have absorbs : (Batch.start session false).absorbs path = true :=
    Batch.absorbs_start.mpr ⟨rfl, waits⟩
  rw [Batch.suppressed_gathered, Batch.absorbed_gathered, OrderedSet.mem_eraseAll,
    and_iff_right waits, List.mem_filter, and_iff_left absorbs, Batch.mem_distinctPaths,
    and_iff_right named]
  simp only [List.mem_singleton, exists_eq_left, ne_eq]

/-- **A second normalization changes a path just when it hides a blank.** The normal form of a path
is its own normal form unless a blank stands behind the leading `./` of the trimmed path. Where one
does, an output that waits under that normal form goes on waiting when an unforced batch is notified
of it, and it is taken off where none does. -/
theorem normalize_twice (path : String) :
    (normalize (normalize path) = normalize path ↔ ¬HidesBlank path) ∧
      ∀ {H : Type} (session : Session H), normalize path ≠ "" →
        normalize path ∈ session.engine.suppressed →
        (normalize path ∈ (Batch.gathered session [normalize path] false).engine.suppressed ↔
          HidesBlank path) := by
  refine ⟨normalize_normalize_iff, fun session named waits => ?_⟩
  rw [mem_suppressed_gathered_self named waits, ne_eq, normalize_normalize_iff, not_not]

/-- `./ note` hides a blank, so a note that waits as ` note` is not recognised under its own
name. -/
theorem normalize_twice_note :
    let project := TwoTargets.project.session
    let session : Session DirectoryHost :=
      ⟨{ project.engine with suppressed := .ofList [" note"] }, project.world⟩
    normalize "./ note" = " note" ∧
      " note" ∈ (Batch.gathered session [" note"] false).engine.suppressed := by
  intro project session
  have normal : normalize "./ note" = " note" := by decide +kernel
  have hides : HidesBlank "./ note" := ⟨1, ' ', "note".toList, by decide, by decide +kernel⟩
  have waits : normalize "./ note" ∈ session.engine.suppressed := by decide +kernel
  have stays := ((normalize_twice "./ note").2 session (by decide +kernel) waits).mpr hides
  rw [normal] at stays
  exact ⟨normal, stays⟩

/-- The normal form of `./ note` is not its own normal form. -/
theorem normalize_twice_differs : normalize (normalize "./ note") ≠ normalize "./ note" := by
  decide +kernel

end SourcePath

end SourceGen
