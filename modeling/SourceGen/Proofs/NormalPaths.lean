import SourceGen.Proofs.Text.Trimming
import SourceGen.SourcePath

/-!
# Paths in normal form

A path is in normal form when `SourcePath.normalize` leaves it as it is: it has no blank at either
end, no backslash, and no dot and slash in front (`SourcePath.normalizeChars_eq_self_iff`). What is
asked of the front is settled before the first slash that has something in front of it. So what
follows such a slash can be exchanged for any other text without backslashes, and normalizing then
trims the end of the path and does nothing else (`SourcePath.normalizeChars_append`).
-/

namespace SourceGen.SourcePath

lemma dropDotSlashes_suffix (path : List Char) : dropDotSlashes path <:+ path := by
  fun_induction dropDotSlashes path with
  | case1 rest ih => exact ih.trans ⟨['.', '/'], rfl⟩
  | case2 path _ => exact List.suffix_rfl

lemma dropDotSlashes_eq_self_iff {path : List Char} :
    dropDotSlashes path = path ↔ ¬ ['.', '/'] <+: path := by
  unfold dropDotSlashes
  split
  · next rest =>
    refine iff_of_false (fun same => ?_) fun apart => apart ⟨rest, rfl⟩
    have shorter := (dropDotSlashes_suffix rest).length_le
    rw [same, List.length_cons, List.length_cons] at shorter
    omega
  · next other =>
    refine iff_of_true rfl ?_
    rintro ⟨rest, rfl⟩
    exact other rest rfl

lemma map_slash_eq_self_iff {text : List Char} :
    text.map (fun c => if c = '\\' then '/' else c) = text ↔ '\\' ∉ text := by
  induction text with
  | nil => simp
  | cons c rest ih =>
    rw [List.map_cons, List.cons.injEq, ih, List.mem_cons, not_or]
    refine and_congr_left fun _ => ?_
    split
    · next same => simp [same]
    · next other => simpa using Ne.symm other

/-- A path is in normal form when it has no blanks at its ends, no backslash, and no dot and slash
in front. -/
lemma normalizeChars_eq_self_iff {path : List Char} :
    normalizeChars path = path ↔ Text.trim path = path ∧ '\\' ∉ path ∧ ¬ ['.', '/'] <+: path := by
  constructor
  · intro normal
    have dropped :=
      dropDotSlashes_suffix ((Text.trim path).map fun c => if c = '\\' then '/' else c)
    rw [← normalizeChars, normal] at dropped
    have trimmed : Text.trim path = path := by
      have shorter : path.length ≤ (Text.trim path).length := by simpa using dropped.length_le
      have right := Text.trim_prefix path
      have left : Text.trimLeft path <:+ path := List.dropWhile_suffix Text.isBlank
      have same := left.eq_of_length
        (Nat.le_antisymm left.length_le (Nat.le_trans shorter right.length_le))
      rw [same] at right
      exact right.eq_of_length (Nat.le_antisymm right.length_le shorter)
    rw [trimmed] at dropped
    have plain := dropped.eq_of_length (by simp)
    refine ⟨trimmed, map_slash_eq_self_iff.mp plain.symm, ?_⟩
    rw [normalizeChars, trimmed, ← plain] at normal
    exact dropDotSlashes_eq_self_iff.mp normal
  · rintro ⟨trimmed, plain, first⟩
    rw [normalizeChars, trimmed, map_slash_eq_self_iff.mpr plain,
      dropDotSlashes_eq_self_iff.mpr first]

lemma normalize_eq_self_iff {path : String} :
    normalize path = path ↔ normalizeChars path.toList = path.toList := by
  rw [normalize, ← String.toList_inj, String.toList_ofList]

/-- A normal form may go on in another way behind a slash: normalizing trims the end of what follows
there, and nothing else. -/
lemma normalizeChars_append {source front rest : List Char}
    (normal : normalizeChars source = source) (within : front ++ ['/'] <+: source)
    (filled : front ≠ []) (flat : '\\' ∉ rest) :
    normalizeChars (front ++ '/' :: rest) = front ++ '/' :: Text.trimRight rest := by
  obtain ⟨trimmed, flatSource, noDot⟩ := normalizeChars_eq_self_iff.mp normal
  obtain ⟨first, _⟩ := Text.trim_eq_self_iff.mp trimmed
  have starts : ∀ c, (front ++ '/' :: rest).head? = some c → Text.isBlank c = false := by
    intro c head
    obtain ⟨d, more, rfl⟩ := List.exists_cons_of_ne_nil filled
    obtain ⟨_, rfl⟩ := within
    exact first c head
  have trimmed : Text.trim (front ++ '/' :: rest) = front ++ '/' :: Text.trimRight rest := by
    rw [Text.trim, Text.trimLeft_eq_self starts, Text.trimRight_append (by decide)]
  have flatWhole : '\\' ∉ front ++ '/' :: Text.trimRight rest := by
    have inFront : '\\' ∉ front :=
      fun listed => flatSource (within.subset (List.mem_append_left _ listed))
    have inRest : '\\' ∉ Text.trimRight rest :=
      fun listed => flat ((Text.trimRight_prefix rest).subset listed)
    exact List.not_mem_append inFront (List.not_mem_cons_of_ne_of_not_mem (by decide) inRest)
  have noDotWhole : ¬ ['.', '/'] <+: front ++ '/' :: Text.trimRight rest := by
    intro dotted
    have upTo : front ++ ['/'] <+: front ++ '/' :: Text.trimRight rest :=
      (List.prefix_append_right_inj front).mpr (List.prefix_append ['/'] _)
    have long : ['.', '/'].length ≤ (front ++ ['/']).length := by
      have some := List.length_pos_iff.mpr filled
      rw [List.length_append]
      exact Nat.succ_le_succ some
    exact noDot ((List.prefix_of_prefix_length_le dotted upTo long).trans within)
  rw [normalizeChars, trimmed, map_slash_eq_self_iff.mpr flatWhole,
    dropDotSlashes_eq_self_iff.mpr noDotWhole]

end SourceGen.SourcePath
