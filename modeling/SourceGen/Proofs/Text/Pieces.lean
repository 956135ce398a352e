import Mathlib.Tactic.Lemma
import SourceGen.Text.Split

/-!
# The parts of a text

`Text.pieces` cuts a text at every separator, as the library's `List.splitOnP` does, and the text
behind the last separator (`Text.afterLast`) is the last of its parts.
-/

namespace SourceGen.Text

lemma forall_ne_of_not_mem {sep : Char} {text : List Char} (plain : sep ∉ text) :
    ∀ c ∈ text, decide (c = sep) = false :=
  fun _ listed => decide_eq_false (ne_of_mem_of_not_mem listed plain)

/-- Cutting at separators is what the library knows as splitting a list. -/
lemma pieces_eq_splitOnP (sep : Char → Bool) (text : List Char) :
    pieces sep text = text.splitOnP sep := by
  induction text with
  | nil => rfl
  | cons c rest ih =>
    rw [pieces, List.splitOnP_cons_eq_if_modifyHead, ih]
    by_cases separates : sep c = true
    · rw [if_pos separates, if_pos separates]
    · rw [if_neg separates, if_neg separates]
      cases cut : rest.splitOnP sep with
      | nil => exact absurd (ih.trans cut) (pieces_ne_nil sep rest)
      | cons first others => rfl

lemma pieces_eq_splitOn (sep : Char) (text : List Char) :
    pieces (· = sep) text = text.splitOn sep :=
  pieces_eq_splitOnP _ text

lemma pieces_append {sep : Char → Bool} {c : Char} (separates : sep c = true)
    (front rest : List Char) :
    pieces sep (front ++ c :: rest) = pieces sep front ++ pieces sep rest := by
  simp only [pieces_eq_splitOnP]
  exact List.splitOnP_append_cons front rest separates

lemma pieces_of_plain {sep : Char → Bool} {text : List Char} (plain : ∀ c ∈ text, sep c = false) :
    pieces sep text = [text] := by
  rw [pieces_eq_splitOnP]
  exact List.splitOnP_eq_singleton plain

/-! ## The last part -/

lemma afterLast_eq_self {sep : Char → Bool} {text : List Char}
    (absent : ∀ c ∈ text, sep c = false) :
    afterLast sep text = text := by
  cases text with
  | nil => rfl
  | cons c rest =>
    have later : rest.any sep = false := by
      simpa using fun d here => absent d (List.mem_cons_of_mem c here)
    rw [afterLast, later, absent c List.mem_cons_self]
    rfl

/-- Only the characters of the text need to be told apart. -/
lemma afterLast_congr {sep other : Char → Bool} {text : List Char}
    (alike : ∀ c ∈ text, sep c = other c) :
    afterLast sep text = afterLast other text := by
  induction text with
  | nil => rfl
  | cons c rest ih =>
    have later : ∀ d ∈ rest, sep d = other d :=
      fun d listed => alike d (List.mem_cons_of_mem c listed)
    have same : rest.any sep = rest.any other := by
      rw [Bool.eq_iff_iff, List.any_eq_true, List.any_eq_true]
      exact exists_congr fun d => and_congr_right fun listed => by rw [later d listed]
    rw [afterLast, afterLast, alike c List.mem_cons_self, same, ih later]

lemma exists_last_sep {sep : Char → Bool} {text : List Char} (separated : text.any sep = true) :
    ∃ before c after, text = before ++ c :: after ∧ sep c = true ∧ ∀ d ∈ after, sep d = false := by
  induction text with
  | nil => cases separated
  | cons c rest ih =>
    by_cases later : rest.any sep = true
    · obtain ⟨before, d, after, rfl, separates, plain⟩ := ih later
      exact ⟨c :: before, d, after, rfl, separates, plain⟩
    · have plain : ∀ d ∈ rest, sep d = false := by simpa using later
      have separates : sep c = true := by simpa [later] using separated
      exact ⟨[], c, rest, rfl, separates, plain⟩

lemma getLast?_pieces (sep : Char → Bool) (text : List Char) :
    (pieces sep text).getLast? = some (afterLast sep text) := by
  by_cases separated : text.any sep = true
  · obtain ⟨before, c, after, rfl, separates, plain⟩ := exists_last_sep separated
    rw [pieces_append separates, pieces_of_plain plain, afterLast_append before separates plain,
      List.getLast?_concat]
  · have plain : ∀ c ∈ text, sep c = false := by simpa using separated
    rw [pieces_of_plain plain, afterLast_eq_self plain, List.getLast?_singleton]

end SourceGen.Text
