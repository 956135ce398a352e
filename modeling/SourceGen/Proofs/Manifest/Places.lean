import Mathlib.Data.List.TakeWhile
import Mathlib.Tactic.Lemma
import SourceGen.Manifest.Span

/-!
# Where a quoted value is found

A value is looked for between quotes from left to right. What is known of the text before, between
and behind its quotes says where it is found: a text without quotes is passed over
(`Text.occurrencesFrom_append`), and a line that ends in a quoted name is a place of the value just
when the name is the value (`Text.occurrencesFrom_line`). The closing quote of a name could open a
place as well; it does not, since the line ends behind it and the value holds no line end.

The places come in ascending order (`Text.pairwise_occurrences`), so where only one kind of quotes
is used, sorting them changes nothing (`Span.ofValue_eq_ofQuote`).
-/

namespace SourceGen

namespace Text

/-! ## Passing over -/

lemma occurrencesFrom_skip (pattern passed rest : List Char) (offset : Nat) :
    occurrencesFrom pattern offset passed.length (passed ++ rest)
      = occurrencesFrom pattern (offset + byteLength passed) 0 rest := by
  induction passed generalizing offset with
  | nil => rfl
  | cons c more ih =>
    rw [List.cons_append, List.length_cons, occurrencesFrom, ih, byteLength, Nat.add_assoc]

/-- A text without the first character of the pattern is passed over. -/
lemma occurrencesFrom_append {q : Char} {pattern passed : List Char} (plain : q ∉ passed)
    (rest : List Char) (offset : Nat) :
    occurrencesFrom (q :: pattern) offset 0 (passed ++ rest)
      = occurrencesFrom (q :: pattern) (offset + byteLength passed) 0 rest := by
  induction passed generalizing offset with
  | nil => rfl
  | cons c more ih =>
    obtain ⟨other, plain⟩ : q ≠ c ∧ q ∉ more := by simpa using plain
    rw [List.cons_append, occurrencesFrom, if_neg (by simp [other]), ih plain, byteLength,
      Nat.add_assoc]

/-! ## A line with a quoted name -/

/-- The text in front of the first separator is told by the whole. -/
lemma takeWhile_append_sep {q : Char} {text : List Char} (plain : q ∉ text) (rest : List Char) :
    (text ++ q :: rest).takeWhile (· ≠ q) = text := by
  have passed : ∀ c ∈ text, decide (c ≠ q) = true := fun c listed =>
    decide_eq_true (ne_of_mem_of_not_mem listed plain)
  rw [List.takeWhile_append_of_pos passed, List.takeWhile_cons_of_neg (by simp), List.append_nil]

/-- A value in quotes is read off a name in quotes only if the two are the same. -/
lemma quoted_isPrefixOf_iff {q : Char} {value name : List Char} (plainValue : q ∉ value)
    (plainName : q ∉ name) (rest : List Char) :
    (q :: (value ++ [q])).isPrefixOf (q :: (name ++ q :: rest)) = true ↔ name = value := by
  rw [List.isPrefixOf_iff_prefix, List.prefix_cons_inj]
  constructor
  · rintro ⟨more, same⟩
    rw [List.append_assoc, List.singleton_append] at same
    rw [← takeWhile_append_sep plainName rest, ← same, takeWhile_append_sep plainValue]
  · rintro rfl
    exact ⟨rest, by simp⟩

/-- The quote at the end of a line opens no place of a value that holds no line end. -/
lemma not_quoted_isPrefixOf_end {q : Char} {value : List Char} (proper : q ≠ '\n')
    (flat : '\n' ∉ value) (rest : List Char) :
    ¬ (q :: (value ++ [q])).isPrefixOf (q :: '\n' :: rest) = true := by
  rw [List.isPrefixOf_iff_prefix, List.prefix_cons_inj]
  intro opens
  cases value with
  | nil => exact proper (List.cons_prefix_cons.mp opens).1
  | cons c more => exact flat (List.mem_cons.mpr (.inl (List.cons_prefix_cons.mp opens).1.symm))

/-- A line that ends in a quoted name is a place of that name, and of no other. -/
lemma occurrencesFrom_line {q : Char} {value front name : List Char} (proper : q ≠ '\n')
    (flat : '\n' ∉ value) (plainValue : q ∉ value) (plainFront : q ∉ front) (plainName : q ∉ name)
    (rest : List Char) (offset : Nat) :
    occurrencesFrom (q :: (value ++ [q])) offset 0 (front ++ q :: (name ++ q :: '\n' :: rest))
      = (if name = value then [offset + byteLength front] else [])
        ++ occurrencesFrom (q :: (value ++ [q]))
          (offset + byteLength (front ++ q :: (name ++ [q, '\n']))) 0 rest := by
  have ended : q ∉ ['\n'] := by simpa using proper
  have size : byteLength (front ++ q :: (name ++ [q, '\n']))
      = byteLength front + q.utf8Size + byteLength name + q.utf8Size + byteLength ['\n'] := by
    simp only [byteLength_append, byteLength]
    omega
  rw [occurrencesFrom_append plainFront, occurrencesFrom]
  by_cases same : name = value
  · rw [if_pos same, if_pos ((quoted_isPrefixOf_iff plainValue plainName _).mpr same)]
    subst same
    -- The rest of the place is the name with its closing quote.
    have skipped := occurrencesFrom_skip (q :: (name ++ [q])) (name ++ [q]) (['\n'] ++ rest)
      (offset + byteLength front + q.utf8Size)
    rw [occurrencesFrom_append ended, List.append_assoc] at skipped
    rw [List.singleton_append, List.cons_inj_right]
    refine skipped.trans (congrArg (occurrencesFrom _ · 0 rest) ?_)
    rw [size, byteLength_append]
    simp only [byteLength]
    omega
  · have apart := mt (quoted_isPrefixOf_iff plainValue plainName ('\n' :: rest)).mp same
    rw [if_neg same, if_neg apart, List.nil_append, occurrencesFrom_append plainName,
      occurrencesFrom, if_neg (not_quoted_isPrefixOf_end proper flat rest), size]
    refine (occurrencesFrom_append ended rest _).trans (congrArg (occurrencesFrom _ · 0 rest) ?_)
    omega

/-! ## The order of the places -/

/-- The places are at the offset or behind it, each behind the one before. -/
lemma occurrencesFrom_ascending (pattern : List Char) (offset skip : Nat) (text : List Char) :
    (∀ place ∈ occurrencesFrom pattern offset skip text, offset ≤ place) ∧
      (occurrencesFrom pattern offset skip text).Pairwise (· < ·) := by
  fun_induction occurrencesFrom pattern offset skip text with
  | case1 => exact ⟨nofun, .nil⟩
  | case2 offset skip c rest ih =>
    exact ⟨fun place listed => Nat.le_of_add_right_le (ih.1 place listed), ih.2⟩
  | case3 offset c rest here ih =>
    have behind : ∀ place ∈ occurrencesFrom pattern (offset + c.utf8Size) (pattern.length - 1) rest,
        offset < place := fun place listed =>
      Nat.lt_of_lt_of_le (Nat.lt_add_of_pos_right c.utf8Size_pos) (ih.1 place listed)
    exact ⟨List.forall_mem_cons.mpr ⟨Nat.le_refl offset,
      fun place listed => (behind place listed).le⟩,
      .cons behind ih.2⟩
  | case4 offset c rest _ ih =>
    exact ⟨fun place listed => Nat.le_of_add_right_le (ih.1 place listed), ih.2⟩

/-- The places of a pattern are found in ascending order. -/
theorem pairwise_occurrences (pattern text : List Char) :
    (occurrences pattern text).Pairwise (· < ·) :=
  (occurrencesFrom_ascending pattern 0 0 text).2

end Text

namespace Span

/-- A place goes behind all that begin no later. -/
lemma insert_of_le {span : Span} {sorted : List Span}
    (behind : ∀ other ∈ sorted, other.offset ≤ span.offset) :
    insert span sorted = sorted ++ [span] := by
  induction sorted with
  | nil => rfl
  | cons other rest ih =>
    obtain ⟨first, later⟩ := List.forall_mem_cons.mp behind
    rw [insert, if_neg (Nat.not_lt.mpr first), ih later, List.cons_append]

lemma foldl_insert_of_ascending {sorted spans : List Span}
    (ascending : (sorted ++ spans).Pairwise fun one other => one.offset ≤ other.offset) :
    spans.foldl (fun sorted span => insert span sorted) sorted = sorted ++ spans := by
  induction spans generalizing sorted with
  | nil => exact (List.append_nil sorted).symm
  | cons span rest ih =>
    have behind : ∀ other ∈ sorted, other.offset ≤ span.offset := fun other listed =>
      (List.pairwise_append.mp ascending).2.2 other listed span List.mem_cons_self
    have whole : sorted ++ span :: rest = (sorted ++ [span]) ++ rest := by simp
    rw [List.foldl_cons, insert_of_le behind, whole]
    exact ih (whole ▸ ascending)

/-- Where no single quotes are used, the places are those between double quotes. -/
theorem ofValue_eq_ofQuote {source : String} (plain : '\'' ∉ source.toList) (value : String) :
    ofValue source value = ofQuote source.toList value.toList '"' := by
  have none : ofQuote source.toList value.toList '\'' = [] := by
    have passed : Text.occurrencesFrom ('\'' :: (value.toList ++ ['\''])) 0 0 (source.toList ++ [])
        = [] :=
      Text.occurrencesFrom_append plain [] 0
    rw [List.append_nil] at passed
    exact congrArg (List.map _) passed
  have ascending : (ofQuote source.toList value.toList '"').Pairwise fun one other =>
    one.offset ≤ other.offset :=
    List.pairwise_map.mpr ((Text.pairwise_occurrences _ _).imp fun less => Nat.succ_le_succ less.le)
  rw [ofValue, none, List.append_nil]
  exact foldl_insert_of_ascending ascending

end Span

end SourceGen
