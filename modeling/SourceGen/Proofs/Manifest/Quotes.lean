import SourceGen.Proofs.Manifest.Places

/-!
# What a place of a value covers

A place is a number of bytes and a length in bytes; what it stands for is a stretch of the source.
A span covers a text (`Span.Covers`) when both of its ends are between two characters and the bytes
from one to the other are those of the text. A text that is cut in three gives such a span
(`Span.covers_append`), and that is how all places arise: the search passes over characters only,
never over a part of one (`Text.append_of_mem_occurrencesFrom`).

The places between double quotes and those between single quotes are each found in order, and none
of the one kind is one of the other, since the quote in front would have to be both
(`Span.disjoint_ofQuote`). Sorting them thus leaves no two in one place (`Span.pairwise_ofValue`).
-/

namespace SourceGen

namespace Text

/-- The number of bytes of a text is its size in UTF-8. -/
lemma utf8ByteSize_ofList (text : List Char) :
    (String.ofList text).utf8ByteSize = byteLength text := by
  induction text with
  | nil => rfl
  | cons c rest ih =>
    rw [String.ofList_cons, String.utf8ByteSize_append, String.utf8ByteSize_singleton, ih,
      byteLength]

/-- Of two cuts of one text in the same place, the parts in front are the same. -/
lemma append_inj_of_byteLength {one other rest more : List Char}
    (whole : one ++ rest = other ++ more) (size : byteLength one = byteLength other) :
    one = other ∧ rest = more := by
  induction one generalizing other with
  | nil =>
    cases other with
    | nil => exact ⟨rfl, whole⟩
    | cons c later =>
      have proper := c.utf8Size_pos
      simp only [byteLength] at size
      omega
  | cons c earlier ih =>
    cases other with
    | nil =>
      have proper := c.utf8Size_pos
      simp only [byteLength] at size
      omega
    | cons d later =>
      obtain ⟨rfl, behind⟩ := List.cons.inj whole
      obtain ⟨rfl, same⟩ := ih behind (Nat.add_left_cancel size)
      exact ⟨rfl, same⟩

/-- Each place that the search finds is a cut of the text, with the pattern behind it. -/
lemma append_of_mem_occurrencesFrom {pattern : List Char} {offset skip : Nat} {text : List Char}
    {place : Nat} (found : place ∈ occurrencesFrom pattern offset skip text) :
    ∃ before after, text = before ++ (pattern ++ after) ∧ place = offset + byteLength before := by
  fun_induction occurrencesFrom pattern offset skip text with
  | case1 => cases found
  | case2 offset skip c rest ih =>
    obtain ⟨before, after, rfl, rfl⟩ := ih found
    exact ⟨c :: before, after, rfl, Nat.add_assoc ..⟩
  | case3 offset c rest here ih =>
    rcases List.mem_cons.mp found with rfl | found
    · obtain ⟨after, whole⟩ := List.isPrefixOf_iff_prefix.mp here
      exact ⟨[], after, whole.symm, rfl⟩
    · obtain ⟨before, after, rfl, rfl⟩ := ih found
      exact ⟨c :: before, after, rfl, Nat.add_assoc ..⟩
  | case4 offset c rest _ ih =>
    obtain ⟨before, after, rfl, rfl⟩ := ih found
    exact ⟨c :: before, after, rfl, Nat.add_assoc ..⟩

/-- A nonempty pattern that stands in the text is found, there or before. -/
lemma occurrencesFrom_ne_nil {pattern : List Char} (proper : pattern ≠ []) (offset : Nat)
    (before after : List Char) :
    occurrencesFrom pattern offset 0 (before ++ (pattern ++ after)) ≠ [] := by
  induction before generalizing offset with
  | nil =>
    obtain ⟨c, more, rfl⟩ := List.exists_cons_of_ne_nil proper
    have here : (c :: more).isPrefixOf (c :: (more ++ after)) = true :=
      List.isPrefixOf_iff_prefix.mpr (List.prefix_append (c :: more) after)
    rw [List.nil_append, List.cons_append, occurrencesFrom, if_pos here]
    exact List.cons_ne_nil _ _
  | cons c rest ih =>
    rw [List.cons_append, occurrencesFrom]
    split
    · exact List.cons_ne_nil _ _
    · exact ih _

end Text

namespace Span

/-! ## Stretches of a source -/

/-- The span is a stretch of the source that reads `text`: it begins and ends between two
characters, and its bytes are those of `text`. -/
structure Covers (span : Span) (source text : String) : Prop where
  starts : String.Pos.Raw.IsValid source ⟨span.offset⟩
  ends : String.Pos.Raw.IsValid source ⟨span.offset + span.length⟩
  bytes : source.toByteArray.extract span.offset (span.offset + span.length) = text.toByteArray

/-- Where a source is cut in three, the middle part is covered. -/
lemma covers_append (before text after : String) :
    Covers ⟨before.utf8ByteSize, text.utf8ByteSize⟩ (before ++ text ++ after) text where
  starts :=
    String.Pos.Raw.isValid_iff_exists_append.mpr ⟨before, text ++ after, String.append_assoc, rfl⟩
  ends := String.Pos.Raw.isValid_iff_exists_append.mpr ⟨before ++ text, after, rfl,
    congrArg String.Pos.Raw.mk String.utf8ByteSize_append.symm⟩
  bytes := by
    have shifted := ByteArray.extract_append_size_add (i := 0) (j := text.toByteArray.size)
      (a := before.toByteArray) (b := text.toByteArray ++ after.toByteArray)
    rw [Nat.add_zero] at shifted
    rw [String.toByteArray_append, String.toByteArray_append, ByteArray.append_assoc]
    exact shifted.trans (ByteArray.extract_append_eq_left rfl)

lemma covers_of_append {source text : String} (before after : List Char) {span : Span}
    (whole : source.toList = before ++ text.toList ++ after)
    (offset : span.offset = Text.byteLength before)
    (length : span.length = Text.byteLength text.toList) : Covers span source text := by
  have cut := covers_append (String.ofList before) text (String.ofList after)
  have parts : String.ofList before ++ text ++ String.ofList after = source := by
    rw [← String.ofList_toList (s := source), whole, String.ofList_append, String.ofList_append,
      String.ofList_toList]
  have size : text.utf8ByteSize = Text.byteLength text.toList := by
    rw [← Text.utf8ByteSize_ofList, String.ofList_toList]
  rwa [parts, Text.utf8ByteSize_ofList, size, ← offset, ← length] at cut

/-- The characters that stand around a value. -/
def quotes : List Char :=
  ['"', '\'']

/-- The span covers the value, and the same quote stands before and behind it. -/
structure IsQuoted (span : Span) (source value : String) : Prop where
  covers : span.Covers source value
  enclosed : ∃ quote ∈ quotes, 0 < span.offset ∧
    Covers ⟨span.offset - 1, 1⟩ source (String.singleton quote) ∧
    Covers ⟨span.offset + span.length, 1⟩ source (String.singleton quote)

/-! ## The places between quotes of one kind -/

section

variable {source value : String} {quote : Char} {span : Span}

/-- The text around a place between quotes. -/
lemma append_of_mem_ofQuote {source value : List Char} (found : span ∈ ofQuote source value quote) :
    ∃ before after, source = before ++ quote :: (value ++ quote :: after) ∧
      span = ⟨Text.byteLength before + 1, Text.byteLength value⟩ := by
  obtain ⟨offset, listed, rfl⟩ := List.mem_map.mp found
  obtain ⟨before, after, whole, rfl⟩ := Text.append_of_mem_occurrencesFrom listed
  exact ⟨before, after, by simp [whole], by rw [Nat.zero_add]⟩

lemma isQuoted_of_mem_ofQuote (known : quote ∈ quotes)
    (found : span ∈ ofQuote source.toList value.toList quote) : span.IsQuoted source value := by
  have narrow : quote.utf8Size = 1 := by
    obtain rfl | rfl : quote = '"' ∨ quote = '\'' := by simpa [quotes] using known
    · rfl
    · rfl
  have single : Text.byteLength (String.singleton quote).toList = 1 := by
    rw [String.toList_singleton, Text.byteLength, Text.byteLength, narrow]
  obtain ⟨before, after, whole, rfl⟩ := append_of_mem_ofQuote found
  refine ⟨?_, quote, known, Nat.succ_pos _, ?_, ?_⟩
  · refine covers_of_append (before ++ [quote]) (quote :: after) (by simp [whole]) ?_ rfl
    simp [Text.byteLength, narrow]
  · exact covers_of_append before (value.toList ++ quote :: after)
      (by simp [whole]) rfl single.symm
  · refine covers_of_append (before ++ quote :: value.toList) after
      (by simp [whole]) ?_ single.symm
    simp only [Text.byteLength_append, Text.byteLength, narrow]
    omega

lemma pairwise_ofQuote (source value : List Char) (quote : Char) :
    (ofQuote source value quote).Pairwise fun one other => one.offset < other.offset :=
  List.pairwise_map.mpr ((Text.pairwise_occurrences _ _).imp Nat.succ_lt_succ)

/-- No place is between quotes of two kinds. -/
lemma disjoint_ofQuote {source value : List Char} {quote mark : Char} (apart : quote ≠ mark)
    {one other : Span} (found : one ∈ ofQuote source value quote)
    (foundOther : other ∈ ofQuote source value mark) :
    one.offset ≠ other.offset := by
  intro same
  obtain ⟨before, after, whole, rfl⟩ := append_of_mem_ofQuote found
  obtain ⟨beforeOther, afterOther, wholeOther, rfl⟩ := append_of_mem_ofQuote foundOther
  obtain ⟨-, behind⟩ :=
    Text.append_inj_of_byteLength (whole.symm.trans wholeOther) (Nat.succ.inj same)
  exact apart (List.cons.inj behind).1

end

/-! ## Sorting -/

lemma insert_perm (span : Span) (sorted : List Span) :
    (insert span sorted).Perm (span :: sorted) := by
  induction sorted with
  | nil => exact .refl _
  | cons other rest ih =>
    rw [insert]
    split
    · exact .refl _
    · exact (ih.cons other).trans (.swap span other rest)

lemma pairwise_insert (span : Span) {sorted : List Span}
    (ascending : sorted.Pairwise fun one other => one.offset ≤ other.offset) :
    (insert span sorted).Pairwise fun one other => one.offset ≤ other.offset := by
  induction ascending with
  | nil => exact List.pairwise_singleton _ _
  | @cons other rest below ascending ih =>
    rw [insert]
    split
    · next before =>
      exact .cons (List.forall_mem_cons.mpr ⟨before.le,
        fun later listed => before.le.trans (below later listed)⟩)
        (.cons below ascending)
    · next behind =>
      refine .cons (fun later listed => ?_) ih
      rcases List.mem_cons.mp ((insert_perm span rest).mem_iff.mp listed) with rfl | listed
      · exact Nat.not_lt.mp behind
      · exact below later listed

/-- Sorting keeps the places and brings them in order. -/
lemma foldl_insert_spec (spans : List Span) {sorted : List Span}
    (ascending : sorted.Pairwise fun one other => one.offset ≤ other.offset) :
    (spans.foldl (fun sorted span => insert span sorted) sorted).Perm (sorted ++ spans) ∧
      (spans.foldl (fun sorted span => insert span sorted) sorted).Pairwise
        fun one other => one.offset ≤ other.offset := by
  induction spans generalizing sorted with
  | nil => exact ⟨by simp, ascending⟩
  | cons span rest ih =>
    obtain ⟨same, ordered⟩ := ih (pairwise_insert span ascending)
    refine ⟨same.trans ?_, ordered⟩
    exact ((insert_perm span sorted).append_right rest).trans List.perm_middle.symm

/-! ## All places of a value -/

lemma ofValue_perm (source value : String) : (ofValue source value).Perm
    (ofQuote source.toList value.toList '"' ++ ofQuote source.toList value.toList '\'') :=
  (foldl_insert_spec _ .nil).1

/-- Every place of a value covers it, between two quotes of one kind. -/
theorem isQuoted_of_mem_ofValue {source value : String} {span : Span}
    (found : span ∈ ofValue source value) :
    span.IsQuoted source value := by
  rcases List.mem_append.mp ((ofValue_perm source value).mem_iff.mp found) with found | found
  · exact isQuoted_of_mem_ofQuote (by decide) found
  · exact isQuoted_of_mem_ofQuote (by decide) found

/-- The places of a value are listed in the order of the source, none of them twice. -/
theorem pairwise_ofValue (source value : String) :
    (ofValue source value).Pairwise fun one other => one.offset < other.offset := by
  have ascending : (ofValue source value).Pairwise fun one other => one.offset ≤ other.offset :=
    (foldl_insert_spec _ .nil).2
  have apart :
      (ofQuote source.toList value.toList '"' ++ ofQuote source.toList value.toList '\'').Pairwise
      fun one other => one.offset ≠ other.offset :=
    List.pairwise_append.mpr ⟨(pairwise_ofQuote ..).imp Nat.ne_of_lt,
      (pairwise_ofQuote ..).imp Nat.ne_of_lt,
      fun one found other => disjoint_ofQuote (by decide) found⟩
  have distinct := ((ofValue_perm source value).pairwise_iff fun less => less.symm).mpr apart
  exact (ascending.and distinct).imp fun both => Nat.lt_of_le_of_ne both.1 both.2

/-- A value that stands between quotes has a place. -/
theorem ofValue_ne_nil {source value : String} {quote : Char} (known : quote ∈ quotes)
    {before after : List Char}
    (whole : source.toList = before ++ quote :: (value.toList ++ quote :: after)) :
    ofValue source value ≠ [] := by
  have found : ofQuote source.toList value.toList quote ≠ [] := by
    have somewhere :=
      Text.occurrencesFrom_ne_nil (List.cons_ne_nil quote (value.toList ++ [quote])) 0 before after
    have shape : before ++ (quote :: (value.toList ++ [quote]) ++ after) = source.toList := by
      simp [whole]
    rw [shape] at somewhere
    exact mt List.map_eq_nil_iff.mp somewhere
  obtain ⟨span, listed⟩ := List.exists_mem_of_ne_nil _ found
  refine List.ne_nil_of_mem ((ofValue_perm source value).mem_iff.mpr ?_) (a := span)
  obtain rfl | rfl : quote = '"' ∨ quote = '\'' := by simpa [quotes] using known
  · exact List.mem_append_left _ listed
  · exact List.mem_append_right _ listed

end Span

end SourceGen
