/-!
# Cutting text

Searches and cuts on the characters of a text: at the last separator, at every separator, at a fixed
text. All of them are total and run on lists of characters; the callers convert at their borders.
-/

namespace SourceGen.Text

/-- The text after the last separator, or all of it when there is none. -/
def afterLast (sep : Char → Bool) : List Char → List Char
  | [] => []
  | c :: rest => if rest.any sep then afterLast sep rest else if sep c then rest else c :: rest

/-- Cuts at the last `sep`, which goes to neither part. -/
def cutLast? (sep : Char) : List Char → Option (List Char × List Char)
  | [] => none
  | c :: rest =>
    match cutLast? sep rest with
    | some (before, after) => some (c :: before, after)
    | none => if c = sep then some ([], rest) else none

/-- The parts between the separators; text without a separator is its own only part. -/
def pieces (sep : Char → Bool) : List Char → List (List Char)
  | [] => [[]]
  | c :: rest =>
    if sep c then [] :: pieces sep rest
    else
      match pieces sep rest with
      | [] => [[c]]
      | first :: others => (c :: first) :: others

/-- What follows `head` when the text begins with it. -/
def dropPrefix? : (head text : List Char) → Option (List Char)
  | [], text => some text
  | _ :: _, [] => none
  | h :: head, c :: text => if h = c then dropPrefix? head text else none

/-- What comes before `tail` when the text ends with it. -/
def dropSuffix? (tail text : List Char) : Option (List Char) :=
  (dropPrefix? tail.reverse text.reverse).map List.reverse

/-- Replaces the occurrences of `pattern` from left to right, each one starting behind the one
before. `skip` counts the characters of the occurrence just replaced that are still to be passed
over. -/
def replaceFrom (pattern replacement : List Char) : (skip : Nat) → List Char → List Char
  | _, [] => []
  | skip + 1, _ :: rest => replaceFrom pattern replacement skip rest
  | 0, c :: rest =>
    if pattern.isPrefixOf (c :: rest) then
      replacement ++ replaceFrom pattern replacement (pattern.length - 1) rest
    else c :: replaceFrom pattern replacement 0 rest

/-- Replaces every occurrence of a nonempty pattern. -/
def replaceAll (pattern replacement text : List Char) : List Char :=
  replaceFrom pattern replacement 0 text

/-- The number of bytes that a text takes in UTF-8. -/
def byteLength : List Char → Nat
  | [] => 0
  | c :: rest => c.utf8Size + byteLength rest

/-- The byte offsets at which `pattern` occurs, from left to right, each occurrence starting behind
the one before. `offset` is the number of bytes passed, `skip` as in `replaceFrom`. -/
def occurrencesFrom (pattern : List Char) : (offset skip : Nat) → List Char → List Nat
  | _, _, [] => []
  | offset, skip + 1, c :: rest => occurrencesFrom pattern (offset + c.utf8Size) skip rest
  | offset, 0, c :: rest =>
    if pattern.isPrefixOf (c :: rest) then
      offset :: occurrencesFrom pattern (offset + c.utf8Size) (pattern.length - 1) rest
    else occurrencesFrom pattern (offset + c.utf8Size) 0 rest

/-- The byte offsets of the occurrences of a nonempty pattern, no two of which overlap. -/
def occurrences (pattern text : List Char) : List Nat :=
  occurrencesFrom pattern 0 0 text

@[simp] theorem pieces_ne_nil (sep : Char → Bool) (text : List Char) : pieces sep text ≠ [] := by
  cases text with
  | nil => simp [pieces]
  | cons c rest =>
    simp only [pieces]
    split
    · simp
    · split <;> simp

/-! ## Laws -/

@[simp] theorem cutLast?_eq_none_iff {sep : Char} {text : List Char} :
    cutLast? sep text = none ↔ sep ∉ text := by
  induction text with
  | nil => simp [cutLast?]
  | cons c rest ih =>
    simp only [cutLast?, List.mem_cons, not_or]
    cases h : cutLast? sep rest with
    | none =>
      have hr := ih.mp h
      by_cases hc : c = sep
      · simp [hc]
      · simp [hc, hr, Ne.symm hc]
    | some cut =>
      have hr : sep ∈ rest := by
        by_cases hm : sep ∈ rest
        · exact hm
        · simp [ih.mpr hm] at h
      simp [hr]

/-- A cut is at a separator behind which there is none. -/
theorem eq_append_of_cutLast? {sep : Char} {text before after : List Char}
    (h : cutLast? sep text = some (before, after)) : text = before ++ sep :: after ∧
    sep ∉ after := by
  induction text generalizing before with
  | nil => simp [cutLast?] at h
  | cons c rest ih =>
    rw [cutLast?] at h
    cases hr : cutLast? sep rest with
    | none =>
      simp only [hr] at h
      split at h
      · next hc =>
        cases h
        exact ⟨by simp [hc], cutLast?_eq_none_iff.mp hr⟩
      · cases h
    | some cut =>
      simp only [hr] at h
      cases h
      obtain ⟨h1, h2⟩ := ih hr
      exact ⟨by simp [h1], h2⟩

theorem cutLast?_append {sep : Char} (before : List Char) {after : List Char} (h : sep ∉ after) :
    cutLast? sep (before ++ sep :: after) = some (before, after) := by
  induction before with
  | nil => simp [cutLast?, cutLast?_eq_none_iff.mpr h]
  | cons c rest ih => simp [cutLast?, ih]

/-- What follows the last separator holds none. -/
theorem not_sep_of_mem_afterLast {sep : Char → Bool} {text : List Char} :
    ∀ c ∈ afterLast sep text, sep c = false := by
  induction text with
  | nil => simp [afterLast]
  | cons c rest ih =>
    simp only [afterLast]
    split
    · exact ih
    · next h =>
      have absent : ∀ d ∈ rest, sep d = false := by simpa using h
      split
      · exact absent
      · next hc =>
        intro d hd
        rcases List.mem_cons.mp hd with rfl | hd
        · simpa using hc
        · exact absent d hd

/-- What follows the last separator ends the text. -/
theorem afterLast_suffix (sep : Char → Bool) (text : List Char) : afterLast sep text <:+ text := by
  induction text with
  | nil => simp [afterLast]
  | cons c rest ih =>
    simp only [afterLast]
    split
    · exact ih.trans (List.suffix_cons c rest)
    · split
      · exact List.suffix_cons c rest
      · exact List.suffix_rfl

theorem afterLast_append {sep : Char → Bool} (before : List Char) {c : Char} {after : List Char}
    (hc : sep c = true) (h : ∀ d ∈ after, sep d = false) :
    afterLast sep (before ++ c :: after) = after := by
  induction before with
  | nil =>
    have absent : after.any sep = false := by simpa using h
    simp [afterLast, absent, hc]
  | cons d rest ih => simp [afterLast, ih, hc]

/-- No part holds a separator. -/
theorem not_sep_of_mem_pieces {sep : Char → Bool} {text : List Char} :
    ∀ piece ∈ pieces sep text, ∀ c ∈ piece, sep c = false := by
  induction text with
  | nil => simp [pieces]
  | cons c rest ih =>
    simp only [pieces]
    split
    · simpa using ih
    · next hc =>
      cases h : pieces sep rest with
      | nil => simpa using hc
      | cons first others =>
        rw [h] at ih
        intro piece hp
        rcases List.mem_cons.mp hp with rfl | hp
        · intro d hd
          rcases List.mem_cons.mp hd with rfl | hd
          · simpa using hc
          · exact ih first List.mem_cons_self d hd
        · exact ih piece (List.mem_cons_of_mem first hp)

/-- The parts with the separator between them are the text. -/
theorem intercalate_pieces (sep : Char) (text : List Char) :
    List.intercalate [sep] (pieces (· = sep) text) = text := by
  induction text with
  | nil => rfl
  | cons c rest ih =>
    simp only [pieces]
    cases h : pieces (· = sep) rest with
    | nil => exact absurd h (pieces_ne_nil _ _)
    | cons first others =>
      rw [h] at ih
      split
      · next hc =>
        have : c = sep := by simpa using hc
        subst this
        simpa [List.intercalate] using ih
      · cases others with
        | nil => simpa [List.intercalate] using ih
        | cons second others => simpa [List.intercalate] using ih

@[simp] theorem byteLength_append (left right : List Char) :
    byteLength (left ++ right) = byteLength left + byteLength right := by
  induction left with
  | nil => simp [byteLength]
  | cons c rest ih => simp [byteLength, ih, Nat.add_assoc]

theorem dropPrefix?_eq_some_iff {head text rest : List Char} :
    dropPrefix? head text = some rest ↔ text = head ++ rest := by
  induction head generalizing text with
  | nil => simp [dropPrefix?]
  | cons h head ih =>
    cases text with
    | nil => simp [dropPrefix?]
    | cons c text =>
      by_cases e : h = c <;> simp [dropPrefix?, e, ih, eq_comm]

theorem dropSuffix?_eq_some_iff {tail text rest : List Char} :
    dropSuffix? tail text = some rest ↔ text = rest ++ tail := by
  simp only [dropSuffix?, Option.map_eq_some_iff, dropPrefix?_eq_some_iff]
  constructor
  · rintro ⟨a, h, rfl⟩
    have := congrArg List.reverse h
    simpa using this
  · rintro rfl
    exact ⟨rest.reverse, by simp, by simp⟩

end SourceGen.Text
