import SourceGen.Proofs.Manifest.Listing

/-!
# The labels of a duplicate

A manifest that declares an identity twice is refused with two labels, "first declared here" and
"declared again here".  The places are looked up by the name of the target: the first two at which
it stands in quotes. In a listing these are the targets of the two declarations only if nothing
before the second one mentions the name but the first one does (`Listing.duplicate_labels`). Where
the target has been declared with another generator before, or has been the generator of another
target, the second label is at a declaration that repeats nothing.
-/

namespace SourceGen.Listing

variable {blocks : List Block} {i j : Nat} {one other : Block}

/-! ## The fault -/

lemma wellWritten (valid : ∀ block ∈ blocks, block.declaration.Valid) :
    (manifest blocks).WellWritten where
  header _ present := nomatch present
  targets declaration listed := by
    obtain ⟨block, here, rfl⟩ := List.mem_map.mp listed
    exact (valid block here).1
  generators declaration listed name named := by
    obtain ⟨block, here, rfl⟩ := List.mem_map.mp listed
    exact Block.valid_generator (valid block here) named

/-- The first pair that repeats an earlier one is what is reported. -/
lemma isFirstFault (valid : ∀ block ∈ blocks, block.declaration.Valid)
    (first : blocks[i]? = some one) (again : blocks[j]? = some other) (earlier : i < j)
    (same : one.declaration.id = other.declaration.id)
    (once : ((blocks.take j).map fun block => block.declaration.id).Nodup) :
    (manifest blocks).IsFirstFault (text blocks)
      (.duplicate other.declaration.id
        (Manifest.firstTwoPlaces? (text blocks) other.target.text)) := by
  have taken : ∀ n, ((manifest blocks).declarations.take n).map Declaration.id
      = (blocks.take n).map fun block => block.declaration.id := by
    intro n
    rw [manifest, ← List.map_take, List.map_map]
    rfl
  refine ⟨.pair j, ⟨other.declaration, ?_, ?_, rfl⟩, fun check fault finds => ?_⟩
  · rw [manifest, List.getElem?_map, again, Option.map_some]
  · rw [taken, ← same]
    exact List.mem_map_of_mem
      (List.mem_of_getElem? ((List.getElem?_take_of_lt earlier).trans first))
  · obtain ⟨k, rfl⟩ := (wellWritten valid).eq_pair_of_finds finds
    obtain ⟨declaration, listed, repeated, _⟩ := finds
    rcases Nat.lt_or_ge k j with below | above
    · -- A pair before that would be one of those that repeat nothing.
      rw [taken] at repeated
      rw [manifest, List.getElem?_map, Option.map_eq_some_iff] at listed
      obtain ⟨block, here, rfl⟩ := listed
      have stands : ((blocks.take j).map fun block => block.declaration.id)[k]?
          = some block.declaration.id := by
        rw [List.getElem?_map, List.getElem?_take_of_lt below, here, Option.map_some]
      have apart := Manifest.nodup_iff_not_mem_take.mp once k _ stands
      rw [← List.map_take, List.take_take, Nat.min_eq_left below.le] at apart
      exact absurd repeated apart
    · simp only [Manifest.Check.number]
      omega

/-! ## The two places -/

/-- The target of a block among its places: behind those in the blocks before. -/
lemma exists_places_eq_take (here : blocks[j]? = some other) :
    ∃ later, places blocks other.target
      = places (blocks.take j) other.target ++ targetPlace (blocks.take j) other :: later := by
  have cut : blocks = blocks.take j ++ other :: blocks.drop (j + 1) := by
    obtain ⟨short, here⟩ := List.getElem?_eq_some_iff.mp here
    rw [← here, ← List.drop_eq_getElem_cons short, List.take_append_drop]
  have found := exists_places_eq (blocks.take j) other (blocks.drop (j + 1))
  rwa [← cut] at found

/-- The first of a list is what stands behind a front that does not hold it, when the front is
empty. -/
lemma head_eq_iff {α : Type} {front rest more : List α} {x here : α} (absent : x ∉ front)
    (whole : front ++ x :: rest = here :: more) : here = x ↔ front = [] := by
  cases front with
  | nil => exact iff_of_true (List.cons.inj whole).1.symm rfl
  | cons y others =>
    obtain ⟨rfl, _⟩ := List.cons.inj whole
    refine iff_of_false ?_ (List.cons_ne_nil _ _)
    rintro rfl
    exact absent List.mem_cons_self

/-- **The labels of a duplicate.** In a listing of valid names, let the `j`-th block be the first
that repeats an identity, that of the `i`-th. The listing is refused for it, with the first two
places of the target's name. The first of these is the target of the `i`-th block just when no
block before mentions the name; the second is the target of the `j`-th block just when the blocks
before mention it only once. -/
theorem duplicate_labels (valid : ∀ block ∈ blocks, block.declaration.Valid)
    (first : blocks[i]? = some one) (again : blocks[j]? = some other) (earlier : i < j)
    (same : one.declaration.id = other.declaration.id)
    (once : ((blocks.take j).map fun block => block.declaration.id).Nodup) :
    ∃ here there more, places blocks other.target = here :: there :: more ∧
      Manifest.ofSource (text blocks)
        = .error (.duplicate other.declaration.id (some (here, there))) ∧
      (here = targetPlace (blocks.take i) one ↔ places (blocks.take i) other.target = []) ∧
      (there = targetPlace (blocks.take j) other ↔ (places (blocks.take j) other.target).length
        = 1) := by
  have target : one.target = other.target := congrArg DeclarationId.target same
  have firstTaken : (blocks.take j)[i]? = some one := (List.getElem?_take_of_lt earlier).trans first
  obtain ⟨later, whole⟩ := exists_places_eq_take again
  obtain ⟨between, front⟩ := exists_places_eq_take firstTaken
  rw [target, List.take_take, Nat.min_eq_left earlier.le] at front
  -- Behind the target of the first declaration there is at least that of the second.
  obtain ⟨here, others, split⟩ : ∃ here others, places (blocks.take j) other.target
    = here :: others :=
    List.exists_cons_of_ne_nil (by simp [front])
  obtain ⟨there, more, rest⟩ : ∃ there more, others ++ targetPlace (blocks.take j) other :: later
    = there :: more :=
    List.exists_cons_of_ne_nil (by simp)
  rw [split, List.cons_append, rest] at whole
  have validTarget : other.target.Valid := (valid other (List.mem_of_getElem? again)).1
  have reported : Manifest.firstTwoPlaces? (text blocks) other.target.text
      = some (here, there) := by
    rw [Manifest.firstTwoPlaces?, ofValue_text valid validTarget, whole]
  have fault := isFirstFault valid first again earlier same once
  rw [reported] at fault
  have notBefore := targetPlace_notMem (blocks.take i) one other.target
  have notBetween := targetPlace_notMem (blocks.take j) other other.target
  rw [split] at notBetween
  refine ⟨here, there, more, whole, (deserializes valid).ofSource_eq_error_iff.mpr fault,
    head_eq_iff notBefore (front.symm.trans split), ?_⟩
  rw [head_eq_iff (fun listed => notBetween (List.mem_cons_of_mem _ listed)) rest, split,
    List.length_cons]
  simp

/-! ## A target with two generators -/

namespace Foo

/-- The first declaration of `Foo`, and its repetition. -/
def first : Block := ⟨⟨"Foo"⟩, some ⟨"Bar"⟩⟩

/-- Another target between the two. -/
def apart : List Block :=
  [first, ⟨⟨"Baz"⟩, none⟩, first]

/-- Another generator of `Foo` between the two. -/
def shared : List Block :=
  [first, ⟨⟨"Foo"⟩, some ⟨"Baz"⟩⟩, first]

/-- The listing of the latter. -/
def sharedText : String :=
  "[[declarations]]\ntarget = \"Foo\"\ngenerator = \"Bar\"\n"
    ++ "[[declarations]]\ntarget = \"Foo\"\ngenerator = \"Baz\"\n"
    ++ "[[declarations]]\ntarget = \"Foo\"\ngenerator = \"Bar\"\n"

end Foo

/-- Where only the two mention the target, the labels are at the two. -/
theorem duplicate_labels_apart :
    Manifest.ofSource (text Foo.apart)
      = .error (.duplicate ⟨⟨"Foo"⟩, ⟨"Bar"⟩⟩
        (some (targetPlace [] Foo.first, targetPlace (Foo.apart.take 2) Foo.first))) := by
  have valid : ∀ block ∈ Foo.apart, block.declaration.Valid := by decide
  obtain ⟨here, there, _, _, refused, atFirst, atSecond⟩ :=
    duplicate_labels (i := 0) (j := 2) valid rfl rfl (by decide) rfl (by decide)
  rw [refused, atFirst.mpr rfl, atSecond.mpr (by decide)]
  rfl

/-- Where the target has another generator between the two, the second label is at that
declaration. -/
theorem duplicate_labels_shared :
    text Foo.shared = Foo.sharedText ∧
      Manifest.ofSource Foo.sharedText
        = .error (.duplicate ⟨⟨"Foo"⟩, ⟨"Bar"⟩⟩ (some (⟨27, 3⟩, ⟨77, 3⟩))) ∧
      targetPlace [] Foo.first = ⟨27, 3⟩ ∧ targetPlace (Foo.shared.take 2) Foo.first
        = ⟨127, 3⟩ := by
  have written : text Foo.shared = Foo.sharedText := by decide +kernel
  have valid : ∀ block ∈ Foo.shared, block.declaration.Valid := by decide
  have fault := isFirstFault (i := 0) (j := 2) valid rfl rfl (by decide) rfl (by decide)
  have placed : Manifest.firstTwoPlaces? (text Foo.shared) Foo.first.target.text
      = some (⟨27, 3⟩, ⟨77, 3⟩) := by
    decide +kernel
  rw [placed] at fault
  refine ⟨written, ?_, by decide, by decide⟩
  rw [← written]
  exact (deserializes valid).ofSource_eq_error_iff.mpr fault

end SourceGen.Listing
