import Mathlib.Data.List.Lex
import Mathlib.Data.String.Basic
import Mathlib.Order.Bounds.Basic
import SourceGen.Proofs.FileSystem.Growth

/-!
# Walking a file tree

A walk over a directory tree that leaves some directories out (`FileTree.files`) meets each regular
file that no such directory lies above, and no others (`FileTree.mem_files_iff`). When the entries
of every directory come in ascending order of their names (`FileTree.Ordered`), a directory is
walked through before what follows it, so the places come in ascending order as lists of names
(`FileTree.pairwise_files`). This is not the order of the paths as texts, in which a slash sorts
among the other characters.

So the first file of a walk that passes a test is at the least place (`List.isLeast_of_find?`).
-/

namespace SourceGen

/-- What a search finds in an ascending list is the least of what passes. -/
lemma List.isLeast_of_find? {α : Type} [LinearOrder α] {items : List α}
    (ascending : items.Pairwise (· < ·)) {p : α → Bool} {a : α} (found : items.find? p = some a) :
    IsLeast {b | b ∈ items ∧ p b = true} a := by
  obtain ⟨passes, before, after, rfl, fail⟩ := List.find?_eq_some_iff_append.mp found
  refine ⟨⟨List.mem_append_right before List.mem_cons_self, passes⟩, ?_⟩
  rintro b ⟨listed, other⟩
  rcases List.mem_append.mp listed with early | late
  · have refused := fail b early
    rw [other] at refused
    cases refused
  · rcases List.mem_cons.mp late with rfl | late
    · exact le_rfl
    · exact ((List.pairwise_cons.mp (List.pairwise_append.mp ascending).2.1).1 b late).le

namespace FileTree

/-- In every directory of the tree the entries stand in ascending order of their names, as a
directory is read, which is the order of their bytes, and no name has a slash in it. -/
structure Ordered (tree : FileTree) : Prop where
  ascending : ∀ place entries, tree.get? place = some (.directory entries) →
    entries.Pairwise fun one other => one.1 < other.1
  plain : ∀ place entries, tree.get? place = some (.directory entries) →
    ∀ entry ∈ entries, '/' ∉ entry.1.toList

/-! ## The entries of a directory -/

/-- Where no name is used twice, an entry is what its name leads to. -/
lemma sorted_get?_iff {entries : List (String × FileTree)} {name : String} {tree : FileTree}
    (ascending : entries.Pairwise fun one other => one.1 < other.1) :
    Sorted.get? name entries = some tree ↔ (name, tree) ∈ entries := by
  induction entries with
  | nil => simp
  | cons entry rest ih =>
    obtain ⟨other, child⟩ := entry
    obtain ⟨above, ascending⟩ := List.pairwise_cons.mp ascending
    rw [Sorted.get?, List.mem_cons, ← ih ascending]
    split
    · next same =>
      subst same
      have absent : Sorted.get? other rest ≠ some tree := fun listed =>
        lt_irrefl other (above _ ((ih ascending).mp listed))
      simp [absent, eq_comm]
    · next apart => simp [Ne.symm apart]

section Entries

variable {entries : List (String × FileTree)} (ordered : Ordered (.directory entries))

include ordered

lemma Ordered.pairwise : entries.Pairwise fun one other => one.1 < other.1 :=
  ordered.ascending [] entries rfl

lemma Ordered.child {name : String} {tree : FileTree} (listed : (name, tree) ∈ entries) :
    tree.Ordered := by
  have found : Sorted.get? name entries = some tree := (sorted_get?_iff ordered.pairwise).mpr listed
  have below : ∀ place, FileTree.get? (.directory entries) (name :: place) = tree.get? place := by
    intro place
    rw [FileTree.get?, found]
  exact ⟨fun place inner stands =>
    ordered.ascending (name :: place) inner ((below place).trans stands),
    fun place inner stands => ordered.plain (name :: place) inner ((below place).trans stands)⟩

end Entries

/-- A directory is ordered when its entries are, and each of them is. -/
lemma ordered_directory {entries : List (String × FileTree)}
    (ascending : entries.Pairwise fun one other => one.1 < other.1)
    (each : ∀ entry ∈ entries, '/' ∉ entry.1.toList ∧ entry.2.Ordered) :
      Ordered (.directory entries) := by
  have below : ∀ name place inner, FileTree.get? (.directory entries) (name :: place)
      = some (.directory inner) →
      ∃ tree, (name, tree) ∈ entries ∧ tree.get? place = some (.directory inner) := by
    intro name place inner stands
    rw [FileTree.get?] at stands
    split at stands
    · next tree found => exact ⟨tree, (sorted_get?_iff ascending).mp found, stands⟩
    · cases stands
  constructor
  · rintro (_ | ⟨name, place⟩) inner stands
    · cases stands
      exact ascending
    · obtain ⟨tree, listed, stands⟩ := below name place inner stands
      exact (each _ listed).2.ascending place inner stands
  · rintro (_ | ⟨name, place⟩) inner stands
    · cases stands
      exact fun entry listed => (each entry listed).1
    · obtain ⟨tree, listed, stands⟩ := below name place inner stands
      exact (each _ listed).2.plain place inner stands

lemma ordered_file (content : List UInt8) : Ordered (.file content) := by
  constructor <;> rintro (_ | ⟨name, place⟩) inner stands <;> cases stands

/-! ## The files of a walk -/

variable {skip : String → Bool}

lemma mem_filesOfEntries {entries : List (String × FileTree)} {place : List String}
    {content : List UInt8} :
    (place, content) ∈ filesOfEntries skip entries ↔
      ∃ name tree rest, (name, tree) ∈ entries ∧ (tree.isDirectory = true → skip name = false) ∧
        place = name :: rest ∧ (rest, content) ∈ tree.files skip := by
  induction entries with
  | nil => simp [filesOfEntries]
  | cons entry others ih =>
    obtain ⟨name, tree⟩ := entry
    have here : (place, content) ∈ (if tree.isDirectory && skip name then []
          else (tree.files skip).map fun found => (name :: found.1, found.2)) ↔
        (tree.isDirectory = true → skip name = false) ∧
          ∃ rest, place = name :: rest ∧ (rest, content) ∈ tree.files skip := by
      split
      · next left =>
        obtain ⟨kind, left⟩ := Bool.and_eq_true_iff.mp left
        refine iff_of_false List.not_mem_nil ?_
        rintro ⟨entered, _⟩
        rw [entered kind] at left
        cases left
      · next entered =>
        rw [List.mem_map]
        constructor
        · rintro ⟨⟨rest, _⟩, within, same⟩
          obtain ⟨rfl, rfl⟩ := Prod.mk.inj same
          refine ⟨fun kind => Bool.eq_false_iff.mpr fun left => ?_, rest, rfl, within⟩
          exact entered (Bool.and_eq_true_iff.mpr ⟨kind, left⟩)
        · rintro ⟨-, rest, rfl, within⟩
          exact ⟨(rest, content), within, rfl⟩
    rw [filesOfEntries, List.mem_append, ih]
    refine (or_congr_left here).trans ?_
    constructor
    · rintro (⟨entered, rest, same, within⟩ | ⟨other, child, rest, listed, entered, same, within⟩)
      · exact ⟨name, tree, rest, List.mem_cons_self, entered, same, within⟩
      · exact ⟨other, child, rest, List.mem_cons_of_mem _ listed, entered, same, within⟩
    · rintro ⟨other, child, rest, listed, entered, same, within⟩
      rcases List.mem_cons.mp listed with here | later
      · obtain ⟨rfl, rfl⟩ := Prod.mk.inj here
        exact .inl ⟨entered, rest, same, within⟩
      · exact .inr ⟨other, child, rest, later, entered, same, within⟩

/-- Above a regular file in an entry of a directory are the entry, unless it is the file, and what
is above the file in it. -/
lemma forall_mem_dropLast_cons_iff {child : FileTree} {name : String} {rest : List String}
    {content : List UInt8} (stands : child.get? rest = some (.file content)) {p : String → Prop} :
    (∀ directory ∈ (name :: rest).dropLast, p directory) ↔
      (child.isDirectory = true → p name) ∧ ∀ directory ∈ rest.dropLast, p directory := by
  cases rest with
  | nil =>
    obtain rfl : child = .file content := Option.some.inj stands
    simp [isDirectory]
  | cons next rest =>
    have kind : child.isDirectory = true := by
      cases child with
      | file _ => cases stands
      | directory _ => rfl
    rw [List.dropLast_cons_of_ne_nil (List.cons_ne_nil next rest), List.forall_mem_cons,
      forall_prop_of_true kind]

/-- A walk meets the regular files that lie below no directory that is left out. -/
theorem mem_files_iff {tree : FileTree} (ordered : tree.Ordered) {place : List String}
    {content : List UInt8} :
    (place, content) ∈ tree.files skip ↔
      tree.get? place = some (.file content) ∧ ∀ directory ∈ place.dropLast,
        skip directory = false := by
  induction place generalizing tree with
  | nil =>
    cases tree with
    | file other =>
      rw [files, List.mem_singleton, get?]
      constructor
      · rintro ⟨⟩
        exact ⟨rfl, List.forall_mem_nil _⟩
      · rintro ⟨⟨⟩, -⟩
        rfl
    | directory entries =>
      rw [files, mem_filesOfEntries]
      simp [get?]
  | cons name rest ih =>
    cases tree with
    | file other => simp [files, get?]
    | directory entries =>
      rw [files, mem_filesOfEntries, get?]
      constructor
      · rintro ⟨other, child, inner, listed, entered, same, within⟩
        obtain ⟨rfl, rfl⟩ := List.cons.inj same
        obtain ⟨stands, below⟩ := (ih (ordered.child listed)).mp within
        rw [(sorted_get?_iff ordered.pairwise).mpr listed]
        exact ⟨stands, (forall_mem_dropLast_cons_iff stands).mpr ⟨entered, below⟩⟩
      · rintro ⟨stands, entered⟩
        split at stands
        · next child found =>
          have listed := (sorted_get?_iff ordered.pairwise).mp found
          obtain ⟨entered, below⟩ := (forall_mem_dropLast_cons_iff stands).mp entered
          exact ⟨name, child, rest, listed, entered, rfl,
            (ih (ordered.child listed)).mpr ⟨stands, below⟩⟩
        · cases stands

mutual

/-- The places of a walk come in ascending order. -/
theorem pairwise_files (skip : String → Bool) :
    (tree : FileTree) → tree.Ordered → ((tree.files skip).map Prod.fst).Pairwise (· < ·)
  | .file _, _ => List.pairwise_singleton _ _
  | .directory entries, ordered =>
    pairwise_filesOfEntries skip entries ordered.pairwise fun _ listed => ordered.child listed

/-- So do those of the entries of a directory, whose names ascend. -/
theorem pairwise_filesOfEntries (skip : String → Bool) :
    (entries : List (String × FileTree)) → (entries.Pairwise fun one other => one.1 < other.1) →
      (∀ entry ∈ entries, entry.2.Ordered) →
      ((filesOfEntries skip entries).map Prod.fst).Pairwise (· < ·)
  | [], _, _ => .nil
  | (name, tree) :: rest, ascending, each => by
    obtain ⟨above, ascending⟩ := List.pairwise_cons.mp ascending
    obtain ⟨here, each⟩ := List.forall_mem_cons.mp each
    have later := pairwise_filesOfEntries skip rest ascending each
    have inside := pairwise_files skip tree here
    rw [filesOfEntries, List.map_append, List.pairwise_append]
    refine ⟨?_, later, ?_⟩
    · split
      · exact .nil
      · rw [List.map_map, List.pairwise_map]
        rw [List.pairwise_map] at inside
        exact inside.imp fun less => List.cons_lt_cons_iff.mpr (.inr ⟨rfl, less⟩)
    · -- All places of this entry begin with its name, and all later ones with a greater name.
      intro one first other second
      obtain ⟨⟨place, content⟩, walked, rfl⟩ := List.mem_map.mp first
      obtain ⟨⟨farther, others⟩, walkedLater, rfl⟩ := List.mem_map.mp second
      obtain ⟨greater, child, below, listed, -, rfl, -⟩ := mem_filesOfEntries.mp walkedLater
      split at walked
      · cases walked
      · obtain ⟨_, _, same⟩ := List.mem_map.mp walked
        obtain ⟨rfl, -⟩ := Prod.mk.inj same
        exact List.cons_lt_cons_iff.mpr (.inl (above _ listed))

end

end FileTree

end SourceGen
