import Mathlib.Tactic.Lemma
import SourceGen.FileSystem.Tree

/-!
# Putting something into a directory

Where something is put into a directory, it stands with all that it holds
(`FileTree.get?_put_append`), and elsewhere everything stays, except that the directories on the way
hold more (`FileTree.get?_put_of_not_prefix`).
-/

namespace SourceGen.FileTree

/-- What stands at a place is reached part by part. -/
lemma get?_append (tree : FileTree) (place rest : List String) :
    tree.get? (place ++ rest) = (tree.get? place).bind (get? · rest) := by
  induction place generalizing tree with
  | nil => rfl
  | cons name place ih =>
    cases tree with
    | file content => rfl
    | directory entries =>
      simp only [List.cons_append, get?]
      cases Sorted.get? name entries with
      | none => rfl
      | some child => exact ih child

/-- What stands below an entry stands in the tree that the entry is. -/
lemma get?_cons_eq_some_iff {tree found : FileTree} {name : String} {place : List String} :
    tree.get? (name :: place) = some found ↔
      ∃ entries child, tree = directory entries ∧ Sorted.get? name entries = some child ∧
        child.get? place = some found := by
  cases tree with
  | file content => simp [get?]
  | directory entries =>
    rw [get?]
    cases found : Sorted.get? name entries <;> simp [found]

section Put

variable {tree new : FileTree} {parent place : List String} {entries : List (String × FileTree)}
  {name : String} (inside : tree.get? parent = some (directory entries))

include inside

lemma get?_put_append (rest : List String) :
    (tree.put (parent ++ [name]) new).get? (parent ++ [name] ++ rest) = new.get? rest := by
  induction parent generalizing tree with
  | nil =>
    obtain rfl : tree = directory entries := Option.some.inj inside
    simp [put, get?]
  | cons first parent ih =>
    obtain ⟨children, child, rfl, found, inside⟩ := get?_cons_eq_some_iff.mp inside
    simp only [List.cons_append, put, get?, Sorted.get?_insert_self, found, Option.getD_some]
    exact ih inside

lemma get?_put_self : (tree.put (parent ++ [name]) new).get? (parent ++ [name]) = some new := by
  have stands : (tree.put (parent ++ [name]) new).get? (parent ++ [name] ++ []) = new.get? [] :=
    get?_put_append inside []
  rwa [List.append_nil, get?] at stands

/-- What stands elsewhere stays, but for the contents of the directories that lead to what is
put. -/
lemma get?_put_of_not_prefix (apart : ¬ parent ++ [name] <+: place) :
    (tree.put (parent ++ [name]) new).get? place = tree.get? place ∨
      ∃ before after, tree.get? place = some (directory before) ∧
        (tree.put (parent ++ [name]) new).get? place = some (directory after) := by
  induction parent generalizing tree place with
  | nil =>
    obtain rfl : tree = directory entries := Option.some.inj inside
    cases place with
    | nil => exact .inr ⟨entries, _, rfl, rfl⟩
    | cons first rest =>
      have other : first ≠ name := by
        rintro rfl
        exact apart ⟨rest, rfl⟩
      left
      simp only [List.nil_append, put, get?, Sorted.get?_insert_of_ne other]
  | cons step parent ih =>
    obtain ⟨children, child, rfl, found, below⟩ := get?_cons_eq_some_iff.mp inside
    cases place with
    | nil => exact .inr ⟨children, _, rfl, rfl⟩
    | cons first rest =>
      simp only [List.cons_append, put, get?]
      by_cases same : first = step
      · subst same
        simp only [Sorted.get?_insert_self, found, Option.getD_some]
        exact ih below fun leads => apart ((List.prefix_cons_inj first).mpr leads)
      · rw [Sorted.get?_insert_of_ne same]
        exact .inl rfl

end Put

end SourceGen.FileTree
