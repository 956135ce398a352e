/-!
# Ordered sets

A set that remembers the order in which its members came. Its view is the list of members, without
repeats; inserting a member that is there already changes nothing, and removing one keeps the order
of the others.
-/

namespace SourceGen

/-- A finite set whose members are listed in the order of their first insertion. -/
structure OrderedSet (α : Type) where
  toList : List α
  nodup : toList.Nodup

namespace OrderedSet

variable {α : Type}

/-- The set without members. -/
def empty : OrderedSet α :=
  ⟨[], List.nodup_nil⟩

instance : EmptyCollection (OrderedSet α) := ⟨empty⟩

instance : Inhabited (OrderedSet α) := ⟨empty⟩

instance : Membership α (OrderedSet α) := ⟨fun set a => a ∈ set.toList⟩

@[simp] theorem toList_empty : (∅ : OrderedSet α).toList = [] := rfl

@[ext] theorem ext {s t : OrderedSet α} (h : s.toList = t.toList) : s = t := by
  cases s; cases t; simp_all

theorem mem_iff {set : OrderedSet α} {a : α} : a ∈ set ↔ a ∈ set.toList := Iff.rfl

@[simp] theorem not_mem_empty (a : α) : a ∉ (∅ : OrderedSet α) := List.not_mem_nil

theorem eq_empty_iff {set : OrderedSet α} : set = ∅ ↔ ∀ a, a ∉ set := by
  constructor
  · rintro rfl
    exact not_mem_empty
  · exact fun none => ext (List.eq_nil_iff_forall_not_mem.mpr none)

/-- Whether the set has no members. -/
def isEmpty (set : OrderedSet α) : Bool :=
  set.toList.isEmpty

variable [DecidableEq α]

instance (set : OrderedSet α) (a : α) : Decidable (a ∈ set) :=
  inferInstanceAs (Decidable (a ∈ set.toList))

/-- Adds a member at the end, unless it is there already. -/
def insert (set : OrderedSet α) (a : α) : OrderedSet α :=
  if h : a ∈ set.toList then set
  else
    ⟨set.toList ++ [a], by
      simp only [List.nodup_append, set.nodup, List.nodup_cons, List.not_mem_nil,
        not_false_eq_true, List.nodup_nil, and_self, List.mem_singleton, true_and]
      rintro b hb c rfl rfl
      exact h hb⟩

/-- Removes a member and keeps the order of the others. -/
def erase (set : OrderedSet α) (a : α) : OrderedSet α :=
  ⟨set.toList.filter (· ≠ a), set.nodup.filter _⟩

/-- Removes the elements of a list and keeps the order of the others. -/
def eraseAll (set : OrderedSet α) (items : List α) : OrderedSet α :=
  items.foldl erase set

/-- Adds the elements of a list, one after the other. -/
def insertAll (set : OrderedSet α) (items : List α) : OrderedSet α :=
  items.foldl insert set

/-- The elements of a list in the order of their first appearance. -/
def ofList (items : List α) : OrderedSet α :=
  insertAll ∅ items

theorem insert_of_mem {set : OrderedSet α} {a : α} (h : a ∈ set) : set.insert a = set :=
  dif_pos h

theorem toList_insert_of_not_mem {set : OrderedSet α} {a : α} (h : a ∉ set) :
    (set.insert a).toList = set.toList ++ [a] := by
  have absent : a ∉ set.toList := h
  rw [insert, dif_neg absent]

@[simp] theorem mem_insert {set : OrderedSet α} {a b : α} : b ∈ set.insert a ↔ b ∈ set ∨ b = a := by
  by_cases h : a ∈ set
  · rw [insert_of_mem h]
    exact ⟨Or.inl, fun hb => hb.elim id (fun e => e ▸ h)⟩
  · simp [mem_iff, toList_insert_of_not_mem h]

@[simp] theorem toList_erase (set : OrderedSet α) (a : α) :
    (set.erase a).toList = set.toList.filter (· ≠ a) := rfl

@[simp] theorem mem_erase {set : OrderedSet α} {a b : α} : b ∈ set.erase a ↔ b ∈ set ∧ b ≠ a := by
  simp [mem_iff]

@[simp] theorem mem_insertAll {set : OrderedSet α} {items : List α} {b : α} :
    b ∈ set.insertAll items ↔ b ∈ set ∨ b ∈ items := by
  induction items generalizing set with
  | nil => simp [insertAll]
  | cons a rest ih =>
    have step : set.insertAll (a :: rest) = (set.insert a).insertAll rest := rfl
    rw [step, ih, mem_insert, List.mem_cons, or_assoc]

/-! ## Lists of elements -/

@[simp] theorem insertAll_nil (set : OrderedSet α) : set.insertAll [] = set := rfl

@[simp] theorem insertAll_cons (set : OrderedSet α) (a : α) (items : List α) :
    set.insertAll (a :: items) = (set.insert a).insertAll items := rfl

theorem insertAll_append (set : OrderedSet α) (items more : List α) :
    set.insertAll (items ++ more) = (set.insertAll items).insertAll more :=
  List.foldl_append

@[simp] theorem eraseAll_nil (set : OrderedSet α) : set.eraseAll [] = set := rfl

@[simp] theorem eraseAll_cons (set : OrderedSet α) (a : α) (items : List α) :
    set.eraseAll (a :: items) = (set.erase a).eraseAll items := rfl

theorem eraseAll_append (set : OrderedSet α) (items more : List α) :
    set.eraseAll (items ++ more) = (set.eraseAll items).eraseAll more :=
  List.foldl_append

@[simp] theorem mem_eraseAll {set : OrderedSet α} {items : List α} {b : α} :
    b ∈ set.eraseAll items ↔ b ∈ set ∧ b ∉ items := by
  induction items generalizing set with
  | nil => simp
  | cons a rest ih => rw [eraseAll_cons, ih, mem_erase, List.mem_cons, not_or, and_assoc]

theorem toList_eraseAll (set : OrderedSet α) (items : List α) :
    (set.eraseAll items).toList = set.toList.filter fun a => !decide (a ∈ items) := by
  induction items generalizing set with
  | nil => exact (List.filter_eq_self.mpr fun _ _ => rfl).symm
  | cons a rest ih =>
    rw [eraseAll_cons, ih, toList_erase, List.filter_filter]
    refine List.filter_congr fun b _ => ?_
    simp [Bool.and_comm]

/-- Which elements are removed counts, not in which order. -/
theorem eraseAll_congr {set : OrderedSet α} {items more : List α}
    (same : ∀ a, a ∈ items ↔ a ∈ more) :
    set.eraseAll items = set.eraseAll more := by
  ext1
  simp only [toList_eraseAll, same]

@[simp] theorem mem_ofList {items : List α} {b : α} : b ∈ ofList items ↔ b ∈ items := by
  simp [ofList, not_mem_empty]

end OrderedSet

end SourceGen
