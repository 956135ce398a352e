/-!
# Sorted entries

Lists of named entries in ascending order of their names. The order of `String` compares code
points, which is also the order of the UTF-8 bytes. Directories and tables of data are kept in this
form, so that visiting them in order is plain recursion.
-/

namespace SourceGen.Sorted

variable {β : Type}

/-- The entry of a name. -/
def get? (name : String) : List (String × β) → Option β
  | [] => none
  | (other, value) :: rest => if other = name then some value else get? name rest

/-- Gives a name an entry, at its place in the order; an entry that is there is replaced. -/
def insert (name : String) (value : β) : List (String × β) → List (String × β)
  | [] => [(name, value)]
  | (other, old) :: rest =>
    if other = name then (name, value) :: rest
    else if name < other then (name, value) :: (other, old) :: rest
    else (other, old) :: insert name value rest

/-- Removes the entry of a name. -/
def erase (name : String) (entries : List (String × β)) : List (String × β) :=
  entries.filter fun entry => entry.1 ≠ name

@[simp] theorem get?_nil (name : String) : get? name ([] : List (String × β)) = none := rfl

@[simp] theorem get?_insert_self (name : String) (value : β) (entries : List (String × β)) :
    get? name (insert name value entries) = some value := by
  induction entries with
  | nil => simp [insert, get?]
  | cons entry rest ih =>
    obtain ⟨other, old⟩ := entry
    simp only [insert]
    split
    · simp [get?]
    · split
      · simp [get?]
      · next h _ => simp [get?, h, ih]

theorem get?_insert_of_ne {name other : String} (h : other ≠ name) (value : β)
    (entries : List (String × β)) : get? other (insert name value entries)
      = get? other entries := by
  induction entries with
  | nil => simp [insert, get?, Ne.symm h]
  | cons entry rest ih =>
    obtain ⟨key, old⟩ := entry
    simp only [insert]
    split
    · next e => subst e; simp [get?, Ne.symm h]
    · split
      · simp [get?, Ne.symm h]
      · simp only [get?, ih]

@[simp] theorem get?_erase_self (name : String) (entries : List (String × β)) :
    get? name (erase name entries) = none := by
  induction entries with
  | nil => rfl
  | cons entry rest ih =>
    obtain ⟨other, value⟩ := entry
    by_cases h : other = name
    · simpa [erase, h] using ih
    · simpa [erase, h, get?] using ih

theorem get?_erase_of_ne {name other : String} (h : other ≠ name) (entries : List (String × β)) :
    get? other (erase name entries) = get? other entries := by
  induction entries with
  | nil => rfl
  | cons entry rest ih =>
    obtain ⟨key, value⟩ := entry
    by_cases hk : key = name
    · subst hk
      simpa [erase, get?, Ne.symm h] using ih
    · by_cases ho : key = other
      · subst ho
        simp [erase, get?, hk]
      · simpa [erase, get?, hk, ho] using ih

end SourceGen.Sorted
