/-!
# Ordered maps

A map that remembers the order in which its keys came. Its view is the list of entries; a key keeps
its place when its value is replaced.
-/

namespace SourceGen

/-- A finite map whose keys are listed in the order of their first insertion. -/
structure OrderedMap (α β : Type) where
  entries : List (α × β)
  nodup : (entries.map Prod.fst).Nodup

namespace OrderedMap

variable {α β : Type}

/-- The map without keys. -/
def empty : OrderedMap α β :=
  ⟨[], List.nodup_nil⟩

instance : EmptyCollection (OrderedMap α β) := ⟨empty⟩

instance : Inhabited (OrderedMap α β) := ⟨empty⟩

/-- The keys, oldest first. -/
def keys (map : OrderedMap α β) : List α :=
  map.entries.map Prod.fst

/-- The values in the order of their keys. -/
def values (map : OrderedMap α β) : List β :=
  map.entries.map Prod.snd

/-- The number of keys. -/
def size (map : OrderedMap α β) : Nat :=
  map.entries.length

@[simp] theorem entries_empty : (∅ : OrderedMap α β).entries = [] := rfl

@[simp] theorem keys_empty : (∅ : OrderedMap α β).keys = [] := rfl

variable [DecidableEq α]

/-- The value of a key. -/
def get? (map : OrderedMap α β) (key : α) : Option β :=
  (map.entries.find? (·.1 = key)).map Prod.snd

/-- Whether a key has a value. -/
def contains (map : OrderedMap α β) (key : α) : Bool :=
  decide (key ∈ map.keys)

/-- The entries with the value of `key` put through `f`. -/
def updateEntries (key : α) (f : β → β) (entries : List (α × β)) : List (α × β) :=
  entries.map fun entry => if entry.1 = key then (entry.1, f entry.2) else entry

theorem map_fst_updateEntries (key : α) (f : β → β) (entries : List (α × β)) :
    (updateEntries key f entries).map Prod.fst = entries.map Prod.fst := by
  simp only [updateEntries, List.map_map, List.map_inj_left]
  intro entry _
  simp only [Function.comp]
  split <;> rfl

/-- Puts the value of a key through `f`; a key that is not there yet is added at the end with
`f start`. -/
def update (map : OrderedMap α β) (key : α) (start : β) (f : β → β) : OrderedMap α β :=
  if h : key ∈ map.keys then
    ⟨updateEntries key f map.entries, by rw [map_fst_updateEntries]; exact map.nodup⟩
  else
    ⟨map.entries ++ [(key, f start)], by
      rw [List.map_append, List.nodup_append]
      refine ⟨map.nodup, by simp, ?_⟩
      rintro a ha b hb rfl
      simp only [List.map_cons, List.map_nil, List.mem_singleton] at hb
      exact h (hb ▸ ha)⟩

/-- Gives a key a value. A key that is there already keeps its place. -/
def insert (map : OrderedMap α β) (key : α) (value : β) : OrderedMap α β :=
  map.update key value fun _ => value

/-- Gives a key a value unless it has one. -/
def insertNew (map : OrderedMap α β) (key : α) (value : β) : OrderedMap α β :=
  map.update key value id

/-- Gives the keys of a list their values, one after the other, unless they have one. -/
def insertNewAll (map : OrderedMap α β) (items : List (α × β)) : OrderedMap α β :=
  items.foldl (fun map item => map.insertNew item.1 item.2) map

theorem keys_update_of_mem {map : OrderedMap α β} {key : α} (start : β) (f : β → β)
    (h : key ∈ map.keys) : (map.update key start f).keys = map.keys := by
  rw [update, dif_pos h]
  exact map_fst_updateEntries key f map.entries

theorem keys_update_of_not_mem {map : OrderedMap α β} {key : α} (start : β) (f : β → β)
    (h : key ∉ map.keys) : (map.update key start f).keys = map.keys ++ [key] := by
  rw [update, dif_neg h]
  simp [keys]

@[simp] theorem mem_keys_update {map : OrderedMap α β} {key other : α} {start : β} {f : β → β} :
    other ∈ (map.update key start f).keys ↔ other ∈ map.keys ∨ other = key := by
  by_cases h : key ∈ map.keys
  · rw [keys_update_of_mem start f h]
    exact ⟨Or.inl, fun ho => ho.elim id (fun e => e ▸ h)⟩
  · simp [keys_update_of_not_mem start f h]

/-! ## Looking up -/

@[simp] theorem get?_empty (key : α) : (∅ : OrderedMap α β).get? key = none := rfl

/-- A key has a value exactly when it is listed. -/
theorem get?_eq_none_iff {map : OrderedMap α β} {key : α} :
    map.get? key = none ↔ key ∉ map.keys := by
  rw [get?, Option.map_eq_none_iff, List.find?_eq_none, keys, List.mem_map]
  constructor
  · rintro h ⟨entry, hm, rfl⟩
    exact h entry hm (by simp)
  · intro h entry hm he
    exact h ⟨entry, hm, of_decide_eq_true he⟩

theorem get?_isSome_iff {map : OrderedMap α β} {key : α} :
    (map.get? key).isSome = true ↔ key ∈ map.keys := by
  rw [Option.isSome_iff_ne_none, ne_eq, get?_eq_none_iff, Decidable.not_not]

theorem find?_of_mem {entries : List (α × β)} {key : α} {value : β}
    (distinct : (entries.map Prod.fst).Nodup) (listed : (key, value) ∈ entries) :
    entries.find? (·.1 = key) = some (key, value) := by
  induction entries with
  | nil => cases listed
  | cons entry rest ih =>
    obtain ⟨absent, distinct⟩ := List.nodup_cons.mp distinct
    rcases List.mem_cons.mp listed with rfl | later
    · simp
    · have other : entry.1 ≠ key := by
        rintro rfl
        exact absent (List.mem_map.mpr ⟨_, later, rfl⟩)
      simpa [other] using ih distinct later

/-- A listed entry is what its key has, since no key is listed twice. -/
theorem mem_entries_iff {map : OrderedMap α β} {key : α} {value : β} :
    (key, value) ∈ map.entries ↔ map.get? key = some value := by
  rw [get?, Option.map_eq_some_iff]
  constructor
  · intro listed
    exact ⟨(key, value), find?_of_mem map.nodup listed, rfl⟩
  · rintro ⟨entry, found, rfl⟩
    have here : entry.1 = key := by simpa using List.find?_some found
    exact here ▸ List.mem_of_find?_eq_some found

@[simp] theorem contains_iff {map : OrderedMap α β} {key : α} :
    map.contains key = true ↔ key ∈ map.keys := by
  simp [contains]

theorem find?_updateEntries (key other : α) (f : β → β) (entries : List (α × β)) :
    ((updateEntries key f entries).find? (·.1 = other)).map Prod.snd =
      ((entries.find? (·.1 = other)).map Prod.snd).map (if other = key then f else id) := by
  induction entries with
  | nil => simp [updateEntries]
  | cons entry rest ih =>
    obtain ⟨name, value⟩ := entry
    simp only [updateEntries, List.map_cons, List.find?_cons] at ih ⊢
    by_cases h : name = other
    · subst h
      by_cases hk : name = key <;> simp [hk]
    · by_cases hk : name = key <;> simp_all

/-- Updating a key puts its value, or `start` when it had none, through `f`. -/
@[simp] theorem get?_update_self (map : OrderedMap α β) (key : α) (start : β) (f : β → β) :
    (map.update key start f).get? key = some (f ((map.get? key).getD start)) := by
  by_cases h : key ∈ map.keys
  · obtain ⟨value, hv⟩ := Option.ne_none_iff_exists'.mp (mt get?_eq_none_iff.mp (not_not_intro h))
    rw [update, dif_pos h]
    rw [get?] at hv
    simp [get?, find?_updateEntries, hv]
  · have hn := get?_eq_none_iff.mpr h
    rw [update, dif_neg h]
    rw [get?, Option.map_eq_none_iff] at hn
    simp [get?, List.find?_append, hn]

theorem get?_update_of_ne {key other : α} (h : other ≠ key) (map : OrderedMap α β) (start : β)
    (f : β → β) : (map.update key start f).get? other = map.get? other := by
  rw [update]
  split
  · simp [get?, find?_updateEntries, h]
  · simp [get?, List.find?_append, Ne.symm h]

@[simp] theorem get?_insert_self (map : OrderedMap α β) (key : α) (value : β) :
    (map.insert key value).get? key = some value := by
  simp [insert]

theorem get?_insert_of_ne {key other : α} (h : other ≠ key) (map : OrderedMap α β) (value : β) :
    (map.insert key value).get? other = map.get? other :=
  get?_update_of_ne h map value _

/-- What an insertion leaves at a key is new, or it was there. -/
theorem of_get?_insert {map : OrderedMap α β} {key other : α} {value found : β}
    (here : (map.insert key value).get? other = some found) :
    other = key ∧ found = value ∨ map.get? other = some found := by
  by_cases same : other = key
  · rw [same, get?_insert_self] at here
    exact .inl ⟨same, (Option.some.inj here).symm⟩
  · rw [get?_insert_of_ne same] at here
    exact .inr here

@[simp] theorem get?_insertNew_self (map : OrderedMap α β) (key : α) (value : β) :
    (map.insertNew key value).get? key = some ((map.get? key).getD value) := by
  simp [insertNew]

theorem get?_insertNew_of_ne {key other : α} (h : other ≠ key) (map : OrderedMap α β) (value : β) :
    (map.insertNew key value).get? other = map.get? other :=
  get?_update_of_ne h map value _

/-! ## Lists of entries -/

@[simp] theorem insertNewAll_nil (map : OrderedMap α β) : map.insertNewAll [] = map := rfl

@[simp] theorem insertNewAll_cons (map : OrderedMap α β) (item : α × β) (items : List (α × β)) :
    map.insertNewAll (item :: items) = (map.insertNew item.1 item.2).insertNewAll items := rfl

theorem insertNewAll_append (map : OrderedMap α β) (items more : List (α × β)) :
    map.insertNewAll (items ++ more) = (map.insertNewAll items).insertNewAll more :=
  List.foldl_append

/-- The first value given to a key counts. -/
theorem get?_insertNewAll (map : OrderedMap α β) (items : List (α × β)) (key : α) :
    (map.insertNewAll items).get? key
      = (map.get? key).or ((items.find? (·.1 = key)).map Prod.snd) := by
  induction items generalizing map with
  | nil => simp
  | cons item rest ih =>
    rw [insertNewAll_cons, ih]
    by_cases same : item.1 = key
    · subst same
      cases known : map.get? item.1 <;> simp [known]
    · rw [get?_insertNew_of_ne (Ne.symm same)]
      simp [same]

end OrderedMap

end SourceGen
