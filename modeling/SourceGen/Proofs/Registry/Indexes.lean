import Mathlib.Data.List.Nodup
import SourceGen.Registry.Discovery

/-!
# The indexes of a registry

A registry holds its registrations in one map and lists their identities in two more, by target and
by generator. The three are filled one registration at a time, so that they agree is an invariant
(`Registry.Indexed`): a registration stands under its own identity, and each index lists, for every
type, the registered identities in which the type plays that role, in the order of discovery. Every
registry that a discovery makes has it (`Registry.Discovered.indexed`).

The two indexes are one notion with the role of the type as a parameter (`Registry.Lists`), so each
fact about them is proved once.
-/

namespace SourceGen

namespace Registry

/-! ## The invariant -/

/-- An index lists, for every type, the identities in which it plays `role`, and holds no type that
plays it in none. -/
structure Lists (ids : List DeclarationId) (role : DeclarationId → TypeName)
    (index : OrderedMap TypeName (List DeclarationId)) : Prop where
  listed : ∀ type, (index.get? type).getD [] = ids.filter fun id => role id = type
  nonempty : ∀ type, index.get? type ≠ some []

/-- The maps of a registry agree. -/
structure Indexed (registry : Registry) : Prop where
  keyed : ∀ id registration, registry.get? id = some registration → registration.id = id
  targets : Lists registry.registrations.keys DeclarationId.target registry.byTarget
  generators : Lists registry.registrations.keys DeclarationId.generator registry.byGenerator

/-- A registry that some discovery made; the empty one, with which an engine starts, is made of no
declarations. -/
def Discovered (registry : Registry) : Prop :=
  ∃ catalog declarations, registry = (Discovery.ofDeclarations catalog declarations).registry

lemma mem_all_of_get? {registry : Registry} {id : DeclarationId} {registration : Registration}
    (found : registry.get? id = some registration) : registration ∈ registry.all :=
  List.mem_map.mpr ⟨_, OrderedMap.mem_entries_iff.mpr found, rfl⟩

/-! ## Discovery keeps it -/

lemma Lists.empty (role : DeclarationId → TypeName) : Lists [] role ∅ where
  listed _ := by simp
  nonempty _ := by simp

lemma Lists.snoc {ids : List DeclarationId} {role : DeclarationId → TypeName}
    {index : OrderedMap TypeName (List DeclarationId)} (lists : Lists ids role index)
    (id : DeclarationId) : Lists (ids ++ [id]) role (index.update (role id) [] (· ++ [id])) where
  listed type := by
    rw [List.filter_append]
    by_cases same : role id = type
    · subst same
      simp [lists.listed]
    · rw [OrderedMap.get?_update_of_ne (Ne.symm same), lists.listed]
      simp [same]
  nonempty type := by
    by_cases same : type = role id
    · subst same
      simp
    · rw [OrderedMap.get?_update_of_ne same]
      exact lists.nonempty type

lemma indexed_empty : Indexed {} where
  keyed _ _ found := by cases found
  targets := Lists.empty _
  generators := Lists.empty _

lemma keys_insert {registry : Registry} {registration : Registration}
    (fresh : registration.id ∉ registry.registrations.keys) :
    (registry.insert registration).registrations.keys
      = registry.registrations.keys ++ [registration.id] :=
  OrderedMap.keys_update_of_not_mem _ _ fresh

lemma Indexed.insert {registry : Registry} (indexed : registry.Indexed)
    {registration : Registration} (fresh : registration.id ∉ registry.registrations.keys) :
    (registry.insert registration).Indexed where
  keyed id other found := by
    rcases OrderedMap.of_get?_insert found with ⟨rfl, rfl⟩ | old
    · rfl
    · exact indexed.keyed id other old
  targets := by
    rw [keys_insert fresh]
    exact indexed.targets.snoc registration.id
  generators := by
    rw [keys_insert fresh]
    exact indexed.generators.snoc registration.id

/-- The registration is that of the declaration: it has its identity and its terms, it is answered
by the generator that the catalog has, and its name was composed from a request of that
generator. -/
structure IsFor (catalog : Catalog) (declaration : Declaration) (registration : Registration) :
    Prop where
  sameId : registration.id = declaration.id
  overwrite : registration.overwrite = declaration.overwrite
  encoding : registration.encoding = declaration.encoding
  catalogued : catalog.get? registration.id.generator = some registration.generator
  composed : ∃ asked requested, registration.generator.fileName asked = .ok requested ∧
    OutputName.resolve? requested registration.id.target registration.id.generator
      = some registration.outputName

lemma isFor_of_settle {catalog : Catalog} {registry : Registry} {asked : Nat}
    {declaration : Declaration} {registration : Registration}
    (settled : Discovery.settle catalog registry asked declaration = .ok registration) :
    registration.id ∉ registry.registrations.keys ∧ IsFor catalog declaration registration := by
  unfold Discovery.settle at settled
  split at settled
  · cases settled
  next fresh =>
  split at settled
  · cases settled
  next generator catalogued =>
  split at settled
  · cases settled
  next requested told =>
  split at settled
  · cases settled
  next outputName composed =>
  cases settled
  exact ⟨by simpa using fresh, rfl, rfl, rfl, catalogued, asked, requested, told, composed⟩

/-- One more declaration leaves the registry as it is, or adds the registration of the
declaration. -/
lemma registry_add (catalog : Catalog) (discovery : Discovery) (declaration : Declaration) :
    (discovery.add catalog declaration).registry = discovery.registry ∨
      ∃ registration, registration.id ∉ discovery.registry.registrations.keys ∧
        IsFor catalog declaration registration ∧
        (discovery.add catalog declaration).registry = discovery.registry.insert registration := by
  unfold Discovery.add
  cases settled : Discovery.settle catalog discovery.registry discovery.asked declaration with
  | error reason => exact .inl rfl
  | ok registration =>
    obtain ⟨fresh, isFor⟩ := isFor_of_settle settled
    exact .inr ⟨registration, fresh, isFor, rfl⟩

theorem Discovered.indexed {registry : Registry} (discovered : registry.Discovered) :
    registry.Indexed := by
  obtain ⟨catalog, declarations, rfl⟩ := discovered
  refine List.foldlRecOn (motive := fun discovery : Discovery => discovery.registry.Indexed)
    declarations _ indexed_empty fun discovery indexed declaration _ => ?_
  rcases registry_add catalog discovery declaration with same | ⟨registration, fresh, _, added⟩
  · rwa [same]
  · rw [added]
    exact indexed.insert fresh

lemma all_insert {registry : Registry} {registration : Registration}
    (fresh : registration.id ∉ registry.registrations.keys) :
    (registry.insert registration).all = registry.all ++ [registration] := by
  rw [all, OrderedMap.values, Registry.insert, OrderedMap.insert, OrderedMap.update, dif_neg fresh,
    List.map_append]
  rfl

lemma exists_isFor_of_mem_all {catalog : Catalog} {declarations : List Declaration}
    {registration : Registration}
    (registered : registration ∈ (Discovery.ofDeclarations catalog declarations).registry.all) :
    ∃ declaration ∈ declarations, IsFor catalog declaration registration := by
  have stems : ∀ registration ∈ (Discovery.ofDeclarations catalog declarations).registry.all,
      ∃ declaration ∈ declarations, IsFor catalog declaration registration := by
    refine List.foldlRecOn (motive := fun discovery : Discovery =>
      ∀ registration ∈ discovery.registry.all,
      ∃ declaration ∈ declarations, IsFor catalog declaration registration) declarations _ ?_ ?_
    · exact fun _ none => absurd none List.not_mem_nil
    intro discovery stems declaration present registration registered
    rcases registry_add catalog discovery declaration with same | ⟨other, fresh, isFor, added⟩
    · exact stems registration (same ▸ registered)
    · rw [added, all_insert fresh] at registered
      rcases List.mem_append.mp registered with old | new
      · exact stems registration old
      · exact ⟨declaration, present, List.mem_singleton.mp new ▸ isFor⟩
  exact stems registration registered

/-- With one generator at hand, every registration is answered by that. -/
lemma generator_of_mem_all {name : TypeName} {generator : Generator}
    {declarations : List Declaration} {registration : Registration}
    (registered : registration ∈ (Discovery.ofDeclarations (.ofList [(name, generator)])
      declarations).registry.all) :
    registration.generator = generator := by
  obtain ⟨declaration, _, isFor⟩ := exists_isFor_of_mem_all registered
  have catalogued := isFor.catalogued
  rw [Catalog.ofList, List.foldl_cons, List.foldl_nil] at catalogued
  exact (OrderedMap.of_get?_insert catalogued).elim And.right nofun

/-! ## What the indexes answer -/

variable {registry : Registry}

/-- The registrations of listed identities are those that play the role, in the order of
discovery. -/
lemma ofIds_eq_filter (indexed : registry.Indexed) {role : DeclarationId → TypeName}
    {index : OrderedMap TypeName (List DeclarationId)}
    (lists : Lists registry.registrations.keys role index) (type : TypeName) :
    registry.ofIds (index.get? type) = registry.all.filter fun other => role other.id = type := by
  have keyed : ∀ entry ∈ registry.registrations.entries,
      registry.get? entry.1 = some entry.2 ∧ entry.2.id = entry.1 := by
    intro entry listed
    have found := OrderedMap.mem_entries_iff.mp listed
    exact ⟨found, indexed.keyed _ _ found⟩
  rw [ofIds, lists.listed, OrderedMap.keys, all, OrderedMap.values, List.filter_map,
    List.filter_map, List.filterMap_map, ← List.filterMap_eq_map]
  have sameFilter : registry.registrations.entries.filter
        ((fun other : Registration => decide (role other.id = type)) ∘ Prod.snd)
      = registry.registrations.entries.filter
        ((fun id => decide (role id = type)) ∘ Prod.fst) := by
    refine List.filter_congr fun entry listed => ?_
    simp [(keyed entry listed).2]
  rw [sameFilter]
  refine List.filterMap_congr fun entry listed => ?_
  simpa using (keyed entry (List.mem_of_mem_filter listed)).1

lemma forTarget_eq_filter (indexed : registry.Indexed) (type : TypeName) :
    registry.forTarget type = registry.all.filter fun other => other.id.target = type :=
  ofIds_eq_filter indexed indexed.targets type

lemma forGenerator_eq_filter (indexed : registry.Indexed) (type : TypeName) :
    registry.forGenerator type = registry.all.filter fun other => other.id.generator = type :=
  ofIds_eq_filter indexed indexed.generators type

lemma get?_of_mem_all (indexed : registry.Indexed) {registration : Registration}
    (listed : registration ∈ registry.all) : registry.get? registration.id = some registration := by
  obtain ⟨⟨id, registration⟩, entered, rfl⟩ := List.mem_map.mp listed
  have found := OrderedMap.mem_entries_iff.mp entered
  rw [indexed.keyed id registration found]
  exact found

lemma mem_keys_iff_exists (indexed : registry.Indexed) {id : DeclarationId} :
    id ∈ registry.registrations.keys ↔ ∃ registration ∈ registry.all, registration.id = id := by
  constructor
  · intro registered
    obtain ⟨entry, listed, rfl⟩ := List.mem_map.mp registered
    exact ⟨entry.2, List.mem_map.mpr ⟨entry, listed, rfl⟩,
      indexed.keyed _ _ (OrderedMap.mem_entries_iff.mp listed)⟩
  · rintro ⟨registration, listed, rfl⟩
    obtain ⟨⟨id, registration⟩, entered, rfl⟩ := List.mem_map.mp listed
    rw [indexed.keyed _ _ (OrderedMap.mem_entries_iff.mp entered)]
    exact List.mem_map.mpr ⟨_, entered, rfl⟩

lemma exists_declaration_of_mem_keys {catalog : Catalog} {declarations : List Declaration}
    {id : DeclarationId}
    (registered :
      id ∈ (Discovery.ofDeclarations catalog declarations).registry.registrations.keys) :
    ∃ declaration ∈ declarations, declaration.id = id := by
  have indexed := Discovered.indexed ⟨catalog, declarations, rfl⟩
  obtain ⟨registration, listed, rfl⟩ := (mem_keys_iff_exists indexed).mp registered
  obtain ⟨declaration, declared, isFor⟩ := exists_isFor_of_mem_all listed
  exact ⟨declaration, declared, isFor.sameId.symm⟩

lemma mem_ids_filter (indexed : registry.Indexed) {role : DeclarationId → TypeName}
    {type : TypeName} {id : DeclarationId} :
    id ∈ (registry.all.filter fun other => role other.id = type).map Registration.id ↔
      id ∈ registry.registrations.keys ∧ role id = type := by
  rw [mem_keys_iff_exists indexed]
  simp only [List.mem_map, List.mem_filter, decide_eq_true_eq]
  constructor
  · rintro ⟨registration, ⟨listed, plays⟩, rfl⟩
    exact ⟨⟨registration, listed, rfl⟩, plays⟩
  · rintro ⟨⟨registration, listed, rfl⟩, plays⟩
    exact ⟨registration, ⟨listed, plays⟩, rfl⟩

lemma mem_ids_forTarget (indexed : registry.Indexed) {type : TypeName} {id : DeclarationId} :
    id ∈ (registry.forTarget type).map Registration.id ↔
      id ∈ registry.registrations.keys ∧ id.target = type := by
  rw [forTarget_eq_filter indexed]
  exact mem_ids_filter indexed

lemma mem_ids_forGenerator (indexed : registry.Indexed) {type : TypeName} {id : DeclarationId} :
    id ∈ (registry.forGenerator type).map Registration.id ↔
      id ∈ registry.registrations.keys ∧ id.generator = type := by
  rw [forGenerator_eq_filter indexed]
  exact mem_ids_filter indexed

lemma Lists.mem_keys_iff {ids : List DeclarationId} {role : DeclarationId → TypeName}
    {index : OrderedMap TypeName (List DeclarationId)} (lists : Lists ids role index)
    {type : TypeName} : type ∈ index.keys ↔ ∃ id ∈ ids, role id = type := by
  have listed := lists.listed type
  constructor
  · intro present
    obtain ⟨found, here⟩ := Option.isSome_iff_exists.mp (OrderedMap.get?_isSome_iff.mpr present)
    rw [here, Option.getD_some] at listed
    have some : found ≠ [] := fun none => lists.nonempty type (none ▸ here)
    obtain ⟨id, mem⟩ := List.exists_mem_of_ne_nil found some
    rw [listed, List.mem_filter, decide_eq_true_eq] at mem
    exact ⟨id, mem⟩
  · rintro ⟨id, mem, plays⟩
    by_contra absent
    rw [OrderedMap.get?_eq_none_iff.mpr absent, Option.getD_none] at listed
    exact (List.filter_eq_nil_iff.mp listed.symm) id mem (by simpa using plays)

lemma isTarget_iff (indexed : registry.Indexed) {type : TypeName} :
    registry.isTarget type = true ↔ ∃ id ∈ registry.registrations.keys, id.target = type := by
  rw [isTarget, OrderedMap.contains_iff, indexed.targets.mem_keys_iff]

lemma isGenerator_iff (indexed : registry.Indexed) {type : TypeName} :
    registry.isGenerator type = true ↔ ∃ id ∈ registry.registrations.keys, id.generator = type := by
  rw [isGenerator, OrderedMap.contains_iff, indexed.generators.mem_keys_iff]

end Registry

end SourceGen
