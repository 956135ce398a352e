import Mathlib.Data.List.Dedup
import SourceGen.Proofs.Registry.Ledger

/-!
# What a discovery settles

A discovery goes through with every list of declarations and every catalog, whatever the generators
answer when they are asked for a name, be it a panic: each declaration is registered or rejected, as
the sound ledger of the list tells. Afterwards all that the registry answers, by identity, by
target, by generator, can be read off the list of its registrations (`Registry.Presents`), and these
are the accepted declarations.

The registry keeps the registrations of each generator and counts them where it lists the shared
generators. Each of them has another target, since the two types together are the identity, so what
is counted are targets (`Registry.targetCount`).
-/

namespace SourceGen

namespace Registry

/-- The number of different targets that a generator is registered for. -/
def targetCount (registry : Registry) (generator : TypeName) : Nat :=
  ((registry.all.filter fun other => other.id.generator = generator).map fun other =>
    other.id.target).dedup.length

/-- All that a registry answers follows from the list of its registrations, which are those of the
given declarations. -/
structure Presents (registry : Registry) (declarations : List Declaration) : Prop where
  terms : registry.all.map Registration.terms = declarations.map Declaration.terms
  once : (declarations.map Declaration.id).Nodup
  get? : ∀ id registration, registry.get? id = some registration ↔
    registration ∈ registry.all ∧ registration.id = id
  forTarget : ∀ type, registry.forTarget type = registry.all.filter fun other =>
    other.id.target = type
  forGenerator : ∀ type,
    registry.forGenerator type = registry.all.filter fun other => other.id.generator = type
  isTarget : ∀ type, registry.isTarget type = true ↔ registry.forTarget type ≠ []
  isGenerator : ∀ type, registry.isGenerator type = true ↔ registry.forGenerator type ≠ []
  shared : ∀ type count, (type, count) ∈ registry.sharedGenerators ↔
    1 < count ∧ count = registry.targetCount type
  sharedOnce : (registry.sharedGenerators.map Prod.fst).Nodup

variable {registry : Registry}

/-! ## Looking up -/

lemma get?_eq_some_iff (indexed : registry.Indexed) {id : DeclarationId}
    {registration : Registration} :
    registry.get? id = some registration ↔ registration ∈ registry.all ∧ registration.id = id := by
  constructor
  · intro found
    exact ⟨mem_all_of_get? found, indexed.keyed _ _ found⟩
  · rintro ⟨listed, rfl⟩
    obtain ⟨entry, entered, rfl⟩ := List.mem_map.mp listed
    have found : registry.get? entry.1 = some entry.2 := OrderedMap.mem_entries_iff.mp entered
    rwa [indexed.keyed _ _ found]

lemma exists_mem_keys_iff (indexed : registry.Indexed) {role : DeclarationId → TypeName}
    {type : TypeName} :
    (∃ id ∈ registry.registrations.keys, role id = type) ↔
      (registry.all.filter fun other => role other.id = type) ≠ [] := by
  simp only [mem_keys_iff_exists indexed, ne_eq, List.filter_eq_nil_iff, decide_eq_true_eq,
    not_forall, not_not]
  constructor
  · rintro ⟨id, ⟨registration, listed, rfl⟩, plays⟩
    exact ⟨registration, listed, plays⟩
  · rintro ⟨registration, listed, plays⟩
    exact ⟨registration.id, ⟨registration, listed, rfl⟩, plays⟩

lemma isTarget_iff_forTarget (indexed : registry.Indexed) (type : TypeName) :
    registry.isTarget type = true ↔ registry.forTarget type ≠ [] := by
  rw [isTarget_iff indexed, forTarget_eq_filter indexed]
  exact exists_mem_keys_iff indexed

lemma isGenerator_iff_forGenerator (indexed : registry.Indexed) (type : TypeName) :
    registry.isGenerator type = true ↔ registry.forGenerator type ≠ [] := by
  rw [isGenerator_iff indexed, forGenerator_eq_filter indexed]
  exact exists_mem_keys_iff indexed

/-! ## Shared generators -/

lemma map_id_all (indexed : registry.Indexed) :
    registry.all.map Registration.id = registry.registrations.keys := by
  rw [all, OrderedMap.values, OrderedMap.keys, List.map_map]
  exact List.map_congr_left fun entry entered =>
    indexed.keyed _ _ (OrderedMap.mem_entries_iff.mp entered)

/-- The identities of one generator differ in their targets. -/
lemma nodup_targets (indexed : registry.Indexed) (generator : TypeName) :
    ((registry.all.filter fun other => other.id.generator = generator).map fun other =>
      other.id.target).Nodup := by
  have ids : (registry.all.map Registration.id).Nodup := by
    rw [map_id_all indexed]
    exact registry.registrations.nodup
  refine List.Nodup.map_on ?_ ((ids.of_map _).filter _)
  intro one mine other others same
  have mine := List.mem_filter.mp mine
  have others := List.mem_filter.mp others
  refine List.inj_on_of_nodup_map ids mine.1 others.1 ?_
  exact DeclarationId.mk.injEq .. ▸ ⟨same,
    (of_decide_eq_true mine.2).trans (of_decide_eq_true others.2).symm⟩

/-- The index of the generators lists as many identities as a generator has targets. -/
lemma length_listed (indexed : registry.Indexed) (generator : TypeName) :
    ((registry.byGenerator.get? generator).getD []).length = registry.targetCount generator := by
  rw [targetCount, (nodup_targets indexed generator).dedup, List.length_map,
    indexed.generators.listed, ← map_id_all indexed, List.filter_map, List.length_map]
  rfl

lemma mem_sharedGenerators_iff (indexed : registry.Indexed) (type : TypeName) (count : Nat) :
    (type, count) ∈ registry.sharedGenerators ↔ 1 < count ∧ count = registry.targetCount type := by
  rw [sharedGenerators, ← length_listed indexed]
  simp only [List.mem_map, List.mem_filter, decide_eq_true_eq, Prod.exists, Prod.mk.injEq]
  constructor
  · rintro ⟨type, ids, ⟨entered, several⟩, rfl, rfl⟩
    rw [OrderedMap.mem_entries_iff.mp entered]
    exact ⟨several, rfl⟩
  · rintro ⟨several, rfl⟩
    cases found : registry.byGenerator.get? type with
    | none => simp [found] at several
    | some ids =>
      rw [found] at several
      exact ⟨type, ids, ⟨OrderedMap.mem_entries_iff.mpr found, several⟩, rfl, rfl⟩

lemma nodup_sharedGenerators (registry : Registry) :
    (registry.sharedGenerators.map Prod.fst).Nodup := by
  rw [sharedGenerators, List.map_map]
  exact (List.filter_sublist.map Prod.fst).nodup registry.byGenerator.nodup

end Registry

namespace Discovery

lemma Follows.presents {catalog : Catalog} {ledger : Ledger} {discovery : Discovery}
    (follows : Follows catalog ledger discovery) (indexed : discovery.registry.Indexed) :
    discovery.registry.Presents ledger.accepted where
  terms := follows.terms
  once := by
    rw [← follows.accepted, ← follows.keys]
    exact discovery.registry.registrations.nodup
  get? _ _ := Registry.get?_eq_some_iff indexed
  forTarget := Registry.forTarget_eq_filter indexed
  forGenerator := Registry.forGenerator_eq_filter indexed
  isTarget := Registry.isTarget_iff_forTarget indexed
  isGenerator := Registry.isGenerator_iff_forGenerator indexed
  shared := Registry.mem_sharedGenerators_iff indexed
  sharedOnce := Registry.nodup_sharedGenerators _

/-- **Discovery settles every declaration, and the registry presents what it accepted.** Of any
list of declarations there is exactly one sound ledger, in which each declaration has, in its place,
the verdict that follows from those before it. The report lists what the ledger accepted and what
it rejected with the reasons, both in order, and all that the registry answers can be read off the
accepted declarations. -/
theorem settles_every_declaration (catalog : Catalog) (declarations : List Declaration) :
    ∃ ledger : Ledger, ledger.map Prod.fst = declarations ∧ ledger.Sound catalog ∧
      (∀ other : Ledger, other.map Prod.fst = declarations → other.Sound catalog → other = ledger) ∧
      (ofDeclarations catalog declarations).accepted = ledger.accepted.map Declaration.id ∧
      (ofDeclarations catalog declarations).rejected = ledger.rejected ∧
      (ofDeclarations catalog declarations).registry.Presents ledger.accepted := by
  obtain ⟨ledger, entries, follows⟩ := exists_ledger catalog declarations
  have indexed : (ofDeclarations catalog declarations).registry.Indexed :=
    Registry.Discovered.indexed ⟨catalog, declarations, rfl⟩
  refine ⟨ledger, entries, follows.sound, ?_, follows.accepted, follows.rejected,
    follows.presents indexed⟩
  intro other entriesOther soundOther
  exact soundOther.unique follows.sound (entriesOther.trans entries.symm)

end Discovery

end SourceGen
