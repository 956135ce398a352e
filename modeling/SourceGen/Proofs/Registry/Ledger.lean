import Mathlib.Data.List.Induction
import SourceGen.Proofs.Registry.Indexes

/-!
# The ledger of a discovery

Discovery takes the declarations one after the other, and what becomes of one depends on those
before it. A ledger tells this in full: it lists the declarations in order, each with the reason
for which it was rejected, or with none when it was registered (`Discovery.Ledger`).

A ledger is sound when every entry has the verdict that follows from the entries before it: a
declaration is registered just when its identity is new, its generator is at hand and tells a name
that is not blank, and otherwise it is rejected for the first reason that applies
(`Discovery.IsVerdict`). Each verdict follows from the earlier ones, so a list of declarations has
at most one sound ledger (`Discovery.Ledger.Sound.unique`); that it has one, from which the report
and the registry can be read off, is `Discovery.exists_ledger`.
-/

namespace SourceGen

/-- A request has no name just when its last component, trimmed, is empty. -/
lemma OutputName.resolve?_eq_none_iff {requested : String} {target generator : TypeName} :
    resolve? requested target generator = none ↔
      SourcePath.fileNameChars (Text.trim requested.toList) = [] := by
  unfold resolve?
  dsimp only
  split
  · next blank => exact iff_of_true rfl (List.isEmpty_iff.mp blank)
  · next filled =>
      exact iff_of_false (Option.some_ne_none _) fun blank => filled (List.isEmpty_iff.mpr blank)

namespace Discovery

/-- Declarations in order, each with the reason for which it was rejected, if it was. -/
abbrev Ledger := List (Declaration × Option RejectReason)

namespace Ledger

/-- The declarations that were registered. -/
def accepted (ledger : Ledger) : List Declaration :=
  (ledger.filter fun entry => entry.2.isNone).map Prod.fst

/-- The declarations that were rejected. -/
def rejected (ledger : Ledger) : List Rejection :=
  ledger.filterMap fun entry => entry.2.map fun reason => ⟨entry.1.id, reason⟩

/-- The number of generators that were asked for a name: all but those of declarations that are
rejected before. -/
def asked (ledger : Ledger) : Nat :=
  ledger.countP fun entry => entry.2 ≠ some .duplicate ∧ entry.2 ≠ some .missingGenerator

variable (ledger : Ledger) (declaration : Declaration)

@[simp] lemma accepted_snoc_none :
    accepted (ledger ++ [(declaration, none)]) = accepted ledger ++ [declaration] := by
  simp [accepted]

@[simp] lemma accepted_snoc_some (reason : RejectReason) :
    accepted (ledger ++ [(declaration, some reason)]) = accepted ledger := by
  simp [accepted]

@[simp] lemma rejected_snoc_none :
    rejected (ledger ++ [(declaration, none)]) = rejected ledger := by
  simp [rejected]

@[simp] lemma rejected_snoc_some (reason : RejectReason) :
    rejected (ledger ++ [(declaration, some reason)]) = rejected ledger
      ++ [⟨declaration.id, reason⟩] := by
  simp [rejected]

end Ledger

/-! ## Verdicts -/

section Verdicts

variable (catalog : Catalog) (earlier : Ledger) (declaration : Declaration)

/-- A declaration can be registered after some entries: none of the same identity was registered,
and its generator is at hand and tells a name whose last component, when trimmed, is not empty. -/
def Registrable : Prop :=
  declaration.id ∉ earlier.accepted.map Declaration.id ∧
    ∃ generator requested, catalog.get? declaration.generatorType = some generator ∧
      generator.fileName earlier.asked = .ok requested ∧
      SourcePath.fileNameChars (Text.trim requested.toList) ≠ []

/-- A reason speaks against a declaration after some entries. -/
def Applies : RejectReason → Prop
  | .duplicate => declaration.id ∈ earlier.accepted.map Declaration.id
  | .missingGenerator => catalog.get? declaration.generatorType = none
  | .outputNameFailed panic =>
    ∃ generator, catalog.get? declaration.generatorType = some generator ∧
      generator.fileName earlier.asked = .error panic
  | .blankOutputName =>
    ∃ generator requested, catalog.get? declaration.generatorType = some generator ∧
      generator.fileName earlier.asked = .ok requested ∧
      SourcePath.fileNameChars (Text.trim requested.toList) = []

/-- The order in which the reasons are looked at. -/
def rank : RejectReason → Nat
  | .duplicate => 0
  | .missingGenerator => 1
  | .outputNameFailed _ => 2
  | .blankOutputName => 3

/-- What follows for a declaration from the entries before it: no reason just when it can be
registered, and otherwise the first one that applies. -/
structure IsVerdict (verdict : Option RejectReason) : Prop where
  accepted : verdict = none ↔ Registrable catalog earlier declaration
  rejected : ∀ reason, verdict = some reason ↔ Applies catalog earlier declaration reason ∧
    ∀ other, Applies catalog earlier declaration other → rank reason ≤ rank other

/-- Every entry has the verdict that follows from those before it. -/
def Ledger.Sound (ledger : Ledger) : Prop :=
  ∀ earlier declaration verdict later, ledger = earlier ++ (declaration, verdict) :: later →
    IsVerdict catalog earlier declaration verdict

end Verdicts

section

variable {catalog : Catalog} {earlier : Ledger} {declaration : Declaration}

lemma Registrable.not_applies (registrable : Registrable catalog earlier declaration)
    (reason : RejectReason) :
    ¬ Applies catalog earlier declaration reason := by
  obtain ⟨fresh, generator, requested, catalogued, told, filled⟩ := registrable
  cases reason with
  | duplicate => exact fresh
  | missingGenerator => simp [Applies, catalogued]
  | outputNameFailed panic => simp [Applies, catalogued, told]
  | blankOutputName => simp [Applies, catalogued, told, filled]

/-- Reasons that apply are told apart by their rank. -/
lemma Applies.eq_of_rank {reason other : RejectReason}
    (applies : Applies catalog earlier declaration reason)
    (appliesOther : Applies catalog earlier declaration other) (same : rank reason = rank other) :
    reason = other := by
  cases reason with
  | outputNameFailed panic =>
    cases other with
    | outputNameFailed panicOther =>
      obtain ⟨generator, catalogued, failed⟩ := applies
      obtain ⟨generatorOther, cataloguedOther, failedOther⟩ := appliesOther
      obtain rfl := Option.some.inj (catalogued.symm.trans cataloguedOther)
      rw [failed] at failedOther
      rw [Except.error.inj failedOther]
    | duplicate | missingGenerator | blankOutputName => simp [rank] at same
  | duplicate | missingGenerator | blankOutputName => cases other <;> simp [rank] at same ⊢

lemma Registrable.isVerdict (registrable : Registrable catalog earlier declaration) :
    IsVerdict catalog earlier declaration none where
  accepted := iff_of_true rfl registrable
  rejected reason := iff_of_false (Option.some_ne_none _).symm
    fun applies => registrable.not_applies reason applies.1

lemma Applies.isVerdict {reason : RejectReason}
    (applies : Applies catalog earlier declaration reason)
    (first : ∀ other, Applies catalog earlier declaration other → rank reason ≤ rank other) :
    IsVerdict catalog earlier declaration (some reason) where
  accepted :=
    iff_of_false (Option.some_ne_none _) fun registrable => registrable.not_applies reason applies
  rejected other := by
    constructor
    · intro same
      obtain rfl := Option.some.inj same
      exact ⟨applies, first⟩
    · rintro ⟨appliesOther, firstOther⟩
      rw [applies.eq_of_rank appliesOther
        (Nat.le_antisymm (first _ appliesOther) (firstOther _ applies))]

lemma IsVerdict.unique {verdict other : Option RejectReason}
    (follows : IsVerdict catalog earlier declaration verdict)
    (followsOther : IsVerdict catalog earlier declaration other) : verdict = other := by
  cases verdict with
  | none => exact (followsOther.accepted.mpr (follows.accepted.mp rfl)).symm
  | some reason =>
    exact ((followsOther.rejected reason).mpr ((follows.rejected reason).mp rfl)).symm

/-! ## Settling -/

/-- What settling a declaration says about it. -/
def verdictOf : Except RejectReason Registration → Option RejectReason
  | .ok _ => none
  | .error reason => some reason

lemma isVerdict_settle {registry : Registry}
    (keys : registry.registrations.keys = earlier.accepted.map Declaration.id) :
    IsVerdict catalog earlier declaration
      (verdictOf (settle catalog registry earlier.asked declaration)) := by
  unfold settle
  split
  · next known =>
    rw [OrderedMap.contains_iff, keys] at known
    have applies : Applies catalog earlier declaration .duplicate := known
    exact applies.isVerdict fun other _ => Nat.zero_le _
  next fresh =>
  rw [OrderedMap.contains_iff, keys] at fresh
  -- The other reasons exclude each other, so each of them is the first once there is no duplicate.
  have first : ∀ reason, Applies catalog earlier declaration reason →
      (∀ other, Applies catalog earlier declaration other → other = .duplicate ∨ other = reason) →
      IsVerdict catalog earlier declaration (some reason) := by
    intro reason applies only
    refine applies.isVerdict fun other appliesOther => ?_
    rcases only other appliesOther with rfl | rfl
    · exact absurd appliesOther fresh
    · exact Nat.le_refl _
  split
  · next missing =>
    refine first .missingGenerator missing fun other appliesOther => ?_
    cases other <;> simp_all [Applies]
  next generator catalogued =>
  split
  · next panic failed =>
    refine first (.outputNameFailed panic) ⟨generator, catalogued,
      failed⟩ fun other appliesOther => ?_
    cases other <;> simp_all [Applies]
  next requested told =>
  split
  · next blank =>
    have blank := OutputName.resolve?_eq_none_iff.mp blank
    refine first .blankOutputName ⟨generator, requested, catalogued, told, blank⟩
      fun other appliesOther => ?_
    cases other <;> simp_all [Applies]
  · next outputName composed =>
    have filled : SourcePath.fileNameChars (Text.trim requested.toList) ≠ [] := fun blank => by
      rw [OutputName.resolve?_eq_none_iff.mpr blank] at composed
      cases composed
    exact Registrable.isVerdict ⟨fresh, generator, requested, catalogued, told, filled⟩

/-- A generator is asked for a name unless the declaration is rejected before. -/
lemma asks_iff {registry : Registry} (asked : Nat) :
    asks catalog registry declaration = true ↔
      verdictOf (settle catalog registry asked declaration) ≠ some .duplicate ∧
        verdictOf (settle catalog registry asked declaration) ≠ some .missingGenerator := by
  unfold asks settle
  cases known : registry.registrations.contains declaration.id with
  | true => simp [verdictOf]
  | false =>
    rw [Bool.not_false, Bool.true_and, if_neg Bool.false_ne_true]
    cases catalogued : catalog.get? declaration.generatorType with
    | none =>
      have absent : catalog.contains declaration.generatorType = false := by
        rw [← Bool.not_eq_true, OrderedMap.contains_iff, ← OrderedMap.get?_eq_none_iff, catalogued]
      simp [absent, verdictOf]
    | some generator =>
      have present : catalog.contains declaration.generatorType = true := by
        rw [OrderedMap.contains_iff, ← OrderedMap.get?_isSome_iff, catalogued]
        rfl
      rw [present]
      dsimp only
      repeat' split
      all_goals simp [verdictOf]

end

/-! ## The ledger of a discovery -/

lemma Ledger.Sound.snoc {catalog : Catalog} {ledger : Ledger} {declaration : Declaration}
    {verdict : Option RejectReason} (sound : ledger.Sound catalog)
    (follows : IsVerdict catalog ledger declaration verdict) :
    Ledger.Sound catalog (ledger ++ [(declaration, verdict)]) := by
  intro earlier other verdictOther later whole
  rcases List.eq_nil_or_concat' later with rfl | ⟨between, last, rfl⟩
  · obtain ⟨rfl, same⟩ := List.append_inj' whole rfl
    obtain ⟨rfl, rfl⟩ := Prod.mk.inj (List.singleton_inj.mp same)
    exact follows
  · rw [← List.cons_append, ← List.append_assoc] at whole
    obtain ⟨rfl, _⟩ := List.append_inj' whole rfl
    exact sound earlier other verdictOther between rfl

/-- What comes later does not matter to what is before. -/
lemma Ledger.Sound.of_append {catalog : Catalog} {earlier later : Ledger}
    (sound : Ledger.Sound catalog (earlier ++ later)) : earlier.Sound catalog := by
  intro front declaration verdict back whole
  exact sound front declaration verdict (back ++ later)
    (by rw [whole, List.append_assoc, List.cons_append])

lemma Ledger.Sound.of_snoc {catalog : Catalog} {ledger : Ledger} {declaration : Declaration}
    {verdict : Option RejectReason}
    (sound : Ledger.Sound catalog (ledger ++ [(declaration, verdict)])) :
    ledger.Sound catalog ∧ IsVerdict catalog ledger declaration verdict :=
  ⟨sound.of_append, sound _ _ _ [] rfl⟩

/-- A list of declarations has at most one sound ledger. -/
lemma Ledger.Sound.unique {catalog : Catalog} {ledger other : Ledger} (sound : ledger.Sound catalog)
    (soundOther : other.Sound catalog) (same : ledger.map Prod.fst = other.map Prod.fst) :
    ledger = other := by
  induction ledger using List.reverseRecOn generalizing other with
  | nil => exact (List.map_eq_nil_iff.mp same.symm).symm
  | append_singleton earlier entry ih =>
    rw [List.map_append, List.map_singleton] at same
    obtain ⟨earlierOther, last, rfl, sameEarlier, sameLast⟩ := List.map_eq_append_iff.mp same.symm
    obtain ⟨entryOther, rfl, sameDeclaration⟩ := List.map_eq_singleton_iff.mp sameLast
    obtain ⟨soundEarlier, follows⟩ := sound.of_snoc
    obtain ⟨soundEarlierOther, followsOther⟩ := soundOther.of_snoc
    obtain rfl := ih soundEarlier soundEarlierOther sameEarlier.symm
    rw [sameDeclaration] at followsOther
    rw [Prod.ext sameDeclaration.symm (follows.unique followsOther)]

end Discovery

/-- What a declaration and its registration have in common. -/
def Declaration.terms (declaration : Declaration) : DeclarationId × Bool × Encoding :=
  (declaration.id, declaration.overwrite, declaration.encoding)

/-- The identity of a registration, its policy and its encoding. -/
def Registration.terms (registration : Registration) : DeclarationId × Bool × Encoding :=
  (registration.id, registration.overwrite, registration.encoding)

namespace Discovery

/-- A discovery went as a ledger tells. -/
structure Follows (catalog : Catalog) (ledger : Ledger) (discovery : Discovery) : Prop where
  sound : ledger.Sound catalog
  accepted : discovery.accepted = ledger.accepted.map Declaration.id
  rejected : discovery.rejected = ledger.rejected
  asked : discovery.asked = ledger.asked
  keys : discovery.registry.registrations.keys = discovery.accepted
  terms : discovery.registry.all.map Registration.terms = ledger.accepted.map Declaration.terms

lemma follows_empty (catalog : Catalog) : Follows catalog [] {} where
  sound := fun earlier _ _ _ whole => absurd whole (by simp)
  accepted := rfl
  rejected := rfl
  asked := rfl
  keys := rfl
  terms := rfl

lemma asked_add (catalog : Catalog) (discovery : Discovery) (declaration : Declaration) :
    (discovery.add catalog declaration).asked
      = discovery.asked + if asks catalog discovery.registry declaration = true then 1 else 0 := by
  unfold Discovery.add
  cases settle catalog discovery.registry discovery.asked declaration <;> rfl

lemma Follows.add {catalog : Catalog} {ledger : Ledger} {discovery : Discovery}
    (follows : Follows catalog ledger discovery) (declaration : Declaration) :
    Follows catalog
      (ledger ++ [(declaration,
        verdictOf (settle catalog discovery.registry discovery.asked declaration))])
      (discovery.add catalog declaration) := by
  have verdict : IsVerdict catalog ledger declaration _ :=
    isVerdict_settle (follows.keys.trans follows.accepted)
  rw [← follows.asked] at verdict
  have sound := follows.sound.snoc verdict
  have asked : (discovery.add catalog declaration).asked = Ledger.asked (ledger ++ [(declaration,
      verdictOf (settle catalog discovery.registry discovery.asked declaration))]) := by
    rw [Ledger.asked, List.countP_append, List.countP_singleton, ← Ledger.asked, ← follows.asked]
    simp only [decide_eq_true_eq, ← asks_iff discovery.asked]
    exact asked_add catalog discovery declaration
  cases settled : settle catalog discovery.registry discovery.asked declaration with
  | error reason =>
    rw [settled] at sound asked
    refine ⟨sound, ?_, ?_, asked, ?_, ?_⟩ <;> simp only [Discovery.add, settled, verdictOf]
    · rw [Ledger.accepted_snoc_some, follows.accepted]
    · rw [Ledger.rejected_snoc_some, follows.rejected]
    · exact follows.keys
    · rw [Ledger.accepted_snoc_some, follows.terms]
  | ok registration =>
    obtain ⟨fresh, isFor⟩ := Registry.isFor_of_settle settled
    have terms : registration.terms = declaration.terms := by
      rw [Registration.terms, isFor.sameId, isFor.overwrite, isFor.encoding]
      rfl
    rw [settled] at sound asked
    refine ⟨sound, ?_, ?_, asked, ?_, ?_⟩ <;> simp only [Discovery.add, settled, verdictOf]
    · rw [Ledger.accepted_snoc_none, follows.accepted, List.map_append]
      rfl
    · rw [Ledger.rejected_snoc_none, follows.rejected]
    · rw [Registry.keys_insert fresh, follows.keys, isFor.sameId]
    · rw [Registry.all_insert fresh, List.map_append, follows.terms, Ledger.accepted_snoc_none,
        List.map_append, List.map_singleton, List.map_singleton, terms]

/-- **Every discovery went as a sound ledger of its declarations tells.** -/
theorem exists_ledger (catalog : Catalog) (declarations : List Declaration) :
    ∃ ledger : Ledger, ledger.map Prod.fst = declarations ∧
      Follows catalog ledger (ofDeclarations catalog declarations) := by
  induction declarations using List.reverseRecOn with
  | nil => exact ⟨[], rfl, follows_empty catalog⟩
  | append_singleton earlier declaration ih =>
    obtain ⟨ledger, entries, follows⟩ := ih
    have next := follows.add declaration
    rw [ofDeclarations, List.foldl_concat]
    exact ⟨_, by rw [List.map_append, entries, List.map_singleton], next⟩

end Discovery

end SourceGen
