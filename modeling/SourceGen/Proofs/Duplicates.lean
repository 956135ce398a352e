import Mathlib.Data.List.Duplicate
import SourceGen.Proofs.Manifest.Checking
import SourceGen.Proofs.Registry.Ledger

/-!
# Declaring twice

Two parts of the program look for declarations of one identity: the check of a manifest, which
refuses the manifest, and discovery, which rejects the later declaration. They agree as long as the
first declaration is registered. Discovery compares with what is registered, so a declaration whose
generator has no usable name is rejected for its name, and is rejected for its name again when it is
repeated (`Manifest.repeated_but_blank`).

`Manifest.check_agrees_with_discovery` says what the check accepts, what it reports otherwise, that
discovery finds no duplicate in what it accepts, and that the two find the same duplicates when
every generator at hand tells a usable name.
-/

namespace SourceGen

/-- The second of two equal elements has the first one before it. -/
lemma duplicate_iff_exists_append {α : Type} {element : α} {elements : List α} :
    List.Duplicate element elements ↔
      ∃ before after, elements = before ++ element :: after ∧ element ∈ before := by
  rw [List.duplicate_iff_sublist, List.cons_sublist_iff]
  constructor
  · rintro ⟨front, back, rfl, here, again⟩
    obtain ⟨between, after, rfl⟩ := List.append_of_mem (List.singleton_sublist.mp again)
    exact ⟨front ++ between, after, (List.append_assoc ..).symm, List.mem_append_left _ here⟩
  · rintro ⟨before, after, rfl, here⟩
    exact ⟨before, element :: after, rfl, here, List.singleton_sublist.mpr List.mem_cons_self⟩

/-- A catalog has a generator for a declaration which, whenever it is asked, tells a name whose last
component, when trimmed, is not empty. -/
def Catalog.Names (catalog : Catalog) (declaration : Declaration) : Prop :=
  ∃ generator, catalog.get? declaration.generatorType = some generator ∧
    ∀ asked, ∃ requested, generator.fileName asked = .ok requested ∧
      SourcePath.fileNameChars (Text.trim requested.toList) ≠ []

/-! ## Duplicates in a ledger -/

namespace Discovery

variable {catalog : Catalog} {ledger : Ledger}

/-- The identities that a ledger lists, accepted or not. -/
def Ledger.ids (ledger : Ledger) : List DeclarationId :=
  (ledger.map Prod.fst).map Declaration.id

lemma Ledger.mem_ids_of_accepted {id : DeclarationId}
    (accepted : id ∈ ledger.accepted.map Declaration.id) :
    id ∈ ledger.ids := by
  rw [Ledger.accepted] at accepted
  exact ((List.filter_sublist.map _).map _).subset accepted

lemma Ledger.mem_rejected_iff {id : DeclarationId} {reason : RejectReason} :
    ⟨id, reason⟩ ∈ ledger.rejected ↔
      ∃ declaration, (declaration, some reason) ∈ ledger ∧ declaration.id = id := by
  simp only [Ledger.rejected, List.mem_filterMap, Option.map_eq_some_iff, Rejection.mk.injEq]
  constructor
  · rintro ⟨⟨declaration, _⟩, listed, _, rfl, same, rfl⟩
    exact ⟨declaration, listed, same⟩
  · rintro ⟨declaration, listed, same⟩
    exact ⟨_, listed, reason, rfl, same, rfl⟩

/-- What is rejected as a duplicate has been declared before. -/
lemma Ledger.Sound.duplicate_of_mem_rejected (sound : ledger.Sound catalog) {id : DeclarationId}
    (rejected : ⟨id, .duplicate⟩ ∈ ledger.rejected) : List.Duplicate id ledger.ids := by
  obtain ⟨declaration, listed, rfl⟩ := Ledger.mem_rejected_iff.mp rejected
  obtain ⟨earlier, later, rfl⟩ := List.append_of_mem listed
  obtain ⟨known, _⟩ := ((sound _ _ _ _ rfl).rejected _).mp rfl
  exact duplicate_iff_exists_append.mpr
    ⟨Ledger.ids earlier, Ledger.ids later, by simp [Ledger.ids], Ledger.mem_ids_of_accepted known⟩

/-- The identity of a declaration with a usable name is registered, with this declaration or
before. -/
lemma Ledger.Sound.mem_accepted (sound : ledger.Sound catalog) {declaration : Declaration}
    {verdict : Option RejectReason} (listed : (declaration, verdict) ∈ ledger)
    (named : catalog.Names declaration) : declaration.id ∈ ledger.accepted.map Declaration.id := by
  obtain ⟨earlier, later, rfl⟩ := List.append_of_mem listed
  have follows := sound _ _ _ _ rfl
  obtain ⟨generator, catalogued, named⟩ := named
  obtain ⟨requested, told, filled⟩ := named (Ledger.asked earlier)
  simp only [Ledger.accepted, List.filter_append, List.map_append, List.mem_append]
  cases verdict with
  | none => exact .inr (by simp)
  | some reason =>
    have applies := ((follows.rejected reason).mp rfl).1
    cases reason with
    | duplicate => exact .inl applies
    | missingGenerator => simp [Applies, catalogued] at applies
    | outputNameFailed panic => simp [Applies, catalogued, told] at applies
    | blankOutputName => simp [Applies, catalogued, told, filled] at applies

/-- What has been declared before is rejected as a duplicate, if the generators tell usable
names. -/
lemma Ledger.Sound.mem_rejected_of_duplicate (sound : ledger.Sound catalog)
    (named : ∀ entry ∈ ledger, catalog.Names entry.1) {id : DeclarationId}
    (again : List.Duplicate id ledger.ids) :
    ⟨id, .duplicate⟩ ∈ ledger.rejected := by
  obtain ⟨before, after, split, known⟩ := duplicate_iff_exists_append.mp again
  rw [Ledger.ids, List.map_map] at split
  obtain ⟨earlier, others, rfl, rfl, rest⟩ := List.map_eq_append_iff.mp split
  obtain ⟨⟨declaration, verdict⟩, later, rfl, rfl, rfl⟩ := List.map_eq_cons_iff.mp rest
  obtain ⟨⟨first, verdictFirst⟩, listed, same⟩ := List.mem_map.mp known
  have registered := sound.of_append.mem_accepted listed (named _ (List.mem_append_left _ listed))
  rw [show first.id = declaration.id from same] at registered
  obtain rfl := ((sound _ _ _ _ rfl).rejected .duplicate).mpr ⟨registered, fun _ _ => Nat.zero_le _⟩
  exact Ledger.mem_rejected_iff.mpr ⟨declaration, by simp, rfl⟩

/-! ## Duplicates in a discovery -/

variable {declarations : List Declaration}

/-- Discovery rejects as duplicates only what is declared twice. -/
theorem duplicate_of_mem_rejected {id : DeclarationId}
    (rejected : ⟨id, .duplicate⟩ ∈ (ofDeclarations catalog declarations).rejected) :
    List.Duplicate id (declarations.map Declaration.id) := by
  obtain ⟨ledger, rfl, follows⟩ := exists_ledger catalog declarations
  rw [follows.rejected] at rejected
  exact follows.sound.duplicate_of_mem_rejected rejected

/-- Discovery rejects as duplicates just what is declared twice, if the generators tell usable
names. -/
theorem mem_rejected_duplicate_iff (named : ∀ declaration ∈ declarations, catalog.Names declaration)
    {id : DeclarationId} :
    ⟨id, .duplicate⟩ ∈ (ofDeclarations catalog declarations).rejected ↔
      List.Duplicate id (declarations.map Declaration.id) := by
  refine ⟨duplicate_of_mem_rejected, fun again => ?_⟩
  obtain ⟨ledger, rfl, follows⟩ := exists_ledger catalog declarations
  rw [follows.rejected]
  exact follows.sound.mem_rejected_of_duplicate
    (fun entry listed => named _ (List.mem_map_of_mem listed)) again

end Discovery

namespace Manifest

/-- What is reported of a well written manifest are the identities that are declared twice. -/
lemma exists_duplicate_fault_iff {source : String} {manifest : Manifest}
    (written : manifest.WellWritten) :
    (∃ id places, manifest.fault? source = some (.duplicate id places)) ↔
      ∃ id, List.Duplicate id (manifest.declarations.map Declaration.id) := by
  rw [List.exists_duplicate_iff_not_nodup]
  constructor
  · rintro ⟨id, places, found⟩ once
    rw [(fault?_eq_none_iff source).mpr ⟨written, once⟩] at found
    cases found
  · intro again
    obtain ⟨fault, found⟩ := Option.ne_none_iff_exists'.mp fun none =>
      again ((fault?_eq_none_iff source).mp none).once
    obtain ⟨check, finds, _⟩ := fault?_eq_some_iff.mp found
    obtain ⟨index, rfl⟩ := written.eq_pair_of_finds finds
    obtain ⟨declaration, _, _, rfl⟩ := finds
    exact ⟨_, _, found⟩

/-- Some pair is at fault just when an identity is declared twice. -/
lemma exists_finds_pair_iff (source : String) {manifest : Manifest} :
    (∃ index fault, manifest.Finds source (.pair index) fault) ↔
      ∃ id, List.Duplicate id (manifest.declarations.map Declaration.id) := by
  rw [List.exists_duplicate_iff_not_nodup, nodup_iff_not_finds source]
  simp only [not_forall, not_not]

/-- **The check of a manifest is exact, and it agrees with discovery.** A text of the right shape
is accepted just when nothing is wrong with the manifest, and otherwise what is reported is the
fault of the first check that finds one. In an accepted manifest discovery finds no duplicate;
where it finds one, some pair is at fault. And when every declaration has a generator at hand that
tells a usable name, discovery rejects as duplicates just the identities that are declared twice, so
it rejects one just when some pair is at fault, and for a well written manifest just when the check
reports one. To both it is one identity whether a target is named as its own generator or none is
named. -/
theorem check_agrees_with_discovery :
    (∀ source manifest, Deserializes source manifest →
      (ofSource source = .ok manifest ↔ manifest.Sound) ∧
      (∀ fault, ofSource source = .error fault ↔ manifest.IsFirstFault source fault) ∧
      (ofSource source = .ok manifest → ∀ catalog id,
        ⟨id, .duplicate⟩ ∉ (Discovery.ofDeclarations catalog manifest.declarations).rejected)) ∧
    (∀ (catalog : Catalog) (source : String) (manifest : Manifest),
      let rejected := (Discovery.ofDeclarations catalog manifest.declarations).rejected
      ((∃ id, ⟨id, .duplicate⟩ ∈ rejected) → ∃ index fault,
        manifest.Finds source (.pair index) fault) ∧
      ((∀ declaration ∈ manifest.declarations, catalog.Names declaration) →
        (∀ id, ⟨id, .duplicate⟩ ∈ rejected ↔
          List.Duplicate id (manifest.declarations.map Declaration.id)) ∧
        ((∃ id, ⟨id, .duplicate⟩ ∈ rejected) ↔ ∃ index fault,
          manifest.Finds source (.pair index) fault) ∧
        (manifest.WellWritten → ((∃ id, ⟨id, .duplicate⟩ ∈ rejected) ↔
          ∃ id places, manifest.fault? source = some (.duplicate id places))))) ∧
    ∀ declaration : Declaration,
      { declaration with generator := some declaration.target }.id
        = { declaration with generator := none }.id := by
  refine ⟨fun source manifest deserializes =>
    ?_, fun catalog source manifest => ⟨?_, fun named => ?_⟩,
    fun _ => rfl⟩
  · refine ⟨deserializes.ofSource_eq_ok_iff, fun _ => deserializes.ofSource_eq_error_iff, ?_⟩
    intro accepted catalog id rejected
    have once := (deserializes.ofSource_eq_ok_iff.mp accepted).once
    exact List.nodup_iff_forall_not_duplicate.mp once id
      (Discovery.duplicate_of_mem_rejected rejected)
  · rintro ⟨id, rejected⟩
    exact (exists_finds_pair_iff source).mpr ⟨id, Discovery.duplicate_of_mem_rejected rejected⟩
  · have rejects : ∀ id, _ ↔ List.Duplicate id _ :=
      fun _ => Discovery.mem_rejected_duplicate_iff named
    refine ⟨rejects, ?_, fun written => ?_⟩
    · rw [exists_congr rejects, exists_finds_pair_iff]
    · rw [exists_congr rejects, exists_duplicate_fault_iff written]

/-! ## A target that is declared twice -/

namespace Twice

/-- A manifest as a text: the target is its own generator. -/
def once : String :=
  "[[declarations]]\ntarget = 'App.Player'\n"

/-- The same with a second declaration, which names the generator. -/
def text : String :=
  once ++ "[[declarations]]\ntarget = 'App.Player'\ngenerator = 'App.Player'\n"

/-- The target. -/
def player : TypeName := ⟨"App.Player"⟩

/-- The manifest with one declaration. -/
def single : Manifest where
  declarations := [{ target := player }]

/-- The manifest with both. -/
def manifest : Manifest where
  declarations := [{ target := player }, { target := player, generator := some player }]

/-- The fault of the manifest; it points at both names of the target. -/
def fault : ManifestFault :=
  .duplicate ⟨player, player⟩ (some (⟨27, 10⟩, ⟨66, 10⟩))

/-- The target as a generator that asks for files of a given name. -/
def catalog (fileName : String) : Catalog :=
  .ofList [(player, { fileName _ := .ok fileName, emit _ request := .failed [request.buffer] })]

lemma deserializes_once : Deserializes once single :=
  deserializes_of_read (by decide +kernel)

lemma deserializes_text : Deserializes text manifest :=
  deserializes_of_read (by decide +kernel)

lemma names : ∀ declaration ∈ manifest.declarations, (catalog "Note.txt").Names declaration := by
  have named : SourcePath.fileNameChars (Text.trim "Note.txt".toList) ≠ [] := by decide
  intro declaration listed
  rcases List.mem_pair.mp listed with rfl | rfl <;> exact ⟨_, rfl, fun _ => ⟨_, rfl, named⟩⟩

lemma wellWritten : manifest.WellWritten where
  header _ present := nomatch present
  targets := by decide
  generators declaration listed name named := by
    rcases List.mem_pair.mp listed with rfl | rfl
    · cases named
    · obtain rfl := Option.some.inj named
      decide

lemma ofSource_once : ofSource once = .ok single := by
  rw [deserializes_once.ofSource_eq]
  rfl

lemma fault?_text : manifest.fault? text = some fault := by
  rfl

lemma ofSource_text : ofSource text = .error fault := by
  rw [deserializes_text.ofSource_eq, fault?_text]
  rfl

end Twice

/-- The single declaration is accepted, and discovery takes it. Of the two, the fault that is
reported is the first, and discovery rejects the second. -/
theorem check_agrees_with_discovery_player :
    let id : DeclarationId := ⟨Twice.player, Twice.player⟩
    let discovery (manifest : Manifest) :=
      Discovery.ofDeclarations (Twice.catalog "Note.txt") manifest.declarations
    ofSource Twice.once = .ok Twice.single ∧ Twice.single.Sound ∧
      ⟨id, .duplicate⟩ ∉ (discovery Twice.single).rejected ∧
      ofSource Twice.text = .error Twice.fault ∧
      Twice.manifest.IsFirstFault Twice.text Twice.fault ∧
      ⟨id, .duplicate⟩ ∈ (discovery Twice.manifest).rejected ∧
      ∃ id places, Twice.manifest.fault? Twice.text = some (.duplicate id places) := by
  intro id discovery
  obtain ⟨accepts, _, takes⟩ := check_agrees_with_discovery.1 _ _ Twice.deserializes_once
  obtain ⟨_, reports, _⟩ := check_agrees_with_discovery.1 _ _ Twice.deserializes_text
  obtain ⟨rejects, _, agree⟩ :=
    (check_agrees_with_discovery.2.1 (Twice.catalog "Note.txt") Twice.text Twice.manifest).2
      Twice.names
  have rejected : ⟨id, .duplicate⟩ ∈ (discovery Twice.manifest).rejected :=
    (rejects id).mpr (by decide)
  exact ⟨Twice.ofSource_once, accepts.mp Twice.ofSource_once, takes Twice.ofSource_once _ id,
    Twice.ofSource_text, (reports _).mp Twice.ofSource_text, rejected,
    (agree Twice.wellWritten).mp ⟨id, rejected⟩⟩

/-- A generator at hand is not enough: where its name is blank, both declarations are rejected for
that, so discovery finds no duplicate in what the check reports as one. -/
theorem repeated_but_blank :
    let rejected :=
      (Discovery.ofDeclarations (Twice.catalog " ") Twice.manifest.declarations).rejected
    (∀ declaration ∈ Twice.manifest.declarations,
        (Twice.catalog " ").contains declaration.generatorType = true) ∧
      rejected = [⟨⟨Twice.player, Twice.player⟩, .blankOutputName⟩,
        ⟨⟨Twice.player, Twice.player⟩, .blankOutputName⟩] ∧
      ¬ ((∃ id, ⟨id, .duplicate⟩ ∈ rejected) ↔
        ∃ id places, Twice.manifest.fault? Twice.text = some (.duplicate id places)) := by
  have blank : (Discovery.ofDeclarations (Twice.catalog " ") Twice.manifest.declarations).rejected
      = [⟨⟨Twice.player, Twice.player⟩, .blankOutputName⟩,
        ⟨⟨Twice.player, Twice.player⟩, .blankOutputName⟩] := by
    decide
  refine ⟨by decide, blank, fun agree => ?_⟩
  obtain ⟨id, rejected⟩ := agree.mpr ⟨_, _, Twice.fault?_text⟩
  rw [blank] at rejected
  simp at rejected

end Manifest

end SourceGen
