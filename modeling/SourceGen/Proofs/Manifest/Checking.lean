import Mathlib.Data.List.Nodup
import Mathlib.Tactic.Lemma
import SourceGen.Manifest.File

/-!
# What the check of a manifest finds

The check of a manifest stops at the first fault. Here the checks stand side by side instead: one
for the header, and for each declaration one each for its target, its generator and the pair of both
(`Manifest.Check`), and whether a check finds a fault is said without regard to the others
(`Manifest.Finds`). Numbered in the order in which they are made, they say what the answer must be:
the fault of the check with the least number, and none when every check passes.

`Manifest.fault?_eq_some_iff` and `Manifest.fault?_eq_none_iff` state that this is the answer. The
induction goes over the declarations that are left; what carries it is that the ones before have
passed, so that the count kept for each identity is one or zero (`Manifest.Marks`), and that no
check of a smaller number finds a fault (`Manifest.ClearBelow`). So what is read as a manifest is
what has the shape of one and passes (`Manifest.ofSource_eq_ok_iff`).
-/

namespace SourceGen

/-- Faults cannot be compared, but what was read can. -/
lemma eq_ok_of_toOption {ε α : Type} {result : Except ε α} {value : α}
    (read : result.toOption = some value) :
    result = .ok value := by
  cases result with
  | error => cases read
  | ok => rw [Option.some.inj read]

namespace Manifest

/-! ## The checks -/

/-- A check of a manifest; an index tells the declaration that it looks at. The header must not be
blank, the target and the generator, if it is named, must be valid names, and no declaration before
may have the same identity. -/
inductive Check where
  | header
  | target (index : Nat)
  | generator (index : Nat)
  | pair (index : Nat)

/-- How many checks are made before. -/
def Check.number : Check → Nat
  | header => 0
  | target index => 3 * index + 1
  | generator index => 3 * index + 2
  | pair index => 3 * index + 3

/-- The first two places of a quoted value, when there are two. -/
def firstTwoPlaces? (source value : String) : Option (Span × Span) :=
  match Span.ofValue source value with
  | first :: second :: _ => some (first, second)
  | _ => none

/-- A check of a manifest that was read from `source` finds a fault. -/
def Finds (source : String) (manifest : Manifest) : Check → ManifestFault → Prop
  | .header, fault => ∃ header, manifest.settings.header = some header ∧
      Text.isBlankText header.toList = true ∧ fault = .blankHeader (firstPlace? source header)
  | .target index, fault => ∃ declaration defect, manifest.declarations[index]? = some declaration ∧
      declaration.target.defect? = some defect ∧
      fault = .invalidName .target declaration.target defect
        (firstPlace? source declaration.target.text)
  | .generator index, fault =>
    ∃ declaration name defect, manifest.declarations[index]? = some declaration ∧
      declaration.generator = some name ∧ name.defect? = some defect ∧
      fault = .invalidName .generator name defect (firstPlace? source name.text)
  | .pair index, fault => ∃ declaration, manifest.declarations[index]? = some declaration ∧
      declaration.id ∈ (manifest.declarations.take index).map Declaration.id ∧
      fault = .duplicate declaration.id (firstTwoPlaces? source declaration.target.text)

/-- No check with a smaller number finds a fault. -/
def ClearBelow (source : String) (manifest : Manifest) (number : Nat) : Prop :=
  ∀ check fault, manifest.Finds source check fault → number ≤ check.number

/-- The fault of the first check that finds one. -/
def IsFirstFault (source : String) (manifest : Manifest) (fault : ManifestFault) : Prop :=
  ∃ check, manifest.Finds source check fault ∧ manifest.ClearBelow source check.number

/-- A manifest in which the header, if there is one, is not blank and every name that is given is
valid. -/
structure WellWritten (manifest : Manifest) : Prop where
  header : ∀ header, manifest.settings.header = some header → Text.isBlankText header.toList = false
  targets : ∀ declaration ∈ manifest.declarations, declaration.target.Valid
  generators : ∀ declaration ∈ manifest.declarations, ∀ name, declaration.generator = some name →
    name.Valid

/-- A manifest in which nothing is wrong: it is well written, and no identity is declared twice. -/
structure Sound (manifest : Manifest) : Prop extends WellWritten manifest where
  once : (manifest.declarations.map Declaration.id).Nodup

section

variable {source : String} {manifest : Manifest} {check : Check} {fault other : ManifestFault}

lemma Check.number_injective {check other : Check} (same : check.number = other.number) :
    check = other := by
  cases check <;> cases other <;> simp only [number] at same <;> first | rfl | (congr 1; omega)

lemma Finds.number_le (finds : manifest.Finds source check fault) :
    check.number ≤ 3 * manifest.declarations.length := by
  cases check with
  | header => exact Nat.zero_le _
  | target index | generator index | pair index =>
    obtain ⟨declaration, listed⟩ : ∃ declaration, manifest.declarations[index]?
      = some declaration := by
      simp only [Finds] at finds
      grind
    have short := (List.getElem?_eq_some_iff.mp listed).1
    simp only [Check.number]
    omega

lemma Finds.unique (finds : manifest.Finds source check fault)
    (findsOther : manifest.Finds source check other) : fault = other := by
  cases check <;> simp only [Finds] at finds findsOther <;> grind

lemma IsFirstFault.unique (first : manifest.IsFirstFault source fault)
    (firstOther : manifest.IsFirstFault source other) : fault = other := by
  obtain ⟨check, finds, clear⟩ := first
  obtain ⟨checkOther, findsOther, clearOther⟩ := firstOther
  obtain rfl := Check.number_injective
    (Nat.le_antisymm (clear _ _ findsOther) (clearOther _ _ finds))
  exact finds.unique findsOther

lemma ClearBelow.next (check : Check) (clear : manifest.ClearBelow source check.number)
    (passed : ∀ fault, ¬ manifest.Finds source check fault) :
    manifest.ClearBelow source (check.number + 1) := by
  intro checkOther faultOther findsOther
  rcases Nat.lt_or_eq_of_le (clear _ _ findsOther) with less | same
  · exact less
  · obtain rfl := Check.number_injective same
    exact absurd findsOther (passed _)

/-- No element is repeated just when none is among those before it. -/
lemma nodup_iff_not_mem_take {α : Type} {elements : List α} :
    elements.Nodup ↔ ∀ index element, elements[index]? = some element →
    element ∉ elements.take index := by
  constructor
  · intro once index element here earlier
    obtain ⟨place, below, same⟩ := List.mem_take_iff_getElem.mp earlier
    have short := (List.getElem?_eq_some_iff.mp here).1
    refine List.nodup_iff_getElem?_ne_getElem?.mp once place index (by omega) short ?_
    rw [here, List.getElem?_eq_getElem (by omega), same]
  · intro apart
    refine List.nodup_iff_getElem?_ne_getElem?.mpr fun place index less short same => ?_
    have here : elements[index]? = some elements[index] := List.getElem?_eq_getElem short
    rw [here, List.getElem?_eq_some_iff] at same
    obtain ⟨inside, same⟩ := same
    exact apart index _ here (List.mem_take_iff_getElem.mpr ⟨place, by omega, same⟩)

/-- Only the pairs of a well written manifest can be at fault. -/
lemma WellWritten.eq_pair_of_finds (written : manifest.WellWritten)
    (finds : manifest.Finds source check fault) : ∃ index, check = .pair index := by
  cases check with
  | header =>
    obtain ⟨header, present, blank, _⟩ := finds
    exact absurd ((written.header header present).symm.trans blank) Bool.false_ne_true
  | target index =>
    obtain ⟨declaration, defect, listed, defective, _⟩ := finds
    have valid := written.targets _ (List.mem_of_getElem? listed)
    exact absurd (defective.symm.trans valid) (Option.some_ne_none _)
  | generator index =>
    obtain ⟨declaration, name, defect, listed, named, defective, _⟩ := finds
    have valid := written.generators _ (List.mem_of_getElem? listed) name named
    exact absurd (defective.symm.trans valid) (Option.some_ne_none _)
  | pair index => exact ⟨index, rfl⟩

/-- Where only pairs are at fault, the manifest is well written. -/
lemma wellWritten_of_finds
    (only : ∀ check fault, manifest.Finds source check fault → ∃ index, check = .pair index) :
    manifest.WellWritten := by
  refine ⟨fun header present =>
    ?_, fun declaration listed => ?_, fun declaration listed name named => ?_⟩
  · by_contra blank
    obtain ⟨_, other⟩ := only .header _ ⟨header, present, by simpa using blank, rfl⟩
    cases other
  · obtain ⟨index, here⟩ := List.mem_iff_getElem?.mp listed
    by_contra invalid
    obtain ⟨defect, defective⟩ := Option.ne_none_iff_exists'.mp invalid
    obtain ⟨_, other⟩ := only (.target index) _ ⟨declaration, defect, here, defective, rfl⟩
    cases other
  · obtain ⟨index, here⟩ := List.mem_iff_getElem?.mp listed
    by_contra invalid
    obtain ⟨defect, defective⟩ := Option.ne_none_iff_exists'.mp invalid
    obtain ⟨_, other⟩ :=
      only (.generator index) _ ⟨declaration, name, defect, here, named, defective, rfl⟩
    cases other

/-- No pair is at fault just when no identity is declared twice. -/
lemma nodup_iff_not_finds (source : String) : (manifest.declarations.map Declaration.id).Nodup ↔
    ∀ index fault, ¬ manifest.Finds source (.pair index) fault := by
  rw [nodup_iff_not_mem_take]
  constructor
  · rintro apart index fault ⟨declaration, listed, earlier, _⟩
    exact apart index declaration.id (by simp [listed]) (List.map_take ▸ earlier)
  · intro passed index id here earlier
    rw [List.getElem?_map, Option.map_eq_some_iff] at here
    obtain ⟨declaration, listed, rfl⟩ := here
    exact passed index _ ⟨declaration, listed, List.map_take ▸ earlier, rfl⟩

lemma sound_iff (source : String) :
    manifest.Sound ↔ ∀ check fault, ¬ manifest.Finds source check fault := by
  constructor
  · intro sound check fault finds
    obtain ⟨index, rfl⟩ := sound.toWellWritten.eq_pair_of_finds finds
    exact (nodup_iff_not_finds source).mp sound.once index fault finds
  · intro passed
    exact ⟨wellWritten_of_finds fun check fault finds => absurd finds (passed check fault),
      (nodup_iff_not_finds source).mpr fun index fault => passed (.pair index) fault⟩

end

/-! ## The answer -/

/-- The number kept for an identity is one when it has been declared before, and zero otherwise. -/
def Marks (seen : OrderedMap DeclarationId Nat) (before : List Declaration) : Prop :=
  ∀ id, (seen.get? id).getD 0 = if id ∈ before.map Declaration.id then 1 else 0

lemma marks_nil : Marks ∅ [] :=
  fun _ => rfl

lemma Marks.snoc {seen : OrderedMap DeclarationId Nat} {before : List Declaration}
    (marks : Marks seen before) (declaration : Declaration) :
    Marks (seen.insert declaration.id 1) (before ++ [declaration]) := by
  intro id
  by_cases same : id = declaration.id
  · subst same
    simp
  · rw [OrderedMap.get?_insert_of_ne same, marks id]
    simp [same]

/-- The places of the second declaration of an identity. -/
lemma duplicateFault_two (source : String) (id : DeclarationId) :
    duplicateFault source id 2 = .duplicate id (firstTwoPlaces? source id.target.text) := by
  unfold duplicateFault firstTwoPlaces?
  rcases Span.ofValue source id.target.text with _ | ⟨first, _ | ⟨second, more⟩⟩ <;> rfl

/-- What is wrong with a name is found by looking at it alone. -/
lemma nameFault?_eq_some_iff {source : String} {field : NameField} {name : TypeName}
    {fault : ManifestFault} :
    nameFault? source field name = some fault ↔ ∃ defect, name.defect? = some defect ∧
      fault = .invalidName field name defect (firstPlace? source name.text) := by
  rw [nameFault?, Option.map_eq_some_iff]
  simp only [eq_comm]

section

variable {source : String} {manifest : Manifest}

lemma finds_header_iff {fault : ManifestFault} :
    manifest.Finds source .header fault ↔ headerFault? source manifest.settings = some fault := by
  unfold Finds headerFault?
  cases manifest.settings.header with
  | none => exact iff_of_false (fun ⟨_, absent, _⟩ => nomatch absent) nofun
  | some header =>
    simp only [Option.some.injEq, exists_eq_left']
    by_cases blank : Text.isBlankText header.toList = true
    · simp only [blank, if_true, true_and, Option.some.injEq, eq_comm]
    · simp only [blank, false_and, if_false, reduceCtorEq]

variable {before rest : List Declaration} {declaration : Declaration} {fault : ManifestFault}

lemma finds_target_iff (whole : manifest.declarations = before ++ declaration :: rest) :
    manifest.Finds source (.target before.length) fault ↔
      nameFault? source .target declaration.target = some fault := by
  simp [Finds, whole, nameFault?_eq_some_iff]

lemma finds_generator_iff (whole : manifest.declarations = before ++ declaration :: rest) :
    manifest.Finds source (.generator before.length) fault ↔
      declaration.generator.bind (nameFault? source .generator) = some fault := by
  simp [Finds, whole, Option.bind_eq_some_iff, nameFault?_eq_some_iff]

lemma finds_pair_iff (whole : manifest.declarations = before ++ declaration :: rest) :
    manifest.Finds source (.pair before.length) fault ↔
      declaration.id ∈ before.map Declaration.id ∧
      fault = duplicateFault source declaration.id 2 := by
  rw [duplicateFault_two]
  simp only [Finds, whole, List.getElem?_append_right (Nat.le_refl _), Nat.sub_self,
    List.getElem?_cons_zero, Option.some.injEq, exists_eq_left', List.take_left]
  rfl

/-- What the scan of the remaining declarations finds is the first fault of all, when those before
have passed. -/
lemma declarationFault?_spec {seen : OrderedMap DeclarationId Nat}
    (whole : manifest.declarations = before ++ rest) (marks : Marks seen before)
    (clear : manifest.ClearBelow source (3 * before.length + 1)) :
    match declarationFault? source seen rest with
    | some fault => manifest.IsFirstFault source fault
    | none => ∀ check fault, ¬ manifest.Finds source check fault := by
  induction rest generalizing seen before with
  | nil =>
    intro check fault finds
    have least := clear check fault finds
    have most := finds.number_le
    rw [whole, List.append_nil] at most
    omega
  | cons declaration rest ih =>
    simp only [declarationFault?, marks declaration.id]
    cases target : nameFault? source .target declaration.target with
    | some fault => exact ⟨.target before.length, (finds_target_iff whole).mpr target, clear⟩
    | none =>
    have clear := clear.next (.target before.length) fun fault finds => by
      rw [finds_target_iff whole, target] at finds
      cases finds
    rw [Option.none_or]
    cases generator : declaration.generator.bind (nameFault? source .generator) with
    | some fault =>
      exact ⟨.generator before.length, (finds_generator_iff whole).mpr generator, clear⟩
    | none =>
    have clear := clear.next (.generator before.length) fun fault finds => by
      rw [finds_generator_iff whole, generator] at finds
      cases finds
    rw [Option.none_or]
    by_cases earlier : declaration.id ∈ before.map Declaration.id
    · rw [if_pos earlier, if_pos (by decide)]
      exact ⟨.pair before.length, (finds_pair_iff whole).mpr ⟨earlier, rfl⟩, clear⟩
    · have clear := clear.next (.pair before.length) fun fault finds =>
        earlier ((finds_pair_iff whole).mp finds).1
      rw [if_neg earlier, if_neg (by decide)]
      have next : manifest.declarations = before ++ [declaration] ++ rest := by simp [whole]
      refine ih next (marks.snoc declaration) ?_
      rw [List.length_append]
      exact clear

/-- The check answers with the first fault, if there is any. -/
lemma fault?_spec (source : String) (manifest : Manifest) :
    match manifest.fault? source with
    | some fault => manifest.IsFirstFault source fault
    | none => ∀ check fault, ¬ manifest.Finds source check fault := by
  have clear : manifest.ClearBelow source Check.header.number := fun _ _ _ => Nat.zero_le _
  unfold fault?
  cases header : headerFault? source manifest.settings with
  | some fault => exact ⟨.header, finds_header_iff.mpr header, clear⟩
  | none =>
    rw [Option.none_or]
    refine declarationFault?_spec (List.nil_append _).symm marks_nil
      (clear.next .header fun fault finds => ?_)
    rw [finds_header_iff, header] at finds
    cases finds

/-- The check finds nothing just when nothing is wrong. -/
theorem fault?_eq_none_iff (source : String) : manifest.fault? source = none ↔ manifest.Sound := by
  rw [sound_iff source]
  have spec := fault?_spec source manifest
  cases answer : manifest.fault? source with
  | none =>
    rw [answer] at spec
    exact iff_of_true rfl spec
  | some fault =>
    rw [answer] at spec
    obtain ⟨check, finds, _⟩ := spec
    exact iff_of_false (Option.some_ne_none fault) fun passed => passed check fault finds

/-- The check finds the first fault. -/
theorem fault?_eq_some_iff {fault : ManifestFault} :
    manifest.fault? source = some fault ↔ manifest.IsFirstFault source fault := by
  have spec := fault?_spec source manifest
  cases answer : manifest.fault? source with
  | none =>
    rw [answer] at spec
    exact iff_of_false (Option.some_ne_none fault).symm fun ⟨check, finds, _⟩ =>
      spec check fault finds
  | some found =>
    rw [answer] at spec
    exact ⟨fun same => Option.some.inj same ▸ spec, fun first => congrArg some (spec.unique first)⟩

end

/-! ## Reading -/

/-- A text holds data that has the shape of a manifest. -/
def Deserializes (source : String) (manifest : Manifest) : Prop :=
  ∃ value, Toml.read source = some value ∧ ofValue value = .ok manifest

lemma deserializes_of_read {source : String} {manifest : Manifest}
    (read : ((Toml.read source).bind fun value => (ofValue value).toOption) = some manifest) :
    Deserializes source manifest := by
  obtain ⟨value, read, shaped⟩ := Option.bind_eq_some_iff.mp read
  exact ⟨value, read, eq_ok_of_toOption shaped⟩

section

variable {source : String} {manifest : Manifest} (deserializes : Deserializes source manifest)

include deserializes

/-- What a text of the right shape is read as rests with the check. -/
lemma Deserializes.ofSource_eq :
    ofSource source = (manifest.fault? source).elim (.ok manifest) .error := by
  obtain ⟨value, read, shaped⟩ := deserializes
  simp only [ofSource, read, shaped]
  cases manifest.fault? source <;> rfl

lemma Deserializes.ofSource_eq_ok_iff : ofSource source = .ok manifest ↔ manifest.Sound := by
  rw [deserializes.ofSource_eq, ← fault?_eq_none_iff source]
  cases manifest.fault? source <;> simp

lemma Deserializes.ofSource_eq_error_iff {fault : ManifestFault} :
    ofSource source = .error fault ↔ manifest.IsFirstFault source fault := by
  rw [deserializes.ofSource_eq, ← fault?_eq_some_iff]
  cases manifest.fault? source <;> simp

end

/-- What a text is read as has the shape of a manifest, and nothing is wrong in it. -/
theorem ofSource_eq_ok_iff {source : String} {manifest : Manifest} :
    ofSource source = .ok manifest ↔ Deserializes source manifest ∧ manifest.Sound := by
  constructor
  · intro accepted
    have shaped : Deserializes source manifest := by
      unfold ofSource at accepted
      split at accepted
      · cases accepted
      next value read =>
      split at accepted
      · cases accepted
      next other shaped =>
      split at accepted
      · cases accepted
      · rw [← Except.ok.inj accepted]
        exact ⟨value, read, shaped⟩
    exact ⟨shaped, shaped.ofSource_eq_ok_iff.mp accepted⟩
  · rintro ⟨shaped, sound⟩
    exact shaped.ofSource_eq_ok_iff.mpr sound

end Manifest

namespace ManifestFile

variable {files : FileSystem} {path : String}

/-- A file opens as its path, its text and the manifest that this is read as. -/
lemma openAt_eq_ok_iff {file : ManifestFile} :
    openAt files path = .ok file ↔
      file.path = path ∧ files.readText path = .ok file.content ∧
        Manifest.ofSource file.content = .ok file.manifest := by
  obtain ⟨place, text, manifest⟩ := file
  unfold openAt
  cases files.readText path with
  | error refusal => simp
  | ok content =>
    dsimp only [Manifest.ofText]
    constructor
    · intro opened
      cases read : Manifest.ofSource content with
      | error fault =>
        rw [read] at opened
        cases opened
      | ok found =>
        rw [read] at opened
        cases opened
        exact ⟨rfl, rfl, read⟩
    · rintro ⟨rfl, same, read⟩
      obtain rfl : content = text := Except.ok.inj same
      rw [read]
      rfl

lemma openAt_eq_ok {content : String} {manifest : Manifest}
    (readText : (files.readText path).toOption = some content)
    (read : (Manifest.ofSource content).toOption = some manifest) :
    openAt files path = .ok { path, content, manifest } :=
  openAt_eq_ok_iff.mpr ⟨rfl, eq_ok_of_toOption readText, eq_ok_of_toOption read⟩

end ManifestFile

end SourceGen
