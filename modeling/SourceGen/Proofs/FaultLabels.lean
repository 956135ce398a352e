import SourceGen.Proofs.Manifest.Checking
import SourceGen.Proofs.Manifest.Quotes

/-!
# What the labels of a refusal point at

A manifest is refused by its check for a blank header, for a name that is not valid or for an
identity that is declared again. The refusal may point at places in the source: at one for the
first two, at two for the last. They are looked up by the text that is at fault
(`ManifestFault.subject?`), and are the first of its places in quotes
(`Manifest.Finds.labels_prefix`). Hence each label is at that text, and the labels of a duplicate
are at two places, in the order of the source.

Whether the labels of a duplicate are at the two declarations is another matter.
-/

namespace SourceGen

/-- The text of a manifest that a fault of its check is about. -/
def ManifestFault.subject? (manifest : Manifest) : ManifestFault → Option String
  | .blankHeader _ => manifest.settings.header
  | .invalidName _ name _ _ => some name.text
  | .duplicate id _ => some id.target.text
  | .unreadable | .malformed | .misshapen _ => none

namespace Manifest

section

variable {source : String} {manifest : Manifest} {check : Check} {fault : ManifestFault}

/-! ## The places that are pointed at -/

lemma firstPlace?_toList_prefix (source value : String) :
    (firstPlace? source value).toList <+: Span.ofValue source value := by
  rw [firstPlace?, ← List.take_one]
  exact List.take_prefix 1 _

/-- What a check finds it points at by the first places of the text at fault. -/
lemma Finds.labels_prefix (finds : manifest.Finds source check fault) :
    ∃ subject, fault.subject? manifest = some subject ∧
      fault.labels.map Prod.snd <+: Span.ofValue source subject := by
  have single : ∀ (label : String) (place : Option Span),
      ((place.map (label, ·)).toList.map Prod.snd) = place.toList := by
    rintro label (_ | _) <;> rfl
  cases check with
  | header =>
    obtain ⟨header, present, -, rfl⟩ := finds
    exact ⟨header, present, single _ _ ▸ firstPlace?_toList_prefix source header⟩
  | target index =>
    obtain ⟨declaration, defect, -, -, rfl⟩ := finds
    exact ⟨_, rfl, single _ _ ▸ firstPlace?_toList_prefix source _⟩
  | generator index =>
    obtain ⟨declaration, name, defect, -, -, -, rfl⟩ := finds
    exact ⟨_, rfl, single _ _ ▸ firstPlace?_toList_prefix source _⟩
  | pair index =>
    obtain ⟨declaration, -, -, rfl⟩ := finds
    refine ⟨declaration.target.text, rfl, ?_⟩
    unfold firstTwoPlaces?
    rcases Span.ofValue source declaration.target.text with _ | ⟨first, _ | ⟨second, more⟩⟩
    · exact List.nil_prefix
    · exact List.nil_prefix
    · exact List.prefix_append [first, second] more

/-! ## Refusals -/

/-- A text that is refused, but not as one that cannot be read, is refused by the check. -/
lemma exists_firstFault_of_ofSource (refused : ofSource source = .error fault)
    (read : fault.kind ≠ .parse) :
    ∃ manifest, Deserializes source manifest ∧ manifest.IsFirstFault source fault := by
  unfold ofSource at refused
  cases parsed : Toml.read source with
  | none =>
    rw [parsed] at refused
    cases refused
    exact absurd rfl read
  | some value =>
    cases shaped : ofValue value with
    | error cause =>
      simp only [parsed, shaped, Except.error.injEq] at refused
      subst refused
      unfold shapeFault at read
      split at read <;> exact absurd rfl read
    | ok manifest =>
      simp only [parsed, shaped] at refused
      refine ⟨manifest, ⟨value, parsed, shaped⟩, fault?_eq_some_iff.mp ?_⟩
      cases answer : manifest.fault? source with
      | none => simp [answer] at refused
      | some found =>
        simp only [answer, Except.error.injEq] at refused
        rw [refused]

end

/-- **What the labels of a refusal point at.** The places of a value in a source are listed in
ascending order, none of them twice; each begins and ends between two characters, reads as the
value, and has the same quote before and behind it, and there is one whenever the value stands
between quotes. A source that is refused for an invalid name, for a duplicate or for any other
fault of the check is that of a manifest whose first fault it is, and every label is at the header,
name or target at fault, each behind the one before. -/
theorem labels_cover_subject (source : String) :
    (∀ value, (Span.ofValue source value).Pairwise (fun one other => one.offset < other.offset) ∧
      (∀ span ∈ Span.ofValue source value, span.IsQuoted source value) ∧
      ∀ quote ∈ Span.quotes, ∀ before after,
        source.toList = before ++ quote :: (value.toList ++ quote :: after) →
        Span.ofValue source value ≠ []) ∧
    ∀ fault, ofSource source = .error fault →
      fault.kind = .invalidTypeName ∨ fault.kind = .validation ∨
      fault.kind = .duplicateDeclaration →
      ∃ manifest subject, Deserializes source manifest ∧ manifest.IsFirstFault source fault ∧
        fault.subject? manifest = some subject ∧
        (∀ label ∈ fault.labels, label.2.IsQuoted source subject) ∧
        fault.labels.Pairwise fun one other => one.2.offset < other.2.offset := by
  refine ⟨fun value =>
    ⟨Span.pairwise_ofValue source value, fun span => Span.isQuoted_of_mem_ofValue,
      fun quote known before after => Span.ofValue_ne_nil known⟩, fun fault refused kind => ?_⟩
  have read : fault.kind ≠ .parse := by
    rcases kind with kind | kind | kind <;> rw [kind] <;> exact nofun
  obtain ⟨manifest, deserializes, check, finds, clear⟩ := exists_firstFault_of_ofSource refused read
  obtain ⟨subject, about, front⟩ := finds.labels_prefix
  refine ⟨manifest, subject, deserializes, ⟨check, finds, clear⟩, about, fun label listed => ?_, ?_⟩
  · exact Span.isQuoted_of_mem_ofValue (front.subset (List.mem_map_of_mem listed))
  · have ordered := (Span.pairwise_ofValue source subject).sublist front.sublist
    rwa [List.pairwise_map] at ordered

/-! ## A target in both kinds of quotes -/

namespace Foo

/-- A target that is declared twice, in quotes of either kind. -/
def text : String :=
  "[[declarations]]\ntarget = 'Foo'\n\n[[declarations]]\ntarget = \"Foo\"\n"

/-- The manifest. -/
def manifest : Manifest where
  declarations := [{ target := ⟨"Foo"⟩ }, { target := ⟨"Foo"⟩ }]

/-- Its fault. -/
def fault : ManifestFault :=
  .duplicate ⟨⟨"Foo"⟩, ⟨"Foo"⟩⟩ (some (⟨27, 3⟩, ⟨60, 3⟩))

lemma ofSource_text : ofSource text = .error fault := by
  have deserializes : Deserializes text manifest := deserializes_of_read (by decide +kernel)
  have found : manifest.fault? text = some fault := by rfl
  rw [deserializes.ofSource_eq, found]
  rfl

end Foo

/-- The labels of the duplicate are at the name in both kinds of quotes. -/
theorem labels_cover_subject_foo :
    ofSource Foo.text = .error Foo.fault ∧ Foo.fault.kind = .duplicateDeclaration ∧
      Span.IsQuoted ⟨27, 3⟩ Foo.text "Foo" ∧ Span.IsQuoted ⟨60, 3⟩ Foo.text "Foo" ∧
      (Span.ofValue Foo.text "Foo").Pairwise fun one other => one.offset < other.offset := by
  obtain ⟨places, refusals⟩ := labels_cover_subject Foo.text
  obtain ⟨_, subject, _, _, about, covered, _⟩ :=
    refusals Foo.fault Foo.ofSource_text (.inr (.inr rfl))
  obtain rfl := Option.some.inj about
  exact ⟨Foo.ofSource_text, rfl, covered _ List.mem_cons_self,
    covered _ (List.mem_cons_of_mem _ List.mem_cons_self), (places "Foo").1⟩

end Manifest

end SourceGen
