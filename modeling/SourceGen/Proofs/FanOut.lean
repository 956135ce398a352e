import SourceGen.Proofs.OutputNames

/-!
# Outputs of one target

A target can carry several generators. Their outputs go to the same directory, so the file name
alone keeps them apart. It is flat text: dots stand between the parts, and the requested base may
hold dots of its own. Whether two outputs meet is therefore a question of reading the parts back.

Reading goes from the end (`OutputName.Segmented`). The last dot parts extension and mark, unless
there is no extension; the dot before the mark parts off the last segment. What stands there is the
short name of the generator, or, when the target generates for itself, that of the target. Three
ambiguities are left (`OutputName.Clashes`), and they are all there is
(`OutputName.Segmented.fileName_eq_iff`):

* two generators of one short name request the same;
* the target's own request ends in a segment that looks like the target, for which the other
  generator is a namesake;
* the target's own request has the extension `.g`, which looks like the mark behind a generator
  called `g`.

So generators whose short names differ keep their outputs apart, if none of them is called `g`
(`Registry.outputs_meet_iff`).
-/

namespace SourceGen

/-- The two sides of the last separator are told by the text. -/
lemma Text.eq_and_eq_of_cut {sep : Char} {before after other rest : List Char} (plain : sep ∉ after)
    (plainRest : sep ∉ rest) (same : before ++ sep :: after = other ++ sep :: rest) :
    before = other ∧ after = rest := by
  have cut := Text.cutLast?_append before plain
  rw [same, Text.cutLast?_append other plainRest, Option.some.injEq, Prod.mk.injEq] at cut
  exact ⟨cut.1.symm, cut.2.symm⟩

lemma TypeName.no_dot_shortName (name : TypeName) : '.' ∉ name.shortName.toList := by
  intro dot
  rw [shortName, String.toList_ofList, shortChars] at dot
  have plain := Text.not_sep_of_mem_afterLast '.' dot
  exact absurd plain (by decide)

namespace OutputName

/-! ## The segments of a name -/

/-- The parts of a name can be told by its dots: the segments of the types hold none, nor does the
extension behind its first character; the base is not empty, and holds none behind its first
character when no extension follows. -/
structure Segmented (name : OutputName) : Prop where
  target : '.' ∉ name.target.toList
  generator : ∀ segment, name.generator = some segment → '.' ∉ segment.toList
  base : name.base.toList ≠ []
  bare : name.extension.toList = [] → '.' ∉ name.base.toList.tail
  extension : name.extension.toList = [] ∨ ∃ rest, name.extension.toList = '.' :: rest ∧ '.' ∉ rest

/-- A cut leaves something in front, and where it finds no extension, no dot behind the first
character. -/
lemma splitExtension_base {name : List Char} (filled : name ≠ []) :
    (splitExtension name).1 ≠ [] ∧
    ((splitExtension name).2 = [] → '.' ∉ (splitExtension name).1.tail) := by
  unfold splitExtension
  split
  · next absent =>
    have plain : '.' ∉ name := Text.cutLast?_eq_none_iff.mp absent
    exact ⟨filled, fun _ dot => plain (List.mem_of_mem_tail dot)⟩
  · next extension cut =>
    obtain ⟨rfl, plain⟩ := Text.eq_append_of_cutLast? cut
    exact ⟨filled, fun _ => plain⟩
  · next base extension filledBase _ =>
    exact ⟨filledBase, fun bare => absurd bare (List.cons_ne_nil _ _)⟩

/-- Every name that is composed can be told by its dots. -/
lemma segmented_of_resolve? {requested : String} {target generator : TypeName} {name : OutputName}
    (resolved : resolve? requested target generator = some name) :
    name.Segmented ∧ name.target = target.shortName ∧
      name.generator = if generator = target then none else some generator.shortName := by
  have made := madeFor_of_resolve? resolved
  obtain ⟨base, bare⟩ := splitExtension_base made.filled
  rw [← made.base] at base
  rw [← made.base, ← made.extension] at bare
  obtain ⟨forTarget, byGenerator⟩ := made.segments
  refine ⟨⟨forTarget ▸ target.no_dot_shortName, ?_, base, bare, ?_⟩, forTarget, byGenerator⟩
  · intro segment named
    rw [byGenerator] at named
    split at named
    · cases named
    · rw [← Option.some.inj named]
      exact generator.no_dot_shortName
  · rw [made.extension]
    exact (splitExtension_spec _).2

lemma stem_of_self {name : OutputName} (self : name.generator = none) :
    name.stem = name.base.toList ++ '.' :: name.target.toList := by
  rw [stem, self, List.append_nil]

lemma stem_of_delegated {name : OutputName} {segment : String}
    (delegated : name.generator = some segment) :
    name.stem = (name.base.toList ++ '.' :: name.target.toList) ++ '.' :: segment.toList := by
  rw [stem, delegated]

/-! ## Names that meet -/

/-- Outputs of one target and different generators that have the same file name. -/
inductive Clashes (left right : OutputName) : Prop
  /-- Two delegated generators of one short name request the same. -/
  | namesakes (segment : String) (generator : left.generator = some segment)
      (other : right.generator = some segment) (base : left.base = right.base)
      (extension : left.extension = right.extension)
  /-- The target requests for itself what the other generator, which has its short name, requests
  behind one more segment of that name. -/
  | segmentInBase (self : left.generator = none) (other : right.generator = some right.target)
      (base : left.base = right.base ++ "." ++ right.target)
      (extension : left.extension = right.extension)
  /-- The target requests for itself, with the extension `.g`, what a generator called `g` requests
  without any. -/
  | markInExtension (self : left.generator = none) (other : right.generator = some "g")
      (base : left.base = right.base) (extension : left.extension = ".g")
      (bare : right.extension = "")

lemma fileName_eq_iff_toChars {left right : OutputName} :
    left.fileName = right.fileName ↔ left.toChars = right.toChars := by
  rw [fileName, fileName, String.ofList_inj]

lemma Clashes.toChars_eq {left right : OutputName} (clashes : left.Clashes right)
    (target : left.target = right.target) : left.toChars = right.toChars := by
  rw [OutputName.toChars_eq, OutputName.toChars_eq]
  cases clashes with
  | namesakes segment generator other base extension =>
    rw [stem_of_delegated generator, stem_of_delegated other, base, target, extension]
  | segmentInBase self other base extension =>
    rw [stem_of_self self, stem_of_delegated other, base, target, extension]
    simp
  | markInExtension self other base extension bare =>
    rw [stem_of_self self, stem_of_delegated other, base, target, extension, bare]
    simp [generatedMark]

variable {left right : OutputName}

/-- Names of the same text have the same stem and extension, or the extension of the one is what the
other ends in as its mark. -/
lemma Segmented.stem_eq_or (segmented : left.Segmented) (other : right.Segmented)
    (same : left.toChars = right.toChars) :
    left.stem = right.stem ∧ left.extension = right.extension ∨
      right.stem = left.stem ++ generatedMark ∧ left.extension = ".g" ∧ right.extension = "" ∨
      left.stem = right.stem ++ generatedMark ∧ right.extension = ".g" ∧ left.extension = "" := by
  have mark : '.' ∉ ['g'] := by decide
  rw [toChars_eq, toChars_eq] at same
  simp only [← String.toList_inj]
  rcases segmented.extension with bare | ⟨extension, dotted, plain⟩ <;>
    rcases other.extension with bareOther | ⟨extensionOther, dottedOther, plainOther⟩
  · rw [bare, bareOther, List.append_nil, List.append_nil] at same
    exact .inl ⟨List.append_cancel_right same, by rw [bare, bareOther]⟩
  · rw [bare, dottedOther, List.append_nil] at same
    obtain ⟨stem, rfl⟩ := Text.eq_and_eq_of_cut mark plainOther same
    exact .inr (.inr ⟨stem, by rw [dottedOther]; rfl, by rw [bare]; rfl⟩)
  · rw [dotted, bareOther, List.append_nil] at same
    obtain ⟨stem, rfl⟩ := Text.eq_and_eq_of_cut mark plain same.symm
    exact .inr (.inl ⟨stem, by rw [dotted]; rfl, by rw [bareOther]; rfl⟩)
  · rw [dotted, dottedOther] at same
    obtain ⟨stems, rfl⟩ := Text.eq_and_eq_of_cut plain plainOther same
    exact .inl ⟨List.append_cancel_right stems, by rw [dotted, dottedOther]⟩

lemma dot_mem_tail {base rest : List Char} (filled : base ≠ []) :
    '.' ∈ (base ++ '.' :: rest).tail := by
  rw [List.tail_append_of_ne_nil filled]
  exact List.mem_append_right _ List.mem_cons_self

/-- Names of one stem and extension clash, if not both are of the target itself. -/
lemma Segmented.clashes_of_stem (segmented : left.Segmented) (other : right.Segmented)
    (target : left.target = right.target)
    (delegated : left.generator ≠ none ∨ right.generator ≠ none)
    (stems : left.stem = right.stem) (extension : left.extension = right.extension) :
    left.Clashes right ∨ right.Clashes left := by
  cases own : left.generator with
  | none =>
    cases others : right.generator with
    | none => exact absurd delegated (by simp [own, others])
    | some segment =>
      rw [stem_of_self own, stem_of_delegated others] at stems
      obtain ⟨base, last⟩ := Text.eq_and_eq_of_cut segmented.target (other.generator _ others) stems
      have namesake : segment = right.target := by rw [← String.toList_inj, ← last, target]
      refine .inl (.segmentInBase own (namesake ▸ others) ?_ extension)
      simpa [← String.toList_inj] using base
  | some segment =>
    cases others : right.generator with
    | none =>
      rw [stem_of_delegated own, stem_of_self others] at stems
      obtain ⟨base, last⟩ :=
        Text.eq_and_eq_of_cut other.target (segmented.generator _ own) stems.symm
      have namesake : segment = left.target := by rw [← String.toList_inj, ← last, target]
      refine .inr (.segmentInBase others (namesake ▸ own) ?_ extension.symm)
      simpa [← String.toList_inj] using base
    | some segmentOther =>
      rw [stem_of_delegated own, stem_of_delegated others] at stems
      obtain ⟨front, last⟩ :=
        Text.eq_and_eq_of_cut (segmented.generator _ own) (other.generator _ others) stems
      obtain ⟨base, _⟩ := Text.eq_and_eq_of_cut segmented.target other.target front
      obtain rfl := String.toList_inj.mp last
      exact .inl (.namesakes segment own others (String.toList_inj.mp base) extension)

/-- A name whose extension is what another one ends in clashes with it. -/
lemma Segmented.clashes_of_mark (segmented : left.Segmented) (other : right.Segmented)
    (stem : right.stem = left.stem ++ generatedMark) (extension : left.extension = ".g")
    (bare : right.extension = "") : left.Clashes right := by
  have mark : '.' ∉ ['g'] := by decide
  -- Without an extension, the base of the other name holds no segment in front of it.
  have single : ∀ rest, right.base.toList ≠ left.base.toList ++ '.' :: rest := by
    intro rest same
    have plain := other.bare (by rw [bare]; rfl)
    rw [same] at plain
    exact plain (dot_mem_tail segmented.base)
  cases others : right.generator with
  | none =>
    rw [stem_of_self others] at stem
    obtain ⟨base, _⟩ := Text.eq_and_eq_of_cut other.target mark stem
    rw [OutputName.stem, List.append_assoc, List.cons_append] at base
    exact absurd base (single _)
  | some segment =>
    rw [stem_of_delegated others] at stem
    obtain ⟨front, last⟩ := Text.eq_and_eq_of_cut (other.generator _ others) mark stem
    have called : segment = "g" := String.toList_inj.mp last
    cases own : left.generator with
    | none =>
      rw [stem_of_self own] at front
      obtain ⟨base, _⟩ := Text.eq_and_eq_of_cut other.target segmented.target front
      exact .markInExtension own (called ▸ others) (String.toList_inj.mp base.symm) extension bare
    | some segmentOwn =>
      rw [stem_of_delegated own] at front
      obtain ⟨base, _⟩ := Text.eq_and_eq_of_cut other.target (segmented.generator _ own) front
      exact absurd base (single _)

/-- **Composed names for one target and different generators are the same just when they clash.** -/
theorem Segmented.fileName_eq_iff (segmented : left.Segmented) (other : right.Segmented)
    (target : left.target = right.target)
    (delegated : left.generator ≠ none ∨ right.generator ≠ none) :
    left.fileName = right.fileName ↔ left.Clashes right ∨ right.Clashes left := by
  rw [fileName_eq_iff_toChars]
  constructor
  · intro same
    rcases segmented.stem_eq_or other same with ⟨stems, extension⟩ | ⟨stem,
      own, bare⟩ | ⟨stem, own, bare⟩
    · exact segmented.clashes_of_stem other target delegated stems extension
    · exact .inl (segmented.clashes_of_mark other stem own bare)
    · exact .inr (other.clashes_of_mark segmented stem own bare)
  · rintro (clashes | clashes)
    · exact clashes.toChars_eq target
    · exact (clashes.toChars_eq target.symm).symm

/-- The last segment before the mark: the generator, or the target that generates for itself. -/
def lastSegment (name : OutputName) : String :=
  name.generator.getD name.target

/-- Names that clash end in the same segment, or one of them adds the segment `g`. -/
lemma Clashes.segments (clashes : left.Clashes right) (target : left.target = right.target) :
    left.lastSegment = right.lastSegment ∨ right.generator = some "g" := by
  cases clashes with
  | namesakes segment generator other =>
    exact .inl
      (by rw [lastSegment, lastSegment, generator, other, Option.getD_some, Option.getD_some])
  | segmentInBase self other =>
    exact .inl
      (by rw [lastSegment, lastSegment, self, other, Option.getD_none, Option.getD_some, target])
  | markInExtension _ other => exact .inr other

end OutputName

/-! ## Outputs of registered declarations -/

namespace Registration

variable {left right : Registration}

lemma outputPath_eq_iff {source : String} :
    left.outputPath source = right.outputPath source ↔
      left.outputName.fileName = right.outputName.fileName := by
  rw [outputPath, outputPath, SourcePath.output, SourcePath.output, String.ofList_inj,
    SourcePath.outputChars_eq, SourcePath.outputChars_eq, List.append_right_inj,
      List.cons_inj_right,
    String.toList_inj]

lemma normalize_outputPath_eq_iff (composed : left.outputName.Composed)
    (composedOther : right.outputName.Composed) {source : String} :
    SourcePath.normalize (left.outputPath source) = SourcePath.normalize (right.outputPath source) ↔
      left.outputName.fileName = right.outputName.fileName := by
  constructor
  · intro same
    rw [← (fileName_outputPath composed source).2, same,
      (fileName_outputPath composedOther source).2]
  · intro same
    rw [outputPath_eq_iff.mpr same]

end Registration

namespace Registry

/-- The name of a registered declaration can be told by its dots, and holds the short names of its
types. -/
lemma segmented_of_mem_all {catalog : Catalog} {declarations : List Declaration}
    {registration : Registration}
    (registered : registration ∈ (Discovery.ofDeclarations catalog declarations).registry.all) :
    registration.outputName.Segmented ∧
      registration.outputName.target = registration.id.target.shortName ∧
      registration.outputName.generator
        = if registration.id.generator = registration.id.target then none
          else some registration.id.generator.shortName := by
  obtain ⟨_, _, isFor⟩ := exists_isFor_of_mem_all registered
  obtain ⟨_, _, _, resolved⟩ := isFor.composed
  exact OutputName.segmented_of_resolve? resolved

/-- The name of a registered declaration ends in the short name of its generator. -/
lemma lastSegment_of_mem_all {catalog : Catalog} {declarations : List Declaration}
    {registration : Registration}
    (registered : registration ∈ (Discovery.ofDeclarations catalog declarations).registry.all) :
    registration.outputName.lastSegment = registration.id.generator.shortName := by
  obtain ⟨_, target, generator⟩ := segmented_of_mem_all registered
  rw [OutputName.lastSegment, generator, target]
  split
  · next self => rw [self, Option.getD_none]
  · rfl

/-- **Outputs of one target meet just when their names clash.** Let two registered declarations have
the same target and different generators, whatever the generators request. Their outputs have one
file name just when the names clash, which they do not when the short names of the generators differ
and neither adds the segment `g`. For every source, the output paths are the same just when the
file names are, as notified and as written. -/
theorem outputs_meet_iff {catalog : Catalog} {declarations : List Declaration}
    (valid : ∀ declaration ∈ declarations, declaration.Valid) {left right : Registration}
    (registered : left ∈ (Discovery.ofDeclarations catalog declarations).registry.all)
    (registeredOther : right ∈ (Discovery.ofDeclarations catalog declarations).registry.all)
    (target : left.id.target = right.id.target) (apart : left.id.generator ≠ right.id.generator) :
    (left.outputName.fileName = right.outputName.fileName ↔
      left.outputName.Clashes right.outputName ∨ right.outputName.Clashes left.outputName) ∧
    (left.id.generator.shortName ≠ right.id.generator.shortName →
      left.outputName.generator ≠ some "g" → right.outputName.generator ≠ some "g" →
      left.outputName.fileName ≠ right.outputName.fileName) ∧
    ∀ source,
      (left.outputPath source = right.outputPath source ↔
        left.outputName.fileName = right.outputName.fileName) ∧
      (SourcePath.normalize (left.outputPath source)
        = SourcePath.normalize (right.outputPath source) ↔
        left.outputName.fileName = right.outputName.fileName) := by
  obtain ⟨segmented, named, generator⟩ := segmented_of_mem_all registered
  obtain ⟨segmentedOther, namedOther, generatorOther⟩ := segmented_of_mem_all registeredOther
  have oneTarget : left.outputName.target = right.outputName.target := by
    rw [named, namedOther, target]
  have delegated : left.outputName.generator ≠ none ∨ right.outputName.generator ≠ none := by
    by_contra neither
    rw [not_or, not_not, not_not, generator, generatorOther] at neither
    have own : left.id.generator = left.id.target := by simpa using neither.1
    have other : right.id.generator = right.id.target := by simpa using neither.2
    exact apart (own.trans (target.trans other.symm))
  have meets := segmented.fileName_eq_iff segmentedOther oneTarget delegated
  refine ⟨meets, ?_, ?_⟩
  · intro names plain plainOther same
    rw [← lastSegment_of_mem_all registered, ← lastSegment_of_mem_all registeredOther] at names
    rcases meets.mp same with clashes | clashes
    · exact (clashes.segments oneTarget).elim names plainOther
    · exact (clashes.segments oneTarget.symm).elim (fun last => names last.symm) plain
  · have composed := composed_of_mem_all valid registered
    have composedOther := composed_of_mem_all valid registeredOther
    exact fun source => ⟨Registration.outputPath_eq_iff,
      Registration.normalize_outputPath_eq_iff composed composedOther⟩

end Registry

/-! ## Namesakes

The player generates for itself, and three generators share its outputs: two of the short name
`Note`, and one that is called `g`. -/

namespace Namesakes

/-- A generator that requests a name, and keeps nothing. -/
def requesting (name : String) : Generator where
  fileName _ := .ok name
  emit _ request := .finished false request.context request.buffer

/-- The target. -/
def player : TypeName := ⟨"App.Player"⟩

/-- The generators with what they request. -/
def catalog : Catalog :=
  .ofList [(player, requesting "Seen.g"), (⟨"g"⟩, requesting "Seen"),
    (⟨"Gen.Note"⟩, requesting "Note.txt"),
    (⟨"Mod.Note"⟩, requesting "Note.txt")]

/-- The declarations, one for each generator. -/
def declarations : List Declaration :=
  [{ target := player }, { target := player, generator := some ⟨"g"⟩ },
    { target := player, generator := some ⟨"Gen.Note"⟩ },
    { target := player, generator := some ⟨"Mod.Note"⟩ }]

/-- What is registered. -/
def registry : Registry :=
  (Discovery.ofDeclarations catalog declarations).registry

end Namesakes

namespace Registry

/-- What the player requests for itself meets what `g` requests. -/
theorem outputs_meet_player :
    let own := Namesakes.registry.all.get ⟨0, by decide +kernel⟩
    let other := Namesakes.registry.all.get ⟨1, by decide +kernel⟩
    own.outputName.fileName = other.outputName.fileName ∧
      own.outputPath "Player.cs" = other.outputPath "Player.cs" := by
  intro own other
  obtain ⟨meets, _, paths⟩ := outputs_meet_iff
    (by decide +kernel : ∀ declaration ∈ Namesakes.declarations, declaration.Valid)
    (List.get_mem _ _ : own ∈ Namesakes.registry.all)
      (List.get_mem _ _ : other ∈ Namesakes.registry.all)
    (by decide +kernel) (by decide +kernel)
  have clashes : own.outputName.Clashes other.outputName :=
    .markInExtension (by decide +kernel) (by decide +kernel) (by decide +kernel) (by decide +kernel)
      (by decide +kernel)
  have same := meets.mpr (.inl clashes)
  exact ⟨same, (paths "Player.cs").1.mpr same⟩

/-- The two generators called `Note` are different, and have one output of the player. -/
theorem outputs_meet_namesakes :
    (∀ declaration ∈ Namesakes.declarations, declaration.Valid) ∧
      ∃ left ∈ Namesakes.registry.all, ∃ right ∈ Namesakes.registry.all,
        left.id = ⟨Namesakes.player, ⟨"Gen.Note"⟩⟩ ∧ right.id = ⟨Namesakes.player, ⟨"Mod.Note"⟩⟩ ∧
          left.outputName.fileName = right.outputName.fileName ∧
          left.outputPath "Player.cs" = right.outputPath "Player.cs" := by
  decide +kernel

end Registry

end SourceGen
