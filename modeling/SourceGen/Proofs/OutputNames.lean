import Mathlib.Tactic.Lemma
import SourceGen.Proofs.Manifest.Names
import SourceGen.Proofs.NormalPaths
import SourceGen.Proofs.Text.Pieces
import SourceGen.SourcePath

/-!
# The names of outputs

Whatever text a generator requests, the name composed from it has three properties
(`OutputName.Composed`): it is one component of a path, it does not end in a blank, and its
extension holds no dot behind the first. The first two make the name survive the way through a
path: it is the last component of the path that `SourcePath.output` builds, and normalizing that
path keeps it. The third puts the mark `.g` where the reader of names looks for it
(`OutputName.Composed.isGeneratedFileName`).

The request is free text, so each property comes from the step of `OutputName.resolve?` that
establishes it: taking the last component, trimming, and cutting at the last dot. The target and
the generator enter with their short names, whose characters are those of identifiers.
-/

namespace SourceGen

/-! ## The characters of a short name -/

namespace TypeName

lemma Valid.plain_shortName {name : TypeName} (valid : name.Valid) :
    ∀ c ∈ name.shortName.toList, isPathSeparator c = false := by
  intro c listed
  have identifier := valid.isIdentifier_shortName.isIdentifierRest c listed
  by_contra separates
  have slash : c = '/' ∨ c = '\\' := by
    simpa [isPathSeparator] using eq_true_of_ne_false separates
  rcases slash with rfl | rfl <;> exact absurd identifier (by decide +kernel)

end TypeName

/-! ## The parts of a request -/

/-- A last component that is not empty ends where the path ends. -/
lemma Text.getLast?_afterLast {sep : Char → Bool} {text : List Char}
    (some : afterLast sep text ≠ []) :
    (afterLast sep text).getLast? = text.getLast? := by
  obtain ⟨before, whole⟩ := afterLast_suffix sep text
  rw [← List.getLast?_append_of_ne_nil before some, whole]

namespace OutputName

/-- The two parts of a name are the name, and the second one is an extension or nothing. -/
lemma splitExtension_spec (name : List Char) :
    (splitExtension name).1 ++ (splitExtension name).2 = name ∧
      ((splitExtension name).2 = [] ∨ ∃ rest, (splitExtension name).2 = '.' :: rest ∧
        '.' ∉ rest) := by
  unfold splitExtension
  split
  · exact ⟨List.append_nil name, .inl rfl⟩
  · exact ⟨List.append_nil name, .inl rfl⟩
  · next base extension _ cut =>
    obtain ⟨whole, absent⟩ := Text.eq_append_of_cutLast? cut
    exact ⟨whole.symm, .inr ⟨extension, rfl, absent⟩⟩

/-! ## Composed names -/

/-- A file name that was composed from a request: one component of a path that does not end in a
blank, with an extension that has its dot in front and no other. -/
structure Composed (name : OutputName) : Prop where
  plain : ∀ c ∈ name.toChars, isPathSeparator c = false
  closed : ∀ c, name.toChars.getLast? = some c → Text.isBlank c = false
  extension : name.extension.toList = [] ∨ ∃ rest, name.extension.toList = '.' :: rest ∧ '.' ∉ rest

/-- The characters of a name in front of its mark. -/
def stem (name : OutputName) : List Char :=
  name.base.toList ++ '.' :: name.target.toList
    ++ (match name.generator with
        | some generator => '.' :: generator.toList
        | none => [])

lemma toChars_eq (name : OutputName) :
    name.toChars = name.stem ++ generatedMark ++ name.extension.toList :=
  rfl

/-- The name is put together from the file name that was requested and the short names of the two
types. -/
structure MadeFor (name : OutputName) (request : List Char) (target generator : TypeName) :
    Prop where
  filled : request ≠ []
  base : name.base.toList = (splitExtension request).1
  extension : name.extension.toList = (splitExtension request).2
  segments : name.target = target.shortName ∧
    name.generator = if generator = target then none else some generator.shortName

/-- What counts of a request is its last component, trimmed. -/
lemma madeFor_of_resolve? {requested : String} {target generator : TypeName} {name : OutputName}
    (resolved : resolve? requested target generator = some name) :
    name.MadeFor (Text.afterLast isPathSeparator (Text.trim requested.toList))
      target generator := by
  unfold resolve? at resolved
  dsimp only at resolved
  split at resolved
  · cases resolved
  next filled =>
  obtain rfl := Option.some.inj resolved
  exact ⟨by simpa using filled, String.toList_ofList, String.toList_ofList, rfl, rfl⟩

section MadeFor

variable {name : OutputName} {request : List Char} {target generator : TypeName}
  (made : name.MadeFor request target generator)

include made

/-- Apart from the dots and the mark, the characters of a name are those of the request and of the
types. -/
lemma MadeFor.plain (validTarget : target.Valid) (validGenerator : generator.Valid)
    (plainRequest : ∀ c ∈ request, isPathSeparator c = false) : ∀ c ∈ name.toChars,
      isPathSeparator c = false := by
  have dot : isPathSeparator '.' = false := rfl
  have mark : ∀ c ∈ generatedMark, isPathSeparator c = false := by
    simp [generatedMark, isPathSeparator]
  have whole := (splitExtension_spec request).1
  intro c here
  rw [toChars_eq, stem, made.base, made.segments.1, made.segments.2, made.extension] at here
  simp only [List.mem_append, List.mem_cons] at here
  rcases here with (((inBase | rfl | inTarget) | inGenerator) | inMark) | inExtension
  · exact plainRequest c (whole ▸ List.mem_append_left _ inBase)
  · exact dot
  · exact validTarget.plain_shortName c inTarget
  · split_ifs at inGenerator with same
    · exact absurd inGenerator List.not_mem_nil
    · rcases List.mem_cons.mp inGenerator with rfl | inGenerator
      · exact dot
      · exact validGenerator.plain_shortName c inGenerator
  · exact mark c inMark
  · exact plainRequest c (whole ▸ List.mem_append_right _ inExtension)

/-- The name ends in the mark, or where the request ends. -/
lemma MadeFor.closed (closedRequest : ∀ c, request.getLast? = some c → Text.isBlank c = false) :
    ∀ c, name.toChars.getLast? = some c → Text.isBlank c = false := by
  intro c last
  rw [toChars_eq, made.extension] at last
  by_cases bare : (splitExtension request).2 = []
  · rw [bare, List.append_nil, List.getLast?_append_of_ne_nil _ (by decide)] at last
    obtain rfl : 'g' = c := Option.some.inj last
    decide
  · rw [List.getLast?_append_of_ne_nil _ bare,
      ← List.getLast?_append_of_ne_nil (splitExtension request).1 bare,
      (splitExtension_spec request).1] at last
    exact closedRequest c last

end MadeFor

/-- **Every name that is composed for valid types is well-formed, whatever was requested.** -/
theorem composed_of_resolve? {requested : String} {target generator : TypeName} {name : OutputName}
    (validTarget : target.Valid) (validGenerator : generator.Valid)
    (resolved : resolve? requested target generator = some name) : name.Composed := by
  have made := madeFor_of_resolve? resolved
  refine ⟨made.plain validTarget validGenerator Text.not_sep_of_mem_afterLast,
    made.closed fun c last => ?_, ?_⟩
  · exact Text.isBlank_of_getLast?_trim (by rw [← last, Text.getLast?_afterLast made.filled])
  · rw [made.extension]
    exact (splitExtension_spec _).2

/-- A composed name is recognised as that of a generated file. -/
theorem Composed.isGeneratedFileName {name : OutputName} (composed : name.Composed) :
    isGeneratedFileName name.fileName = true := by
  rw [SourceGen.isGeneratedFileName, fileName, String.toList_ofList, toChars_eq, beforeMark?,
    Option.isSome_or, Bool.or_eq_true]
  rcases composed.extension with bare | ⟨rest, dotted, absent⟩
  · left
    rw [bare, List.append_nil]
    exact Option.isSome_iff_exists.mpr ⟨name.stem, Text.dropSuffix?_eq_some_iff.mpr rfl⟩
  · right
    rw [dotted, Text.cutLast?_append _ absent, Option.bind_some]
    exact Option.isSome_iff_exists.mpr ⟨name.stem, Text.dropSuffix?_eq_some_iff.mpr rfl⟩

end OutputName

/-! ## The way through a path -/

namespace SourcePath

/-- The directory that the output of a normalized source goes to. -/
def outputDirectory (source : List Char) : List Char :=
  if isInGeneratedChars source then parentChars source
  else (if (parentChars source).isEmpty then [] else parentChars source ++ ['/'])
    ++ generatedDirectory

/-- An output lies in its directory: the output of a source among generated files stands beside
it. -/
lemma outputChars_eq (source name : List Char) :
    outputChars source name = outputDirectory source ++ '/' :: name := by
  unfold outputChars outputDirectory
  dsimp only
  split_ifs with root among
  · -- The top directory is no directory of generated files.
    rw [List.isEmpty_iff] at root
    rw [isInGeneratedChars, root] at among
    exact absurd among (by decide)
  all_goals simp

lemma fileNameChars_dropDotSlashes {front name : List Char}
    (plain : ∀ c ∈ name, isPathSeparator c = false) :
    fileNameChars (dropDotSlashes (front ++ '/' :: name)) = name := by
  have slash : isPathSeparator '/' = true := rfl
  have flat : '/' ∉ name := fun listed => absurd (plain '/' listed) (by decide)
  generalize whole : front ++ '/' :: name = path
  fun_induction dropDotSlashes path generalizing front with
  | case1 rest ih =>
    rcases front with _ | ⟨_, _ | ⟨_, more⟩⟩
    · cases whole
    · obtain ⟨_, rfl⟩ : _ ∧ name = rest := by simpa using whole
      have kept : dropDotSlashes name = name :=
        dropDotSlashes_eq_self_iff.mpr fun dotted =>
          flat (dotted.subset (List.mem_cons_of_mem _ List.mem_cons_self))
      rw [kept]
      exact Text.afterLast_eq_self plain
    · obtain ⟨_, _, whole⟩ : _ ∧ _ ∧ more ++ '/' :: name = rest := by simpa using whole
      exact ih whole
  | case2 path _ =>
    rw [← whole]
    exact Text.afterLast_append front slash plain

/-- The last component of a path survives normalization when it does not end in a blank: trimming
and dropping `./` only touch what stands in front of it. -/
lemma fileNameChars_normalizeChars {before name : List Char}
    (plain : ∀ c ∈ name, isPathSeparator c = false)
    (closed : ∀ c, name.getLast? = some c → Text.isBlank c = false) :
    fileNameChars (normalizeChars (before ++ '/' :: name)) = name := by
  have trimmedLeft : ∃ front, Text.trimLeft (before ++ '/' :: name) = front ++ '/' :: name := by
    rw [Text.trimLeft, List.dropWhile_append]
    split
    · exact ⟨[], List.dropWhile_cons_of_neg (by decide)⟩
    · exact ⟨_, rfl⟩
  obtain ⟨front, trimmedLeft⟩ := trimmedLeft
  have flat : '\\' ∉ name := fun listed => absurd (plain _ listed) (by decide)
  rw [normalizeChars, Text.trim, trimmedLeft, Text.trimRight_append (by decide),
    Text.trimRight_eq_self closed, List.map_append, List.map_cons, map_slash_eq_self_iff.mpr flat]
  exact fileNameChars_dropDotSlashes plain

end SourcePath

/-! ## The names that are registered -/

namespace Registry

/-- The name of a registered declaration is well-formed when its types are valid. -/
lemma composed_of_valid {registry : Registry} (discovered : registry.Discovered)
    {registration : Registration} (registered : registration ∈ registry.all)
    (target : registration.id.target.Valid) (generator : registration.id.generator.Valid) :
    registration.outputName.Composed := by
  obtain ⟨catalog, declarations, rfl⟩ := discovered
  obtain ⟨_, _, isFor⟩ := exists_isFor_of_mem_all registered
  obtain ⟨_, _, _, resolved⟩ := isFor.composed
  exact OutputName.composed_of_resolve? target generator resolved

/-- The names of registered declarations are well-formed when the types of all declarations are
valid. -/
lemma composed_of_mem_all {catalog : Catalog} {declarations : List Declaration}
    (valid : ∀ declaration ∈ declarations, declaration.Valid) {registration : Registration}
    (registered : registration ∈ (Discovery.ofDeclarations catalog declarations).registry.all) :
    registration.outputName.Composed := by
  obtain ⟨declaration, declared, isFor⟩ := exists_isFor_of_mem_all registered
  obtain ⟨target, generator⟩ := valid declaration declared
  rw [← isFor.sameId] at target generator
  exact composed_of_valid ⟨catalog, declarations, rfl⟩ registered target generator

end Registry

/-! ## The paths of outputs -/

/-- The last component of an output path is the name of the output, also in the normal form that a
notified path has. -/
lemma Registration.fileName_outputPath {registration : Registration}
    (composed : registration.outputName.Composed) (source : String) :
    SourcePath.fileName (registration.outputPath source) = registration.outputName.fileName ∧
      SourcePath.fileName (SourcePath.normalize (registration.outputPath source))
        = registration.outputName.fileName := by
  have slash : isPathSeparator '/' = true := rfl
  simp only [SourcePath.fileName, SourcePath.normalize, outputPath, SourcePath.output,
    OutputName.fileName, String.toList_ofList, SourcePath.outputChars_eq]
  constructor
  · rw [SourcePath.fileNameChars, Text.afterLast_append _ slash composed.plain]
  · rw [SourcePath.fileNameChars_normalizeChars composed.plain composed.closed]

end SourceGen
