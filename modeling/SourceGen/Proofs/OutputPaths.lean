import SourceGen.Proofs.FileSystem.Beside
import SourceGen.Proofs.OutputNames

/-!
# Where outputs go

The output of a source goes to the directory `altgen.g` beside it, unless the source lies in such a
directory already. For a source in normal form, whose directory is there, this says that the output
path is in normal form too, and that at most that directory is to be made (`namesBelow_outputPath`).

A source directly below the top of the file system is the exception: its output goes to the project
root.
-/

namespace SourceGen

namespace SourcePath

/-! ## The parts of an output path -/

lemma cut_of_parentChars {source : List Char} (inside : parentChars source ≠ []) :
    ∃ file, source = parentChars source ++ '/' :: file ∧ '/' ∉ file := by
  unfold parentChars at inside ⊢
  split at inside
  · next parent file cut => exact ⟨file, Text.eq_append_of_cutLast? cut⟩
  · exact absurd rfl inside

/-- Up to the end of the directory of the source, if it has one, the output path is as the
source. -/
lemma outputChars_of_parentChars {source : List Char} (name : List Char)
    (inside : parentChars source ≠ []) :
    outputChars source name = parentChars source ++ '/' ::
      if isInGeneratedChars source then name else generatedDirectory ++ '/' :: name := by
  rw [outputChars_eq, outputDirectory]
  split
  · rfl
  · rw [if_neg (by simpa using inside)]
    simp

lemma outputChars_of_no_parent {source : List Char} (name : List Char)
    (top : parentChars source = []) :
    outputChars source name = generatedDirectory ++ '/' :: name := by
  have outside : isInGeneratedChars source = false := by
    rw [isInGeneratedChars, top]
    rfl
  rw [outputChars_eq, outputDirectory, outside, top]
  rfl

/-- Normalizing the output path of a source in normal form trims the end of the name, and nothing
else. -/
theorem normalizeChars_outputChars {source name : List Char}
    (normal : normalizeChars source = source) (plain : ∀ c ∈ name, isPathSeparator c = false) :
    normalizeChars (outputChars source name) = outputChars source (Text.trimRight name) := by
  have flat : '\\' ∉ name := fun listed => absurd (plain _ listed) (by decide)
  by_cases inside : parentChars source = []
  · rw [outputChars_of_no_parent name inside, outputChars_of_no_parent _ inside]
    have top : normalizeChars (generatedDirectory ++ ['/'])
        = generatedDirectory ++ ['/'] := by decide
    exact normalizeChars_append top List.prefix_rfl (by decide) flat
  · obtain ⟨file, whole, _⟩ := cut_of_parentChars inside
    have within : parentChars source ++ ['/'] <+: source :=
      ⟨file, by rw [List.append_assoc]; exact whole.symm⟩
    rw [outputChars_of_parentChars name inside, outputChars_of_parentChars _ inside]
    cases isInGeneratedChars source with
    | true => exact normalizeChars_append normal within inside flat
    | false =>
      have flatBelow : '\\' ∉ generatedDirectory ++ '/' :: name :=
        List.not_mem_append (by decide) (List.not_mem_cons_of_ne_of_not_mem (by decide) flat)
      rw [if_neg Bool.false_ne_true, if_neg Bool.false_ne_true,
        normalizeChars_append normal within inside flatBelow, Text.trimRight_append (by decide)]

/-- Output and source agree up to a directory that both lie below, and the output lies in a
directory of generated files there. -/
lemma parts_outputChars (source : List Char) {name : List Char} (plain : '/' ∉ name) :
    ∃ front rest, rest ≠ [] ∧ FilePath.parts (String.ofList source) = front ++ rest ∧
      FilePath.parts (String.ofList (outputChars source name))
        = front ++ [String.ofList generatedDirectory, String.ofList name] := by
  have among : FilePath.parts (String.ofList (generatedDirectory ++ '/' :: name))
      = [String.ofList generatedDirectory, String.ofList name] := by
    rw [FilePath.parts_append, FilePath.parts_of_plain (by decide), FilePath.parts_of_plain plain]
    rfl
  by_cases inside : parentChars source = []
  · refine ⟨[], _, FilePath.parts_ne_nil _, rfl, ?_⟩
    rw [outputChars_of_no_parent name inside, among, List.nil_append]
  obtain ⟨file, whole, _⟩ := cut_of_parentChars inside
  have source_eq : FilePath.parts (String.ofList source)
      = FilePath.parts (String.ofList (parentChars source))
        ++ FilePath.parts (String.ofList file) := by
    rw [← FilePath.parts_append, ← whole]
  rw [outputChars_of_parentChars name inside]
  cases kind : isInGeneratedChars source with
  | false =>
    refine ⟨_, _, FilePath.parts_ne_nil _, source_eq, ?_⟩
    rw [if_neg Bool.false_ne_true, FilePath.parts_append, among]
  | true =>
    -- The directory of the source is already one of generated files.
    obtain ⟨front, cut⟩ : ∃ front, FilePath.parts (String.ofList (parentChars source))
        = front ++ [String.ofList generatedDirectory] := by
      have named : FilePath.parts (String.ofList generatedDirectory)
          = [String.ofList generatedDirectory] :=
        FilePath.parts_of_plain (by decide)
      rw [isInGeneratedChars, Bool.or_eq_true, beq_iff_eq, List.isSuffixOf_iff_suffix] at kind
      rcases kind with same | ⟨above, same⟩
      · exact ⟨[], by rw [same, named, List.nil_append]⟩
      · exact ⟨_, by rw [← same, FilePath.parts_append, named]⟩
    rw [cut, List.append_assoc] at source_eq
    refine ⟨front, _, List.cons_ne_nil _ _, source_eq, ?_⟩
    rw [if_pos rfl, FilePath.parts_append, cut, FilePath.parts_of_plain plain, List.append_assoc]
    rfl

/-- The last part of a path without backslashes is what stands behind its last separator. -/
lemma getLast?_parts {path : String} (flat : '\\' ∉ path.toList) :
    (FilePath.parts path).getLast? = some (fileName path) := by
  have alike : ∀ c ∈ path.toList, decide (c = '/') = isPathSeparator c := by
    intro c listed
    have other : c ≠ '\\' := ne_of_mem_of_not_mem listed flat
    simp [isPathSeparator, other]
  rw [FilePath.parts, List.getLast?_map, Text.getLast?_pieces, Text.afterLast_congr alike]
  rfl

/-- A path that comes back from `normalize` as it went in and in which no part is a dot or two. -/
structure IsStraight (path : String) : Prop where
  normal : normalize path = path
  down : ∀ part ∈ FilePath.parts path, part ≠ "." ∧ part ≠ ".."

instance (path : String) : Decidable (IsStraight path) :=
  decidable_of_iff (normalize path = path ∧ ∀ part ∈ FilePath.parts path, part ≠ "." ∧ part ≠ "..")
    ⟨fun straight => ⟨straight.1, straight.2⟩, fun straight => ⟨straight.normal, straight.down⟩⟩

lemma IsStraight.getLast?_parts {path : String} (straight : IsStraight path) :
    (FilePath.parts path).getLast? = some (fileName path) :=
  SourcePath.getLast?_parts
    (normalizeChars_eq_self_iff.mp (normalize_eq_self_iff.mp straight.normal)).2.1

/-- The last component of a straight path names an entry unless the path ends in a slash. -/
lemma IsStraight.isReal_fileName {path : String} (straight : IsStraight path)
    (named : fileName path ≠ "") :
    FilePath.IsReal (fileName path) := by
  obtain ⟨noDot, down⟩ := straight.down _ (List.mem_of_getLast? straight.getLast?_parts)
  exact ⟨FilePath.isVoid_eq_false_iff.mpr ⟨named, noDot⟩, down⟩

end SourcePath

/-! ## The place of an output -/

lemma OutputName.Composed.no_slash {name : OutputName} (composed : name.Composed) :
    '/' ∉ name.toChars :=
  fun listed => absurd (composed.plain _ listed) (by decide)

lemma OutputName.Composed.isReal {name : OutputName} (composed : name.Composed) :
    FilePath.IsReal name.fileName := by
  have generated := composed.isGeneratedFileName
  have differs : ∀ other, SourceGen.isGeneratedFileName other = false → name.fileName ≠ other := by
    rintro other authored rfl
    rw [generated] at authored
    cases authored
  exact ⟨FilePath.isVoid_eq_false_iff.mpr ⟨differs "" (by decide), differs "." (by decide)⟩,
    differs ".." (by decide)⟩

namespace Registration

variable {registration : Registration} {source : String}

lemma outputPath_of_normal (normal : SourcePath.normalize source = source) :
    registration.outputPath source
      = String.ofList (SourcePath.outputChars source.toList registration.outputName.toChars) := by
  rw [outputPath, SourcePath.output, SourcePath.normalize_eq_self_iff.mp normal,
    OutputName.fileName, String.toList_ofList]

/-- The output path of a source in normal form is in normal form. -/
theorem normalize_outputPath (composed : registration.outputName.Composed)
    (normal : SourcePath.normalize source = source) :
    SourcePath.normalize (registration.outputPath source) = registration.outputPath source := by
  rw [outputPath_of_normal normal, SourcePath.normalize_eq_self_iff, String.toList_ofList]
  rw [SourcePath.normalizeChars_outputChars (SourcePath.normalize_eq_self_iff.mp normal)
    composed.plain,
    Text.trimRight_eq_self composed.closed]

lemma straight_outputPath (composed : registration.outputName.Composed)
    (straight : SourcePath.IsStraight source) :
    SourcePath.IsStraight (registration.outputPath source) := by
  refine ⟨normalize_outputPath composed straight.normal, fun part listed => ?_⟩
  obtain ⟨front, rest, _, ofSource, ofOutput⟩ :=
    SourcePath.parts_outputChars source.toList composed.no_slash
  rw [outputPath_of_normal straight.normal, ofOutput, List.mem_append] at listed
  rw [String.ofList_toList] at ofSource
  rcases listed with inFront | listed
  · exact straight.down part (ofSource ▸ List.mem_append_left rest inFront)
  · rcases List.mem_cons.mp listed with rfl | listed
    · decide
    · rw [← OutputName.fileName, List.mem_singleton] at listed
      subst listed
      obtain ⟨named, down⟩ := composed.isReal
      refine ⟨fun dot => ?_, down⟩
      rw [dot] at named
      cases named

/-- **The output of a source that is there goes to a directory that is there, or to one directory
below it.** -/
theorem namesBelow_outputPath {files : FileSystem} {root : String} (holds : files.Holds root)
    (composed : registration.outputName.Composed) (normal : SourcePath.normalize source = source)
    (present : files.pathExists (FilePath.join root source) = true) :
    ∃ ground, files.NamesBelow (FilePath.join root (registration.outputPath source)) ground
      (String.ofList SourcePath.generatedDirectory) registration.outputName.fileName := by
  obtain ⟨front, rest, more, ofSource, ofOutput⟩ :=
    SourcePath.parts_outputChars source.toList composed.no_slash
  rw [← outputPath_of_normal normal, ← OutputName.fileName] at ofOutput
  rw [String.ofList_toList] at ofSource
  obtain ⟨tree, looked⟩ := FileSystem.pathExists_iff.mp present
  obtain ⟨_, reached, leads, _⟩ := FileSystem.lookup_eq_ok_iff.mp looked
  have below : ∀ {before ground : List String},
      FilePath.parts (FilePath.join root (registration.outputPath source))
        = before ++ [String.ofList SourcePath.generatedDirectory,
          registration.outputName.fileName] →
      files.follow (files.startOf (FilePath.join root (registration.outputPath source))) before
        = .ok ground →
      files.isDirectoryAt ground = true →
      ∃ ground, files.NamesBelow (FilePath.join root (registration.outputPath source)) ground
        (String.ofList SourcePath.generatedDirectory) registration.outputName.fileName :=
    fun cut leads directory =>
      ⟨_, ⟨_, cut, leads⟩, directory, ⟨by decide, by decide⟩, composed.isReal⟩
  cases front with
  | nil =>
    -- The output goes to the root.
    have relative : FilePath.isAbsolute (registration.outputPath source) = false := by
      rw [FilePath.isAbsolute_of_parts ofOutput (List.cons_ne_nil _ _)]
      decide
    obtain ⟨start, lead, ground, first, directory, behind⟩ := holds.leads false
    obtain ⟨cut, begins⟩ := behind _ relative
    rw [ofOutput, List.nil_append] at cut
    exact below cut (begins ▸ first) (directory rfl)
  | cons step front =>
    -- The output and the source have a directory in common.
    have alike : FilePath.isAbsolute (registration.outputPath source)
        = FilePath.isAbsolute source := by
      rw [FilePath.isAbsolute_of_parts ofOutput (by simp),
        FilePath.isAbsolute_of_parts ofSource (by simp [more])]
    obtain ⟨start, lead, _, _, _, behind⟩ := holds.leads (FilePath.isAbsolute source)
    obtain ⟨cutSource, beginsSource⟩ := behind source rfl
    obtain ⟨cut, begins⟩ := behind _ alike
    rw [cutSource, beginsSource, ofSource, ← List.append_assoc] at leads
    obtain ⟨ground, leads, directory, _⟩ := FileSystem.follow_split leads more
    rw [ofOutput, ← List.append_assoc] at cut
    exact below cut (begins ▸ leads) directory

end Registration

end SourceGen
