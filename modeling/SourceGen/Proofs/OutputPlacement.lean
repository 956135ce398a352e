import SourceGen.Proofs.NormalForms
import SourceGen.Proofs.OutputPaths
import SourceGen.Proofs.Text.Pieces

/-!
# Placing an output twice

An output lies in a directory of generated files, whatever its source is, and under the name that it
is given. So the output is itself a source that lies among generated files, and its own outputs
stand beside it: placing twice is placing once (`SourcePath.output_placement`).

The second placing normalizes the first one's result, which need not be in normal form: a name may
end in blanks, or hold nothing else. But normalizing trims only that end of the path
(`SourcePath.normalizeChars_outputChars`), and the end belongs to the name, which the second placing
puts in anew. Only a source whose normal form has a normal form of its own is another matter, since
a blank at the front of the directory is trimmed the second time.
-/

namespace SourceGen.SourcePath

/-! ## Directories of generated files -/

/-- The last component of the directory is the name of directories of generated files. -/
def IsGenerated (directory : List Char) : Prop :=
  (directory.splitOn '/').getLast? = some generatedDirectory

instance (directory : List Char) : Decidable (IsGenerated directory) :=
  inferInstanceAs (Decidable (_ = _))

/-- The directory of generated files for the files of a directory: the directory itself if it is one
already, else the one in it, or at the top if the directory has no name. -/
def generatedBeside (directory : List Char) : List Char :=
  if IsGenerated directory then directory
  else if directory = [] then generatedDirectory
  else directory ++ '/' :: generatedDirectory

/-- A directory is one of generated files when it is called so, or when its path ends in a slash and
that name; a longer name that ends likewise does not count. -/
lemma isGenerated_iff {directory : List Char} :
    IsGenerated directory ↔
      directory = generatedDirectory ∨ '/' :: generatedDirectory <:+ directory := by
  rw [IsGenerated, ← Text.pieces_eq_splitOn, Text.getLast?_pieces, Option.some.injEq]
  have plain : ∀ c ∈ generatedDirectory, decide (c = '/') = false :=
    Text.forall_ne_of_not_mem (by decide)
  constructor
  · intro last
    cases cut : Text.cutLast? '/' directory with
    | none =>
      have flat := Text.forall_ne_of_not_mem (Text.cutLast?_eq_none_iff.mp cut)
      exact .inl ((Text.afterLast_eq_self flat).symm.trans last)
    | some both =>
      obtain ⟨whole, flat⟩ := Text.eq_append_of_cutLast? cut
      rw [whole, Text.afterLast_append both.1 (by rfl) (Text.forall_ne_of_not_mem flat)] at last
      exact .inr ⟨both.1, by rw [whole, last]⟩
  · rintro (rfl | ⟨before, rfl⟩)
    · exact Text.afterLast_eq_self plain
    · exact Text.afterLast_append before rfl plain

lemma isInGeneratedChars_iff {path : List Char} :
    isInGeneratedChars path = true ↔ IsGenerated (parentChars path) := by
  rw [isGenerated_iff, isInGeneratedChars, Bool.or_eq_true, beq_iff_eq, List.isSuffixOf_iff_suffix]

lemma isGenerated_generatedBeside (directory : List Char) :
    IsGenerated (generatedBeside directory) := by
  unfold generatedBeside
  split
  · next already => exact already
  split
  · exact isGenerated_iff.mpr (.inl rfl)
  · exact isGenerated_iff.mpr (.inr ⟨directory, rfl⟩)

/-- The directory of generated files has no other one beside it. -/
lemma generatedBeside_of_isGenerated {directory : List Char} (already : IsGenerated directory) :
    generatedBeside directory = directory :=
  if_pos already

/-! ## Outputs -/

lemma outputDirectory_eq (source : List Char) :
    outputDirectory source = generatedBeside (parentChars source) := by
  unfold outputDirectory generatedBeside
  by_cases already : IsGenerated (parentChars source)
  · rw [if_pos already, if_pos (isInGeneratedChars_iff.mpr already)]
  · rw [if_neg already, if_neg (isInGeneratedChars_iff.not.mpr already)]
    by_cases top : parentChars source = []
    · rw [top]
      rfl
    · rw [if_neg top, if_neg (by simpa using top), List.append_assoc, List.singleton_append]

lemma outputChars_eq_generatedBeside (source name : List Char) :
    outputChars source name = generatedBeside (parentChars source) ++ '/' :: name := by
  rw [outputChars_eq, outputDirectory_eq]

lemma parentChars_outputChars (source : List Char) {name : List Char} (plain : '/' ∉ name) :
    parentChars (outputChars source name) = generatedBeside (parentChars source) := by
  rw [outputChars_eq_generatedBeside, parentChars, Text.cutLast?_append _ plain]

/-- The outputs of an output stand beside it. -/
lemma outputChars_outputChars {source name : List Char} (normal : normalizeChars source = source)
    (plain : ∀ c ∈ name, isPathSeparator c = false) (other : List Char) :
    outputChars (normalizeChars (outputChars source name)) other = outputChars source other := by
  have flat : '/' ∉ Text.trimRight name := fun listed =>
    absurd (plain _ ((Text.trimRight_prefix name).subset listed)) (by decide)
  rw [normalizeChars_outputChars normal plain, outputChars_eq_generatedBeside,
    parentChars_outputChars source flat,
    generatedBeside_of_isGenerated (isGenerated_generatedBeside _), outputChars_eq_generatedBeside]

/-- **An output is placed once and for all.** The output of a source has the name that it is given,
a name without slashes, and lies in a directory of generated files: that of the source itself, if it
is one, and else the one in it. If the normal form of the source is its own normal form, the output
of that output, under the same name, is that output again. -/
theorem output_placement (source name : String)
    (plain : ∀ c ∈ name.toList, isPathSeparator c = false) :
    let directory := parentChars (normalize source).toList
    (isInGeneratedDirectory (normalize source) = true ↔ IsGenerated directory) ∧
      fileName (output source name) = name ∧
      isInGeneratedDirectory (output source name) = true ∧
      (output source name).toList = generatedBeside directory ++ '/' :: name.toList ∧
      parentChars (output source name).toList = generatedBeside directory ∧
      (normalize (normalize source) = normalize source →
        output (output source name) name = output source name) := by
  have flat : '/' ∉ name.toList := fun listed => absurd (plain _ listed) (by decide)
  have text : (output source name).toList = outputChars (normalizeChars source.toList)
      name.toList :=
    String.toList_ofList
  have source_eq : (normalize source).toList = normalizeChars source.toList := String.toList_ofList
  rw [isInGeneratedDirectory, source_eq]
  refine ⟨isInGeneratedChars_iff, ?_, ?_, ?_, ?_, fun fixed => ?_⟩
  · rw [fileName, fileNameChars, text, outputChars_eq, Text.afterLast_append _ rfl plain,
      String.ofList_toList]
  · rw [isInGeneratedDirectory, text, isInGeneratedChars_iff, parentChars_outputChars _ flat]
    exact isGenerated_generatedBeside _
  · rw [text, outputChars_eq_generatedBeside]
  · rw [text, parentChars_outputChars _ flat]
  · have normal : normalizeChars (normalizeChars source.toList) = normalizeChars source.toList := by
      rw [← source_eq]
      exact normalize_eq_self_iff.mp fixed
    rw [output, text, outputChars_outputChars normal plain, output]

/-- A name that ends in a blank is no exception. -/
theorem output_placement_foo :
    (∀ c ∈ "X.g.cs ".toList, isPathSeparator c = false) ∧
      normalize (normalize "./Assets\\Foo.cs") = normalize "./Assets\\Foo.cs" ∧
      output "./Assets\\Foo.cs" "X.g.cs " = "Assets/altgen.g/X.g.cs " ∧
      output "Assets/altgen.g/X.g.cs " "X.g.cs " = "Assets/altgen.g/X.g.cs " := by
  have plain : ∀ c ∈ "X.g.cs ".toList, isPathSeparator c = false := by
    have none : "X.g.cs ".toList.all (fun c => !isPathSeparator c) = true := by decide
    simpa using none
  have fixed : normalize (normalize "./Assets\\Foo.cs") = normalize "./Assets\\Foo.cs" := by
    decide +kernel
  have placed : output "./Assets\\Foo.cs" "X.g.cs " = "Assets/altgen.g/X.g.cs " := by decide +kernel
  obtain ⟨_, _, _, _, _, again⟩ := output_placement "./Assets\\Foo.cs" "X.g.cs " plain
  have same := again fixed
  rw [placed] at same
  exact ⟨plain, fixed, placed, same⟩

end SourceGen.SourcePath
