import SourceGen.Proofs.FanOut

/-!
# The owner that an output name tells

The name of a generated file ends in a segment for the type that produced it, the mark, and the
requested extension. Who reads the name does not know where the extension begins, and looks for the
mark at the end of the name before it looks in front of the last dot. So an extension that reads
like the mark is taken for it, and the mark itself for the segment
(`OutputName.Segmented.beforeMark?_toChars`). No other request misleads the reader, whatever dots
it has and wherever they stand (`OutputName.owner_of_resolve?`).
-/

namespace SourceGen.OutputName

/-! ## The mark -/

/-- A name does not end in the mark when another extension stands behind it. -/
lemma dropSuffix?_mark_of_dotted {stem rest : List Char} (plain : '.' ∉ rest)
    (other : rest ≠ ['g']) :
    Text.dropSuffix? generatedMark (stem ++ generatedMark ++ '.' :: rest) = none := by
  rw [Option.eq_none_iff_forall_not_mem]
  intro front cut
  have same : stem ++ generatedMark ++ '.' :: rest = front ++ '.' :: ['g'] :=
    Text.dropSuffix?_eq_some_iff.mp cut
  exact other (Text.eq_and_eq_of_cut plain (by decide) same).2

/-- What stands before the mark of a composed name, for its reader: the stem, or the stem with the
mark, when the extension reads like another one. -/
lemma Segmented.beforeMark?_toChars {name : OutputName} (segmented : name.Segmented) :
    beforeMark? name.toChars
      = some (if name.extension = ".g" then name.stem ++ generatedMark else name.stem) := by
  rw [toChars_eq, beforeMark?]
  rcases segmented.extension with bare | ⟨rest, dotted, plain⟩
  · have different : name.extension ≠ ".g" := by
      rintro like
      rw [like] at bare
      exact absurd bare (by decide)
    rw [if_neg different, bare, List.append_nil, Text.dropSuffix?_eq_some_iff.mpr rfl,
      Option.some_or]
  by_cases like : rest = ['g']
  · have extension : name.extension = ".g" := String.toList_inj.mp (dotted.trans (congrArg _ like))
    have ends : Text.dropSuffix? generatedMark (name.stem ++ generatedMark ++ generatedMark)
        = some (name.stem ++ generatedMark) := Text.dropSuffix?_eq_some_iff.mpr rfl
    rw [if_pos extension, dotted, like]
    exact congrArg (Option.or · _) ends
  · have different : name.extension ≠ ".g" := by
      intro extension
      rw [extension] at dotted
      exact like (List.cons_inj_right '.' |>.mp dotted.symm)
    rw [if_neg different, dotted, dropSuffix?_mark_of_dotted plain like, Option.none_or,
      Text.cutLast?_append _ plain, Option.bind_some]
    exact Text.dropSuffix?_eq_some_iff.mpr rfl

/-! ## The segment -/

lemma Segmented.cutLast?_stem {name : OutputName} (segmented : name.Segmented) :
    ∃ front, Text.cutLast? '.' name.stem = some (front, name.lastSegment.toList) := by
  rw [lastSegment]
  cases generator : name.generator with
  | none =>
    rw [stem_of_self generator]
    exact ⟨_, Text.cutLast?_append _ segmented.target⟩
  | some segment =>
    rw [stem_of_delegated generator]
    exact ⟨_, Text.cutLast?_append _ (segmented.generator segment generator)⟩

/-- The last segment is that of the generator, be it the target or another type. -/
lemma lastSegment_of_resolve? {requested : String} {target generator : TypeName} {name : OutputName}
    (resolved : resolve? requested target generator = some name) : name.lastSegment
      = generator.shortName := by
  obtain ⟨forTarget, byGenerator⟩ := (madeFor_of_resolve? resolved).segments
  rw [lastSegment, byGenerator, forTarget]
  split
  · next self => rw [self, Option.getD_none]
  · rw [Option.getD_some]

/-! ## The extension -/

/-- A name has the extension `.g` when it ends in that and does not begin there. -/
lemma splitExtension_eq_mark_iff {name : List Char} :
    (splitExtension name).2 = generatedMark ↔ ∃ base, base ≠ [] ∧ name = base ++ generatedMark := by
  constructor
  · intro marked
    have whole := (splitExtension_spec name).1
    rw [marked] at whole
    refine ⟨(splitExtension name).1, ?_, whole.symm⟩
    rintro empty
    rw [empty, List.nil_append] at whole
    rw [← whole] at empty
    exact absurd empty (by decide)
  · rintro ⟨base, filled, rfl⟩
    have cut : Text.cutLast? '.' (base ++ generatedMark) = some (base, ['g']) :=
      Text.cutLast?_append base (by decide)
    obtain ⟨first, rest, rfl⟩ := List.exists_cons_of_ne_nil filled
    rw [splitExtension, cut]
    rfl

/-! ## Reading a composed name -/

/-- **The owner of a composed name.** Every name that is composed is recognised, and the short name
of the generator is read back from it, unless the last component of the request has the extension
`.g`. In that case the owner that is read is `g`, whatever the generator. -/
theorem owner_of_resolve? {requested : String} {target generator : TypeName} {name : OutputName}
    (valid : generator.Valid) (resolved : resolve? requested target generator = some name) :
    isGeneratedFileName name.fileName = true ∧
      generatedOwner? name.fileName
        = some (if name.extension = ".g" then "g" else generator.shortName) ∧
      (name.extension = ".g" ↔
        ∃ base, base ≠ [] ∧
          Text.afterLast isPathSeparator (Text.trim requested.toList) = base ++ generatedMark) := by
  have segmented := (segmented_of_resolve? resolved).1
  have mark := segmented.beforeMark?_toChars
  have named : (name.lastSegment).toList ≠ [] := by
    rw [lastSegment_of_resolve? resolved, Ne, String.toList_eq_nil_iff]
    exact valid.shortName_ne
  refine ⟨?_, ?_, ?_⟩
  · rw [isGeneratedFileName, fileName, String.toList_ofList, mark]
    rfl
  · rw [generatedOwner?, fileName, String.toList_ofList, mark, Option.bind_some]
    split
    · -- The mark stands where the reader looks for the segment.
      have cut : Text.cutLast? '.' (name.stem ++ generatedMark) = some (name.stem, ['g']) :=
        Text.cutLast?_append name.stem (by decide)
      rw [cut]
      rfl
    · obtain ⟨front, cut⟩ := segmented.cutLast?_stem
      rw [cut, Option.bind_some, ← lastSegment_of_resolve? resolved]
      dsimp only
      rw [if_neg (by simpa using named), String.ofList_toList]
  · rw [← splitExtension_eq_mark_iff, ← (madeFor_of_resolve? resolved).extension,
      ← String.toList_inj]
    rfl

/-- A delegated generator is read back from a request with dots of its own. -/
theorem owner_of_delegated_request :
    let target : TypeName := ⟨"App.Player"⟩
    let generator : TypeName := ⟨"Gen.Note"⟩
    generator.Valid ∧
      ∃ name, resolve? "notes/Player.g.txt" target generator = some name ∧
        name.fileName = "Player.g.Player.Note.g.txt" ∧ generatedOwner? name.fileName
          = some "Note" := by
  intro target generator
  have valid : generator.Valid := by decide
  obtain ⟨name, resolved⟩ : ∃ name, resolve? "notes/Player.g.txt" target generator = some name :=
    ⟨_, rfl⟩
  have shown : (resolve? "notes/Player.g.txt" target generator).map
      (fun name => (name.fileName, name.extension))
      = some ("Player.g.Player.Note.g.txt", ".txt") := by decide
  rw [resolved, Option.map_some, Option.some.injEq, Prod.mk.injEq] at shown
  obtain ⟨_, owner, _⟩ := owner_of_resolve? valid resolved
  rw [shown.2, if_neg (by decide)] at owner
  have short : generator.shortName = "Note" := by decide
  exact ⟨valid, name, resolved, shown.1, short ▸ owner⟩

/-- A type that requests a file with the extension `.g` for itself is not the owner that the name
tells. -/
theorem owner_of_marked_request :
    let type : TypeName := ⟨"T"⟩
    type.Valid ∧
      ∃ name, resolve? "X.g" type type = some name ∧
        name.fileName = "X.T.g.g" ∧ generatedOwner? name.fileName = some "g" ∧
          generatedOwner? name.fileName ≠ some type.shortName := by
  refine ⟨by decide, { base := "X", target := "T", generator := none, extension := ".g" }, ?_⟩
  decide

end SourceGen.OutputName
