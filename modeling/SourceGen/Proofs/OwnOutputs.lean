import SourceGen.Proofs.Manifest.Names
import SourceGen.Proofs.OutputNames

/-!
# An engine knows its own outputs

A generated file is told by its name, so an engine takes none of its outputs for a source: wherever
the source of a declaration lies and however its path is written, the output path of the declaration
is classified as generated, before the filters of sources or the host are asked
(`ofPath_outputPath`). The generator that the classification names is that of the first
registration with the same file name. Two declarations can have one file name, and then the outputs
of both are attributed to the earlier one.

The last component of the path is what counts. It is the name that was composed when the
declaration was registered (`Registry.IsFor`), and such a name is marked and survives normalization,
which a notified path goes through (`OutputName.Composed`).
-/

namespace SourceGen

namespace Classification

variable {H : Type} [Host H]

lemma ofPath_of_generated {registry : Registry} {first : Registration} {path : String}
    (marked : isGeneratedFileName (SourcePath.fileName path) = true)
    (found : registry.all.find? (fun other => other.outputName.fileName = SourcePath.fileName path)
      = some first)
    (settings : Settings) (forced : Bool) (files : FileSystem) (lookups : Lookups) (host : H) :
    ofPath registry settings forced files path lookups host
      = (.generated first.id.generator, lookups, host) := by
  rw [ofPath, if_pos marked, ofGeneratedFile, Registry.generatorOfFile?, found]

/-- **The output path of a registered declaration is classified as generated**, for every source and
in a forced as in an unforced run. The answer does not depend on the settings, the files, the host
or what is on record of it, and neither the record nor the host is touched. The generator named is
that of the first registration with the same file name, so it is the declaration's own unless an
earlier declaration has that file name. What a notification of the path would mean is the same. -/
theorem ofPath_outputPath {catalog : Catalog} {declarations : List Declaration}
    {registry : Registry}
    (discovered : registry = (Discovery.ofDeclarations catalog declarations).registry)
    (valid : ∀ declaration ∈ declarations, declaration.Valid) {registration : Registration}
    (registered : registration ∈ registry.all) (source : String) :
    ∃ first,
      registry.all.find? (fun other =>
        other.outputName.fileName = registration.outputName.fileName) = some first ∧
      (∀ before after, registry.all = before ++ registration :: after →
        (∀ earlier ∈ before, earlier.outputName.fileName ≠ registration.outputName.fileName) →
        first.id.generator = registration.id.generator) ∧
      (∀ (settings : Settings) (forced : Bool) (files : FileSystem) (lookups : Lookups) (host : H),
        ofPath registry settings forced files (registration.outputPath source) lookups host
          = (.generated first.id.generator, lookups, host)) ∧
      (∀ session : Session H, session.engine.registry = registry →
        session.classify (registration.outputPath source)
          = (.generated first.id.generator, session)) := by
  subst discovered
  have composed := Registry.composed_of_mem_all valid registered
  obtain ⟨nameOfPath, nameOfNormal⟩ := registration.fileName_outputPath composed source
  obtain ⟨first, found⟩ := Option.isSome_iff_exists.mp
    (List.find?_isSome (p := fun other : Registration =>
        decide (other.outputName.fileName = registration.outputName.fileName)) |>.mpr
      ⟨registration, registered, decide_eq_true rfl⟩)
  refine ⟨first, found, ?_, ?_, ?_⟩
  · intro before after listed unlike
    have passed : before.find? (fun other =>
        decide (other.outputName.fileName = registration.outputName.fileName)) = none :=
      List.find?_eq_none.mpr fun earlier listed => by simpa using unlike earlier listed
    rw [listed, List.find?_append, passed, Option.none_or,
      List.find?_cons_of_pos (by simp)] at found
    rw [← Option.some.inj found]
  · intro settings forced files lookups host
    exact ofPath_of_generated (nameOfPath ▸ composed.isGeneratedFileName) (nameOfPath ▸ found)
      settings forced files lookups host
  · intro session same
    rw [Session.classify, same, ofPath_of_generated (nameOfNormal ▸ composed.isGeneratedFileName)
      (nameOfNormal ▸ found) session.engine.settings]

/-- The note of the player is attributed to the generator of notes. -/
theorem ofPath_playerNote :
    let registry :=
      (Discovery.ofDeclarations TwoTargets.catalog TwoTargets.manifest.declarations).registry
    ofPath registry TwoTargets.manifest.settings false {} "altgen.g/Note.Player.Note.g.txt" {}
        ({} : RecordingHost) = (.generated TwoTargets.noteName, {}, {}) := by
  intro registry
  obtain ⟨first, _, own, classified, _⟩ :=
    ofPath_outputPath (H := RecordingHost) (rfl : registry = _)
    (by decide +kernel : ∀ declaration ∈ TwoTargets.manifest.declarations, declaration.Valid)
    (registry.all.get_mem ⟨0, by decide +kernel⟩) "Player.cs"
  have path : (registry.all.get ⟨0, by decide +kernel⟩).outputPath "Player.cs"
      = "altgen.g/Note.Player.Note.g.txt" := by
    decide +kernel
  have generator : (registry.all.get ⟨0, by decide +kernel⟩).id.generator
      = TwoTargets.noteName := by
    decide +kernel
  have leads : registry.all = registry.all.get ⟨0, by decide +kernel⟩ :: registry.all.drop 1 :=
    List.drop_eq_getElem_cons (i := 0) _
  have attributed : first.id.generator = TwoTargets.noteName :=
    (own [] _ leads fun _ none => absurd none List.not_mem_nil).trans generator
  rw [← path, classified, attributed]

end Classification

end SourceGen
