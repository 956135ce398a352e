import SourceGen.Proofs.FileSystem.Walking
import SourceGen.Proofs.Host.Directory
import SourceGen.Proofs.Manifest.Names
import SourceGen.Proofs.OutputPaths
import SourceGen.Proofs.Text.ByteOrder

/-!
# The index of a directory host

A directory host finds the source of a type by walking its tree once and keeping the first file of
every stem. Which file comes first is settled here without the walk: of the places at which a
source of the stem stands (`FileTree.HasSource`) it is the least one, compared name by name in the
order of their bytes (`DirectoryHost.pathOfType_eq_isLeast`). The walk meets the places in
ascending order (`FileTree.pairwise_files`), which is that of the bytes
(`Encoding.map_encode_le_iff`). In a tree of normal paths a place has the stem and the name that
its path has (`FileTree.Ordered.fileName_intercalate`), so that the first path to be entered is at
the least place.

The paths as texts are in another order: below, `a.d/Player.cs` is less than `a/Player.cs`, since a
dot is less than a slash, and yet the second is indexed, since `a` is less than `a.d`.
-/

namespace SourceGen

namespace FileTree

/-- At this place of the tree stands a source of this stem: a regular file that is not named as a
generated one, in no directory that is hidden or holds generated or foreign files. -/
structure HasSource (tree : FileTree) (stem : String) (place : List String) : Prop where
  stands : ∃ content, tree.get? place = some (.file content)
  named : ∃ name, place.getLast? = some name ∧ SourcePath.fileStem name = stem ∧
    isGeneratedFileName name = false
  entered : ∀ directory ∈ place.dropLast,
    directory.toList.head? ≠ some '.' ∧ directory ∉ ["altgen.g", "target", "node_modules"]

/-- The paths of all regular files of the tree are as normalization leaves them. -/
def IsNormal (tree : FileTree) : Prop :=
  ∀ place content, tree.get? place = some (.file content) →
    SourcePath.normalize (String.intercalate "/" place) = String.intercalate "/" place

/-- The files of a walk that leaves no directory out are all there are. -/
lemma isNormal_iff {tree : FileTree} (ordered : tree.Ordered) :
    tree.IsNormal ↔ ∀ entry ∈ tree.files fun _ => false,
      SourcePath.normalize (String.intercalate "/" entry.1) = String.intercalate "/" entry.1 := by
  constructor
  · rintro normal ⟨place, content⟩ walked
    exact normal place content ((mem_files_iff ordered).mp walked).1
  · intro each place content stands
    exact each (place, content) ((mem_files_iff ordered).mpr ⟨stands, fun _ _ => rfl⟩)

lemma isSkippedDirectory_eq_false_iff {name : String} :
    DirectoryHost.isSkippedDirectory name = false ↔
      name.toList.head? ≠ some '.' ∧ name ∉ ["altgen.g", "target", "node_modules"] := by
  have generated : String.ofList SourcePath.generatedDirectory = "altgen.g" := rfl
  simp [DirectoryHost.isSkippedDirectory, generated, and_assoc]

/-- No name on the way to something has a slash in it. -/
lemma Ordered.plain_of_get? {tree found : FileTree} {place : List String} (ordered : tree.Ordered)
    (stands : tree.get? place = some found) : ∀ name ∈ place, '/' ∉ name.toList := by
  induction place generalizing tree with
  | nil => exact List.forall_mem_nil _
  | cons name rest ih =>
    cases tree with
    | file content => cases stands
    | directory entries =>
      rw [get?] at stands
      split at stands
      · next child known =>
        have listed := (sorted_get?_iff ordered.pairwise).mp known
        exact List.forall_mem_cons.mpr
          ⟨ordered.plain [] entries rfl _ listed, ih (ordered.child listed) stands⟩
      · cases stands

/-- The path of a file has the last name of its place for a file name, and the stem of that name. -/
lemma Ordered.fileName_intercalate {entries : List (String × FileTree)} {place : List String}
    {content : List UInt8} (ordered : Ordered (.directory entries))
    (normal : IsNormal (.directory entries))
    (stands : FileTree.get? (.directory entries) place = some (.file content)) :
    ∃ name, place.getLast? = some name ∧ SourcePath.fileName (String.intercalate "/" place) = name ∧
      SourcePath.fileStem (String.intercalate "/" place) = SourcePath.fileStem name := by
  have plain := ordered.plain_of_get? stands
  have filled : place ≠ [] := by
    rintro rfl
    cases stands
  obtain ⟨_, flat, _⟩ := SourcePath.normalizeChars_eq_self_iff.mp
    (SourcePath.normalize_eq_self_iff.mp (normal place content stands))
  have last := SourcePath.getLast?_parts flat
  rw [FilePath.parts_intercalate plain filled] at last
  refine ⟨_, last, rfl, ?_⟩
  rw [SourcePath.fileStem, SourcePath.fileStem, SourcePath.fileName, String.toList_ofList,
    SourcePath.fileNameChars, SourcePath.fileNameChars,
    Text.afterLast_eq_self Text.not_sep_of_mem_afterLast]

end FileTree

namespace DirectoryHost

variable {root : String} {registry : Registry} {files : FileSystem}
  {entries : List (String × FileTree)}

/-- The regular files that a walk meets, in its order. -/
def placesOf (entries : List (String × FileTree)) : List (List String) :=
  ((FileTree.directory entries).files isSkippedDirectory).map Prod.fst

lemma mem_placesOf_iff (ordered : FileTree.Ordered (.directory entries)) {place : List String} :
    place ∈ placesOf entries ↔
      (∃ content, FileTree.get? (.directory entries) place = some (.file content)) ∧
        ∀ directory ∈ place.dropLast, isSkippedDirectory directory = false := by
  rw [placesOf, List.mem_map]
  constructor
  · rintro ⟨⟨_, content⟩, walked, rfl⟩
    obtain ⟨stands, entered⟩ := (FileTree.mem_files_iff ordered).mp walked
    exact ⟨⟨content, stands⟩, entered⟩
  · rintro ⟨⟨content, stands⟩, entered⟩
    exact ⟨(place, content), (FileTree.mem_files_iff ordered).mpr ⟨stands, entered⟩, rfl⟩

/-- Whether the path of a place is indexed under a stem, unless another is before. -/
def isSourceOf (stem : String) (place : List String) : Bool :=
  let source := String.intercalate "/" place
  !isGeneratedFileName (SourcePath.fileName source) ∧ SourcePath.fileStem source = stem

section Tree

variable (ordered : FileTree.Ordered (.directory entries))
  (normal : FileTree.IsNormal (.directory entries))

include ordered normal

/-- The places whose paths are indexed are those of the sources. -/
lemma isSourceOf_iff {stem : String} {place : List String} :
    place ∈ placesOf entries ∧ isSourceOf stem place = true ↔
      FileTree.HasSource (.directory entries) stem place := by
  rw [mem_placesOf_iff ordered, isSourceOf, decide_eq_true_eq, Bool.not_eq_true']
  simp only [FileTree.isSkippedDirectory_eq_false_iff]
  constructor
  · rintro ⟨⟨⟨content, stands⟩, entered⟩, authored, stemmed⟩
    obtain ⟨name, last, fileName, stem⟩ := ordered.fileName_intercalate normal stands
    exact ⟨⟨content, stands⟩, ⟨name, last, stem.symm.trans stemmed, fileName ▸ authored⟩, entered⟩
  · rintro ⟨⟨content, stands⟩, ⟨other, ends, stemmed, authored⟩, entered⟩
    obtain ⟨name, last, fileName, stem⟩ := ordered.fileName_intercalate normal stands
    obtain rfl := Option.some.inj (ends.symm.trans last)
    exact ⟨⟨⟨content, stands⟩, entered⟩, by rw [fileName, authored], stem.trans stemmed⟩

/-- The host answers with the path of the first place that is indexed under the short name. -/
lemma pathOfType_eq_find? (lookup : files.lookup root = .ok (.directory entries))
    (type : TypeName) :
    (Host.pathOfType (ofRegistry root registry) files type).1
      = ((placesOf entries).find? (isSourceOf type.shortName)).map (String.intercalate "/") := by
  have walked : walk root files = (placesOf entries).map (String.intercalate "/") := by
    rw [walk, lookup, placesOf, List.map_map]
    refine List.map_congr_left fun ⟨place, content⟩ listed => ?_
    exact normal place content ((FileTree.mem_files_iff ordered).mp listed).1
  show (indexOf (walk root files)).get? type.shortName = _
  rw [get?_indexOf, walked, List.find?_map]
  rfl

end Tree

/-- Once a source was asked for, the answers stay what they are, whatever becomes of the files. -/
lemma pathOfType_again (host : DirectoryHost) (files later : FileSystem) (type other : TypeName) :
    (Host.pathOfType (Host.pathOfType host files type).2 later other).1
      = (Host.pathOfType host files other).1 := by
  show ((indexed (host.indexed files).2 later).1.get? other.shortName)
    = (host.indexed files).1.get? other.shortName
  rw [indexed_of_built (congrArg sources (indexed_eq host files))]

/-- The type of a path that the index has for a type, when no other registered type has its short
name. -/
lemma typeOfPath_of_pathOfType {type : TypeName} {path : String}
    (found : (Host.pathOfType (ofRegistry root registry) files type).1 = some path)
    (registered : type ∈ registry.targets ++ registry.generators)
    (alone : ∀ other ∈ registry.targets ++ registry.generators, other.shortName = type.shortName →
      other = type)
    (later : FileSystem) :
    (Host.typeOfPath (Host.pathOfType (ofRegistry root registry) files type).2 later path).1
      = some type := by
  have stem : SourcePath.fileStem path = type.shortName := (indexOf_spec found).1
  show (ofRegistry root registry).types.get? (SourcePath.fileStem path) = some type
  rw [stem, get?_types]
  cases known : (registry.targets ++ registry.generators).find? (·.shortName = type.shortName) with
  | none => exact absurd (decide_eq_true rfl) (List.find?_eq_none.mp known type registered)
  | some other =>
    have same := List.find?_some known
    rw [alone other (List.mem_of_find?_eq_some known) (of_decide_eq_true same)]

/-- **The index has the least source.** In a tree of normal paths a directory host finds for a type
the path of the least place, compared name by name in the order of their bytes, at which a source
with its short name for a stem stands, and finds nothing exactly when there is no such place. The
path it finds is in turn the source of that type, when the type is registered and no other
registered type has its short name. -/
theorem pathOfType_eq_isLeast (registry : Registry)
    (lookup : files.lookup root = .ok (.directory entries))
    (ordered : FileTree.Ordered (.directory entries))
    (normal : FileTree.IsNormal (.directory entries)) (type : TypeName) :
    let answer := Host.pathOfType (ofRegistry root registry) files type
    let sources := { place | FileTree.HasSource (.directory entries) type.shortName place }
    (∀ path, answer.1 = some path ↔ ∃ place ∈ sources,
      (∀ other ∈ sources, place.map Encoding.utf8.encode ≤ other.map Encoding.utf8.encode) ∧
        path = String.intercalate "/" place) ∧
    (answer.1 = none ↔ sources = ∅) ∧
    (∀ path, answer.1 = some path → type ∈ registry.targets ++ registry.generators →
      (∀ other ∈ registry.targets ++ registry.generators, other.shortName = type.shortName →
        other = type) →
      (Host.typeOfPath answer.2 files path).1 = some type) := by
  intro answer sources
  have found : answer.1
      = ((placesOf entries).find? (isSourceOf type.shortName)).map (String.intercalate "/") :=
    pathOfType_eq_find? ordered normal lookup type
  have same : { place | place ∈ placesOf entries ∧ isSourceOf type.shortName place = true }
      = sources :=
    Set.ext fun place => isSourceOf_iff ordered normal
  have ascending : (placesOf entries).Pairwise (· < ·) :=
    FileTree.pairwise_files isSkippedDirectory (.directory entries) ordered
  have least : ∀ place, (placesOf entries).find? (isSourceOf type.shortName) = some place ↔
      IsLeast sources place := by
    intro place
    rw [← same]
    refine ⟨List.isLeast_of_find? ascending, fun least => ?_⟩
    obtain ⟨other, known⟩ := Option.isSome_iff_exists.mp (List.find?_isSome.mpr ⟨place, least.1⟩)
    rw [known, (List.isLeast_of_find? ascending known).unique least]
  refine ⟨fun path => ?_, ?_, fun path known registered alone => ?_⟩
  · rw [found, Option.map_eq_some_iff]
    refine exists_congr fun place => ?_
    rw [least, ← and_assoc]
    refine and_congr (and_congr_right fun _ => ?_) eq_comm
    exact forall₂_congr fun other _ => (Encoding.map_encode_le_iff place other).symm
  · rw [found, Option.map_eq_none_iff, List.find?_eq_none, ← same, Set.eq_empty_iff_forall_notMem]
    exact forall_congr' fun place => not_and.symm
  · exact typeOfPath_of_pathOfType known registered alone files

/-- Three sources of one stem, one of them in a hidden directory. -/
def players : List (String × FileTree) :=
  [(".git", .directory [("Player.cs", .file [])]), ("a", .directory [("Player.cs", .file [])]),
    ("a.d", .directory [("Player.cs", .file [])])]

lemma ordered_players : FileTree.Ordered (.directory players) := by
  have one : FileTree.Ordered (.directory [("Player.cs", .file [])]) :=
    FileTree.ordered_directory (List.pairwise_singleton _ _)
      (List.forall_mem_singleton.mpr ⟨by decide, FileTree.ordered_file []⟩)
  exact FileTree.ordered_directory (by decide +kernel)
    (List.forall_mem_cons.mpr ⟨⟨by decide, one⟩,
      List.forall_mem_cons.mpr ⟨⟨by decide, one⟩, List.forall_mem_singleton.mpr ⟨by decide, one⟩⟩⟩)

/-- The source whose directory has the lesser name is found, though its path is the greater text. -/
theorem pathOfType_eq_isLeast_players :
    let files : FileSystem := { top := .directory [("p", .directory players)] }
    let answer := Host.pathOfType (ofRegistry "p" TwoTargets.project.session.engine.registry) files
      TwoTargets.player.target
    "a.d/Player.cs" < "a/Player.cs" ∧ answer.1 = some "a/Player.cs" ∧
      (∃ place, FileTree.HasSource (.directory players) "Player" place ∧ (∀ other,
        FileTree.HasSource (.directory players) "Player" other →
          place.map Encoding.utf8.encode ≤ other.map Encoding.utf8.encode) ∧
        "a/Player.cs" = String.intercalate "/" place) ∧
      (Host.typeOfPath answer.2 files "a/Player.cs").1 = some TwoTargets.player.target := by
  intro files answer
  have found : answer.1 = some "a/Player.cs" := by decide +kernel
  have lookup : files.lookup "p" = .ok (.directory players) := rfl
  have normal : FileTree.IsNormal (.directory players) :=
    (FileTree.isNormal_iff ordered_players).mpr (by decide +kernel)
  obtain ⟨least, _, back⟩ := pathOfType_eq_isLeast TwoTargets.project.session.engine.registry lookup
    ordered_players normal TwoTargets.player.target
  exact ⟨by decide +kernel, found, (least _).mp found,
    back _ found (by decide +kernel) (by decide +kernel)⟩

end DirectoryHost

end SourceGen
