import SourceGen.Proofs.FileSystem.Following

/-!
# What a write touches

A write that goes through touches one regular file, the one that its path leads to when it is done,
and that file holds the bytes written (`FileSystem.Replaces`). A write that is refused or that
keeps an existing file touches none, wherever it stops: all it may leave behind are directories,
made where nothing stood.

Regular files are told apart by their places, and what is said of a place is the bytes of the
regular file there, if one stands there (`FileTree.contentAt`). So one statement covers files that
are created, changed and removed.
-/

namespace SourceGen

namespace FileTree

/-- The bytes of the regular file at a place; nothing when no regular file stands there. -/
def contentAt (tree : FileTree) (place : List String) : Option (List UInt8) :=
  (tree.get? place).bind content?

/-! ## Places and what is put there -/

lemma contentAt_empty (place : List String) : (directory []).contentAt place = none := by
  cases place <;> rfl

section Put

variable {tree new : FileTree} {parent place : List String} {entries : List (String × FileTree)}
  {name : String} (inside : tree.get? parent = some (directory entries))

include inside

lemma contentAt_put_of_not_prefix (apart : ¬ parent ++ [name] <+: place) :
    (tree.put (parent ++ [name]) new).contentAt place = tree.contentAt place := by
  rcases get?_put_of_not_prefix inside apart with same | ⟨_, _, before, after⟩
  · rw [contentAt, same, contentAt]
  · rw [contentAt, contentAt, before, after]
    rfl

/-- An empty directory that is put where nothing stood touches no regular file. -/
lemma contentAt_put_empty (free : tree.get? (parent ++ [name]) = none) (place : List String) :
    (tree.put (parent ++ [name]) (directory [])).contentAt place = tree.contentAt place := by
  by_cases below : parent ++ [name] <+: place
  · obtain ⟨rest, rfl⟩ := below
    have before : tree.contentAt (parent ++ [name] ++ rest) = none := by
      rw [contentAt, get?_append, free]
      rfl
    rw [before, contentAt, get?_put_append inside]
    exact contentAt_empty rest
  · exact contentAt_put_of_not_prefix inside below

/-- A file that is put where no directory stood touches no other regular file. -/
lemma contentAt_put_file {bytes : List UInt8}
    (free : ∀ old, tree.get? (parent ++ [name]) = some old → old.isDirectory = false)
    (apart : place ≠ parent ++ [name]) :
    (tree.put (parent ++ [name]) (file bytes)).contentAt place = tree.contentAt place := by
  by_cases below : parent ++ [name] <+: place
  · obtain ⟨rest, rfl⟩ := below
    cases rest with
    | nil => exact absurd (List.append_nil _) apart
    | cons first rest =>
      have before : tree.get? (parent ++ [name] ++ first :: rest) = none := by
        rw [get?_append]
        cases old : tree.get? (parent ++ [name]) with
        | none => rfl
        | some tree =>
          cases tree with
          | file content => rfl
          | directory entries => cases free _ old
      rw [contentAt, contentAt, before, get?_put_append inside]
      rfl
  · exact contentAt_put_of_not_prefix inside below

end Put

end FileTree

namespace FileSystem

/-- The bytes of the regular file at a place. -/
def contentAt (system : FileSystem) (place : List String) : Option (List UInt8) :=
  system.top.contentAt place

/-- From the first state to the second, no regular file is touched. -/
def KeepsFiles (before after : FileSystem) : Prop :=
  ∀ place, after.contentAt place = before.contentAt place

lemma KeepsFiles.refl (system : FileSystem) : KeepsFiles system system :=
  fun _ => rfl

lemma KeepsFiles.trans {first second third : FileSystem} (left : KeepsFiles first second)
    (right : KeepsFiles second third) : KeepsFiles first third :=
  fun place => (right place).trans (left place)

/-- From the first state to the second, one regular file is touched: the one that the path leads to
in the end, and it holds the bytes. -/
def Replaces (path : String) (bytes : List UInt8) (before after : FileSystem) : Prop :=
  ∃ place, after.locate path = .ok place ∧ after.contentAt place = some bytes ∧
    ∀ other, other ≠ place → after.contentAt other = before.contentAt other

lemma Replaces.of_keeps {path : String} {bytes : List UInt8} {first second third : FileSystem}
    (keeps : KeepsFiles first second) (replaces : Replaces path bytes second third) :
    Replaces path bytes first third := by
  obtain ⟨place, leads, content, others⟩ := replaces
  exact ⟨place, leads, content, fun other apart => (others other apart).trans (keeps other)⟩

/-! ## Making directories -/

lemma keepsFiles_makeDirectory {system made : FileSystem} {path : String}
    (done : system.makeDirectory path = .ok made) : KeepsFiles system made := by
  obtain ⟨entry, entered, _, _, free, rfl⟩ := makeDirectory_eq_ok_iff.mp done
  obtain ⟨entries, inside⟩ := isDirectoryAt_iff.mp (isEntryFor_of_newEntry entered).directory
  exact FileTree.contentAt_put_empty inside free

lemma keepsFiles_makeAll (system : FileSystem) (paths : List String) :
    KeepsFiles system (system.makeAll paths).1 :=
  makeAll_induction .refl .trans keepsFiles_makeDirectory system paths

/-! ## Replacing a file -/

/-- Without slashes at its end, a path consists of all the parts that its directory and its name are
made of. -/
lemma bare_eq_self {parts : List String} (flat : (parts.getLast? == some "") = false) :
    (parts.reverse.dropWhile String.isEmpty).reverse = parts := by
  rcases List.eq_nil_or_concat parts with rfl | ⟨front, last, rfl⟩
  · rfl
  · have named : last ≠ "" := by simpa using flat
    simp [named]

/-- A path with a proper name at its end leads to its entry once something stands there. -/
lemma IsEntryFor.locate {system after : FileSystem} {path : String} {entry : NewEntry}
    (goes : system.IsEntryFor path entry) (grows : system.Grows after)
    (flat : entry.slashed = false) (noDot : entry.name ≠ ".") (noDots : entry.name ≠ "..")
    (stands : (after.top.get? (entry.place ++ [entry.name])).isSome = true) :
    after.locate path = .ok (entry.place ++ [entry.name]) := by
  have flat : ((FilePath.parts path).getLast? == some "") = false := goes.slashed ▸ flat
  have last : (FilePath.parts path).getLast? = some entry.name := bare_eq_self flat ▸ goes.last
  have leads : system.follow (system.startOf path) (FilePath.parts path).dropLast
      = .ok entry.place :=
    bare_eq_self flat ▸ goes.leads
  have cut : FilePath.parts path = (FilePath.parts path).dropLast ++ [entry.name] := by
    obtain ⟨nonempty, named⟩ := List.getLast?_eq_some_iff.mp last
    rw [named, List.dropLast_concat]
  have named : entry.name ≠ "" := by
    rintro empty
    simp [last, empty] at flat
  have real : FilePath.isVoid entry.name = false := FilePath.isVoid_eq_false_iff.mpr ⟨named, noDot⟩
  rw [FileSystem.locate, goes.admitted]
  change follow _ (after.startOf path) (FilePath.parts path) = _
  rw [cut, follow_append, grows.startOf, grows.follow leads]
  exact follow_entry (grows.isDirectoryAt goes.directory) real noDots goes.short stands

/-- Renaming a file to a path replaces what the path names. -/
lemma replaces_replaceFile {system replaced : FileSystem} {path : String} {bytes : List UInt8}
    (done : system.replaceFile path bytes = .ok replaced) : Replaces path
      bytes system replaced := by
  have grows : system.Grows replaced := grows_replaceFile done
  obtain ⟨_, entry, entered, noDot, noDots, free, flat, rfl⟩ := replaceFile_eq_ok_iff.mp done
  have goes := isEntryFor_of_newEntry entered
  obtain ⟨entries, inside⟩ := isDirectoryAt_iff.mp goes.directory
  have stands : (system.putAt entry (.file bytes)).top.get? (entry.place ++ [entry.name])
      = some (.file bytes) := FileTree.get?_put_self inside
  refine ⟨entry.place ++ [entry.name], ?_, ?_, fun other apart => ?_⟩
  · exact goes.locate grows flat noDot noDots (by rw [stands]; rfl)
  · rw [contentAt, FileTree.contentAt, stands]
    rfl
  · refine FileTree.contentAt_put_file inside (fun old here => ?_) apart
    simpa [isDirectoryAt, here] using free

/-! ## Writing -/

/-- What a write does to the files, by whether it goes through. -/
structure Writes (path : String) (bytes : List UInt8) (before after : FileSystem) (through : Prop) :
    Prop where
  replaces : through → Replaces path bytes before after
  keeps : ¬ through → KeepsFiles before after

lemma writes_writeBytes (system : FileSystem) (path : String) (bytes : List UInt8) :
    Writes path bytes system (system.writeBytes path bytes).1
      ((system.writeBytes path bytes).2 = .ok ()) := by
  have made : KeepsFiles system _ := keepsFiles_makeAll system (FilePath.ancestors (parentOf path))
  simp only [writeBytes, makeDirectories]
  split
  · next left refusal done =>
    rw [done] at made
    exact ⟨by simp, fun _ => made⟩
  · next below done =>
    have kept : KeepsFiles system below := by rwa [done] at made
    split
    · exact ⟨by simp, fun _ => kept⟩
    split
    · next replaced done =>
        exact ⟨fun _ => .of_keeps kept (replaces_replaceFile done), fun failed => absurd rfl failed⟩
    · exact ⟨by simp, fun _ => kept⟩

/-- **A write that goes through replaces one file by the encoded text.** A write that is refused,
at whatever step, or that leaves an existing file as it is touches no file. -/
theorem writes_writeUnless (system : FileSystem) (path content : String) (encoding : Encoding)
    (overwrite : Overwrite) :
    Writes path (encoding.encode content) system
      (system.writeUnless path content encoding overwrite).1
      ((system.writeUnless path content encoding overwrite).2 = .ok .written) := by
  have writes := writes_writeBytes system path (encoding.encode content)
  simp only [writeUnless, write]
  split
  · exact ⟨by simp, fun _ => .refl system⟩
  split
  · next after done =>
    rw [done] at writes
    exact ⟨fun _ => writes.replaces rfl, fun failed => absurd rfl failed⟩
  · next after error done =>
    rw [done] at writes
    exact ⟨by simp, fun _ => writes.keeps (by simp)⟩

end FileSystem

end SourceGen
