import SourceGen.Proofs.FileSystem.Trees
import SourceGen.Proofs.Registry.Emitting

/-!
# Emissions lose nothing

Writing a file makes directories where nothing stands and puts the file where nothing or a file
stands. So every place that holds something before holds something of the same kind after, and a
path that leads somewhere still does (`FileSystem.Grows`). This holds of refused writes too, which
may leave directories behind.

What it takes to make a directory or to replace a file, and what it changes, is said once
(`FileSystem.makeDirectory_eq_ok_iff`, `FileSystem.replaceFile_eq_ok_iff`), and what one directory
keeps is kept when the ones above it are made first (`FileSystem.makeAll_induction`).
-/

namespace SourceGen

namespace FileTree

/-- Every place of the first tree holds something of the same kind in the second. -/
def Grows (before after : FileTree) : Prop :=
  ∀ place tree, before.get? place = some tree →
    ∃ later, after.get? place = some later ∧ later.isDirectory = tree.isDirectory

lemma Grows.refl (tree : FileTree) : Grows tree tree :=
  fun _ found here => ⟨found, here, rfl⟩

lemma Grows.trans {before between after : FileTree} (first : Grows before between)
    (second : Grows between after) : Grows before after := by
  intro place tree here
  obtain ⟨later, there, same⟩ := first place tree here
  obtain ⟨last, stands, sameLast⟩ := second place later there
  exact ⟨last, stands, sameLast.trans same⟩

/-- A tree grows when something is put into a directory where nothing stands, or a file where a file
stands. -/
lemma grows_put {tree new : FileTree} {parent : List String} {name : String}
    {entries : List (String × FileTree)} (inside : tree.get? parent = some (directory entries))
    (free : ∀ old, tree.get? (parent ++ [name]) = some old → old.isDirectory = false ∧
      new.isDirectory = false) :
    Grows tree (tree.put (parent ++ [name]) new) := by
  intro place found here
  by_cases below : parent ++ [name] <+: place
  · obtain ⟨rest, rfl⟩ := below
    rw [get?_append] at here
    obtain ⟨old, stands, here⟩ := Option.bind_eq_some_iff.mp here
    obtain ⟨isFile, newFile⟩ := free old stands
    cases old with
    | directory _ => cases isFile
    | file content =>
      cases rest with
      | nil =>
        rw [← Option.some.inj here, List.append_nil]
        exact ⟨new, get?_put_self inside, newFile⟩
      | cons _ _ => cases here
  · rcases get?_put_of_not_prefix inside below with same | ⟨before, after, old, later⟩
    · exact ⟨found, same.trans here, rfl⟩
    · rw [← Option.some.inj (old.symm.trans here)]
      exact ⟨_, later, rfl⟩

end FileTree

namespace FileSystem

/-- What a file system may become by writing: its tree grows, and the working directory stays. -/
structure Grows (before after : FileSystem) : Prop where
  top : before.top.Grows after.top
  workingDirectory : after.workingDirectory = before.workingDirectory

lemma Grows.refl (system : FileSystem) : Grows system system :=
  ⟨.refl _, rfl⟩

lemma Grows.trans {before between after : FileSystem} (first : Grows before between)
    (second : Grows between after) : Grows before after :=
  ⟨first.top.trans second.top, second.workingDirectory.trans first.workingDirectory⟩

lemma isDirectoryAt_iff {system : FileSystem} {place : List String} :
    system.isDirectoryAt place = true ↔ ∃ entries, system.top.get? place
      = some (.directory entries) := by
  unfold isDirectoryAt
  cases system.top.get? place with
  | none => simp
  | some tree => cases tree <;> simp [FileTree.isDirectory]

/-! ## What leads somewhere still does -/

/-- What a path names stands where its parts lead. -/
lemma lookup_eq_ok_iff {system : FileSystem} {path : String} {tree : FileTree} :
    system.lookup path = .ok tree ↔
      admit? path = .ok () ∧ ∃ place,
        system.follow (system.startOf path) (FilePath.parts path) = .ok place ∧
          system.top.get? place = some tree := by
  unfold lookup locate
  cases admit? path with
  | error refusal => simp [bind, Except.bind]
  | ok admitted =>
    cases system.follow (system.startOf path) (FilePath.parts path) with
    | error refusal => simp [bind, Except.bind]
    | ok place =>
      simp only [bind, Except.bind, true_and, Except.ok.injEq, exists_eq_left']
      cases system.top.get? place <;> simp

section Lookup

variable {before after : FileSystem} (grows : before.Grows after)

include grows

lemma Grows.isDirectoryAt {place : List String} (directory : before.isDirectoryAt place = true) :
    after.isDirectoryAt place = true := by
  unfold FileSystem.isDirectoryAt at directory ⊢
  split at directory
  · next tree here =>
    obtain ⟨later, there, same⟩ := grows.top place tree here
    rw [there]
    exact same.trans directory
  · cases directory

lemma Grows.follow {place reached : List String} {parts : List String}
    (leads : before.follow place parts = .ok reached) : after.follow place parts = .ok reached := by
  induction parts generalizing place with
  | nil => exact leads
  | cons part rest ih =>
    have directory : before.isDirectoryAt place = true := by
      cases kind : before.isDirectoryAt place with
      | true => rfl
      | false => simp [FileSystem.follow, kind] at leads
    have still := grows.isDirectoryAt directory
    simp only [FileSystem.follow, directory, still, Bool.not_true, Bool.false_eq_true,
      if_false] at leads ⊢
    split at leads
    · next void =>
      rw [if_pos void]
      exact ih leads
    next named =>
    rw [if_neg named]
    split at leads
    · next up =>
      rw [if_pos up]
      exact ih leads
    next down =>
    rw [if_neg down]
    split at leads
    · cases leads
    next short =>
    rw [if_neg short]
    split at leads
    · next here =>
      obtain ⟨tree, found⟩ := Option.isSome_iff_exists.mp here
      obtain ⟨later, there, _⟩ := grows.top _ tree found
      rw [there, Option.isSome_some, if_pos rfl]
      exact ih leads
    · cases leads

lemma Grows.startOf (path : String) : after.startOf path = before.startOf path := by
  rw [FileSystem.startOf, FileSystem.startOf, grows.workingDirectory]

lemma Grows.locate {path : String} {place : List String} (leads : before.locate path = .ok place) :
    after.locate path = .ok place := by
  unfold FileSystem.locate at leads ⊢
  rw [grows.startOf]
  cases admitted : admit? path with
  | error refusal =>
    rw [admitted] at leads
    cases leads
  | ok =>
    rw [admitted] at leads
    exact grows.follow leads

/-- A path that names anything still does when the file system has grown. -/
theorem Grows.pathExists {path : String} (present : before.pathExists path = true) :
    after.pathExists path = true := by
  have named : ∃ tree, before.lookup path = .ok tree := by
    unfold FileSystem.pathExists at present
    cases looked : before.lookup path with
    | error refusal =>
      rw [looked] at present
      cases present
    | ok tree => exact ⟨tree, rfl⟩
  obtain ⟨tree, looked⟩ := named
  obtain ⟨admitted, place, leads, here⟩ := lookup_eq_ok_iff.mp looked
  obtain ⟨later, there, _⟩ := grows.top place tree here
  have still : after.lookup path = .ok later :=
    lookup_eq_ok_iff.mpr ⟨admitted, place, by rw [grows.startOf]; exact grows.follow leads, there⟩
  rw [FileSystem.pathExists, still]
  rfl

end Lookup

/-! ## New entries -/

/-- Where a new entry goes. -/
structure IsEntryFor (system : FileSystem) (path : String) (entry : NewEntry) : Prop where
  admitted : admit? path = .ok ()
  last : ((FilePath.parts path).reverse.dropWhile String.isEmpty).reverse.getLast? = some entry.name
  leads : system.follow (system.startOf path)
    ((FilePath.parts path).reverse.dropWhile String.isEmpty).reverse.dropLast = .ok entry.place
  directory : system.isDirectoryAt entry.place = true
  short : ¬ maxName < entry.name.utf8ByteSize
  slashed : entry.slashed = ((FilePath.parts path).getLast? == some "")

lemma isEntryFor_of_newEntry {system : FileSystem} {path : String} {entry : NewEntry}
    (entered : system.newEntry path = .ok entry) : system.IsEntryFor path entry := by
  unfold newEntry at entered
  simp only [bind, Except.bind] at entered
  split at entered
  · cases entered
  next admitted =>
  split at entered
  · cases entered
  next name last =>
  split at entered
  · cases entered
  next place leads =>
  split at entered
  · cases entered
  next directory =>
  split at entered
  · cases entered
  next short =>
  obtain rfl := Except.ok.inj entered
  exact ⟨admitted, last, leads, by simpa using directory, short, rfl⟩

/-- The file system with something put where a new entry goes. -/
def putAt (system : FileSystem) (entry : NewEntry) (new : FileTree) : FileSystem :=
  { system with top := system.top.put (entry.place ++ [entry.name]) new }

lemma refuse_eq_ok_iff {α : Type} {check : Prop} [Decidable check] {refusal : OsError}
    {rest : Except OsError α} {result : α} :
    (if check then .error refusal else rest) = .ok result ↔ ¬ check ∧ rest = .ok result := by
  split
  · next fails => exact iff_of_false (by simp) fun ⟨passes, _⟩ => passes fails
  · next passes => rw [and_iff_right passes]

/-- A directory is made under a proper name where nothing stands. -/
lemma makeDirectory_eq_ok_iff {system made : FileSystem} {path : String} :
    system.makeDirectory path = .ok made ↔
      ∃ entry, system.newEntry path = .ok entry ∧ entry.name ≠ "." ∧ entry.name ≠ ".." ∧
        system.top.get? (entry.place ++ [entry.name]) = none ∧
        system.putAt entry (.directory []) = made := by
  unfold makeDirectory
  cases system.newEntry path with
  | error refusal => simp [bind, Except.bind]
  | ok entry => simp [bind, Except.bind, refuse_eq_ok_iff, and_assoc, putAt]

/-- A file is put under a proper name where no directory stands. -/
lemma replaceFile_eq_ok_iff {system replaced : FileSystem} {path : String} {bytes : List UInt8} :
    system.replaceFile path bytes = .ok replaced ↔
      path.toList.contains '\x00' = false ∧ ∃ entry, system.newEntry path = .ok entry ∧
        entry.name ≠ "." ∧ entry.name ≠ ".." ∧
        system.isDirectoryAt (entry.place ++ [entry.name]) = false ∧ entry.slashed = false ∧
        system.putAt entry (.file bytes) = replaced := by
  unfold replaceFile
  cases path.toList.contains '\x00' with
  | true => simp [bind, Except.bind]
  | false =>
    cases system.newEntry path with
    | error refusal => simp [bind, Except.bind]
    | ok entry => simp [bind, Except.bind, refuse_eq_ok_iff, and_assoc, putAt]

/-! ## Writing -/

lemma grows_makeDirectory {system made : FileSystem} {path : String}
    (done : system.makeDirectory path = .ok made) : system.Grows made := by
  obtain ⟨entry, entered, _, _, free, rfl⟩ := makeDirectory_eq_ok_iff.mp done
  obtain ⟨entries, inside⟩ := isDirectoryAt_iff.mp (isEntryFor_of_newEntry entered).directory
  refine ⟨FileTree.grows_put inside fun old stands => ?_, rfl⟩
  rw [free] at stands
  cases stands

/-- What holds between the states before and after one directory is made holds when several are. -/
lemma makeAll_induction {Keeps : FileSystem → FileSystem → Prop}
    (refl : ∀ system, Keeps system system)
    (trans : ∀ {first second third}, Keeps first second → Keeps second third → Keeps first third)
    (one : ∀ {system made path}, makeDirectory system path = .ok made → Keeps system made)
    (system : FileSystem) (paths : List String) : Keeps system (system.makeAll paths).1 := by
  induction paths with
  | nil => exact refl system
  | cons path above ih =>
    simp only [makeAll]
    split
    · exact refl system
    split
    · next made done => exact one done
    · split
      · next left refusal done => exact done ▸ ih
      · next below done =>
        have kept : Keeps system below := by rwa [done] at ih
        split
        · next made done => exact trans kept (one done)
        · split <;> exact kept
    · split <;> exact refl system

lemma grows_makeAll (system : FileSystem) (paths : List String) :
    system.Grows (system.makeAll paths).1 :=
  makeAll_induction .refl .trans grows_makeDirectory system paths

lemma grows_replaceFile {system replaced : FileSystem} {path : String} {bytes : List UInt8}
    (done : system.replaceFile path bytes = .ok replaced) : system.Grows replaced := by
  obtain ⟨_, entry, entered, _, _, free, _, rfl⟩ := replaceFile_eq_ok_iff.mp done
  obtain ⟨entries, inside⟩ := isDirectoryAt_iff.mp (isEntryFor_of_newEntry entered).directory
  refine ⟨FileTree.grows_put inside fun old stands => ⟨?_, rfl⟩, rfl⟩
  simpa [isDirectoryAt, stands] using free

lemma grows_writeBytes (system : FileSystem) (path : String) (bytes : List UInt8) :
    system.Grows (system.writeBytes path bytes).1 := by
  have made := grows_makeAll system (FilePath.ancestors (parentOf path))
  simp only [writeBytes, makeDirectories]
  split
  · next left refusal done => rwa [done] at made
  · next below done =>
    have grown : system.Grows below := by rwa [done] at made
    split
    · exact grown
    · split
      · next replaced done => exact grown.trans (grows_replaceFile done)
      · exact grown

/-- A write leaves the files alone or puts the encoded text among them. -/
lemma files_writeUnless (system : FileSystem) (path content : String) (encoding : Encoding)
    (overwrite : Overwrite) :
    (system.writeUnless path content encoding overwrite).1 = system ∨
      (system.writeUnless path content encoding overwrite).1
        = (system.writeBytes path (encoding.encode content)).1 := by
  rw [writeUnless, write]
  split
  · exact .inl rfl
  · right
    rcases system.writeBytes path (encoding.encode content) with ⟨after, error | _⟩ <;> rfl

lemma grows_writeUnless (system : FileSystem) (path content : String) (encoding : Encoding)
    (overwrite : Overwrite) :
    system.Grows (system.writeUnless path content encoding overwrite).1 := by
  rcases files_writeUnless system path content encoding overwrite with same | same
  · rw [same]
    exact .refl system
  · rw [same]
    exact grows_writeBytes system path _

end FileSystem

/-! ## Emissions -/

namespace Registration

lemma grows_persist (registration : Registration) (root : String) (force : Bool)
    (files : FileSystem) (path buffer : String) :
    files.Grows (registration.persist root force files path buffer).1 := by
  rw [files_persist]
  exact files.grows_writeUnless (FilePath.join root path) buffer registration.encoding
    (registration.policy force)

/-- The files after an emission hold all that was there before. -/
theorem grows_emit (registration : Registration) (root : String) (settings : Settings)
    (force : Bool) (source : String) (site : Site) :
    site.files.Grows (registration.emit root settings force source site).1.files := by
  obtain ⟨error, emitted⟩ | emitted | ⟨path, buffer, _, emitted⟩ :=
    registration.emit_cases root settings force source site
  · rw [emitted]
    exact .refl _
  · rw [emitted]
    exact .refl _
  · rw [emitted]
    exact grows_persist registration root force site.files path buffer

end Registration

end SourceGen
