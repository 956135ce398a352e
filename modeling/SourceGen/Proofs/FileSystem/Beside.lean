import SourceGen.Proofs.FileSystem.Frame
import SourceGen.Proofs.FileSystem.Paths

/-!
# Writing below a directory that is there

The directory of an output is at most one level below a directory that is there, the one of the
source or the root. Then all that a write makes is known in advance: one directory, if it is
missing, and the file (`gains_writeBytes`). And whether it goes through depends on the path and on
what stands at these two places, in such a way that a write which goes through now would have gone
through before (`writeBytes_of_grows`).
-/

namespace SourceGen

namespace FileSystem

open FilePath (parts IsReal isVoid leadingParts dropVoidEnd)

/-- From the first state to the second, things appear at places of one kind only. -/
def GainsOnly (kind : List String → Prop) (before after : FileSystem) : Prop :=
  ∀ place, (after.top.get? place).isSome = true → (before.top.get? place).isSome = true ∨ kind place

lemma GainsOnly.refl (kind : List String → Prop) (system : FileSystem) :
    GainsOnly kind system system :=
  fun _ stands => .inl stands

lemma GainsOnly.trans {kind : List String → Prop} {first second third : FileSystem}
    (left : GainsOnly kind first second) (right : GainsOnly kind second third) :
      GainsOnly kind first third :=
  fun place stands => (right place stands).elim (left place) .inr

lemma GainsOnly.mono {kind wider : List String → Prop} {before after : FileSystem}
    (gains : GainsOnly kind before after) (widens : ∀ place, kind place → wider place) :
    GainsOnly wider before after :=
  fun place stands => (gains place stands).imp_right (widens place)

/-- What is put into a directory and holds nothing itself is all that appears. -/
lemma gainsOnly_put {system : FileSystem} {ground : List String} {new : FileTree}
    (directory : system.isDirectoryAt ground = true) (name : String)
    (childless : ∀ first rest, new.get? (first :: rest) = none) :
    GainsOnly (· = ground ++ [name]) system
      { system with top := system.top.put (ground ++ [name]) new } := by
  obtain ⟨entries, inside⟩ := isDirectoryAt_iff.mp directory
  intro place stands
  by_cases below : ground ++ [name] <+: place
  · obtain ⟨rest, rfl⟩ := below
    cases rest with
    | nil => exact .inr (List.append_nil _)
    | cons first rest =>
      simp only [FileTree.get?_put_append inside, childless, Option.isSome_none,
        Bool.false_eq_true] at stands
  · rcases FileTree.get?_put_of_not_prefix inside below with same | ⟨_, _, before, _⟩
    · exact .inl (same ▸ stands)
    · exact .inl (by rw [before]; rfl)

/-! ## Entries of a directory -/

/-- The path names an entry of the directory at a place, whether or not it is there. -/
structure Names (system : FileSystem) (path : String) (ground : List String) (name : String) :
    Prop where
  leads : ∃ front, parts path = front ++ [name] ∧
    system.follow (system.startOf path) front = .ok ground
  directory : system.isDirectoryAt ground = true
  real : IsReal name

/-- The path and the name keep to the limits of the file system. -/
def Fits (path name : String) : Prop :=
  admit? path = .ok () ∧ ¬ maxName < name.utf8ByteSize

section Names

variable {system : FileSystem} {path name : String} {ground : List String}
  (names : system.Names path ground name)

include names

lemma Names.lookup_eq (fits : Fits path name) {tree : FileTree}
    (stands : system.top.get? (ground ++ [name]) = some tree) : system.lookup path = .ok tree := by
  obtain ⟨front, cut, leads⟩ := names.leads
  refine lookup_eq_ok_iff.mpr ⟨fits.1, ground ++ [name], ?_, stands⟩
  rw [cut, follow_append, leads]
  exact follow_entry names.directory names.real.1 names.real.2 fits.2 (by rw [stands]; rfl)

lemma Names.fits_of_lookup {tree : FileTree} (looked : system.lookup path = .ok tree) :
    Fits path name := by
  obtain ⟨front, cut, leads⟩ := names.leads
  obtain ⟨admitted, place, reached, _⟩ := lookup_eq_ok_iff.mp looked
  refine ⟨admitted, fun long => ?_⟩
  rw [cut, follow_append, leads] at reached
  have reached : system.follow ground [name] = .ok place := reached
  rw [follow, if_neg (by simp [names.directory]), if_neg (by simp [names.real.1]),
    if_neg names.real.2, if_pos long] at reached
  cases reached

lemma Names.flat : ((parts path).getLast? == some "") = false := by
  obtain ⟨front, cut, _⟩ := names.leads
  obtain ⟨filled, _⟩ := FilePath.isVoid_eq_false_iff.mp names.real.1
  simp [cut, filled]

lemma Names.newEntry_eq (fits : Fits path name) :
    system.newEntry path = .ok ⟨ground, name, false⟩ := by
  obtain ⟨front, cut, leads⟩ := names.leads
  unfold newEntry
  rw [fits.1, bare_eq_self names.flat, names.flat, cut]
  simp [bind, Except.bind, leads, names.directory, fits.2]

lemma Names.filled : path.isEmpty = false := by
  refine Bool.eq_false_iff.mpr fun empty => ?_
  obtain rfl : path = "" := by simpa using empty
  obtain ⟨front, cut, _⟩ := names.leads
  have none : parts "" = [""] := rfl
  obtain rfl : name = "" := by simpa [none] using (congrArg List.getLast? cut).symm
  cases names.real.1

lemma Names.newEntry_of_not_fits (long : ¬ Fits path name) :
    ∃ refusal, system.newEntry path = .error refusal ∧ refusal ≠ .notFound := by
  obtain ⟨front, cut, leads⟩ := names.leads
  unfold newEntry
  cases admitted : admit? path with
  | error refusal =>
    refine ⟨refusal, rfl, ?_⟩
    rintro rfl
    simp [admit?, names.filled] at admitted
    split at admitted
    · cases admitted
    split at admitted <;> cases admitted
  | ok =>
    have long : maxName < name.utf8ByteSize :=
      Decidable.byContradiction fun short => long ⟨admitted, short⟩
    rw [bare_eq_self names.flat, cut]
    exact ⟨.nameTooLong, by simp [bind, Except.bind, leads, names.directory, long], by decide⟩

/-! ## Making the directory of an output -/

/-- The file system with an empty directory in place of what stands at a place. -/
def withDirectory (system : FileSystem) (place : List String) : FileSystem :=
  { system with top := system.top.put place (.directory []) }

lemma Names.makeDirectory_of_fits (fits : Fits path name) :
    system.makeDirectory path
      = if (system.top.get? (ground ++ [name])).isSome then .error .alreadyExists
        else .ok (system.withDirectory (ground ++ [name])) := by
  obtain ⟨_, noDot⟩ := FilePath.isVoid_eq_false_iff.mp names.real.1
  simp [makeDirectory, names.newEntry_eq fits, bind, Except.bind, noDot, names.real.2,
    withDirectory]

lemma Names.makeDirectories_of_missing (fits : Fits path name)
    (missing : system.top.get? (ground ++ [name]) = none) :
    system.makeDirectories path = (system.withDirectory (ground ++ [name]), .ok ()) := by
  rw [makeDirectories, FilePath.ancestors, FilePath.ancestorsFrom, makeAll, names.filled,
    names.makeDirectory_of_fits fits, missing]
  rfl

lemma Names.makeDirectories_of_present (fits : Fits path name) {tree : FileTree}
    (present : system.top.get? (ground ++ [name]) = some tree) :
    system.makeDirectories path
      = (system, if tree.isDirectory then .ok () else .error .alreadyExists) := by
  have same : system.isDirectory path = tree.isDirectory := by
    rw [isDirectory, names.lookup_eq fits present]
  rw [makeDirectories, FilePath.ancestors, FilePath.ancestorsFrom, makeAll, names.filled,
    names.makeDirectory_of_fits fits, present, same]
  cases tree.isDirectory <;> rfl

lemma Names.makeDirectories_of_not_fits (long : ¬ Fits path name) :
    ∃ refusal, system.makeDirectories path = (system, .error refusal) := by
  obtain ⟨refusal, refused, other⟩ := names.newEntry_of_not_fits long
  have failed : system.makeDirectory path = .error refusal := by
    rw [makeDirectory, refused]
    rfl
  have absent : system.isDirectory path = false := by
    rw [isDirectory]
    split
    · next tree looked => exact absurd (names.fits_of_lookup looked) long
    · rfl
  refine ⟨refusal, ?_⟩
  rw [makeDirectories, FilePath.ancestors, FilePath.ancestorsFrom, makeAll, names.filled, failed,
    absent]
  cases refusal with
  | notFound => exact absurd rfl other
  | _ => rfl

/-! ## Replacing the file of an output -/

lemma Names.replaceFile_of_fits (fits : Fits path name) (bytes : List UInt8) :
    system.replaceFile path bytes
      = if system.isDirectoryAt (ground ++ [name]) then .error .isDirectory
        else .ok { system with top := system.top.put (ground ++ [name]) (.file bytes) } := by
  obtain ⟨_, noDot⟩ := FilePath.isVoid_eq_false_iff.mp names.real.1
  have noNul : path.toList.contains '\x00' = false := by
    refine Bool.eq_false_iff.mpr fun nul => ?_
    have admitted := fits.1
    rw [admit?, if_pos nul] at admitted
    cases admitted
  unfold replaceFile
  rw [noNul]
  simp [names.newEntry_eq fits, bind, Except.bind, noDot, names.real.2]

lemma Names.replaceFile_of_not_fits (long : ¬ Fits path name) (bytes : List UInt8) :
    ∃ refusal, system.replaceFile path bytes = .error refusal := by
  obtain ⟨refusal, refused, _⟩ := names.newEntry_of_not_fits long
  unfold replaceFile
  rw [refused]
  split
  · exact ⟨_, rfl⟩
  · exact ⟨_, rfl⟩

end Names

/-! ## Writing an output -/

/-- The path names a file in a directory that is itself an entry of one that is there. -/
structure NamesBelow (system : FileSystem) (path : String) (ground : List String)
    (directory name : String) :
    Prop where
  leads : ∃ front, parts path = front ++ [directory, name] ∧
    system.follow (system.startOf path) front = .ok ground
  ground : system.isDirectoryAt ground = true
  inside : IsReal directory
  real : IsReal name

/-- What it takes for the directory of the file to be there or to be made. -/
structure IsOpen (system : FileSystem) (path : String) (ground : List String) (directory : String) :
    Prop where
  fitsParent : Fits (parentOf path) directory
  unblocked : ∀ tree, system.top.get? (ground ++ [directory]) = some tree → tree.isDirectory = true

/-- What it takes for a write to go through. -/
structure IsWritable (system : FileSystem) (path : String) (ground : List String)
    (directory name : String) :
    Prop extends IsOpen system path ground directory where
  fits : Fits path name
  short : ¬ maxPath < (parentOf path).utf8ByteSize + temporaryName
  free : system.isDirectoryAt (ground ++ [directory, name]) = false

/-- A write goes through when the destination may be replaced or is missing, and its bytes go
through. -/
lemma writeUnless_eq_written_iff {system : FileSystem} {path content : String} {encoding : Encoding}
    {overwrite : Overwrite} :
    (system.writeUnless path content encoding overwrite).2 = .ok .written ↔
      (overwrite = .ifMissing → system.pathExists path = false) ∧
        (system.writeBytes path (encoding.encode content)).2 = .ok () := by
  rw [writeUnless, write]
  split
  · next kept =>
    obtain ⟨policy, present⟩ : overwrite = .ifMissing ∧ system.pathExists path = true := by
      simpa using kept
    simp [policy, present]
  · next proceeds =>
    have missing : overwrite = .ifMissing → system.pathExists path = false := by
      rintro rfl
      simpa using proceeds
    rcases system.writeBytes path (encoding.encode content) with ⟨after, error | _⟩
    · simp
    · simpa using missing

section NamesBelow

variable {system : FileSystem} {path directory name : String} {ground : List String}
  (names : system.NamesBelow path ground directory name)

include names

lemma NamesBelow.parent : system.Names (parentOf path) ground directory := by
  obtain ⟨front, cut, leads⟩ := names.leads
  obtain ⟨parts, absolute⟩ := FilePath.parts_parentOf cut names.inside.1 names.real.1
  refine ⟨⟨front, parts, ?_⟩, names.ground, names.inside⟩
  rwa [startOf, absolute, ← startOf]

/-- Once its directory is there, the path names an entry of it. -/
lemma NamesBelow.entry (fits : Fits (parentOf path) directory)
    (made : system.isDirectoryAt (ground ++ [directory]) = true) :
    system.Names path (ground ++ [directory]) name := by
  obtain ⟨front, cut, leads⟩ := names.leads
  refine ⟨⟨front ++ [directory], by rw [cut, List.append_assoc]; rfl, ?_⟩, made, names.real⟩
  obtain ⟨entries, stands⟩ := isDirectoryAt_iff.mp made
  rw [follow_append, leads]
  exact follow_entry names.ground names.inside.1 names.inside.2 fits.2 (by rw [stands]; rfl)

lemma NamesBelow.grows {after : FileSystem} (grows : system.Grows after) :
    after.NamesBelow path ground directory name := by
  obtain ⟨front, cut, leads⟩ := names.leads
  refine ⟨⟨front, cut, ?_⟩, grows.isDirectoryAt names.ground, names.inside, names.real⟩
  rw [grows.startOf]
  exact grows.follow leads

/-- The directory that is made is empty. -/
lemma NamesBelow.grows_withDirectory (missing : system.top.get? (ground ++ [directory]) = none) :
    system.Grows (system.withDirectory (ground ++ [directory])) ∧
      (system.withDirectory (ground ++ [directory])).isDirectoryAt (ground ++ [directory]) = true ∧
      (system.withDirectory (ground ++ [directory])).isDirectoryAt (ground ++ [directory, name])
        = false := by
  obtain ⟨entries, inside⟩ := isDirectoryAt_iff.mp names.ground
  have below : (system.top.put (ground ++ [directory]) (.directory [])).get?
      (ground ++ [directory] ++ [name]) = none := FileTree.get?_put_append inside [name]
  refine ⟨⟨FileTree.grows_put inside fun old stands => ?_, rfl⟩, ?_, ?_⟩
  · rw [missing] at stands
    cases stands
  · rw [isDirectoryAt, withDirectory, FileTree.get?_put_self inside]
    rfl
  · rw [List.append_assoc] at below
    rw [isDirectoryAt, withDirectory,
      show ground ++ [directory, name] = ground ++ ([directory] ++ [name]) from rfl, below]

/-- The directory of an output can be made when nothing else stands in its place. That is all that
appears. -/
lemma NamesBelow.makes_or_not :
    system.IsOpen path ground directory ∧
      (∃ made, system.makeDirectories (parentOf path) = (made, .ok ()) ∧
        made.Names path (ground ++ [directory]) name ∧
        made.isDirectoryAt (ground ++ [directory, name])
          = system.isDirectoryAt (ground ++ [directory, name]) ∧
        GainsOnly (· = ground ++ [directory]) system made) ∨
    ¬ system.IsOpen path ground directory ∧
      ∃ refusal, system.makeDirectories (parentOf path) = (system, .error refusal) := by
  by_cases fits : Fits (parentOf path) directory
  · cases present : system.top.get? (ground ++ [directory]) with
    | none =>
      obtain ⟨grows, made, free⟩ := names.grows_withDirectory present
      have nothing : system.isDirectoryAt (ground ++ [directory, name]) = false := by
        have below := system.top.get?_append (ground ++ [directory]) [name]
        rw [present, List.append_assoc] at below
        rw [isDirectoryAt,
          show ground ++ [directory, name] = ground ++ ([directory] ++ [name]) from rfl, below]
        rfl
      have isOpen : system.IsOpen path ground directory :=
        ⟨fits, fun _ stands => by cases present.symm.trans stands⟩
      exact .inl ⟨isOpen, _, names.parent.makeDirectories_of_missing fits present,
        (names.grows grows).entry fits made, free.trans nothing.symm,
        gainsOnly_put names.ground directory fun _ _ => rfl⟩
    | some tree =>
      have result := names.parent.makeDirectories_of_present fits present
      cases kind : tree.isDirectory with
      | true =>
        have standing : system.isDirectoryAt (ground ++ [directory]) = true := by
          rw [isDirectoryAt, present]
          exact kind
        rw [kind] at result
        have isOpen : system.IsOpen path ground directory :=
          ⟨fits, fun other stands => Option.some.inj (present.symm.trans stands) ▸ kind⟩
        exact .inl ⟨isOpen, system, result, names.entry fits standing, rfl, .refl _ system⟩
      | false =>
        rw [kind] at result
        refine .inr ⟨fun isOpen => ?_, _, result⟩
        rw [isOpen.unblocked tree present] at kind
        cases kind
  · exact .inr ⟨fun isOpen => fits isOpen.fitsParent, names.parent.makeDirectories_of_not_fits fits⟩

omit names in
/-- What it takes for a write to go through, once its directory is made. -/
lemma writeBytes_of_made {made : FileSystem} (bytes : List UInt8)
    (makes : system.makeDirectories (parentOf path) = (made, .ok ()))
    (entry : made.Names path (ground ++ [directory]) name) :
    ((system.writeBytes path bytes).2 = .ok () ↔
      (¬ maxPath < (parentOf path).utf8ByteSize + temporaryName) ∧ Fits path name ∧
        made.isDirectoryAt (ground ++ [directory, name]) = false) ∧
    GainsOnly (· = ground ++ [directory, name]) made (system.writeBytes path bytes).1 := by
  have place : ground ++ [directory] ++ [name] = ground ++ [directory, name] := List.append_assoc ..
  simp only [writeBytes, makes]
  split
  · next long => simpa [long] using .refl _ made
  next short =>
  rw [and_iff_right short]
  by_cases fits : Fits path name
  · rw [entry.replaceFile_of_fits fits, place, and_iff_right fits]
    cases made.isDirectoryAt (ground ++ [directory, name]) with
    | true => simpa using .refl _ made
    | false =>
      have put : GainsOnly _ made { made with top := made.top.put _ (.file bytes) } :=
        gainsOnly_put entry.directory name fun _ _ => rfl
      rw [place] at put
      simpa using put
  · obtain ⟨refusal, refused⟩ := entry.replaceFile_of_not_fits fits bytes
    rw [refused]
    simpa [fits] using .refl _ made

/-- **A write goes through exactly when the path keeps to the limits and nothing else stands in its
place or in that of its directory.** Whether it does or not, nothing appears but these two. -/
theorem NamesBelow.writeBytes_spec (bytes : List UInt8) :
    ((system.writeBytes path bytes).2 = .ok () ↔ system.IsWritable path ground directory name) ∧
      GainsOnly (fun place =>
        place = ground ++ [directory] ∨ place = ground ++ [directory, name]) system
        (system.writeBytes path bytes).1 := by
  rcases names.makes_or_not with ⟨isOpen, made, makes, entry, same, gains⟩ | ⟨blocked, _, refused⟩
  · obtain ⟨through, more⟩ := writeBytes_of_made bytes makes entry
    rw [same] at through
    refine ⟨through.trans ⟨?_, ?_⟩, (gains.mono fun _ => .inl).trans (more.mono fun _ => .inr)⟩
    · rintro ⟨short, fits, free⟩
      exact ⟨isOpen, fits, short, free⟩
    · exact fun writable => ⟨writable.short, writable.fits, writable.free⟩
  · simp only [writeBytes, refused]
    exact ⟨iff_of_false (by simp) fun writable => blocked writable.toIsOpen, .refl _ system⟩

/-- **A write that goes through would have gone through before.** -/
theorem NamesBelow.writeBytes_of_grows {after : FileSystem} (grows : system.Grows after)
    (bytes : List UInt8) (done : (after.writeBytes path bytes).2 = .ok ()) :
    (system.writeBytes path bytes).2 = .ok () := by
  have writable := ((names.grows grows).writeBytes_spec bytes).1.mp done
  refine (names.writeBytes_spec bytes).1.mpr
    ⟨⟨writable.fitsParent, fun tree stands => ?_⟩, writable.fits, writable.short, ?_⟩
  · obtain ⟨later, still, kind⟩ := grows.top _ tree stands
    exact kind.symm.trans (writable.unblocked later still)
  · refine Bool.eq_false_iff.mpr fun blocked => ?_
    exact absurd (grows.isDirectoryAt blocked) (by simp [writable.free])

/-- A write under an overwrite policy would have gone through before the files grew, since what is
missing now was missing then. -/
theorem NamesBelow.writeUnless_of_grows {after : FileSystem} (grows : system.Grows after)
    {content : String} {encoding : Encoding} {overwrite : Overwrite}
    (done : (after.writeUnless path content encoding overwrite).2 = .ok .written) :
    (system.writeUnless path content encoding overwrite).2 = .ok .written := by
  obtain ⟨missing, through⟩ := writeUnless_eq_written_iff.mp done
  refine writeUnless_eq_written_iff.mpr ⟨fun keeps => ?_, names.writeBytes_of_grows grows _ through⟩
  refine Bool.eq_false_iff.mpr fun present => ?_
  exact absurd (grows.pathExists present) (by simp [missing keeps])

lemma NamesBelow.gainsOnly_writeUnless (content : String) (encoding : Encoding)
    (overwrite : Overwrite) :
    GainsOnly (fun place =>
      place = ground ++ [directory] ∨ place = ground ++ [directory, name]) system
      (system.writeUnless path content encoding overwrite).1 := by
  rcases files_writeUnless system path content encoding overwrite with same | same
  · rw [same]
    exact .refl _ system
  · rw [same]
    exact (names.writeBytes_spec _).2

end NamesBelow

/-! ## What was there before -/

lemma pathExists_iff {system : FileSystem} {path : String} :
    system.pathExists path = true ↔ ∃ tree, system.lookup path = .ok tree := by
  rw [pathExists]
  cases system.lookup path <;> simp [Except.isOk, Except.toBool]

/-- **A path that only goes down and ends in a name under which nothing appears exists after a
change only if it existed before.** -/
theorem GainsOnly.pathExists {kind : List String → Prop} {before after : FileSystem}
    (gains : GainsOnly kind before after) (grows : before.Grows after)
    {directory path name : String}
    (holds : before.Holds directory) (down : ∀ part ∈ parts path, part ≠ "..")
    (ends : (parts path).getLast? = some name) (real : IsReal name)
    (old : ∀ place : List String, place.getLast? = some name → ¬ kind place)
    (present : after.pathExists (FilePath.join directory path) = true) :
    before.pathExists (FilePath.join directory path) = true := by
  obtain ⟨tree, looked⟩ := pathExists_iff.mp present
  obtain ⟨admitted, reached, leads, stands⟩ := lookup_eq_ok_iff.mp looked
  obtain ⟨start, lead, ground, first, _, behind⟩ := holds.leads (FilePath.isAbsolute path)
  obtain ⟨cut, begins⟩ := behind path rfl
  rw [grows.startOf, begins, cut, follow_append, grows.follow first] at leads
  have leads : after.follow ground (parts path) = .ok reached := leads
  have stood : (before.top.get? reached).isSome = true :=
    (gains reached (by rw [stands]; rfl)).resolve_right
      (old reached (getLast?_of_follow leads ends real))
  have led : before.follow (before.startOf (FilePath.join directory path))
      (parts (FilePath.join directory path)) = .ok reached := by
    rw [begins, cut, follow_append, first]
    exact follow_of_stood leads down ends real.1 stood
  obtain ⟨old, found⟩ := Option.isSome_iff_exists.mp stood
  exact pathExists_iff.mpr ⟨old, lookup_eq_ok_iff.mpr ⟨admitted, reached, led, found⟩⟩

end FileSystem

end SourceGen
