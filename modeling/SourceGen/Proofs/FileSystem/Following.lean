import SourceGen.Proofs.FileSystem.Growth
import SourceGen.Proofs.FileSystem.Paths

/-!
# Following the parts of a path

Looking a path up goes from place to place along its parts. The lemmas here say what is known of
the places on the way (`follow_split`), which parts stay where they are (`follow_of_voids`), where
the directory of a path is (`follow_parentOf`), and that a path which goes down to something has led
there ever since that was there (`follow_of_stood`).
-/

namespace SourceGen

namespace FileSystem

open FilePath (parts IsReal isVoid leadingParts dropVoidEnd)

/-! ## One part after the other -/

lemma isDirectoryAt_of_isSome {system : FileSystem} {place : List String} {name : String}
    (stands : (system.top.get? (place ++ [name])).isSome = true) : system.isDirectoryAt place
      = true := by
  rw [FileTree.get?_append] at stands
  cases found : system.top.get? place with
  | none =>
    rw [found] at stands
    cases stands
  | some tree =>
    cases tree with
    | file content =>
      rw [found] at stands
      cases stands
    | directory entries => exact isDirectoryAt_iff.mpr ⟨entries, found⟩

lemma follow_append (system : FileSystem) (place : List String) (parts more : List String) :
    system.follow place (parts ++ more) = (system.follow place parts).bind
      (system.follow · more) := by
  induction parts generalizing place with
  | nil => rfl
  | cons part rest ih =>
    simp only [List.cons_append, follow]
    split
    · rfl
    split
    · exact ih place
    split
    · exact ih place.dropLast
    split
    · rfl
    split
    · exact ih (place ++ [part])
    · rfl

/-- A name that stands for an entry of a directory leads to it. -/
lemma follow_entry {system : FileSystem} {place : List String} {name : String}
    (directory : system.isDirectoryAt place = true) (real : FilePath.isVoid name = false)
    (down : name ≠ "..")
    (short : ¬ maxName < name.utf8ByteSize)
    (stands : (system.top.get? (place ++ [name])).isSome = true) :
    system.follow place [name] = .ok (place ++ [name]) := by
  simp [follow, directory, real, down, short, stands]

/-- Parts are followed from a directory. -/
lemma isDirectoryAt_of_follow {system : FileSystem} {place reached parts : List String}
    (leads : system.follow place parts = .ok reached) (more : parts ≠ []) :
      system.isDirectoryAt place = true := by
  obtain ⟨part, others, rfl⟩ := List.exists_cons_of_ne_nil more
  cases directory : system.isDirectoryAt place with
  | true => rfl
  | false =>
    rw [follow, directory] at leads
    cases leads

/-- Parts that go on lead to a directory first. -/
lemma follow_split {system : FileSystem} {place reached : List String} {front rest : List String}
    (leads : system.follow place (front ++ rest) = .ok reached) (more : rest ≠ []) :
    ∃ between, system.follow place front = .ok between ∧ system.isDirectoryAt between = true ∧
      system.follow between rest = .ok reached := by
  rw [follow_append] at leads
  cases first : system.follow place front with
  | error refusal =>
    rw [first] at leads
    cases leads
  | ok between =>
    rw [first] at leads
    have leads : system.follow between rest = .ok reached := leads
    exact ⟨between, rfl, isDirectoryAt_of_follow leads more, leads⟩

lemma follow_voids {system : FileSystem} {place : List String}
    (directory : system.isDirectoryAt place = true) {voids : List String}
    (void : ∀ part ∈ voids, isVoid part = true) : system.follow place voids = .ok place := by
  induction voids with
  | nil => rfl
  | cons part rest ih =>
    rw [follow, if_neg (by simp [directory]), if_pos (void part List.mem_cons_self)]
    exact ih fun other listed => void other (List.mem_cons_of_mem part listed)

lemma follow_of_voids {system : FileSystem} {place reached : List String}
    {front voids : List String} (leads : system.follow place (front ++ voids) = .ok reached)
    (void : ∀ part ∈ voids, isVoid part = true) :
    system.follow place front = .ok reached := by
  by_cases none : voids = []
  · rwa [none, List.append_nil] at leads
  · obtain ⟨between, first, directory, rest⟩ := follow_split leads none
    rw [first, ← rest, follow_voids directory void]

/-- Parts that only go down and end in a name lead to a place of that name. -/
lemma getLast?_of_follow {system : FileSystem} {place reached parts : List String} {last : String}
    (leads : system.follow place parts = .ok reached) (ends : parts.getLast? = some last)
    (real : IsReal last) :
    reached.getLast? = some last := by
  obtain ⟨front, rfl⟩ := List.getLast?_eq_some_iff.mp ends
  obtain ⟨between, _, directory, final⟩ := follow_split leads (List.cons_ne_nil last [])
  rw [follow, if_neg (by simp [directory]), if_neg (by simp [real.1]), if_neg real.2] at final
  split at final
  · cases final
  split at final
  · rw [← Except.ok.inj final, List.getLast?_concat]
  · cases final

/-! ## The directory of a path -/

/-- The directory that a path lies in is the one that other paths are put behind when they are taken
from there. -/
lemma follow_parentOf {system : FileSystem} {path name : String} {front place : List String}
    (cut : parts path = front ++ [name]) (named : isVoid name = false)
    (leads : system.follow (system.startOf path) front = .ok place)
    (directory : system.isDirectoryAt place = true) :
    system.follow (system.startOf (parentOf path)) (leadingParts (parentOf path)) = .ok place := by
  obtain ⟨lead, middle, rfl, begins⟩ := FilePath.exists_begins cut named
  obtain ⟨⟨voids, whole, void⟩, _⟩ := FilePath.dropVoidEnd_spec middle
  have start : ∀ other, FilePath.isAbsolute other = FilePath.isAbsolute path →
      system.startOf other = system.startOf path := fun other same => by rw [startOf, startOf, same]
  by_cases kept : dropVoidEnd middle = []
  · have parent := begins.parentOf_eq named kept
    rw [kept, List.nil_append] at whole
    subst whole
    have leads := follow_of_voids leads void
    rcases begins.leads with ⟨rfl, _, absolute⟩ | ⟨rfl, _, relative⟩ | ⟨rfl, _, relative, _⟩
    · rw [absolute, if_pos rfl] at parent
      rw [parent, start "/" absolute.symm]
      exact leads
    · rw [relative, if_neg Bool.false_ne_true] at parent
      rw [parent, start "." relative.symm]
      exact leads
    · rw [relative, if_neg Bool.false_ne_true] at parent
      obtain rfl : system.startOf path = place := Except.ok.inj leads
      rw [parent, start "." relative.symm]
      exact follow_voids directory (List.forall_mem_singleton.mpr rfl)
  · have plain : ∀ part ∈ middle, '/' ∉ part.toList := fun part listed =>
      FilePath.plain_of_mem_parts (cut ▸ List.mem_append_left _ (List.mem_append_right lead listed))
    obtain ⟨assembled, absolute, ends⟩ := begins.parts_parentOf named plain kept
    rw [start _ absolute, FilePath.leadingParts_eq_parts ends, assembled]
    rw [whole, ← List.append_assoc] at leads
    exact follow_of_voids leads void

/-- A directory that other paths are taken from is there. -/
def Holds (system : FileSystem) (directory : String) : Prop :=
  ∃ ground, system.follow (system.startOf directory) (leadingParts directory) = .ok ground ∧
    system.isDirectoryAt ground = true

lemma Holds.grows {before after : FileSystem} {directory : String} (holds : before.Holds directory)
    (grows : before.Grows after) : after.Holds directory := by
  obtain ⟨ground, leads, standing⟩ := holds
  refine ⟨ground, ?_, grows.isDirectoryAt standing⟩
  rw [grows.startOf]
  exact grows.follow leads

/-- Paths behind a directory that is there are followed along their own parts from one place: those
that are absolute from the top, and the others from the directory. -/
lemma Holds.leads {system : FileSystem} {directory : String} (holds : system.Holds directory)
    (absolute : Bool) :
    ∃ start lead ground, system.follow start lead = .ok ground ∧
      (absolute = false → system.isDirectoryAt ground = true) ∧
      ∀ path, FilePath.isAbsolute path = absolute →
        parts (FilePath.join directory path) = lead ++ parts path ∧
          system.startOf (FilePath.join directory path) = start := by
  cases absolute with
  | true =>
    refine ⟨[], [], [], rfl, nofun, fun path absolute => ?_⟩
    rw [FilePath.join_of_absolute absolute, startOf, if_pos absolute]
    exact ⟨rfl, rfl⟩
  | false =>
    obtain ⟨ground, first, standing⟩ := holds
    refine ⟨system.startOf directory, leadingParts directory, ground, first, fun _ => standing,
      fun path relative => ?_⟩
    obtain ⟨cut, same⟩ := FilePath.parts_join relative directory
    exact ⟨cut, by rw [startOf, same, ← startOf]⟩

/-- The directory that a regular file lies in is there. -/
lemma holds_parentOf {system : FileSystem} {path : String} {content : List UInt8}
    (looked : system.lookup path = .ok (.file content)) : system.Holds (parentOf path) := by
  obtain ⟨_, place, leads, stands⟩ := lookup_eq_ok_iff.mp looked
  obtain ⟨front, name, cut⟩ := (List.eq_nil_or_concat (FilePath.parts path)).resolve_left
    (FilePath.parts_ne_nil path)
  rw [List.concat_eq_append] at cut
  rw [cut] at leads
  obtain ⟨ground, led, directory, final⟩ := follow_split leads (List.cons_ne_nil name [])
  refine ⟨ground, follow_parentOf cut (Bool.eq_false_iff.mpr fun void => ?_) led directory,
    directory⟩
  -- A path that ends in a part which stands for nothing leads to a directory.
  obtain rfl : ground = place := Except.ok.inj
    ((follow_voids directory (List.forall_mem_singleton.mpr void)).symm.trans final)
  obtain ⟨entries, inside⟩ := isDirectoryAt_iff.mp directory
  rw [stands] at inside
  cases inside

/-! ## What a path has led to -/

/-- Parts that only go down led to a place before, if something stood there. -/
lemma follow_of_stood {before after : FileSystem} {place reached parts : List String}
    {last : String} (leads : after.follow place parts = .ok reached)
    (down : ∀ part ∈ parts, part ≠ "..") (ends : parts.getLast? = some last)
    (real : isVoid last = false) (stood : (before.top.get? reached).isSome = true) :
    before.follow place parts = .ok reached := by
  induction parts generalizing place with
  | nil => cases ends
  | cons part rest ih =>
    have goesDown := down part List.mem_cons_self
    have later : rest ≠ [] → ∀ next, after.follow next rest = .ok reached →
        before.follow next rest = .ok reached ∧ before.isDirectoryAt next = true := by
      intro more next leads
      have ends : rest.getLast? = some last := by rwa [List.getLast?_cons_of_ne_nil more] at ends
      have led := ih leads (fun other listed => down other (List.mem_cons_of_mem part listed)) ends
      exact ⟨led, isDirectoryAt_of_follow led more⟩
    have directory := isDirectoryAt_of_follow leads (List.cons_ne_nil part rest)
    rw [follow, if_neg (by simp [directory])] at leads
    split at leads
    · next void =>
      have more : rest ≠ [] := by
        rintro rfl
        obtain rfl : part = last := Option.some.inj ends
        rw [real] at void
        cases void
      obtain ⟨led, standing⟩ := later more place leads
      rw [follow, if_neg (by simp [standing]), if_pos void]
      exact led
    next named =>
    split at leads
    · cases leads
    next short =>
    split at leads
    · have found : (before.top.get? (place ++ [part])).isSome = true ∧
          before.follow (place ++ [part]) rest = .ok reached := by
        by_cases more : rest = []
        · subst more
          obtain rfl : place ++ [part] = reached := Except.ok.inj leads
          exact ⟨stood, rfl⟩
        · obtain ⟨led, standing⟩ := later more (place ++ [part]) leads
          obtain ⟨entries, stands⟩ := isDirectoryAt_iff.mp standing
          exact ⟨by rw [stands]; rfl, led⟩
      have standing := isDirectoryAt_of_isSome found.1
      rw [follow, if_neg (by simp [standing]), if_neg named, if_neg goesDown, if_neg short,
        if_pos found.1]
      exact found.2
    · cases leads

end FileSystem

end SourceGen
