import SourceGen.FileSystem.Write
import SourceGen.Proofs.Text.Pieces

/-!
# Paths and their parts

The file system follows the parts of a path, but paths are put together and taken apart as text.
The two sides are brought together here: the parts of a path behind a directory (`parts_join`), and
the parts of the directory that a path lies in (`parts_parentOf`).

A part is *real* when it names an entry of a directory, which the empty part and the two dots do
not.
-/

namespace SourceGen

namespace FilePath

lemma isVoid_eq_false_iff {part : String} : isVoid part = false ↔ part ≠ "" ∧ part ≠ "." := by
  simp [isVoid]

/-- The part names an entry of a directory. -/
def IsReal (part : String) : Prop :=
  isVoid part = false ∧ part ≠ ".."

/-! ## The parts of a path -/

lemma parts_ne_nil (path : String) : parts path ≠ [] := by
  simp [parts]

lemma parts_append (front rest : List Char) :
    parts (String.ofList (front ++ '/' :: rest)) = parts (String.ofList front)
      ++ parts (String.ofList rest) := by
  have slash : decide ('/' = '/') = true := rfl
  rw [parts, String.toList_ofList, Text.pieces_append slash, List.map_append, parts, parts,
    String.toList_ofList, String.toList_ofList]

lemma parts_of_plain {text : List Char} (plain : '/' ∉ text) :
    parts (String.ofList text) = [String.ofList text] := by
  rw [parts, String.toList_ofList, Text.pieces_of_plain (Text.forall_ne_of_not_mem plain),
    List.map_singleton]

lemma plain_of_mem_parts {path part : String} (listed : part ∈ parts path) : '/' ∉ part.toList := by
  obtain ⟨piece, cut, rfl⟩ := List.mem_map.mp listed
  intro slash
  rw [String.toList_ofList] at slash
  simpa using Text.not_sep_of_mem_pieces piece cut '/' slash

lemma parts_intercalate {items : List String} (plain : ∀ part ∈ items, '/' ∉ part.toList)
    (filled : items ≠ []) : parts (String.intercalate "/" items) = items := by
  have cut : (List.intercalate ['/'] (items.map String.toList)).splitOn '/'
      = items.map String.toList :=
    List.splitOn_intercalate '/' (by simpa using plain) (by simpa using filled)
  have slash : "/".toList = ['/'] := rfl
  rw [parts, String.toList_intercalate, slash, Text.pieces_eq_splitOn, cut, List.map_map]
  simp

/-- A path is absolute when its first part is empty and others follow. -/
lemma isAbsolute_iff {path : String} :
    isAbsolute path = true ↔ ∃ rest ≠ [], parts path = "" :: rest := by
  rw [isAbsolute, ← String.ofList_toList (s := path), String.toList_ofList]
  rcases path.toList with _ | ⟨c, rest⟩
  · simp [parts, Text.pieces]
  by_cases slash : c = '/'
  · subst slash
    have front := parts_append [] rest
    rw [List.nil_append] at front
    rw [front]
    exact iff_of_true rfl ⟨_, parts_ne_nil _, rfl⟩
  · refine iff_of_false (by simpa using slash) ?_
    rintro ⟨others, _, cut⟩
    rw [parts, String.toList_ofList, Text.pieces, if_neg (by simpa using slash)] at cut
    split at cut <;> simp at cut

lemma isAbsolute_of_parts {path first : String} {rest : List String}
    (cut : parts path = first :: rest) (more : rest ≠ []) :
    isAbsolute path = decide (first = "") := by
  rw [Bool.eq_iff_iff, isAbsolute_iff, cut, decide_eq_true_iff]
  constructor
  · rintro ⟨_, _, same⟩
    exact (List.cons.inj same).1
  · rintro rfl
    exact ⟨rest, more, rfl⟩

/-! ## Joining -/

/-- The parts that a relative path is put behind when it is taken from a directory. -/
def leadingParts (directory : String) : List String :=
  if directory.isEmpty then []
  else if directory.toList.getLast? == some '/' then (parts directory).dropLast
  else parts directory

lemma join_of_absolute {path : String} (absolute : isAbsolute path = true) (directory : String) :
    join directory path = path := by
  rw [join, absolute, Bool.true_or, if_pos rfl]

/-- The parts of a relative path stand behind those of the directory. -/
lemma parts_join {path : String} (relative : isAbsolute path = false) (directory : String) :
    parts (join directory path) = leadingParts directory ++ parts path ∧
      isAbsolute (join directory path) = isAbsolute directory := by
  rw [join, leadingParts, relative, Bool.false_or]
  by_cases empty : directory.isEmpty = true
  · obtain rfl : directory = "" := by simpa using empty
    exact ⟨rfl, relative⟩
  rw [if_neg empty, if_neg empty]
  have filled : directory.toList ≠ [] := by simpa using empty
  have head : ∀ more : String, isAbsolute (directory ++ more) = isAbsolute directory :=
    fun more => by
    obtain ⟨c, rest, whole⟩ := List.exists_cons_of_ne_nil filled
    rw [isAbsolute, isAbsolute, String.toList_append, whole]
    rfl
  by_cases slashed : (directory.toList.getLast? == some '/') = true
  · rw [if_pos slashed, if_pos slashed]
    refine ⟨?_, head path⟩
    obtain ⟨front, whole⟩ : ∃ front, directory.toList = front ++ ['/'] :=
      List.getLast?_eq_some_iff.mp (by simpa using slashed)
    have cut : parts directory = parts (String.ofList front) ++ [""] := by
      rw [← String.ofList_toList (s := directory), whole, parts_append]
      rfl
    have both : directory ++ path = String.ofList (front ++ '/' :: path.toList) := by
      rw [← String.toList_inj, String.toList_append, whole, String.toList_ofList]
      simp
    rw [both, parts_append, cut, List.dropLast_concat, String.ofList_toList]
  · rw [if_neg slashed, if_neg slashed]
    refine ⟨?_, by rw [String.append_assoc, head]⟩
    have both : directory ++ "/" ++ path
        = String.ofList (directory.toList ++ '/' :: path.toList) := by
      rw [← String.toList_inj, String.toList_append, String.toList_append, String.toList_ofList]
      simp
    rw [both, parts_append, String.ofList_toList, String.ofList_toList]

/-- Without a slash at its end, a directory puts all its parts in front. -/
lemma leadingParts_eq_parts {directory : String} (named : (parts directory).getLast? ≠ some "") :
    leadingParts directory = parts directory := by
  rw [leadingParts]
  split
  · next empty =>
    obtain rfl : directory = "" := by simpa using empty
    exact absurd rfl named
  split
  · next slashed =>
    obtain ⟨front, whole⟩ : ∃ front, directory.toList = front ++ ['/'] :=
      List.getLast?_eq_some_iff.mp (by simpa using slashed)
    rw [← String.ofList_toList (s := directory), whole, parts_append] at named
    exact absurd List.getLast?_concat named
  · rfl

/-! ## The directory of a path -/

/-- The void parts at the end are dropped, and what stays does not end in one. -/
lemma dropVoidEnd_spec (items : List String) :
    (∃ voids, items = dropVoidEnd items ++ voids ∧ ∀ part ∈ voids, isVoid part = true) ∧
      ∀ last, (dropVoidEnd items).getLast? = some last → isVoid last = false := by
  constructor
  · refine ⟨(items.reverse.takeWhile isVoid).reverse, ?_, fun part listed => ?_⟩
    · rw [dropVoidEnd, ← List.reverse_append, List.takeWhile_append_dropWhile, List.reverse_reverse]
    · exact List.all_eq_true.mp List.all_takeWhile part (List.mem_reverse.mp listed)
  · intro last ends
    rw [dropVoidEnd, List.getLast?_reverse] at ends
    have first := List.head?_dropWhile_not isVoid items.reverse
    rw [ends] at first
    exact first

lemma dropVoidEnd_concat (front : List String) {last : String} (named : isVoid last = false) :
    dropVoidEnd (front ++ [last]) = front ++ [last] := by
  simp [dropVoidEnd, named]

/-- How a path that ends in a name begins: `lead` is the part that its start stands for, and its
body is `middle` and the name. -/
structure Begins (path : String) (lead middle : List String) (name : String) : Prop where
  body : bodyParts path = middle ++ [name]
  leads : lead = [""] ∧ startOf path = "/" ∧ isAbsolute path = true ∨
    lead = ["."] ∧ startOf path = "." ∧ isAbsolute path = false ∨
    lead = [] ∧ startOf path = "" ∧ isAbsolute path = false ∧ middle.head? ≠ some ""

lemma exists_begins {path name : String} {front : List String} (cut : parts path = front ++ [name])
    (named : isVoid name = false) :
    ∃ lead middle, front = lead ++ middle ∧ Begins path lead middle name := by
  obtain ⟨filled, noDot⟩ := isVoid_eq_false_iff.mp named
  have relative : ∀ first rest, parts path = first :: rest → first ≠ "" →
      isAbsolute path = false := by
    intro first rest cut filled
    refine Bool.eq_false_iff.mpr fun absolute => ?_
    obtain ⟨_, _, other⟩ := isAbsolute_iff.mp absolute
    exact filled (List.head_eq_of_cons_eq (cut.symm.trans other))
  cases front with
  | nil =>
    have relative := relative name [] cut filled
    refine ⟨[], [], rfl, ?_, .inr (.inr ⟨rfl, ?_, relative, nofun⟩)⟩
    · simp [bodyParts, cut, filled, noDot]
    · simp [startOf, relative, cut, noDot]
  | cons first more =>
    by_cases empty : first = ""
    · subst empty
      have absolute : isAbsolute path = true := isAbsolute_iff.mpr ⟨more ++ [name], by simp, cut⟩
      exact ⟨[""], more, rfl, by simp [bodyParts, cut],
        .inl ⟨rfl, by simp [startOf, absolute], absolute⟩⟩
    have relative := relative first (more ++ [name]) cut empty
    by_cases dot : first = "."
    · subst dot
      refine ⟨["."], more, rfl, by simp [bodyParts, cut], .inr (.inl ⟨rfl, ?_, relative⟩)⟩
      simp [startOf, relative, cut]
    · refine ⟨[], first :: more, rfl, by simp [bodyParts, cut, empty, dot],
        .inr (.inr ⟨rfl, ?_, relative, by simp [empty]⟩)⟩
      simp [startOf, relative, cut, dot]

/-- The path of the directory is put together from the start and the middle without void parts at
its end. -/
lemma Begins.parent {path name : String} {lead middle : List String}
    (begins : Begins path lead middle name) (named : isVoid name = false) :
    parent? path = some (assemble (startOf path) (dropVoidEnd middle)) := by
  have last : dropVoidEnd (bodyParts path) = middle ++ [name] := by
    rw [begins.body, dropVoidEnd_concat middle named]
  rw [parent?, last]
  split
  · next none => simp at none
  · rw [List.dropLast_concat]

/-- What is put together so has the leading part and these parts of the middle. -/
lemma Begins.parts_assemble {path name : String} {lead middle : List String}
    (begins : Begins path lead middle name) (plain : ∀ part ∈ middle, '/' ∉ part.toList)
    (filled : dropVoidEnd middle ≠ []) :
    parts (assemble (startOf path) (dropVoidEnd middle)) = lead ++ dropVoidEnd middle ∧
      isAbsolute (assemble (startOf path) (dropVoidEnd middle)) = isAbsolute path := by
  obtain ⟨⟨voids, whole, _⟩, _⟩ := dropVoidEnd_spec middle
  generalize dropVoidEnd middle = body at *
  have joined : parts (String.intercalate "/" body) = body :=
    parts_intercalate (fun part listed =>
      plain part (whole ▸ List.mem_append_left voids listed)) filled
  have nonempty : body.isEmpty = false := List.isEmpty_eq_false_iff.mpr filled
  rcases begins.leads with ⟨rfl, start, absolute⟩ | ⟨rfl, start, relative⟩ | ⟨rfl,
    start, relative, first⟩
  · have text : assemble "/" body
        = String.ofList ([] ++ '/' :: (String.intercalate "/" body).toList) := by
      rw [assemble, nonempty, if_neg Bool.false_ne_true, if_neg (by decide), ← String.toList_inj,
        String.toList_append]
      simp
    rw [start, text, parts_append, String.ofList_toList, joined, absolute]
    exact ⟨rfl, by simp [isAbsolute]⟩
  · have text : assemble "." body
        = String.ofList (['.'] ++ '/' :: (String.intercalate "/" body).toList) := by
      rw [assemble, nonempty, if_neg Bool.false_ne_true, if_pos rfl, ← String.toList_inj,
        String.toList_append]
      simp
    rw [start, text, parts_append, String.ofList_toList, joined, relative]
    exact ⟨rfl, by simp [isAbsolute]⟩
  · have text : assemble "" body = String.intercalate "/" body := by
      rw [assemble, nonempty, if_neg Bool.false_ne_true, if_neg (by decide), String.empty_append]
    rw [start, text, relative]
    refine ⟨joined, Bool.eq_false_iff.mpr fun absolute => first ?_⟩
    obtain ⟨rest, _, cut⟩ := isAbsolute_iff.mp absolute
    rw [whole, joined.symm.trans cut]
    rfl

/-- When nothing of the middle stays, the directory is where the path starts. -/
lemma Begins.parentOf_eq {path name : String} {lead middle : List String}
    (begins : Begins path lead middle name) (named : isVoid name = false)
    (none : dropVoidEnd middle = []) :
    FileSystem.parentOf path = if isAbsolute path then "/" else "." := by
  rw [FileSystem.parentOf, begins.parent named, none]
  rcases begins.leads with ⟨_, text, absolute⟩ | ⟨_, text, relative⟩ | ⟨_, text, relative, _⟩
  · rw [text, absolute]
    rfl
  · rw [text, relative]
    rfl
  · rw [text, relative]
    rfl

/-- When something of the middle stays, the parts of the directory are the leading part and what
stays. -/
lemma Begins.parts_parentOf {path name : String} {lead middle : List String}
    (begins : Begins path lead middle name) (named : isVoid name = false)
    (plain : ∀ part ∈ middle, '/' ∉ part.toList) (filled : dropVoidEnd middle ≠ []) :
    parts (FileSystem.parentOf path) = lead ++ dropVoidEnd middle ∧
      isAbsolute (FileSystem.parentOf path) = isAbsolute path ∧
      (parts (FileSystem.parentOf path)).getLast? ≠ some "" := by
  obtain ⟨assembled, absolute⟩ := begins.parts_assemble plain filled
  have ends : (parts (assemble (startOf path) (dropVoidEnd middle))).getLast? ≠ some "" := by
    have final := List.getLast?_eq_some_getLast filled
    rw [assembled, List.getLast?_append, final, Option.some_or]
    intro empty
    cases (dropVoidEnd_spec middle).2 "" (final.trans empty)
  have nonempty : (assemble (startOf path) (dropVoidEnd middle)).isEmpty = false := by
    refine Bool.eq_false_iff.mpr fun empty => ends ?_
    have empty : assemble (startOf path) (dropVoidEnd middle) = "" := by simpa using empty
    rw [empty]
    rfl
  have text : FileSystem.parentOf path = assemble (startOf path) (dropVoidEnd middle) := by
    rw [FileSystem.parentOf, begins.parent named]
    dsimp only
    rw [nonempty]
    rfl
  rw [text]
  exact ⟨assembled, absolute, ends⟩

/-- A path in a named directory: the parts of that directory are those of the path without its
name. -/
theorem parts_parentOf {path directory name : String} {front : List String}
    (cut : parts path = front ++ [directory, name]) (inside : isVoid directory = false)
    (named : isVoid name = false) :
    parts (FileSystem.parentOf path) = front ++ [directory] ∧
      isAbsolute (FileSystem.parentOf path) = isAbsolute path := by
  have cut : parts path = (front ++ [directory]) ++ [name] := by rw [cut, List.append_assoc]; rfl
  obtain ⟨lead, middle, whole, begins⟩ := exists_begins cut named
  -- The leading part is void, so the directory is in the middle.
  obtain ⟨more, rfl⟩ : ∃ more, middle = more ++ [directory] := by
    rcases List.eq_nil_or_concat middle with rfl | ⟨more, last, rfl⟩
    · rw [List.append_nil] at whole
      rcases begins.leads with ⟨rfl, _⟩ | ⟨rfl, _⟩ | ⟨rfl, _⟩
      · obtain rfl : directory = "" := by simpa using congrArg List.getLast? whole
        cases inside
      · obtain rfl : directory = "." := by simpa using congrArg List.getLast? whole
        cases inside
      · exact absurd whole (by simp)
    · refine ⟨more, ?_⟩
      obtain rfl : directory = last := by simpa using congrArg List.getLast? whole
      exact List.concat_eq_append
  have kept : dropVoidEnd (more ++ [directory]) = more ++ [directory] :=
    dropVoidEnd_concat more inside
  have plain : ∀ part ∈ more ++ [directory], '/' ∉ part.toList := fun part listed =>
    plain_of_mem_parts (cut ▸ List.mem_append_left _ (whole ▸ List.mem_append_right lead listed))
  obtain ⟨assembled, absolute, _⟩ := begins.parts_parentOf named plain (by simp [kept])
  rw [kept, ← whole] at assembled
  exact ⟨assembled, absolute⟩

end FilePath

end SourceGen
