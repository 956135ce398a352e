import SourceGen.Proofs.FileSystem.Frame

/-!
# Protection of existing files

A write that must not overwrite asks first whether its path names anything, and makes the
directories that are missing on the way only then. A path that enters such a directory and comes
back by two dots names nothing when it is asked for, and may lead to an old file when that file is
replaced (`FileSystem.BacksOut`).

This is the only way to lose a file. If a path leads to an old file in the end and all its two dots
could be followed before, then what stands behind the last of them only goes down, to a file that
was there; so the path led to it before as well (`FileSystem.follow_to_file`), and the write was not
made.
-/

namespace SourceGen.FileSystem

/-- The path comes back by two dots from where nothing is to be followed. -/
def BacksOut (system : FileSystem) (path : String) : Prop :=
  ∃ front back, FilePath.parts path = front ++ ".." :: back ∧
    ∃ refusal, system.follow (system.startOf path) (front ++ [".."]) = .error refusal

/-! ## Paths that lead to an old file -/

/-- The parts behind the last two dots, if there are any. -/
lemma eq_or_exists_last_up (parts : List String) :
    (∀ part ∈ parts, part ≠ "..") ∨
      ∃ front back, parts = front ++ ".." :: back ∧ ∀ part ∈ back, part ≠ ".." := by
  by_cases up : ".." ∈ parts.reverse
  · obtain ⟨back, front, cut, down⟩ := List.eq_append_cons_of_mem up
    refine .inr ⟨front.reverse, back.reverse, ?_, ?_⟩
    · rw [← List.reverse_inj, cut]
      simp
    · rintro part listed rfl
      exact down (List.mem_reverse.mp listed)
  · refine .inl ?_
    rintro part listed rfl
    exact up (List.mem_reverse.mpr listed)

section

variable {before after : FileSystem} (grows : before.Grows after)

include grows

/-- Parts that only go down and lead to a file that was there led to it before. -/
lemma follow_to_file {place reached parts : List String} {old : List UInt8}
    (leads : after.follow place parts = .ok reached) (down : ∀ part ∈ parts, part ≠ "..")
    (stood : before.top.get? reached = some (.file old)) : before.follow place parts
      = .ok reached := by
  rcases List.eq_nil_or_concat parts with rfl | ⟨front, last, rfl⟩
  · exact leads
  rw [List.concat_eq_append] at leads down ⊢
  refine follow_of_stood leads down List.getLast?_concat ?_ (by rw [stood]; rfl)
  -- A path that ends in a part which stands for nothing leads to a directory.
  refine Bool.eq_false_iff.mpr fun void => ?_
  obtain ⟨between, _, directory, final⟩ := follow_split leads (List.cons_ne_nil last [])
  obtain rfl : between = reached := Except.ok.inj
    ((follow_voids directory (List.forall_mem_singleton.mpr void)).symm.trans final)
  obtain ⟨entries, inside⟩ := isDirectoryAt_iff.mp directory
  obtain ⟨later, here, file⟩ := grows.top between _ stood
  rw [inside] at here
  rw [← Option.some.inj here] at file
  cases file

/-- A path that leads to an old file, and named nothing before, backs out of what was not there. -/
lemma backsOut_of_follow {path : String} {reached : List String} {old : List UInt8}
    (leads : after.follow (before.startOf path) (FilePath.parts path) = .ok reached)
    (stood : before.top.get? reached = some (.file old))
    (missing : before.follow (before.startOf path) (FilePath.parts path) ≠ .ok reached) :
    before.BacksOut path := by
  rcases eq_or_exists_last_up (FilePath.parts path) with down | ⟨front, back, cut, down⟩
  · exact absurd (follow_to_file grows leads down stood) missing
  refine ⟨front, back, cut, ?_⟩
  have cut : FilePath.parts path = (front ++ [".."]) ++ back := by
    rw [cut, List.append_assoc, List.singleton_append]
  rw [cut, follow_append] at leads missing
  cases led : before.follow (before.startOf path) (front ++ [".."]) with
  | error refusal => exact ⟨refusal, rfl⟩
  | ok between =>
    rw [grows.follow led] at leads
    rw [led] at missing
    exact absurd (follow_to_file grows leads down stood) missing

end

/-! ## Writing where nothing is to be overwritten -/

lemma get?_of_contentAt {system : FileSystem} {place : List String} {content : List UInt8}
    (stands : system.contentAt place = some content) : system.top.get? place
      = some (.file content) := by
  rw [contentAt, FileTree.contentAt, Option.bind_eq_some_iff] at stands
  obtain ⟨tree, here, file⟩ := stands
  cases tree with
  | directory entries => cases file
  | file bytes => rw [here, Option.some.inj (file : some bytes = some content)]

/-- A path that leads to an old file at last, but named nothing before, backs out of what was not
there. -/
lemma backsOut_of_locate {before after : FileSystem} (grows : before.Grows after) {path : String}
    {place : List String} {old : List UInt8} (leads : after.locate path = .ok place)
    (stood : before.contentAt place = some old) (missing : before.pathExists path = false) :
    before.BacksOut path := by
  have stood := get?_of_contentAt stood
  have admitted : admit? path = .ok () := by
    cases admitted : admit? path with
    | ok => rfl
    | error refusal =>
      rw [locate, admitted] at leads
      cases leads
  rw [locate, admitted, grows.startOf] at leads
  refine backsOut_of_follow grows leads stood fun led => ?_
  have looked : before.lookup path = .ok (.file old) :=
    lookup_eq_ok_iff.mpr ⟨admitted, place, led, stood⟩
  rw [pathExists, looked] at missing
  cases missing

section

variable {system : FileSystem} {path content : String} {encoding : Encoding} {overwrite : Overwrite}
  {place : List String}

/-- A write is only made when the path names nothing. -/
lemma not_pathExists_of_written
    (written : (system.writeUnless path content encoding .ifMissing).2 = .ok .written) :
    system.pathExists path = false := by
  cases present : system.pathExists path with
  | false => rfl
  | true =>
    rw [writeUnless, present] at written
    cases written

/-- What a write changes is where its path leads to in the end, and the write is made. -/
lemma locate_of_changed
    (changed : (system.writeUnless path content encoding overwrite).1.contentAt place
      ≠ system.contentAt place) :
    (system.writeUnless path content encoding overwrite).2 = .ok .written ∧
      (system.writeUnless path content encoding overwrite).1.locate path = .ok place := by
  have writes := writes_writeUnless system path content encoding overwrite
  by_cases written : (system.writeUnless path content encoding overwrite).2 = .ok .written
  · obtain ⟨target, leads, _, others⟩ := writes.replaces written
    by_cases same : place = target
    · exact ⟨written, same ▸ leads⟩
    · exact absurd (others place same) changed
  · exact absurd (writes.keeps written place) changed

/-- Where the path of a write that is made leads to, there stands the encoded text. -/
lemma contentAt_of_locate
    (written : (system.writeUnless path content encoding overwrite).2 = .ok .written)
    (leads : (system.writeUnless path content encoding overwrite).1.locate path = .ok place) :
    (system.writeUnless path content encoding overwrite).1.contentAt place
      = some (encoding.encode content) := by
  obtain ⟨target, leadsTarget, holds, _⟩ :=
    (writes_writeUnless system path content encoding overwrite).replaces written
  obtain rfl : place = target := Except.ok.inj (leads.symm.trans leadsTarget)
  exact holds

end

/-- **What the protection of existing files keeps.** When the write is skipped or refused, no file
is touched. When it is made, an old file is changed only if the path leads to it in the end; and
the path then backs out of a directory that was not there. So a path without two dots, or all two
dots of which could be followed, leaves every file as it was. -/
theorem ifMissing_keeps (system : FileSystem) (path content : String) (encoding : Encoding) :
    let result := system.writeUnless path content encoding .ifMissing
    (result.2 ≠ .ok .written → KeepsFiles system result.1) ∧
      ∀ place old, system.contentAt place = some old →
        (result.1.contentAt place ≠ some old ↔
          result.2 = .ok .written ∧ result.1.locate path = .ok place ∧
          old ≠ encoding.encode content) ∧
        (result.1.contentAt place ≠ some old → system.BacksOut path) := by
  intro result
  have writes := writes_writeUnless system path content encoding .ifMissing
  have grows := grows_writeUnless system path content encoding .ifMissing
  refine ⟨writes.keeps, fun place old stood => ?_⟩
  have changed : result.1.contentAt place ≠ some old →
      result.2 = .ok .written ∧ result.1.locate path = .ok place := fun differs =>
    locate_of_changed (stood ▸ differs)
  refine ⟨⟨fun differs => ?_, fun ⟨written, leads, differs⟩ kept => ?_⟩, fun differs => ?_⟩
  · obtain ⟨written, leads⟩ := changed differs
    refine ⟨written, leads, fun same => differs ?_⟩
    rw [same]
    exact contentAt_of_locate written leads
  · exact differs (Option.some.inj (kept.symm.trans (contentAt_of_locate written leads)))
  · obtain ⟨written, leads⟩ := changed differs
    exact backsOut_of_locate grows leads stood (not_pathExists_of_written written)

/-- A directory with one file. -/
def noted : FileSystem where
  top := .directory [("note.txt", .file "old\n".toUTF8.data.toList)]

/-- The note is kept when the write is skipped. Where it is lost, the path backs out of a directory
that was not there. -/
theorem ifMissing_keeps_note :
    let kept := noted.writeUnless "./note.txt" "new\n" .utf8 .ifMissing
    let lost := noted.writeUnless "new/../note.txt" "new\n" .utf8 .ifMissing
    kept.2 = .ok .skipped ∧ KeepsFiles noted kept.1 ∧
      lost.1.contentAt ["note.txt"] ≠ some "old\n".toUTF8.data.toList ∧
      noted.BacksOut "new/../note.txt" := by
  intro kept lost
  have skipped : kept.2 = .ok .skipped := rfl
  have keeps := (ifMissing_keeps noted "./note.txt" "new\n" .utf8).1 (by rw [skipped]; nofun)
  have stood : noted.contentAt ["note.txt"] = some "old\n".toUTF8.data.toList := by decide +kernel
  have changed : lost.1.contentAt ["note.txt"] ≠ some "old\n".toUTF8.data.toList := by
    decide +kernel
  have backsOut :=
    ((ifMissing_keeps noted "new/../note.txt" "new\n" .utf8).2 ["note.txt"] _ stood).2 changed
  exact ⟨skipped, keeps, changed, backsOut⟩

/-- A path that comes back from a missing directory to the note names nothing before, and replaces
the note. -/
theorem ifMissing_loses_note :
    let lost := noted.writeUnless "new/../note.txt" "new\n" .utf8 .ifMissing
    noted.contentAt ["note.txt"] = some "old\n".toUTF8.data.toList ∧
      noted.pathExists "new/../note.txt" = false ∧ lost.2 = .ok .written ∧
      lost.1.contentAt ["note.txt"] = some "new\n".toUTF8.data.toList :=
  ⟨by decide +kernel, by decide +kernel, rfl, by decide +kernel⟩

end SourceGen.FileSystem
