import Mathlib.Data.List.DropRight
import Mathlib.Data.List.Forall2
import SourceGen.Proofs.Text.Pieces
import SourceGen.Settings

/-!
# Which paths can be sources

A path can be the source of a target when one of the configured roots holds it and it has one of the
configured extensions (`Settings.source_candidates`). Both are found by comparing texts: a root is
a prefix of the path behind which the path ends or goes on with a slash, and the extension follows
the last dot of the last component.

Put in components, a root that is not empty holds a path when its components are the first ones of
the path (`Settings.isUnder_iff`). That comes down to how a text is cut at slashes: the parts of
one text are the first parts of another just when the other is the same text or goes on behind it
with a slash (`Text.splitOn_prefix_iff`), however many slashes there are at the front or in a row.
A root of nothing but slashes is the exception; it has an empty component, but holds every path.
-/

namespace SourceGen

namespace Text

/-- The parts of one text are the first parts of another. -/
lemma splitOn_prefix_iff {sep : Char} {front text : List Char} :
    front.splitOn sep <+: text.splitOn sep ↔ text = front ∨ ∃ rest,
      text = front ++ sep :: rest := by
  have cut : ∀ rest, (front ++ sep :: rest).splitOn sep = front.splitOn sep ++ rest.splitOn sep :=
    fun rest =>
    List.splitOnP_append_cons front rest (beq_self_eq_true sep)
  constructor
  · rintro ⟨others, parts⟩
    have back : List.intercalate [sep] (text.splitOn sep) = text := List.intercalate_splitOn sep
    by_cases none : others = []
    · rw [← parts, none, List.append_nil, List.intercalate_splitOn] at back
      exact .inl back.symm
    · -- The other parts, put together, are the rest of the text.
      have plain : ∀ part ∈ others, sep ∉ part := by
        intro part listed separates
        have piece : part ∈ pieces (· = sep) text := by
          rw [pieces_eq_splitOn, ← parts]
          exact List.mem_append_right _ listed
        exact absurd (not_sep_of_mem_pieces part piece sep separates) (by simp)
      have together : (front ++ sep :: List.intercalate [sep] others).splitOn sep
          = text.splitOn sep := by
        rw [cut, List.splitOn_intercalate sep plain none, parts]
      refine .inr ⟨List.intercalate [sep] others, ?_⟩
      rw [← back, ← together, List.intercalate_splitOn]
  · rintro (rfl | ⟨rest, rfl⟩)
    · exact List.prefix_rfl
    · rw [cut rest]
      exact List.prefix_append _ _

lemma cutLast?_eq_some_iff {sep : Char} {text before after : List Char} :
    cutLast? sep text = some (before, after) ↔ text = before ++ sep :: after ∧ sep ∉ after := by
  constructor
  · exact eq_append_of_cutLast?
  · rintro ⟨rfl, plain⟩
    exact cutLast?_append before plain

end Text

namespace Settings

/-! ## Roots -/

/-- A root without its trailing slashes holds what begins with its components; an empty root holds
every path. -/
lemma isUnder_iff {root path : List Char} :
    isUnder root path = true ↔
      root.rdropWhile (· = '/') = [] ∨ (root.rdropWhile (· = '/')).splitOn '/'
        <+: path.splitOn '/' := by
  have bare : (root.reverse.dropWhile (· = '/')).reverse = root.rdropWhile (· = '/') := rfl
  rw [isUnder, bare, Bool.or_eq_true, List.isEmpty_iff, Text.splitOn_prefix_iff]
  refine or_congr_right ?_
  generalize root.rdropWhile (· = '/') = bare
  constructor
  · intro follows
    split at follows
    · next cut => exact .inl (by simpa using Text.dropPrefix?_eq_some_iff.mp cut)
    · next c rest cut =>
      obtain rfl := of_decide_eq_true follows
      exact .inr ⟨rest, Text.dropPrefix?_eq_some_iff.mp cut⟩
    · cases follows
  · rintro (rfl | ⟨rest, rfl⟩)
    · rw [Text.dropPrefix?_eq_some_iff.mpr (List.append_nil path).symm]
    · rw [Text.dropPrefix?_eq_some_iff.mpr rfl]
      rfl

/-! ## Extensions -/

/-- An ASCII letter in upper case, and the same letter in lower case. -/
def IsUpperOf (upper lower : Char) : Prop :=
  upper.isUpper = true ∧ lower.toNat = upper.toNat + 32

/-- The same character, up to the case of an ASCII letter. -/
def SameLetter (left right : Char) : Prop :=
  left = right ∨ IsUpperOf left right ∨ IsUpperOf right left

lemma isUpper_iff {c : Char} : c.isUpper = true ↔ 65 ≤ c.toNat ∧ c.toNat ≤ 90 := by
  have letter : c.isUpper = true ↔ 'A'.val ≤ c.val ∧ c.val ≤ 'Z'.val := decide_eq_true_iff
  rw [letter, UInt32.le_iff_toNat_le, UInt32.le_iff_toNat_le]
  rfl

lemma toNat_toLower (c : Char) : c.toLower.toNat = if c.isUpper then c.toNat + 32 else c.toNat := by
  have letter : c.isUpper = true ↔ c.val ≥ 'A'.val ∧ c.val ≤ 'Z'.val := decide_eq_true_iff
  by_cases upper : c.isUpper = true
  · have small := isUpper_iff.mp upper
    have shift : ('a'.val - 'A'.val).toNat = 32 := by decide
    have lower : c.toLower.val = c.val + ('a'.val - 'A'.val) :=
      congrArg Char.val (dif_pos (letter.mp upper))
    rw [if_pos upper, ← Char.toNat_val, lower, UInt32.toNat_add, shift, Char.toNat_val]
    exact Nat.mod_eq_of_lt (by omega)
  · have same : c.toLower = c := dif_neg (letter.not.mp upper)
    rw [if_neg upper, same]

/-- Two characters have one lower case when they are one letter. -/
lemma toLower_eq_toLower_iff {left right : Char} :
    left.toLower = right.toLower ↔ SameLetter left right := by
  rw [← Char.toNat_inj, toNat_toLower, toNat_toLower, SameLetter, IsUpperOf, IsUpperOf,
    ← Char.toNat_inj]
  simp only [isUpper_iff]
  split <;> split <;> omega

lemma sameIgnoringCase_iff {left right : List Char} :
    sameIgnoringCase left right = true ↔ List.Forall₂ SameLetter left right := by
  rw [sameIgnoringCase, beq_iff_eq, ← List.forall₂_eq_eq_eq, List.forall₂_map_left_iff,
    List.forall₂_map_right_iff]
  simp only [toLower_eq_toLower_iff]

/-- The extension of a path is what follows the last dot of its last component, if something stands
before that dot. -/
lemma hasSourceExtension_iff {settings : Settings} {path : String} :
    settings.hasSourceExtension path = true ↔
      settings.sourceExtensions = [] ∨
        ∃ stem extension,
          (path.toList.splitOnP isPathSeparator).getLast? = some (stem ++ '.' :: extension) ∧
            stem ≠ [] ∧ '.' ∉ extension ∧
            ∃ configured ∈ settings.sourceExtensions,
              List.Forall₂ SameLetter (configured.toList.dropWhile (· = '.')) extension := by
  rw [hasSourceExtension, Bool.or_eq_true, List.isEmpty_iff, ← Text.pieces_eq_splitOnP,
    Text.getLast?_pieces, ← SourcePath.fileNameChars]
  refine or_congr_right ?_
  simp only [Option.some.injEq, ← sameIgnoringCase_iff]
  constructor
  · intro holds
    split at holds
    · cases holds
    · cases holds
    · next stem extension other cut =>
      obtain ⟨whole, plain⟩ := Text.cutLast?_eq_some_iff.mp cut
      exact ⟨stem, extension, whole, other, plain, List.any_eq_true.mp holds⟩
  · rintro ⟨stem, extension, whole, filled, plain, configured⟩
    obtain ⟨c, rest, rfl⟩ := List.exists_cons_of_ne_nil filled
    rw [Text.cutLast?_eq_some_iff.mpr ⟨whole, plain⟩]
    exact List.any_eq_true.mpr configured

/-! ## Candidates -/

lemma isInRoots_iff {settings : Settings} {path : String} :
    settings.isInRoots path = true ↔
      settings.sourceRoots = [] ∨
        ∃ root ∈ settings.sourceRoots,
          let bare := (SourcePath.normalize root).toList.rdropWhile (· = '/')
          bare = [] ∨ bare.splitOn '/' <+: path.toList.splitOn '/' := by
  rw [isInRoots, Bool.or_eq_true, List.isEmpty_iff, List.any_eq_true]
  simp only [isUnder_iff, SourcePath.normalize, String.toList_ofList]

/-- **A source candidate lies below a root, component by component, and has a configured
extension.** Both parts of the filter let everything through when nothing is configured. A root
counts in its normal form and without trailing slashes, and then holds every path when nothing is
left of it, and else those that begin with its components. The last component of a path is what
follows its last separator, be it a slash or a backslash; its extension follows its last dot, in
front of which something must stand, and is compared with the configured ones, less their leading
dots, up to the case of ASCII letters. -/
theorem source_candidates (settings : Settings) (path : String) :
    settings.isSourceCandidate path = true ↔
      (settings.sourceRoots = [] ∨
        ∃ root ∈ settings.sourceRoots,
          let bare := (SourcePath.normalize root).toList.rdropWhile (· = '/')
          bare = [] ∨ bare.splitOn '/' <+: path.toList.splitOn '/') ∧
      (settings.sourceExtensions = [] ∨
        ∃ stem extension,
          (path.toList.splitOnP isPathSeparator).getLast? = some (stem ++ '.' :: extension) ∧
            stem ≠ [] ∧ '.' ∉ extension ∧
            ∃ configured ∈ settings.sourceExtensions,
              List.Forall₂ SameLetter (configured.toList.dropWhile (· = '.')) extension) := by
  rw [isSourceCandidate, Bool.and_eq_true]
  exact and_congr isInRoots_iff hasSourceExtension_iff

/-- A directory whose name only begins like a root is not below it. -/
example :
    let settings : Settings := { sourceRoots := ["./Assets\\"], sourceExtensions := [".CS"] }
    settings.isSourceCandidate "Assets/Foo.cs" = true ∧
      settings.isSourceCandidate "AssetsBackup/Foo.cs" = false := by
  decide +kernel

end Settings

end SourceGen
