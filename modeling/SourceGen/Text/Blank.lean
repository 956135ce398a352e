import SourceGen.Text.Ranges

/-!
# Blank characters and trimming

Blank means the Unicode property `White_Space`. Names, headers and paths are trimmed of blanks at
both ends, and text is blank when nothing is left of it.
-/

namespace SourceGen.Text

/-- The code points with the property `White_Space`, as closed intervals in ascending order. -/
def blankRanges : List (Nat × Nat) :=
  [ (0x9, 0xD), (0x20, 0x20), (0x85, 0x85), (0xA0, 0xA0), (0x1680, 0x1680), (0x2000, 0x200A),
    (0x2028, 0x2029), (0x202F, 0x202F), (0x205F, 0x205F), (0x3000, 0x3000) ]

/-- Whether a character has the Unicode property `White_Space`. -/
def isBlank (c : Char) : Bool :=
  inRanges blankRanges c

/-- Drops the blanks at the front. -/
def trimLeft (text : List Char) : List Char :=
  text.dropWhile isBlank

/-- Drops the blanks at the end. -/
def trimRight (text : List Char) : List Char :=
  (text.reverse.dropWhile isBlank).reverse

/-- Drops the blanks at both ends. -/
def trim (text : List Char) : List Char :=
  trimRight (trimLeft text)

/-- Text with no character other than blanks. -/
def isBlankText (text : List Char) : Bool :=
  text.all isBlank

/-- Blank text is what trimming leaves nothing of. -/
theorem trimLeft_eq_nil_iff (text : List Char) : trimLeft text = [] ↔ isBlankText text = true := by
  induction text with
  | nil => simp [trimLeft, isBlankText]
  | cons c rest ih =>
    simp only [trimLeft, isBlankText, List.dropWhile_cons, List.all_cons] at ih ⊢
    by_cases h : isBlank c = true <;> simp_all

end SourceGen.Text
