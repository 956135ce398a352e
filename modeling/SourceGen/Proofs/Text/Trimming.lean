import Mathlib.Tactic.Lemma
import SourceGen.Text.Blank

/-!
# Trimmed text

Trimming takes the blanks off both ends of a text, and stops at the first character from either end
that is none.
-/

namespace SourceGen.Text

lemma isBlank_of_getLast?_trim {text : List Char} {c : Char}
    (last : (trim text).getLast? = some c) :
    isBlank c = false := by
  rw [trim, trimRight, List.getLast?_reverse] at last
  have first := List.head?_dropWhile_not isBlank (trimLeft text).reverse
  rw [last] at first
  exact first

lemma trimLeft_eq_self {text : List Char} (first : ∀ c, text.head? = some c → isBlank c = false) :
    trimLeft text = text := by
  cases text with
  | nil => rfl
  | cons c rest => exact List.dropWhile_cons_of_neg (by simp [first c rfl])

lemma trimRight_eq_self {text : List Char}
    (last : ∀ c, text.getLast? = some c → isBlank c = false) :
    trimRight text = text := by
  rcases List.eq_nil_or_concat text with rfl | ⟨front, c, rfl⟩
  · rfl
  · have nonblank : isBlank c = false := last c (by simp)
    simp [trimRight, nonblank]

lemma trimRight_prefix (text : List Char) : trimRight text <+: text := by
  rw [trimRight, ← List.reverse_suffix, List.reverse_reverse]
  exact List.dropWhile_suffix isBlank

lemma trim_prefix (text : List Char) : trim text <+: trimLeft text :=
  trimRight_prefix (trimLeft text)

/-- Trimming the end of a text stops at a character that is no blank. -/
lemma trimRight_append {c : Char} (nonblank : isBlank c = false) (front rest : List Char) :
    trimRight (front ++ c :: rest) = front ++ c :: trimRight rest := by
  have stop : (c :: front.reverse).dropWhile isBlank = c :: front.reverse :=
    List.dropWhile_cons_of_neg (by simp [nonblank])
  rw [trimRight, List.reverse_append, List.reverse_cons, List.append_assoc, List.singleton_append,
    List.dropWhile_append, stop]
  split
  · next none => simp [trimRight, List.isEmpty_iff.mp none]
  · simp [trimRight]

/-- Trimming leaves a text as it is when it neither begins nor ends with a blank. -/
lemma trim_eq_self_iff {text : List Char} :
    trim text = text ↔ (∀ c, text.head? = some c → isBlank c = false) ∧
      ∀ c, text.getLast? = some c → isBlank c = false := by
  constructor
  · intro trimmed
    refine ⟨fun c first => ?_, fun c last => isBlank_of_getLast?_trim (by rw [trimmed, last])⟩
    obtain ⟨rest, whole⟩ := trim_prefix text
    have head := List.head?_dropWhile_not isBlank text
    rw [← trimLeft, ← whole, trimmed, List.head?_append, first] at head
    exact head
  · rintro ⟨first, last⟩
    rw [trim, trimLeft_eq_self first, trimRight_eq_self last]

end SourceGen.Text
