import Mathlib.Data.List.Lex
import Mathlib.Data.String.Basic
import Mathlib.Tactic.SplitIfs
import SourceGen.Proofs.Encoding.Decoding

/-!
# The order of texts is that of their bytes

Texts are compared character by character, names in a file system byte by byte. In UTF-8 this comes
to the same: the digits of a code point to the base 64 stand in the order of their weight, and the
first byte of a longer sequence is greater than that of a shorter one
(`Encoding.utf8Bytes_append_lt`). So two texts compare as their bytes do
(`Encoding.encode_utf8_lt_iff`), and so do two lists of names (`Encoding.map_encode_lt_iff`).
-/

namespace SourceGen.Encoding

/-- Of two numbers the lesser one has the lesser digit to the base 64 at the first place where they
differ. -/
lemma digits_lt {v w : Nat} (lt : v < w) :
    v / 262144 < w / 262144 ∨ v / 262144 = w / 262144 ∧
      (v / 4096 % 64 < w / 4096 % 64 ∨ v / 4096 % 64 = w / 4096 % 64 ∧
        (v / 64 % 64 < w / 64 % 64 ∨ v / 64 % 64 = w / 64 % 64 ∧ v % 64 < w % 64)) := by
  have digit : ∀ {a b : Nat}, a < b → a / 64 < b / 64 ∨ a / 64 = b / 64 ∧
      a % 64 < b % 64 := by omega
  have twice : ∀ n : Nat, n / 4096 = n / 64 / 64 := fun n => (Nat.div_div_eq_div_mul n 64 64).symm
  have thrice : ∀ n : Nat, n / 262144 = n / 64 / 64 / 64 := fun n => by
    rw [← twice, Nat.div_div_eq_div_mul]
  rw [twice, twice, thrice, thrice]
  rcases digit lt with lt | ⟨same, lt⟩
  · rcases digit lt with lt | ⟨same, lt⟩
    · exact (digit lt).imp_right fun ⟨same, lt⟩ => ⟨same, .inl lt⟩
    · rw [same]
      exact .inr ⟨rfl, .inr ⟨rfl, .inl lt⟩⟩
  · rw [same]
    exact .inr ⟨rfl, .inr ⟨rfl, .inr ⟨rfl, lt⟩⟩⟩

/-- The lesser character has the lesser bytes, whatever follows them. -/
lemma utf8Bytes_append_lt {c d : Char} (lt : c < d) (s t : List UInt8) :
    utf8Bytes c ++ s < utf8Bytes d ++ t := by
  have below : c.val.toNat < d.val.toNat := lt
  have bound : d.val.toNat < 0x110000 := by
    rcases d.valid with h | h <;> omega
  unfold utf8Bytes String.utf8EncodeChar
  generalize c.val.toNat = v at below ⊢
  generalize d.val.toNat = w at below bound ⊢
  have digits := digits_lt below
  dsimp only
  -- One case for each pair of lengths; those in which the lesser code point is the longer one
  -- contradict `below`.
  split_ifs <;>
    simp (disch := omega) only [List.cons_append, List.nil_append, List.cons_lt_cons_iff,
      UInt8.lt_iff_toNat_lt,
      ← UInt8.toNat_inj, UInt8.toNat_ofNat', Nat.mod_eq_of_lt] <;>
    omega

lemma utf8Bytes_ne_nil (c : Char) : utf8Bytes c ≠ [] := by
  rw [← List.length_pos_iff, utf8Bytes, String.length_utf8EncodeChar]
  exact c.utf8Size_pos

lemma append_lt_append_iff (bytes s t : List UInt8) : bytes ++ s < bytes ++ t ↔ s < t := by
  induction bytes with
  | nil => rfl
  | cons byte rest ih => rw [List.cons_append, List.cons_append, List.cons_lt_cons_self, ih]

lemma flatMap_utf8Bytes_lt_iff (one other : List Char) :
    one.flatMap utf8Bytes < other.flatMap utf8Bytes ↔ one < other := by
  induction one generalizing other with
  | nil =>
    cases other with
    | nil => exact iff_of_false (List.not_lt_nil _) (List.not_lt_nil _)
    | cons d more =>
      obtain ⟨byte, bytes, some⟩ := List.exists_cons_of_ne_nil (utf8Bytes_ne_nil d)
      rw [List.flatMap_cons, some]
      exact iff_of_true (List.nil_lt_cons _ _) (List.nil_lt_cons _ _)
  | cons c rest ih =>
    cases other with
    | nil => exact iff_of_false (List.not_lt_nil _) (List.not_lt_nil _)
    | cons d more =>
      rw [List.flatMap_cons, List.flatMap_cons, List.cons_lt_cons_iff]
      rcases lt_trichotomy c d with lt | rfl | gt
      · exact iff_of_true (utf8Bytes_append_lt lt _ _) (.inl lt)
      · rw [append_lt_append_iff, ih more]
        exact ⟨fun less => .inr ⟨rfl, less⟩, fun less => (less.resolve_left (lt_irrefl c)).2⟩
      · refine iff_of_false (fun less => List.lt_asymm less (utf8Bytes_append_lt gt _ _)) ?_
        rintro (lt | ⟨rfl, _⟩)
        · exact lt_asymm lt gt
        · exact lt_irrefl _ gt

/-- Two texts compare as their bytes do. -/
theorem encode_utf8_lt_iff (one other : String) :
    utf8.encode one < utf8.encode other ↔ one < other := by
  rw [String.lt_iff_toList_lt]
  exact flatMap_utf8Bytes_lt_iff one.toList other.toList

/-- Two lists of names compare, name by name, as the bytes of their names do. -/
theorem map_encode_lt_iff (one other : List String) :
    one.map utf8.encode < other.map utf8.encode ↔ one < other := by
  induction one generalizing other with
  | nil => cases other <;> simp
  | cons a rest ih =>
    cases other with
    | nil => simp
    | cons b more =>
      rw [List.map_cons, List.map_cons, List.cons_lt_cons_iff, List.cons_lt_cons_iff,
        encode_utf8_lt_iff, (encode_injective utf8).eq_iff, ih more]

lemma map_encode_le_iff (one other : List String) :
    one.map utf8.encode ≤ other.map utf8.encode ↔ one ≤ other := by
  rw [← not_lt, ← map_encode_lt_iff]
  exact List.not_lt.symm

end SourceGen.Encoding
