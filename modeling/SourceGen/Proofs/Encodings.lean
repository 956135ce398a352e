import Mathlib.Algebra.Group.Even
import SourceGen.Proofs.Encoding.Decoding
import SourceGen.Proofs.FileFrame

/-!
# Encodings lose nothing

The bytes of a text are the byte order mark of the encoding and, behind it, the bytes of the
characters. Reading what stands behind the mark gives the text again, even one that itself begins
with the character of the mark; and nothing else reads as that text (`Encoding.encode_lossless`).
So texts with the same bytes are the same, and a file that was written holds its text
(`FileSystem.decode?_of_written`).

The two encodings in UTF-16 go by the same units and differ only in the order of the two bytes of
each, that of the mark among them.
-/

namespace SourceGen

namespace Encoding

/-! ## Byte order marks -/

/-- The bytes with which a file in this encoding begins. -/
def signature : Encoding → List UInt8
  | utf8 => []
  | utf8Marked => [0xEF, 0xBB, 0xBF]
  | utf16Little => [0xFF, 0xFE]
  | utf16Big => [0xFE, 0xFF]

lemma mark_eq_signature (encoding : Encoding) : encoding.mark = encoding.signature := by
  cases encoding <;> rfl

lemma encode_eq_signature_append (encoding : Encoding) (text : String) :
    encoding.encode text = encoding.signature ++ text.toList.flatMap encoding.encodeChar := by
  rw [encode, encodeChars, mark_eq_signature]

/-! ## The two orders of bytes -/

/-- The first byte and the second exchanged, the third and the fourth, and so on. -/
def swapPairs : List UInt8 → List UInt8
  | first :: second :: rest => second :: first :: swapPairs rest
  | rest => rest

lemma swapPairs_flatMap_littleBytes (units : List UInt16) :
    swapPairs (units.flatMap littleBytes) = units.flatMap bigBytes := by
  induction units with
  | nil => rfl
  | cons unit rest ih => simp [littleBytes, bigBytes, swapPairs, ih]

lemma swapPairs_swapPairs (bytes : List UInt8) : swapPairs (swapPairs bytes) = bytes := by
  fun_induction swapPairs bytes with
  | case1 first second rest ih => rw [swapPairs, ih]
  | case2 short few => exact swapPairs.eq_2 short few

lemma length_flatMap_littleBytes (units : List UInt16) :
    (units.flatMap littleBytes).length = 2 * units.length := by
  induction units with
  | nil => rfl
  | cons unit rest ih =>
    rw [List.flatMap_cons, List.length_append, ih, List.length_cons, littleBytes, List.length_cons,
      List.length_singleton]
    omega

lemma length_swapPairs (bytes : List UInt8) : (swapPairs bytes).length = bytes.length := by
  fun_induction swapPairs bytes with
  | case1 first second rest ih => simp [ih]
  | case2 short few => rfl

/-- The units of a text in UTF-16, that of the byte order mark first. -/
def utf16UnitsOf (text : String) : List UInt16 :=
  (byteOrderMark :: text.toList).flatMap utf16Units

lemma encode_utf16Little (text : String) :
    utf16Little.encode text = (utf16UnitsOf text).flatMap littleBytes :=
  calc utf16Little.encode text
    _ = (byteOrderMark :: text.toList).flatMap fun c => (utf16Units c).flatMap littleBytes := rfl
    _ = (utf16UnitsOf text).flatMap littleBytes := List.flatMap_assoc.symm

lemma encode_utf16Big (text : String) :
    utf16Big.encode text = (utf16UnitsOf text).flatMap bigBytes :=
  calc utf16Big.encode text
    _ = (byteOrderMark :: text.toList).flatMap fun c => (utf16Units c).flatMap bigBytes := rfl
    _ = (utf16UnitsOf text).flatMap bigBytes := List.flatMap_assoc.symm

lemma swapPairs_encode_utf16Little (text : String) :
    swapPairs (utf16Little.encode text) = utf16Big.encode text := by
  rw [encode_utf16Little, swapPairs_flatMap_littleBytes, encode_utf16Big]

/-! ## Reading back -/

/-- **Encodings lose nothing.**

* The bytes of a text begin with the byte order mark of the encoding. The bytes behind it are read
  as the text, and they are the only ones that are.
* Texts with the same bytes in one encoding are the same.
* In UTF-16 both orders give equally many bytes, an even number, and each gives those of the other
  with the two bytes of every pair exchanged. -/
theorem encode_lossless :
    (∀ (encoding : Encoding) (text : String), ∃ bytes,
      encoding.encode text = encoding.signature ++ bytes ∧ encoding.decode? bytes = some text ∧
        ∀ other, encoding.decode? other = some text ↔ other = bytes) ∧
    (∀ encoding : Encoding, Function.Injective encoding.encode) ∧
    ∀ text : String,
      (utf16Little.encode text).length = (utf16Big.encode text).length ∧
        Even (utf16Little.encode text).length ∧
        swapPairs (utf16Little.encode text) = utf16Big.encode text ∧
        swapPairs (utf16Big.encode text) = utf16Little.encode text := by
  refine ⟨fun encoding text => ?_, encode_injective, fun text => ?_⟩
  · exact ⟨_, encode_eq_signature_append encoding text, decode?_eq_some_iff.mpr rfl,
      fun _ => decode?_eq_some_iff⟩
  · have swapped := swapPairs_encode_utf16Little text
    refine ⟨?_, ?_, swapped, ?_⟩
    · rw [← swapped, length_swapPairs]
    · rw [encode_utf16Little, length_flatMap_littleBytes]
      exact ⟨_, Nat.two_mul _⟩
    · rw [← swapped, swapPairs_swapPairs]

/-- A text that begins with the character of the mark has it twice, once as the mark. -/
example : utf16Big.encode "\uFEFF😀" = [0xFE, 0xFF, 0xFE, 0xFF, 0xD8, 0x3D, 0xDE, 0x00] := by decide

end Encoding

/-- What a write leaves behind its path is read as the text that was written. -/
theorem FileSystem.decode?_of_written {system : FileSystem} {path content : String}
    {encoding : Encoding} {overwrite : Overwrite}
    (written : (system.writeUnless path content encoding overwrite).2 = .ok .written) :
    ∃ bytes, (system.writeUnless path content encoding overwrite).1.readBytes path
        = .ok (encoding.signature ++ bytes) ∧ encoding.decode? bytes = some content := by
  obtain ⟨place, leads, holds, _⟩ :=
    (writes_writeUnless system path content encoding overwrite).replaces written
  rw [Encoding.encode_eq_signature_append] at holds
  exact ⟨_, readBytes_of_locate leads holds, Encoding.decode?_eq_some_iff.mpr rfl⟩

end SourceGen
