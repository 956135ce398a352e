import Mathlib.Data.String.Basic
import SourceGen.Encoding
import SourceGen.Text.Hexadecimal

/-!
# Reading encoded text

Bytes are read one character after another, by the rules of the encoding and without a byte order
mark. In UTF-8 the first byte tells how many follow; only the shortest form counts, and surrogates
have none. In UTF-16 two bytes make a unit, in the order of the encoding; a high and a low
surrogate together are a character beyond the basic plane, any other unit is the character of that
code point, and a surrogate without its partner is none.

One character is read just when the bytes begin with those that it is encoded to
(`Encoding.next?_eq_some_iff`). So a text is read from its own bytes and from no others
(`Encoding.decode?_eq_some_iff`): nothing that is malformed, cut short or longer than needed passes
for a text.
-/

namespace SourceGen

lemma Text.charOf?_eq_some_iff {code : Nat} {c : Char} :
    charOf? code = some c ↔ code = c.toNat := by
  constructor
  · intro found
    by_cases valid : code.isValidChar
    · rw [charOf?, dif_pos valid] at found
      obtain rfl := Option.some.inj found
      exact (UInt32.toNat_ofNatLT ..).symm
    · rw [charOf?, dif_neg valid] at found
      cases found
  · rintro rfl
    rw [charOf?, dif_pos (show c.toNat.isValidChar from c.valid)]
    rfl

namespace Encoding

/-! ## UTF-8 -/

/-- The character in UTF-8 at the front, with the bytes behind it. -/
def utf8Next? (bytes : List UInt8) : Option (Char × List UInt8) :=
  (bytes.toByteArray.utf8DecodeChar? 0).map fun c => (c, bytes.drop c.utf8Size)

lemma utf8Next?_eq_some_iff {bytes rest : List UInt8} {c : Char} :
    utf8Next? bytes = some (c, rest) ↔ bytes = utf8Bytes c ++ rest := by
  have behind : ∀ more, (utf8Bytes c ++ more).drop c.utf8Size = more := fun more =>
    List.drop_left' (String.length_utf8EncodeChar c)
  constructor
  · intro read
    obtain ⟨d, decoded, same⟩ := Option.map_eq_some_iff.mp read
    obtain ⟨rfl, rfl⟩ := Prod.mk.inj same
    obtain ⟨more, whole⟩ := ByteArray.exists_of_utf8DecodeChar?_eq_some decoded
    have split : bytes = utf8Bytes d ++ more.data.toList := by
      simpa [utf8Bytes] using congrArg (·.data.toList) whole
    rw [split, behind]
  · rintro rfl
    have decoded : (utf8Bytes c ++ rest).toByteArray.utf8DecodeChar? 0 = some c := by
      rw [List.toByteArray_append]
      exact ByteArray.utf8DecodeChar?_utf8EncodeChar_append
    rw [utf8Next?, decoded, Option.map_some, behind]

/-! ## Units of UTF-16 -/

/-- The unit that two bytes make. -/
def joinBytes (high low : UInt8) : UInt16 :=
  (0x100 * high.toNat + low.toNat).toUInt16

/-- The unit at the front, with the bytes behind it; `join` makes it of the first byte and the
second. -/
def unit? (join : UInt8 → UInt8 → UInt16) : List UInt8 → Option (UInt16 × List UInt8)
  | first :: second :: rest => some (join first second, rest)
  | _ => none

lemma joinBytes_eq_iff {high low : UInt8} {unit : UInt16} :
    joinBytes high low = unit ↔ high = (unit >>> 8).toUInt8 ∧ low = unit.toUInt8 := by
  have bound := unit.toNat_lt
  have highBound := high.toNat_lt
  have lowBound := low.toNat_lt
  have shift : unit.toNat >>> 8 = unit.toNat / 0x100 := Nat.shiftRight_eq_div_pow _ 8
  simp only [joinBytes, ← UInt16.toNat_inj, ← UInt8.toNat_inj, UInt16.toNat_ofNat',
    UInt16.toNat_toUInt8, UInt16.toNat_shiftRight, UInt16.reduceToNat, Nat.reduceMod, shift]
  omega

/-! ## Pairs of surrogates -/

/-- A unit that begins a pair. -/
def IsHigh (unit : UInt16) : Prop :=
  0xD800 ≤ unit.toNat ∧ unit.toNat < 0xDC00

/-- A unit that ends a pair. -/
def IsLow (unit : UInt16) : Prop :=
  0xDC00 ≤ unit.toNat ∧ unit.toNat < 0xE000

instance : DecidablePred IsHigh := fun _ => inferInstanceAs (Decidable (_ ∧ _))

instance : DecidablePred IsLow := fun _ => inferInstanceAs (Decidable (_ ∧ _))

/-- The code point of a pair: ten bits from each surrogate, counted from the end of the basic
plane. -/
def pairCode (high low : UInt16) : Nat :=
  0x10000 + 0x400 * (high.toNat - 0xD800) + (low.toNat - 0xDC00)

lemma utf16Units_eq_singleton_iff {c : Char} {unit : UInt16} :
    utf16Units c = [unit] ↔ unit.toNat = c.toNat := by
  have bound := unit.toNat_lt
  unfold utf16Units
  split
  · simp only [Nat.toUInt16_eq, List.cons.injEq, ← UInt16.toNat_inj, UInt16.toNat_ofNat',
      Nat.reducePow, and_true]
    omega
  · -- Two units are not one, and the code point is beyond the values of a unit.
    refine iff_of_false (by simp) ?_
    omega

lemma utf16Units_eq_pair_iff {c : Char} {high low : UInt16} :
    utf16Units c = [high, low] ↔ IsHigh high ∧ IsLow low ∧ pairCode high low = c.toNat := by
  have bound : c.toNat < 0xD800 ∨ 0xDFFF < c.toNat ∧ c.toNat < 0x110000 := c.valid
  unfold utf16Units IsHigh IsLow pairCode
  split
  · -- One unit is not two, and the code point is below those of the pairs.
    refine iff_of_false (by simp) ?_
    omega
  · simp only [Nat.toUInt16_eq, List.cons.injEq, ← UInt16.toNat_inj, UInt16.toNat_ofNat',
      Nat.reducePow, and_true]
    omega

lemma utf16Units_cases (c : Char) :
    (∃ unit, utf16Units c = [unit]) ∨ ∃ high low, utf16Units c = [high, low] := by
  unfold utf16Units
  split
  · exact .inl ⟨_, rfl⟩
  · exact .inr ⟨_, _, rfl⟩

lemma not_isHigh_of_utf16Units {c : Char} {unit : UInt16} (alone : utf16Units c = [unit]) :
    ¬ IsHigh unit := by
  have bound : c.toNat < 0xD800 ∨ 0xDFFF < c.toNat ∧ c.toNat < 0x110000 := c.valid
  rw [utf16Units_eq_singleton_iff] at alone
  unfold IsHigh
  omega

/-- The character in UTF-16 at the front, with the bytes behind it; `join` is the order of the
bytes. -/
def utf16Next? (join : UInt8 → UInt8 → UInt16) (bytes : List UInt8) :
    Option (Char × List UInt8) := do
  let (unit, rest) ← unit? join bytes
  if IsHigh unit then
    let (low, rest) ← unit? join rest
    if IsLow low then
      let c ← Text.charOf? (pairCode unit low)
      return (c, rest)
    else none
  else
    -- The code point of a low surrogate is no character.
    let c ← Text.charOf? unit.toNat
    return (c, rest)

section

variable {join : UInt8 → UInt8 → UInt16} {first second : UInt16 → UInt8}
  (order : ∀ {a b unit}, join a b = unit ↔ a = first unit ∧ b = second unit)

include order

lemma unit?_eq_some_iff {bytes rest : List UInt8} {unit : UInt16} :
    unit? join bytes = some (unit, rest) ↔ bytes = first unit :: second unit :: rest := by
  unfold unit?
  split
  · next a b more => simp only [Option.some.injEq, Prod.mk.injEq, order, List.cons.injEq, and_assoc]
  · next short =>
    refine iff_of_false (by simp) ?_
    rintro rfl
    exact short _ _ _ rfl

lemma utf16Next?_of_alone {c : Char} {unit : UInt16} (alone : utf16Units c = [unit])
    (rest : List UInt8) :
    utf16Next? join (first unit :: second unit :: rest) = some (c, rest) := by
  have front : unit? join (first unit :: second unit :: rest) = some (unit, rest) :=
    (unit?_eq_some_iff order).mpr rfl
  have found : Text.charOf? unit.toNat = some c :=
    Text.charOf?_eq_some_iff.mpr (utf16Units_eq_singleton_iff.mp alone)
  simp [utf16Next?, front, not_isHigh_of_utf16Units alone, found]

lemma utf16Next?_of_pair {c : Char} {high low : UInt16} (pair : utf16Units c = [high, low])
    (rest : List UInt8) :
    utf16Next? join (first high :: second high :: first low :: second low :: rest)
      = some (c, rest) := by
  obtain ⟨begins, ends, code⟩ := utf16Units_eq_pair_iff.mp pair
  have front : ∀ unit rest, unit? join (first unit :: second unit :: rest) = some (unit, rest) :=
    fun unit rest =>
    (unit?_eq_some_iff order).mpr rfl
  have found : Text.charOf? (pairCode high low) = some c := Text.charOf?_eq_some_iff.mpr code
  simp [utf16Next?, front, begins, ends, found]

lemma utf16Next?_eq_some_iff {bytes rest : List UInt8} {c : Char} :
    utf16Next? join bytes = some (c, rest) ↔
      bytes = (utf16Units c).flatMap (fun unit => [first unit, second unit]) ++ rest := by
  constructor
  · intro read
    obtain ⟨⟨unit, more⟩, front, behind⟩ := Option.bind_eq_some_iff.mp read
    rw [(unit?_eq_some_iff order).mp front]
    dsimp only at behind
    split at behind
    · next begins =>
      obtain ⟨⟨low, last⟩, next, behind⟩ := Option.bind_eq_some_iff.mp behind
      rw [(unit?_eq_some_iff order).mp next]
      dsimp only at behind
      split at behind
      · next ends =>
        obtain ⟨d, found, same⟩ := Option.bind_eq_some_iff.mp behind
        obtain ⟨rfl, rfl⟩ := Prod.mk.inj (Option.some.inj same)
        have pair : utf16Units d = [unit, low] :=
          utf16Units_eq_pair_iff.mpr ⟨begins, ends, Text.charOf?_eq_some_iff.mp found⟩
        simp [pair]
      · cases behind
    · obtain ⟨d, found, same⟩ := Option.bind_eq_some_iff.mp behind
      obtain ⟨rfl, rfl⟩ := Prod.mk.inj (Option.some.inj same)
      have alone : utf16Units d = [unit] :=
        utf16Units_eq_singleton_iff.mpr (Text.charOf?_eq_some_iff.mp found)
      simp [alone]
  · rintro rfl
    rcases utf16Units_cases c with ⟨unit, alone⟩ | ⟨high, low, pair⟩
    · simpa [alone] using utf16Next?_of_alone order alone rest
    · simpa [pair] using utf16Next?_of_pair order pair rest

end

/-! ## One character -/

/-- The character at the front in an encoding, with the bytes behind it. -/
def next? : Encoding → List UInt8 → Option (Char × List UInt8)
  | utf8, bytes | utf8Marked, bytes => utf8Next? bytes
  | utf16Little, bytes => utf16Next? (fun low high => joinBytes high low) bytes
  | utf16Big, bytes => utf16Next? joinBytes bytes

/-- **A character is read from the bytes that it is encoded to, and from no others.** -/
theorem next?_eq_some_iff {encoding : Encoding} {bytes rest : List UInt8} {c : Char} :
    encoding.next? bytes = some (c, rest) ↔ bytes = encoding.encodeChar c ++ rest := by
  cases encoding with
  | utf8 => exact utf8Next?_eq_some_iff
  | utf8Marked => exact utf8Next?_eq_some_iff
  | utf16Little => exact utf16Next?_eq_some_iff (joinBytes_eq_iff.trans and_comm)
  | utf16Big => exact utf16Next?_eq_some_iff joinBytes_eq_iff

lemma encodeChar_ne_nil (encoding : Encoding) (c : Char) : encoding.encodeChar c ≠ [] := by
  rcases utf16Units_cases c with ⟨unit, alone⟩ | ⟨high, low, pair⟩
  · cases encoding <;> simp [encodeChar, utf8Bytes, alone, littleBytes, bigBytes]
  · cases encoding <;> simp [encodeChar, utf8Bytes, pair, littleBytes, bigBytes]

lemma length_lt_of_next? {encoding : Encoding} {bytes rest : List UInt8} {c : Char}
    (next : encoding.next? bytes = some (c, rest)) : rest.length < bytes.length := by
  have nonempty := List.length_pos_of_ne_nil (encodeChar_ne_nil encoding c)
  rw [next?_eq_some_iff.mp next, List.length_append]
  omega

/-! ## A whole text -/

/-- The characters that bytes without a byte order mark stand for, if they are those of a text. -/
def decodeChars? (encoding : Encoding) (bytes : List UInt8) : Option (List Char) :=
  if bytes = [] then some []
  else
    match _next : encoding.next? bytes with
    | none => none
    | some (c, rest) => (decodeChars? encoding rest).map (c :: ·)
termination_by bytes.length
decreasing_by exact length_lt_of_next? (by assumption)

/-- The text that bytes without a byte order mark stand for. -/
def decode? (encoding : Encoding) (bytes : List UInt8) : Option String :=
  (encoding.decodeChars? bytes).map String.ofList

lemma decodeChars?_encodeChar_append (encoding : Encoding) (c : Char) (rest : List UInt8) :
    encoding.decodeChars? (encoding.encodeChar c ++ rest)
      = (encoding.decodeChars? rest).map (c :: ·) := by
  have nonempty : encoding.encodeChar c ++ rest ≠ [] := by simp [encodeChar_ne_nil]
  have front : encoding.next? (encoding.encodeChar c ++ rest) = some (c, rest) :=
    next?_eq_some_iff.mpr rfl
  rw [decodeChars?, if_neg nonempty]
  split
  · next refused =>
    rw [front] at refused
    cases refused
  · next d more read =>
    rw [front] at read
    obtain ⟨rfl, rfl⟩ := Prod.mk.inj (Option.some.inj read)
    rfl

lemma decodeChars?_eq_some_iff {encoding : Encoding} {bytes : List UInt8} {text : List Char} :
    encoding.decodeChars? bytes = some text ↔ bytes = text.flatMap encoding.encodeChar := by
  constructor
  · intro read
    fun_induction decodeChars? encoding bytes generalizing text with
    | case1 =>
      obtain rfl := Option.some.inj read
      rfl
    | case2 => cases read
    | case3 bytes _ c rest next ih =>
      obtain ⟨more, behind, rfl⟩ := Option.map_eq_some_iff.mp read
      rw [next?_eq_some_iff.mp next, List.flatMap_cons, ← ih behind]
  · rintro rfl
    induction text with
    | nil => rw [List.flatMap_nil, decodeChars?, if_pos rfl]
    | cons c rest ih => rw [List.flatMap_cons, decodeChars?_encodeChar_append, ih, Option.map_some]

/-- **A text is read from the bytes that its characters are encoded to, and from no others.** -/
theorem decode?_eq_some_iff {encoding : Encoding} {bytes : List UInt8} {text : String} :
    encoding.decode? bytes = some text ↔ bytes = text.toList.flatMap encoding.encodeChar := by
  rw [decode?, Option.map_eq_some_iff, ← decodeChars?_eq_some_iff]
  constructor
  · rintro ⟨chars, read, rfl⟩
    rwa [String.toList_ofList]
  · exact fun read => ⟨text.toList, read, String.ofList_toList⟩

lemma encode_injective (encoding : Encoding) : Function.Injective encoding.encode := by
  intro text other same
  have bytes : text.toList.flatMap encoding.encodeChar = other.toList.flatMap encoding.encodeChar :=
    List.append_cancel_left same
  have read : encoding.decode? (text.toList.flatMap encoding.encodeChar) = some other :=
    decode?_eq_some_iff.mpr bytes
  rw [decode?_eq_some_iff.mpr rfl] at read
  exact Option.some.inj read

end Encoding

end SourceGen
