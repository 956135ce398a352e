/-!
# Encodings of generated files

Text goes to disk in one of four encodings, all but plain UTF-8 with a byte order mark in front.
UTF-16 writes a character beyond the basic plane as a pair of surrogates.
-/

namespace SourceGen

/-- The encoding of a generated file: UTF-8 without a byte order mark or behind one, or UTF-16
behind one, with the low or the high byte first. -/
inductive Encoding where
  | utf8
  | utf8Marked
  | utf16Little
  | utf16Big
deriving DecidableEq, Inhabited

namespace Encoding

/-- The name of an encoding, as manifests and reports write it. -/
def name : Encoding → String
  | utf8 => "utf-8"
  | utf8Marked => "utf-8-bom"
  | utf16Little => "utf-16le"
  | utf16Big => "utf-16be"

/-- All encodings, in the order in which messages list them. -/
def all : List Encoding :=
  [utf8, utf8Marked, utf16Little, utf16Big]

/-- The encoding of exactly this name. -/
def ofName? (text : String) : Option Encoding :=
  all.find? (·.name = text)

/-- The text with its ASCII capitals made small. -/
def lowerCase (text : String) : String :=
  String.ofList (text.toList.map Char.toLower)

/-- The encoding meant by a name in any case, or by one of the short forms in use. The small forms
of capitals outside ASCII hold no letter of these names, so ASCII decides. -/
def ofAlias? (text : String) : Option Encoding :=
  match lowerCase text with
  | "utf-8" | "utf8" => some utf8
  | "utf-8-bom" | "utf8-bom" => some utf8Marked
  | "utf-16le" | "utf-16" | "utf16" => some utf16Little
  | "utf-16be" => some utf16Big
  | _ => none

/-- What is said of a name that `ofAlias?` does not know. -/
def unknownMessage (text : String) : String :=
  "unknown encoding '" ++ text ++ "', expected one of: "
    ++ String.intercalate ", " (all.map name)

/-! ## Bytes -/

/-- The UTF-8 bytes of a character. -/
def utf8Bytes (c : Char) : List UInt8 :=
  String.utf8EncodeChar c

/-- The UTF-16 units of a character: itself, or a high and a low surrogate for a code point beyond
the basic plane. -/
def utf16Units (c : Char) : List UInt16 :=
  if c.toNat < 0x10000 then [c.toNat.toUInt16]
  else
    let offset := c.toNat - 0x10000
    [(0xD800 + offset / 0x400).toUInt16, (0xDC00 + offset % 0x400).toUInt16]

/-- The bytes of a unit, low byte first. -/
def littleBytes (unit : UInt16) : List UInt8 :=
  [unit.toUInt8, (unit >>> 8).toUInt8]

/-- The bytes of a unit, high byte first. -/
def bigBytes (unit : UInt16) : List UInt8 :=
  [(unit >>> 8).toUInt8, unit.toUInt8]

/-- The code point that marks the byte order when it stands first. -/
def byteOrderMark : Char :=
  '\uFEFF'

/-- The bytes of one character. -/
def encodeChar : Encoding → Char → List UInt8
  | utf8, c | utf8Marked, c => utf8Bytes c
  | utf16Little, c => (utf16Units c).flatMap littleBytes
  | utf16Big, c => (utf16Units c).flatMap bigBytes

/-- The byte order mark of an encoding; plain UTF-8 has none. -/
def mark : Encoding → List UInt8
  | utf8 => []
  | encoding => encoding.encodeChar byteOrderMark

/-- The bytes of a text, behind the byte order mark of the encoding. -/
def encodeChars (encoding : Encoding) (text : List Char) : List UInt8 :=
  encoding.mark ++ text.flatMap encoding.encodeChar

/-- The bytes that a file in this encoding holds for a text. -/
def encode (encoding : Encoding) (text : String) : List UInt8 :=
  encoding.encodeChars text.toList

end Encoding

end SourceGen
