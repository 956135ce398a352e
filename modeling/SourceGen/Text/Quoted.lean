import SourceGen.Text.Extending
import SourceGen.Text.Unprintable

/-!
# Quoted text

How messages show a text that may hold anything: between double quotes, with escapes for the quote,
the backslash, the common controls, and for every character that would not show by itself.
-/

namespace SourceGen.Text

/-- The lower-case hexadecimal digits of a number. -/
def hexDigits (n : Nat) : List Char :=
  Nat.toDigits 16 n

/-- The escape of a code point: its hexadecimal digits in braces. -/
def codePointEscape (c : Char) : List Char :=
  ['\\', 'u', '\x7b'] ++ hexDigits c.toNat ++ ['\x7d']

/-- How one character is shown between double quotes. -/
def quotedChar (c : Char) : List Char :=
  if c = '\x00' then ['\\', '0']
  else if c = '\t' then ['\\', 't']
  else if c = '\r' then ['\\', 'r']
  else if c = '\n' then ['\\', 'n']
  else if c = '"' || c = '\\' then ['\\', c]
  else if isCombining c || isUnprintable c then codePointEscape c
  else [c]

/-- The text between double quotes with its escapes. -/
def quoted (text : String) : String :=
  String.ofList ('"' :: text.toList.flatMap quotedChar ++ ['"'])

end SourceGen.Text
