import SourceGen.Data.Value
import SourceGen.Ordered.Sorted
import SourceGen.Text.Hexadecimal

/-!
# Reading JSON

JSON text as data. A number without point and exponent is an integer as long as 64 bits hold it, and
every other number is a floating point number, read by scaling its digits. An object is a table in
the order of its names, in which a later field takes the place of an earlier one of the same name.
Every reader gives its result with the text behind it, or nothing when the text is not JSON.
-/

namespace SourceGen.Json

/-- A reader's result with the text behind it. -/
abbrev Read (α : Type) := Option (α × List Char)

/-- Drops the blanks at the front. -/
def skipBlanks (source : List Char) : List Char :=
  source.dropWhile fun c => c = ' ' || c = '\t' || c = '\n' || c = '\r'

/-! ## Numbers -/

/-- A decimal digit. -/
def isDigit (c : Char) : Bool :=
  '0' ≤ c && c ≤ '9'

/-- Appends digits to a number for as long as it stays below `2 ^ 64`, and counts those appended. -/
def appendDigits (significand : Nat) : List Char → Nat × Nat
  | [] => (significand, 0)
  | c :: rest =>
    let next := 10 * significand + (c.toNat - '0'.toNat)
    if next < 18446744073709551616 then
      let (significand, count) := appendDigits next rest
      (significand, count + 1)
    else (significand, 0)

/-- Reads a point and the digits behind it, if there is one. -/
def readFraction : List Char → Read (Option (List Char))
  | '.' :: rest =>
    let digits := rest.takeWhile isDigit
    if digits.isEmpty then none else some (some digits, rest.dropWhile isDigit)
  | source => some (none, source)

/-- Reads the mark of an exponent and the exponent, if there is one. -/
def readExponent (source : List Char) : Read (Option Int) :=
  match source with
  | c :: rest =>
    if c = 'e' || c = 'E' then
      let (negative, rest) :=
        match rest with
        | '-' :: rest => (true, rest)
        | '+' :: rest => (false, rest)
        | rest => (false, rest)
      let digits := rest.takeWhile isDigit
      let size : Int := digits.foldl (fun size c => 10 * size + (c.toNat - '0'.toNat)) 0
      if digits.isEmpty then none
      else some (some (if negative then -size else size), rest.dropWhile isDigit)
    else some (none, source)
  | [] => some (none, [])

/-- A floating point number, which has to be finite. -/
def finiteValue? : Binary64 → Option Value
  | .infinite _ => none
  | value => some (.float value)

/-- The value of a number. Digits beyond 64 bits count as zeros. A negative zero is not an integer,
and neither is what lies below the integers of 64 bits. -/
def numberValue? (negative : Bool) (whole : List Char) (fraction : Option (List Char))
    (exponent : Option Int) : Option Value :=
  let (significand, taken) := appendDigits 0 whole
  let dropped := whole.length - taken
  match fraction, exponent with
  | none, none =>
    if dropped = 0 && !negative then some (.integer significand)
    else if dropped = 0 && significand ≠ 0 && significand ≤ 9223372036854775808 then
      some (.integer (-significand))
    else finiteValue? (Binary64.ofScaled negative significand dropped)
  | _, _ =>
    let (significand, places) := appendDigits significand (fraction.getD [])
    finiteValue? (Binary64.ofScaled negative significand (exponent.getD 0 + dropped - places))

/-- Reads a number. No zero stands in front of another digit. -/
def readNumber (source : List Char) : Read Value :=
  let (negative, source) :=
    match source with
    | '-' :: rest => (true, rest)
    | source => (false, source)
  let whole := source.takeWhile isDigit
  if whole.isEmpty || (whole.head? = some '0' && whole.length ≠ 1) then none
  else
    match readFraction (source.dropWhile isDigit) with
    | none => none
    | some (fraction, rest) =>
      match readExponent rest with
      | none => none
      | some (exponent, rest) => (numberValue? negative whole fraction exponent).map (·, rest)

/-! ## Strings -/

/-- The character that stands behind a backslash for another one. -/
def escape? : Char → Option Char
  | '"' => some '"'
  | '\\' => some '\\'
  | '/' => some '/'
  | 'b' => some '\x08'
  | 'f' => some '\x0c'
  | 'n' => some '\n'
  | 'r' => some '\r'
  | 't' => some '\t'
  | _ => none

/-- What a string reader is in the middle of: nothing, a backslash, an escape by code, of which
`left + 1` digits are still to come and `code` is the number so far, or a pair whose second unit has
to follow. `high` is the first unit of a pair that the escape at hand has to complete. -/
inductive Pending where
  | plain
  | escape (high : Option Nat)
  | digits (left code : Nat) (high : Option Nat)
  | pair (high : Nat)

/-- The code point of a pair of units; nothing when the second unit is none. -/
def codeOfPair? (high low : Nat) : Option Nat :=
  if 0xDC00 ≤ low && low < 0xE000 then some (0x10000 + 0x400 * (high - 0xD800) + (low - 0xDC00))
  else none

/-- Puts a character in front of what a reader found. -/
def consRead (c : Char) (found : Read (List Char)) : Read (List Char) :=
  found.map fun (chars, rest) => (c :: chars, rest)

/-- Reads a string behind its opening quote. -/
def readString : Pending → List Char → Read (List Char)
  | _, [] => none
  | .plain, c :: rest =>
    if c = '"' then some ([], rest)
    else if c = '\\' then readString (.escape none) rest
    else if c < ' ' then none
    else consRead c (readString .plain rest)
  | .pair high, c :: rest => if c = '\\' then readString (.escape (some high)) rest else none
  | .escape high, c :: rest =>
    if c = 'u' then readString (.digits 3 0 high) rest
    else if high.isSome then none
    else
      match escape? c with
      | some d => consRead d (readString .plain rest)
      | none => none
  | .digits left code high, c :: rest =>
    match Text.hexValue? c with
    | none => none
    | some digit =>
      let code := 16 * code + digit
      match left, high with
      | left + 1, high => readString (.digits left code high) rest
      | 0, none =>
        if 0xD800 ≤ code && code < 0xDC00 then readString (.pair code) rest
        else
          match Text.charOf? code with
          | some d => consRead d (readString .plain rest)
          | none => none
      | 0, some high =>
        match (codeOfPair? high code).bind Text.charOf? with
        | some d => consRead d (readString .plain rest)
        | none => none

/-! ## Values -/

/-- The table of the fields of an object. -/
def tableOf (fields : List (String × Value)) : Value :=
  .table (fields.foldl (fun entries (name, value) => Sorted.insert name value entries) [])

mutual

/-- Reads a value. `fuel` bounds the steps and is never the limit when it exceeds the length of the
text. -/
def readValue : (fuel : Nat) → List Char → Read Value
  | 0, _ => none
  | fuel + 1, source =>
    match skipBlanks source with
    | '"' :: rest =>
      (readString .plain rest).map fun (chars, rest) => (.text (String.ofList chars), rest)
    | '[' :: rest =>
      match skipBlanks rest with
      | ']' :: rest => some (.sequence [], rest)
      | rest => (readItems fuel rest).map fun (items, rest) => (.sequence items, rest)
    | '\x7b' :: rest =>
      match skipBlanks rest with
      | '\x7d' :: rest => some (.table [], rest)
      | rest => (readFields fuel rest).map fun (fields, rest) => (tableOf fields, rest)
    | 't' :: 'r' :: 'u' :: 'e' :: rest => some (.boolean true, rest)
    | 'f' :: 'a' :: 'l' :: 's' :: 'e' :: rest => some (.boolean false, rest)
    | 'n' :: 'u' :: 'l' :: 'l' :: rest => some (.null, rest)
    | rest => readNumber rest

/-- Reads the items of an array behind its bracket or behind a comma. -/
def readItems : (fuel : Nat) → List Char → Read (List Value)
  | 0, _ => none
  | fuel + 1, source =>
    match readValue fuel source with
    | none => none
    | some (first, rest) =>
      match skipBlanks rest with
      | ',' :: rest => (readItems fuel rest).map fun (others, rest) => (first :: others, rest)
      | ']' :: rest => some ([first], rest)
      | _ => none

/-- Reads the fields of an object behind its brace or behind a comma. -/
def readFields : (fuel : Nat) → List Char → Read (List (String × Value))
  | 0, _ => none
  | fuel + 1, source =>
    match readField fuel source with
    | none => none
    | some (first, rest) =>
      match skipBlanks rest with
      | ',' :: rest => (readFields fuel rest).map fun (others, rest) => (first :: others, rest)
      | '\x7d' :: rest => some ([first], rest)
      | _ => none

/-- Reads the name and the value of a field. -/
def readField : (fuel : Nat) → List Char → Read (String × Value)
  | 0, _ => none
  | fuel + 1, source =>
    match skipBlanks source with
    | '"' :: rest =>
      match readString .plain rest with
      | none => none
      | some (name, rest) =>
        match skipBlanks rest with
        | ':' :: rest =>
          (readValue fuel rest).map fun (value, rest) => ((String.ofList name, value), rest)
        | _ => none
    | _ => none

end

/-- The value that a text writes; nothing when the text is not JSON. -/
def read? (source : String) : Option Value :=
  match readValue (2 * source.length + 2) source.toList with
  | some (value, rest) => if (skipBlanks rest).isEmpty then some value else none
  | none => none

end SourceGen.Json
