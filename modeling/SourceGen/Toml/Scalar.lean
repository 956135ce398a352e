import SourceGen.Data.Value
import SourceGen.Text.Split

/-!
# Scalars of TOML without quotes

Truth values, numbers, dates and times. Each is decided on the run of characters that it consists
of, so there is no backtracking: a run is exactly one kind of scalar or none. A numeral is told from
other text without working out its number, so that one which stands for no number is still a scalar.
-/

namespace SourceGen.Toml

/-! ## Digits -/

/-- A decimal digit. -/
def isDigit (c : Char) : Bool :=
  '0' ≤ c && c ≤ '9'

/-- A hexadecimal digit. -/
def isHexDigit (c : Char) : Bool :=
  isDigit c || ('a' ≤ c && c ≤ 'f') || ('A' ≤ c && c ≤ 'F')

/-- The digits of a number whose groups are joined by single underscores. -/
def ungroup? (digit : Char → Bool) (text : List Char) : Option (List Char) :=
  let groups := Text.pieces (· = '_') text
  if groups.all fun group => !group.isEmpty && group.all digit then some groups.flatten else none

/-- The value of a digit, in any base up to sixteen. -/
def digitValue (c : Char) : Nat :=
  if isDigit c then c.toNat - '0'.toNat
  else if 'a' ≤ c then c.toNat - 'a'.toNat + 10
  else c.toNat - 'A'.toNat + 10

/-- The number that digits write in a base. -/
def ofDigits (base : Nat) (digits : List Char) : Nat :=
  digits.foldl (fun number c => number * base + digitValue c) 0

/-- The digits of a whole number, which has no zero in front of another digit. -/
def wholeDigits? (text : List Char) : Option (List Char) :=
  (ungroup? isDigit text).filter fun digits => digits.length = 1 || digits.head? ≠ some '0'

/-- A sign in front and what follows it. -/
def splitSign : List Char → Bool × List Char
  | '-' :: rest => (true, rest)
  | '+' :: rest => (false, rest)
  | text => (false, text)

/-! ## Integers -/

/-- The digits of the bases other than ten. -/
def baseOf? : Char → Option (Nat × (Char → Bool))
  | 'x' => some (16, isHexDigit)
  | 'o' => some (8, fun c => '0' ≤ c && c ≤ '7')
  | 'b' => some (2, fun c => c = '0' || c = '1')
  | _ => none

/-- The least integer of 64 bits. -/
def minInteger : Int := -9223372036854775808

/-- The greatest integer of 64 bits. -/
def maxInteger : Int := 9223372036854775807

/-- The value of an integer: beyond 64 bits only its numeral is left. -/
def integerValue (written : List Char) (number : Int) : Value :=
  if minInteger ≤ number && number ≤ maxInteger then .integer number
  else .numeral (String.ofList written)

/-- Whether groups behind the first one of an integer may stand in a numeral. Only the characters
next to an underscore are looked at, and any hexadecimal digit will do. -/
def areGroups : List (List Char) → Bool
  | [] => true
  | [last] => last.head?.any isHexDigit
  | group :: rest => group.head?.any isHexDigit && group.getLast?.any isHexDigit && areGroups rest

/-- Whether a text without its sign is a numeral in base ten that is no floating point number. -/
def isWholeNumeral (text : List Char) : Bool :=
  match Text.pieces (· = '_') text with
  | first :: groups =>
    !first.isEmpty && first.all isDigit && areGroups groups
      && (text.length = 1 || text.head? ≠ some '0')
      && text.all fun c => c ≠ '.' && c ≠ 'e' && c ≠ 'E'
  | [] => false

/-- Reads an integer: in base ten with a sign, or in another base without. A base without digits,
and groups that hold something else than digits, make a numeral that stands for no number. -/
def integer? (text : List Char) : Option Value :=
  match text with
  | '0' :: base :: digits =>
    match baseOf? base with
    | some (base, digit) =>
      if digits.isEmpty then some (.numeral (String.ofList text))
      else
        (ungroup? digit digits).map fun digits =>
          integerValue text (Int.ofNat (ofDigits base digits))
    | none => none
  | _ =>
    let (negative, numeral) := splitSign text
    if isWholeNumeral numeral then
      match ungroup? isDigit numeral with
      | some digits =>
        let size := Int.ofNat (ofDigits 10 digits)
        some (integerValue text (if negative then -size else size))
      | none => some (.numeral (String.ofList text))
    else none

/-! ## Floating point numbers -/

/-- Cuts at the mark of the exponent. -/
def splitExponent (text : List Char) : List Char × Option (List Char) :=
  let isMark (c : Char) := c = 'e' || c = 'E'
  match text.dropWhile (!isMark ·) with
  | [] => (text, none)
  | _ :: exponent => (text.takeWhile (!isMark ·), some exponent)

/-- Cuts at the point. -/
def splitPoint (text : List Char) : List Char × Option (List Char) :=
  match text.dropWhile (· ≠ '.') with
  | [] => (text, none)
  | _ :: fraction => (text.takeWhile (· ≠ '.'), some fraction)

/-- The exponent of a number, zero when there is none. -/
def exponent? : Option (List Char) → Option Int
  | none => some 0
  | some text =>
    let (negative, digits) := splitSign text
    (ungroup? isDigit digits).map fun digits =>
      let size := Int.ofNat (ofDigits 10 digits)
      if negative then -size else size

/-- Reads a floating point number: it has a fraction, an exponent or both. -/
def decimal? (negative : Bool) (text : List Char) : Option Binary64 := do
  let (mantissa, exponent) := splitExponent text
  let (whole, fraction) := splitPoint mantissa
  if exponent.isNone && fraction.isNone then none
  let whole ← wholeDigits? whole
  let fraction ←
    match fraction with
    | none => some []
    | some digits => ungroup? isDigit digits
  let exponent ← exponent? exponent
  return Binary64.ofDecimal negative (ofDigits 10 (whole ++ fraction)) (exponent - fraction.length)

/-- The value of a floating point number: beyond all finite ones only its numeral is left. -/
def floatValue (written : List Char) : Binary64 → Value
  | .infinite _ => .numeral (String.ofList written)
  | number => .float number

/-- Reads a floating point number or one of the names for what is none. -/
def float? (text : List Char) : Option Value :=
  let (negative, size) := splitSign text
  if size = ['i', 'n', 'f'] then some (.float (.infinite negative))
  else if size = ['n', 'a', 'n'] then some (.float .nan)
  else (decimal? negative size).map (floatValue text)

/-! ## Dates and times -/

/-- Reads two digits as a number of at most `limit`. -/
def twoDigits? (limit : Nat) : List Char → Option (Nat × List Char)
  | a :: b :: rest =>
    if isDigit a && isDigit b && ofDigits 10 [a, b] ≤ limit then some (ofDigits 10 [a, b], rest)
    else none
  | _ => none

/-- The number of days of a month. -/
def daysIn (year month : Nat) : Nat :=
  if month = 2 then if year % 4 = 0 && (year % 100 ≠ 0 || year % 400 = 0) then 29 else 28
  else if month = 4 || month = 6 || month = 9 || month = 11 then 30
  else 31

/-- Reads a date that exists and gives what stands behind it. -/
def date? : List Char → Option (List Char)
  | a :: b :: c :: d :: '-' :: rest =>
    if [a, b, c, d].all isDigit then
      match twoDigits? 12 rest with
      | some (month, '-' :: rest) =>
        if month = 0 then none
        else
          match twoDigits? (daysIn (ofDigits 10 [a, b, c, d]) month) rest with
          | some (day, rest) => if day = 0 then none else some rest
          | none => none
      | _ => none
    else none
  | _ => none

/-- Drops a fraction of a second: a point and at least one digit. -/
def dropFraction? : List Char → Option (List Char)
  | '.' :: rest => if (rest.takeWhile isDigit).isEmpty then none else some (rest.dropWhile isDigit)
  | text => some text

/-- Reads a time of day, the seconds of which may be left out, and gives what stands behind it. -/
def time? (text : List Char) : Option (List Char) :=
  match twoDigits? 23 text with
  | some (_, ':' :: rest) =>
    match twoDigits? 59 rest with
    | some (_, ':' :: rest) => (twoDigits? 60 rest).bind fun (_, rest) => dropFraction? rest
    | some (_, rest) => some rest
    | none => none
  | _ => none

/-- Whether a text is an offset from universal time, or nothing. -/
def isOffset : List Char → Bool
  | [] => true
  | c :: rest =>
    if c = 'Z' || c = 'z' then rest.isEmpty
    else if c = '+' || c = '-' then
      match twoDigits? 23 rest with
      | some (_, ':' :: rest) =>
        match twoDigits? 59 rest with
        | some (_, rest) => rest.isEmpty
        | none => false
      | _ => false
    else false

/-- Whether a text is a date, a time, or a date with a time and perhaps an offset. -/
def isDatetime (text : List Char) : Bool :=
  match date? text with
  | some [] => true
  | some (c :: rest) =>
    if c = 'T' || c = 't' || c = ' ' then
      match time? rest with
      | some rest => isOffset rest
      | none => false
    else false
  | none => time? text == some []

/-! ## The scalar of a run -/

/-- The characters of a run: all but those that end a scalar without quotes. -/
def isRun (c : Char) : Bool :=
  ['=', ',', '[', ']', '\x7b', '\x7d', '#', ' ', '\t', '\r', '\n'].all (c != ·)

/-- The scalar that a run of characters writes. -/
def scalar? (run : List Char) : Option Value :=
  if run = ['t', 'r', 'u', 'e'] then some (.boolean true)
  else if run = ['f', 'a', 'l', 's', 'e'] then some (.boolean false)
  else
    (integer? run)
      |>.or (float? run)
      |>.or (if isDatetime run then some (.datetime (String.ofList run)) else none)

/-- Whether a run goes on behind a blank: a date may be joined to its time by one. -/
def joinsTime (run rest : List Char) : Bool :=
  date? run == some [] &&
    match rest with
    | ' ' :: c :: _ => isDigit c
    | _ => false

/-- Reads a scalar without quotes. -/
def scalar (text : List Char) : Option (Value × List Char) :=
  let run := text.takeWhile isRun
  let rest := text.dropWhile isRun
  if joinsTime run rest then
    let time := (rest.drop 1).takeWhile isRun
    (scalar? (run ++ ' ' :: time)).map (·, (rest.drop 1).dropWhile isRun)
  else (scalar? run).map (·, rest)

end SourceGen.Toml
