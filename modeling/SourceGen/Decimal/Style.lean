import SourceGen.Decimal.Shortest

/-!
# Written numbers

How a binary floating point number stands in text. A `Style` says which numbers are written with an
exponent and how ties between shortest decimals are settled; the digits are the shortest ones in
every style.
-/

namespace SourceGen

namespace Binary64

/-- A way of writing numbers: which exponents of the first digit are written out in zeros, and which
of two shortest decimals at the same distance is written. -/
structure Style where
  isPositional : Int → Bool
  tie : Tie

namespace Style

/-- No exponents; of two decimals at the same distance the greater one. -/
def plain : Style where
  isPositional _ := true
  tie := .up

/-- The style of JSON: an exponent for numbers below a hundred-thousandth and for those with more
than sixteen digits in front of the point. -/
def json : Style where
  isPositional exponent := -5 ≤ exponent && exponent ≤ 15
  tie := .even

end Style

/-- The exponent of the first digit. -/
def firstExponent (decimal : Digits) : Int :=
  decimal.exponent + (Nat.toDigits 10 decimal.digits).length - 1

/-- The digits in positional form, with at least one digit after the point. -/
def positional (decimal : Digits) : String :=
  let digits := Nat.toDigits 10 decimal.digits
  let zeros (n : Nat) : List Char := List.replicate n '0'
  if 0 ≤ decimal.exponent then
    String.ofList (digits ++ zeros decimal.exponent.toNat ++ ['.', '0'])
  else
    let places := (-decimal.exponent).toNat
    let padded := zeros (places + 1 - digits.length) ++ digits
    let whole := padded.length - places
    String.ofList (padded.take whole ++ '.' :: padded.drop whole)

/-- The digits with a point behind the first one, if others follow, and the exponent with its
sign. -/
def scientific (decimal : Digits) : String :=
  let exponent := firstExponent decimal
  let mantissa :=
    match Nat.toDigits 10 decimal.digits with
    | first :: second :: rest => first :: '.' :: second :: rest
    | digits => digits
  let sign := if 0 ≤ exponent then '+' else '-'
  String.ofList (mantissa ++ 'e' :: sign :: Nat.toDigits 10 exponent.natAbs)

/-- The text of a positive number. -/
def Style.writePositive (style : Style) (mantissa : Nat) (exponent : Int) : String :=
  let decimal := shortestDigits style.tie mantissa exponent
  if style.isPositional (firstExponent decimal) then positional decimal else scientific decimal

/-- The text of a number. -/
def Style.write (style : Style) : Binary64 → String
  | finite negative mantissa exponent =>
    (if negative then "-" else "")
      ++ if mantissa = 0 then "0.0" else style.writePositive mantissa exponent
  | infinite negative => if negative then "-inf" else "inf"
  | nan => "NaN"

end Binary64

end SourceGen
