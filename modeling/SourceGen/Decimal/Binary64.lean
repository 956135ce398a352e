/-!
# Binary floating point numbers

The numbers of the 64-bit binary format, held exactly as a sign, a mantissa and a power of two, so
that reading and writing them is arithmetic on natural numbers. A quotient, and with it a decimal,
is rounded to the nearest number of the format, a tie going to the even mantissa. `ofDecimal` rounds
once; `ofScaled` is the cheaper reading that rounds the digits first and then their product with a
power of ten.
-/

namespace SourceGen

/-- A number of the 64-bit binary format. A finite one is `mantissa · 2 ^ exponent`, negated when
`negative`; the infinite ones are beyond all of these. -/
inductive Binary64 where
  | finite (negative : Bool) (mantissa : Nat) (exponent : Int)
  | infinite (negative : Bool)
  | nan
deriving DecidableEq, Inhabited

namespace Binary64

/-- The exponent of the smallest positive number. -/
def minExponent : Int := -1074

/-- The largest exponent of a finite number with a full mantissa. -/
def maxExponent : Int := 971

/-- The number of bits of a full mantissa. -/
def precision : Nat := 53

/-- A power of a natural number. -/
abbrev power (base exponent : Nat) : Nat :=
  Nat.pow base exponent

/-- `numerator / denominator · 2 ^ -shift` as a quotient of natural numbers. -/
def scaleBinary (numerator denominator : Nat) (shift : Int) : Nat × Nat :=
  if 0 ≤ shift then (numerator, denominator * power 2 shift.toNat)
  else (numerator * power 2 (-shift).toNat, denominator)

/-- The quotient rounded to the nearest natural number, a half going to the even neighbour. -/
def roundHalfEven (numerator denominator : Nat) : Nat :=
  let quotient := numerator / denominator
  let twice := 2 * (numerator % denominator)
  if denominator < twice || (twice = denominator && quotient % 2 = 1) then quotient
    + 1 else quotient

/-- The number nearest to a positive quotient. -/
def ofQuotient (negative : Bool) (numerator denominator : Nat) : Binary64 :=
  if numerator = 0 then finite negative 0 minExponent
  else
    -- the leading bit of the quotient is at `guess` or one below it
    let guess : Int := (numerator.log2 : Int) - denominator.log2
    let tooHigh :=
      let (n, d) := scaleBinary numerator denominator guess
      n < d
    let leading : Int := if tooHigh then guess - 1 else guess
    let exponent : Int := max (leading - Int.ofNat (precision - 1)) minExponent
    let (n, d) := scaleBinary numerator denominator exponent
    let mantissa := roundHalfEven n d
    let (mantissa, exponent) :=
      if mantissa = power 2 precision then (power 2 (precision - 1), exponent + 1)
      else (mantissa, exponent)
    if maxExponent < exponent then infinite negative else finite negative mantissa exponent

/-- The number nearest to `digits · 10 ^ exponent`. Values far outside the range of the format are
settled by their size alone. -/
def ofDecimal (negative : Bool) (digits : Nat) (exponent : Int) : Binary64 :=
  let size : Int := (Nat.toDigits 10 digits).length + exponent
  if digits = 0 || size < -400 then finite negative 0 minExponent
  else if 400 < size then infinite negative
  else if 0 ≤ exponent then ofQuotient negative (digits * power 10 exponent.toNat) 1
  else ofQuotient negative digits (power 10 (-exponent).toNat)

/-! ## Scaling by powers of ten -/

/-- The largest exponent of a power of ten that is finite. -/
def maxTen : Nat := 308

/-- The number nearest to a power of ten. -/
def powerOfTen (exponent : Nat) : Binary64 :=
  ofDecimal false 1 exponent

/-- A number times a positive one, rounded. -/
def times : Binary64 → Binary64 → Binary64
  | finite negative m e, finite _ n f =>
    let (numerator, denominator) := scaleBinary (m * n) 1 (-(e + f))
    ofQuotient negative numerator denominator
  | nan, _ | _, nan => nan
  | infinite negative, _ | finite negative _ _, infinite _ => infinite negative

/-- A number over a positive one, rounded. -/
def dividedBy : Binary64 → Binary64 → Binary64
  | finite negative m e, finite _ n f =>
    let (numerator, denominator) := scaleBinary m n (f - e)
    ofQuotient negative numerator denominator
  | nan, _ | _, nan => nan
  | infinite negative, _ => infinite negative
  | finite negative _ _, infinite _ => finite negative 0 minExponent

/-- Scales a number that is not zero by a power of ten. An exponent below the range of powers is
taken in steps of the largest one, `steps` of them at most. -/
def scaleTen : (steps : Nat) → Binary64 → (exponent : Int) → Binary64
  | 0, number, _ => number
  | steps + 1, number, exponent =>
    if exponent < -(maxTen : Int) then
      scaleTen steps (number.dividedBy (powerOfTen maxTen)) (exponent + maxTen)
    else if exponent < 0 then number.dividedBy (powerOfTen exponent.natAbs)
    else if exponent ≤ maxTen then number.times (powerOfTen exponent.natAbs)
    else number.times (infinite false)

/-- Reads `digits · 10 ^ exponent` by scaling the number nearest to `digits`. The result may differ
from the nearest number in its last bit. After four steps down nothing is left of digits that fit 64
bits. -/
def ofScaled (negative : Bool) (digits : Nat) (exponent : Int) : Binary64 :=
  if digits = 0 then finite negative 0 minExponent
  else scaleTen 4 (ofQuotient negative digits 1) exponent

end Binary64

end SourceGen
