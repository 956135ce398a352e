import SourceGen.Decimal.Binary64

/-!
# Shortest decimals

The decimal that stands for a binary number in text: the fewest digits that read back as the number,
and of those the nearest to its value. Grids of decimals are tried from coarse to fine, and on each
grid the two neighbours of the value suffice, since an interval that holds a point of the grid holds
one of them.
-/

namespace SourceGen

namespace Binary64

/-- A decimal: `digits · 10 ^ exponent`. -/
structure Digits where
  digits : Nat
  exponent : Int
deriving Inhabited

/-- Whether `digits · 10 ^ exponent` lies between the halves of the gaps around
`mantissa · 2 ^ binary`. The gap below a mantissa that is a power of two is half as wide, and the
ends belong to the interval exactly when the mantissa is even. All is compared in units of
`2 ^ (binary - 2)`. -/
def readsBack (mantissa : Nat) (binary : Int) (decimal : Digits) : Bool :=
  let (n, d) :=
    if 0 ≤ decimal.exponent then
      scaleBinary (decimal.digits * power 10 decimal.exponent.toNat) 1 (binary - 2)
    else scaleBinary decimal.digits (power 10 (-decimal.exponent).toNat) (binary - 2)
  let below := if mantissa = power 2 (precision - 1) && minExponent < binary then 1 else 2
  let low := (4 * mantissa - below) * d
  let high := (4 * mantissa + 2) * d
  if mantissa % 2 = 0 then low ≤ n && n ≤ high else low < n && n < high

/-- The distance of `digits · 10 ^ exponent` from `numerator / denominator`, times a factor that
does not depend on `digits`. -/
def distance (numerator denominator : Nat) (decimal : Digits) : Nat :=
  let (left, right) :=
    if 0 ≤ decimal.exponent then
      (decimal.digits * power 10 decimal.exponent.toNat * denominator, numerator)
    else (decimal.digits * denominator, numerator * power 10 (-decimal.exponent).toNat)
  max left right - min left right

/-- The neighbours of `numerator / denominator` on the grid of step `10 ^ exponent`. -/
def gridNeighbours (numerator denominator : Nat) (exponent : Int) : Digits × Digits :=
  let floor :=
    if 0 ≤ exponent then numerator / (denominator * power 10 exponent.toNat)
    else numerator * power 10 (-exponent).toNat / denominator
  (⟨floor, exponent⟩, ⟨floor + 1, exponent⟩)

/-- Which of two neighbours at the same distance is taken: the one further from zero, or the one
whose last digit is even. -/
inductive Tie where
  | up
  | even
deriving DecidableEq

/-- Whether the upper of two neighbours is taken. -/
def takesUpper (tie : Tie) (numerator denominator : Nat) (low high : Digits) : Bool :=
  let below := distance numerator denominator low
  let above := distance numerator denominator high
  above < below || (above = below && (tie = .up || low.digits % 2 = 1))

/-- The nearer of the neighbours that read back, on the coarsest of the grids from `exponent`
downwards that has one; `tries` bounds the search. Seventeen digits always suffice. -/
def searchDigits (tie : Tie) (mantissa : Nat) (binary : Int) (numerator denominator : Nat) :
    (tries : Nat) → (exponent : Int) → Digits
  | 0, exponent => (gridNeighbours numerator denominator exponent).1
  | tries + 1, exponent =>
    let (low, high) := gridNeighbours numerator denominator exponent
    match readsBack mantissa binary low, readsBack mantissa binary high with
    | true, true => if takesUpper tie numerator denominator low high then high else low
    | true, false => low
    | false, true => high
    | false, false => searchDigits tie mantissa binary numerator denominator tries (exponent - 1)

/-- The fewest digits that read back as a positive number, the nearest of those to its value. -/
def shortestDigits (tie : Tie) (mantissa : Nat) (binary : Int) : Digits :=
  let (numerator, denominator) :=
    if 0 ≤ binary then (mantissa * power 2 binary.toNat, 1) else (mantissa, power 2 (-binary).toNat)
  -- the first grid is coarser than the value itself
  let start : Int :=
    if denominator ≤ numerator then (Nat.toDigits 10 (numerator / denominator)).length
    else 1 - (Nat.toDigits 10 (denominator / numerator)).length
  searchDigits tie mantissa binary numerator denominator 20 start

end Binary64

end SourceGen
