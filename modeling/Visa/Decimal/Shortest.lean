import Visa.Decimal.Binary

namespace Visa.Decimal

/-! The fewest decimal digits that determine a binary fraction. -/

/-- The number `digits * 10 ^ exponent`. -/
structure Digits where
  digits : Nat
  exponent : Int
deriving DecidableEq, Repr

/-- The numbers that round to one binary fraction, as an interval around it: three numerators over
one denominator, and whether the ends belong to it. -/
structure Surroundings where
  below : Nat
  value : Nat
  above : Nat
  denominator : Nat
  closed : Bool

/-- Halfway to each neighbour; below a power of two the neighbour is nearer. -/
def Binary.surroundings (number : Binary) : Surroundings :=
  let quarters := twoTo (number.exponent - 2).toNat
  let narrow := number.significand = twoTo 52 ∧ Binary.leastExponent < number.exponent
  { below := (4 * number.significand - if narrow then 1 else 2) * quarters
    value := 4 * number.significand * quarters
    above := (4 * number.significand + 2) * quarters
    denominator := twoTo (2 - number.exponent).toNat
    closed := number.significand % 2 == 0 }

/-- The number of digits before the decimal point; negative for leading zeros after it. -/
def pointOf (numerator denominator : Nat) : Int :=
  if denominator ≤ numerator then (Nat.toDigits 10 (numerator / denominator)).length
  else
    let zeros := (List.range 400).find? fun zeros => denominator ≤ numerator * tenTo (zeros + 1)
    Int.neg (zeros.getD 0)

namespace Surroundings

/-- Whether `digits * 10 ^ exponent` lies in the interval. -/
def admits (near : Surroundings) (candidate : Digits) : Bool :=
  let scaled := candidate.digits * tenTo candidate.exponent.toNat * near.denominator
  let unit := tenTo (-candidate.exponent).toNat
  if near.closed then decide (near.below * unit ≤ scaled) && decide (scaled ≤ near.above * unit)
  else decide (near.below * unit < scaled) && decide (scaled < near.above * unit)

/-- The two neighbours of the value on the grid of `10 ^ exponent`, the nearer one first; of two
that are equally near, the even one. -/
def neighbours (near : Surroundings) (exponent : Int) : List Digits :=
  let numerator := near.value * tenTo (-exponent).toNat
  let denominator := near.denominator * tenTo exponent.toNat
  let low := numerator / denominator
  let nearest := Binary.roundQuotient numerator denominator
  let other := if nearest = low then low + 1 else low
  [⟨nearest, exponent⟩, ⟨other, exponent⟩]

/-- The first grid, from coarse to fine, that has a point in the interval. -/
def shortest? (near : Surroundings) : Option Digits :=
  let point := pointOf near.value near.denominator
  (List.range 17).findSome? fun count =>
    (near.neighbours (point - (count + 1 : Nat))).find? near.admits

end Surroundings

/-- A round number keeps its zeros in the exponent. -/
def Digits.normalize (digits : Digits) : Digits :=
  if digits.digits % 10 = 0 then ⟨digits.digits / 10, digits.exponent + 1⟩ else digits

def Binary.shortest (number : Binary) : Digits :=
  ((number.surroundings.shortest?).getD ⟨0, 0⟩).normalize

/-- Where positional notation ends: the greatest number of digits before the point, and the
greatest number of zeros after it. -/
structure Layout where
  before : Int
  leadingZeros : Int

def zeroRun (count : Int) : List Char := List.replicate count.toNat '0'

/-- Digits as text: positional within the bounds, always with a fraction, and otherwise with a
signed exponent and no fraction that is not needed. -/
def Layout.write (layout : Layout) (number : Digits) : List Char :=
  let digits := Nat.toDigits 10 number.digits
  let point : Int := digits.length + number.exponent
  if 0 < point ∧ point ≤ layout.before then
    if 0 ≤ number.exponent then digits ++ zeroRun number.exponent ++ ['.', '0']
    else digits.take point.toNat ++ ['.'] ++ digits.drop point.toNat
  else if -layout.leadingZeros ≤ point ∧ point ≤ 0 then
    ['0', '.'] ++ zeroRun (-point) ++ digits
  else
    let exponent := point - 1
    let sign := if exponent < 0 then '-' else '+'
    let fraction := if digits.length = 1 then [] else '.' :: digits.drop 1
    digits.take 1 ++ fraction ++ ['e', sign] ++ Nat.toDigits 10 exponent.natAbs

end Visa.Decimal
