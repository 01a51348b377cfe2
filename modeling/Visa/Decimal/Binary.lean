import Visa.Decimal.Power

namespace Visa.Decimal

/-! Binary fractions of 53 bits, in exact integer arithmetic. -/

/-- The number `significand * 2 ^ exponent`. -/
structure Binary where
  significand : Nat
  exponent : Int
deriving DecidableEq, Repr

namespace Binary

/-- The least exponent; at this exponent alone the significand may be below `2 ^ 52`. -/
def leastExponent : Int := -1074

def greatestExponent : Int := 971

def zero : Binary := ⟨0, leastExponent⟩

def isZero (number : Binary) : Bool := number.significand == 0

def numerator (number : Binary) : Nat := number.significand * twoTo number.exponent.toNat

def denominator (number : Binary) : Nat := twoTo (-number.exponent).toNat

/-- The nearest integer to a quotient; of two that are equally near, the even one. -/
def roundQuotient (numerator denominator : Nat) : Nat :=
  let quotient := numerator / denominator
  let twice := 2 * (numerator % denominator)
  if twice < denominator then quotient
  else if denominator < twice then quotient + 1
  else quotient + quotient % 2

/-- The quotient in units of `2 ^ exponent`, rounded to an integer. -/
def roundAt (numerator denominator : Nat) (exponent : Int) : Nat :=
  roundQuotient (numerator * twoTo (-exponent).toNat) (denominator * twoTo exponent.toNat)

/-- The exponent at which a positive quotient has a 53-bit significand, or the least one. -/
def exponentOf (numerator denominator : Nat) : Int :=
  let estimate : Int := (numerator.log2 : Int) - (denominator.log2 : Int) - 52
  let units := numerator * twoTo (-estimate).toNat / (denominator * twoTo estimate.toNat)
  max (if units < twoTo 52 then estimate - 1 else estimate) leastExponent

/-- The nearest binary fraction to a quotient, if the quotient is not too large. -/
def nearest? (numerator denominator : Nat) : Option Binary :=
  if numerator = 0 then some zero
  else
    let exponent := exponentOf numerator denominator
    let significand := roundAt numerator denominator exponent
    let rounded : Binary :=
      if significand = twoTo 53 then ⟨twoTo 52, exponent + 1⟩ else ⟨significand, exponent⟩
    if greatestExponent < rounded.exponent then none else some rounded

def ofNat? (value : Nat) : Option Binary := nearest? value 1

def mul? (left right : Binary) : Option Binary :=
  nearest? (left.numerator * right.numerator) (left.denominator * right.denominator)

def div? (left right : Binary) : Option Binary :=
  nearest? (left.numerator * right.denominator) (left.denominator * right.numerator)

end Binary

end Visa.Decimal
