namespace Visa.Text

/-! Digits, and the numbers that they write. -/

/-- The value of a digit; the letters of hexadecimal digits may have either case. -/
def hexDigit? (letter : Char) : Option Nat :=
  if letter.isDigit then some (letter.toNat - '0'.toNat)
  else if 'a' ≤ letter ∧ letter ≤ 'f' then some (letter.toNat - 'a'.toNat + 10)
  else if 'A' ≤ letter ∧ letter ≤ 'F' then some (letter.toNat - 'A'.toNat + 10)
  else none

def isHexDigit (letter : Char) : Bool := (hexDigit? letter).isSome

/-- The value of digits, counted from the first; no base is above sixteen. -/
def valueOf (base : Nat) (digits : List Char) : Nat :=
  digits.foldl (fun sum letter => sum * base + (hexDigit? letter).getD 0) 0

/-- The number that hexadecimal digits write, such as a code point or a code unit. -/
def code? (digits : List Char) : Option Nat :=
  if digits.all isHexDigit then some (valueOf 16 digits) else none

/-- The mark between a number and its exponent to the base ten. -/
def isExponentMark (letter : Char) : Bool := letter == 'e' || letter == 'E'

end Visa.Text
