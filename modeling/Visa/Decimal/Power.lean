namespace Visa.Decimal

/-! Powers of two and of ten, and scaling by them in either direction. -/

def twoTo (exponent : Nat) : Nat := Nat.pow 2 exponent

def tenTo (exponent : Nat) : Nat := Nat.pow 10 exponent

end Visa.Decimal
