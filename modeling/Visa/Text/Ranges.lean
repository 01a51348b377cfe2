namespace Visa.Text

/-! Character properties given as tables of code point ranges, both ends included. -/

/-- Membership in a table whose ranges ascend; the search stops at the first range above the
code point. -/
def covers (code : Nat) : List (Nat × Nat) → Bool
  | [] => false
  | (low, high) :: more =>
      if code < low then false
      else if code ≤ high then true
      else covers code more

end Visa.Text
