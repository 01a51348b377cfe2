import Visa.Text.Search

namespace Visa.DayCount

/-! Day counts are 32-bit words. In a rule record they have to fit a signed word, in an answer
an unsigned one, and each of the two allows a sign of its own. -/

/-- The value of a non-empty run of ASCII digits. -/
def digits? (text : List Char) : Option Nat :=
  if text.isEmpty || !text.all Char.isDigit then none
  else some (Nat.ofDigitChars 10 text 0)

def upTo (limit value : Nat) : Option UInt32 :=
  if value ≤ limit then some (UInt32.ofNat value) else none

def recordLimit : Nat := 2147483647

def answerLimit : Nat := 4294967295

/-- A minus sign is read, but only zero may carry it. -/
def ofRecord? : List Char → Option UInt32
  | '-' :: text => (digits? text).bind (upTo 0)
  | text => (digits? text).bind (upTo recordLimit)

/-- A plus sign may precede the digits. -/
def ofAnswer? : List Char → Option UInt32
  | '+' :: text => (digits? text).bind (upTo answerLimit)
  | text => (digits? text).bind (upTo answerLimit)

theorem toNat_of_upTo {limit value : Nat} {count : UInt32} (inWord : limit < UInt32.size)
    (found : upTo limit value = some count) : count.toNat = value ∧ value ≤ limit := by
  simp only [upTo, Option.ite_none_right_eq_some, Option.some.injEq] at found
  obtain ⟨bound, rfl⟩ := found
  exact ⟨UInt32.toNat_ofNat_of_lt' (Nat.lt_of_le_of_lt bound inWord), bound⟩

theorem toNat_le_of_ofRecord? {text : List Char} {count : UInt32}
    (found : ofRecord? text = some count) : count.toNat ≤ recordLimit := by
  unfold ofRecord? at found
  split at found
  · obtain ⟨value, _, inside⟩ := Option.bind_eq_some_iff.mp found
    obtain ⟨same, bound⟩ := toNat_of_upTo (by decide) inside
    exact same ▸ Nat.le_trans bound (by decide)
  · obtain ⟨value, _, inside⟩ := Option.bind_eq_some_iff.mp found
    obtain ⟨same, bound⟩ := toNat_of_upTo (by decide) inside
    exact same ▸ bound

end Visa.DayCount
