import Visa.Country
import Visa.Document
import Visa.Json.Literal
import Visa.Permit
import Visa.Proofs.Trim
import Visa.Purpose
import Visa.Record.Member

namespace Visa.Vocabulary

/-! The letters of tokens. None of them is a blank or means anything in JSON, and the name of a
field has others, so a token stands for itself wherever a text has one. -/

def isCapital (letter : Char) : Bool := ('A' ≤ letter && letter ≤ 'Z') || letter == '_'

structure IsCapital (text : String) : Prop where
  nonempty : text.toList ≠ []
  letters : text.toList.all isCapital

/-- A vocabulary whose tokens are made of capital letters and underscores. -/
class Capital (α : Type) [Vocabulary α] : Prop where
  capital (member : α) : IsCapital (token member)

instance : Capital Country where
  capital member := by cases member <;> exact ⟨by decide, by decide⟩

instance : Capital Purpose where
  capital member := by cases member <;> exact ⟨by decide, by decide⟩

instance : Capital Category where
  capital member := by cases member <;> exact ⟨by decide, by decide⟩

instance : Capital Kind where
  capital member := by cases member <;> exact ⟨by decide, by decide⟩

instance : Capital Document where
  capital member := by cases member <;> exact ⟨by decide, by decide⟩

theorem toNat_of_isCapital {letter : Char} (capital : isCapital letter) :
    'A'.toNat ≤ letter.toNat ∧ letter.toNat ≤ '_'.toNat := by
  simp only [isCapital, Bool.or_eq_true, Bool.and_eq_true, decide_eq_true_eq, beq_iff_eq,
    Char.le_def, UInt32.le_iff_toNat_le, Char.toNat_val] at capital
  rcases capital with ⟨lower, upper⟩ | rfl
  · exact ⟨lower, Nat.le_trans upper (by decide)⟩
  · decide

theorem escaped_of_isCapital {letter : Char} (capital : isCapital letter) :
    Json.Literal.escaped letter = [letter] := by
  have different (other : Char) (foreign : isCapital other = false) : letter ≠ other := by
    rintro rfl
    rw [capital] at foreign
    contradiction
  have lower := (toNat_of_isCapital capital).1
  have first : 'A'.toNat = 65 := rfl
  rw [Json.Literal.escaped, if_neg (different '"' (by decide)),
    if_neg (different '\\' (by decide)), if_neg (different '\x08' (by decide)),
    if_neg (different '\x0c' (by decide)), if_neg (different '\n' (by decide)),
    if_neg (different '\r' (by decide)), if_neg (different '\t' (by decide)),
    if_neg (by omega)]

namespace IsCapital

variable {text : String}

theorem isCapital_of_mem (capital : IsCapital text) :
    ∀ letter ∈ text.toList, isCapital letter :=
  List.all_eq_true.mp capital.letters

theorem not_mem (capital : IsCapital text) {letter : Char} (other : isCapital letter = false) :
    letter ∉ text.toList := by
  intro inside
  rw [capital.isCapital_of_mem letter inside] at other
  contradiction

theorem trim (capital : IsCapital text) : Text.trim text.toList = text.toList := by
  apply Text.trim_of_solid
  intro letter inside
  obtain ⟨lower, upper⟩ := toNat_of_isCapital (capital.isCapital_of_mem letter inside)
  have first : 'A'.toNat = 65 := rfl
  have last : '_'.toNat = 95 := rfl
  exact Text.isBlank_of_visible (by omega) (by omega)

theorem ne_name (capital : IsCapital text) (field : Record.Field) : text ≠ field.name := by
  rintro rfl
  have letters := capital.letters
  revert letters
  cases field <;> decide

end IsCapital

end Visa.Vocabulary
