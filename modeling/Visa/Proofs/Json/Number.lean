import Visa.Proofs.Json.Numeral

namespace Visa.Json.Number

/-! What a number literal looks like, told from the text that a scan takes away. -/

/-! ## Decimal digits -/

theorem digitChar_sub {letter : Char} (digit : letter.isDigit) :
    Nat.digitChar (letter.toNat - '0'.toNat) = letter ∧ letter.toNat - '0'.toNat < 10 := by
  have bounds := Char.isDigit_iff_toNat.mp digit
  have lower : '0'.toNat = 48 := rfl
  have upper : '9'.toNat = 57 := rfl
  have small : letter.toNat - '0'.toNat < 10 := by omega
  refine ⟨Char.toNat_inj.mp ?_, small⟩
  rw [Nat.toNat_digitChar_of_lt_ten small]
  omega

theorem toDigits_ofDigitChars_of_pos {start : Nat} {run : List Char} (positive : 0 < start)
    (digits : ∀ letter ∈ run, letter.isDigit) :
    Nat.toDigits 10 (Nat.ofDigitChars 10 run start) = Nat.toDigits 10 start ++ run := by
  induction run generalizing start with
  | nil => simp
  | cons letter rest ih =>
      obtain ⟨same, small⟩ := digitChar_sub (digits letter List.mem_cons_self)
      rw [Nat.ofDigitChars_cons,
        ih (by omega) (fun other member => digits other (List.mem_cons_of_mem _ member)),
        ← Nat.toDigits_append_toDigits (by decide) positive small,
        Nat.toDigits_of_lt_base small, same, List.append_assoc, List.singleton_append]

theorem toDigits_ofDigitChars {run : List Char} (nonempty : run ≠ [])
    (digits : ∀ letter ∈ run, letter.isDigit)
    (canonical : run.head? = some '0' → run.length = 1) :
    Nat.toDigits 10 (Nat.ofDigitChars 10 run 0) = run := by
  cases run with
  | nil => contradiction
  | cons letter rest =>
      obtain ⟨same, small⟩ := digitChar_sub (digits letter List.mem_cons_self)
      rw [Nat.ofDigitChars_cons, Nat.mul_zero, Nat.zero_add]
      by_cases zero : letter = '0'
      · have alone : rest = [] := by
          have length := canonical (by rw [zero, List.head?_cons])
          simpa using length
        rw [alone, zero]
        rfl
      · have positive : 0 < letter.toNat - '0'.toNat := by
          apply Nat.pos_of_ne_zero
          intro none
          apply zero
          rw [← same, none]
          rfl
        rw [toDigits_ofDigitChars_of_pos positive
            (fun other member => digits other (List.mem_cons_of_mem _ member)),
          Nat.toDigits_of_lt_base small, same, List.singleton_append]

/-! ## Literals -/

theorem eq_of_ofParts_eq_natural {parts : Parts} {value : Nat}
    (whole : ofParts parts = .natural value) :
    parts.negative = false ∧ parts.fraction = none ∧ parts.exponent = none ∧
      Nat.ofDigitChars 10 parts.integer 0 = value := by
  have noFraction (isNegative : Bool) (magnitude : Option Decimal.Binary) :
      ofBinary? isNegative magnitude ≠ .natural value := by
    cases magnitude <;> simp [ofBinary?]
  unfold ofParts at whole
  split at whole
  · rename_i fraction exponent
    unfold ofInteger at whole
    cases sign : parts.negative with
    | true =>
        simp only [sign, if_true] at whole
        split at whole
        · exact absurd whole (noFraction _ _)
        · contradiction
    | false =>
        simp only [sign, Bool.false_eq_true, if_false] at whole
        split at whole
        · exact absurd whole (noFraction _ _)
        · exact ⟨rfl, fraction, exponent, Number.natural.inj whole⟩
  · exact absurd whole (noFraction _ _)

/-- A scan takes a literal off the text. A literal for a natural number is the number in decimal
digits; all that is said of the others is what they are made of and what they start with. -/
theorem exists_append_of_scan {text rest : List Char} {value : Number}
    (found : scan text = .ok (value, rest)) :
    ∃ literal, text = literal ++ rest ∧ literal ≠ [] ∧ (∀ letter ∈ literal, isNumeral letter) ∧
      (∀ natural, value = .natural natural → literal = Nat.toDigits 10 natural) ∧
      ∀ letter ∈ literal.head?, Starts letter := by
  obtain ⟨numeral, rfl, whole⟩ := exists_numeral_of_scan found
  refine ⟨numeral.text, whole, ?_, fun _ => Numeral.isNumeral_of_mem, ?_, ?_⟩
  · exact List.append_ne_nil_of_left_ne_nil numeral.start_ne_nil _
  · intro natural same
    obtain ⟨positive, noPart, noPower, value⟩ := eq_of_ofParts_eq_natural same
    have digits : numeral.text = numeral.whole.letters := by
      have unsigned : numeral.isNegative = false := positive
      have noFraction : numeral.fraction = none := Option.map_eq_none_iff.mp noPart
      have noExponent : numeral.exponent = none := Option.map_eq_none_iff.mp noPower
      simp [Numeral.text, Numeral.start, Numeral.ending, unsigned, noFraction, noExponent,
        Numeral.fractionText, Numeral.exponentText]
    rw [digits, ← value]
    exact (toDigits_ofDigitChars numeral.whole.nonempty numeral.whole.isDigit_of_mem
      numeral.canonical).symm
  · intro letter first
    rw [Numeral.text, List.head?_append_of_ne_nil _ numeral.start_ne_nil] at first
    exact Numeral.starts_of_mem_start (List.mem_of_head? first)

end Visa.Json.Number
