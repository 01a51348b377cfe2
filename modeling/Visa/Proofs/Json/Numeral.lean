import Visa.Json.Number
import Visa.Proofs.Outcome

namespace Visa.Json

/-! Number literals in their parts. A scan takes such a literal off the text, and nothing else. -/

/-! ## Parts -/

/-- Decimal digits, at least one. -/
structure Digits where
  letters : List Char
  nonempty : letters ≠ []
  digits : letters.all Char.isDigit

namespace Digits

def value (run : Digits) : Nat := Nat.ofDigitChars 10 run.letters 0

theorem isDigit_of_mem (run : Digits) : ∀ letter ∈ run.letters, letter.isDigit :=
  List.all_eq_true.mp run.digits

end Digits

inductive Sign where
  | absent
  | plus
  | minus

namespace Sign

def text : Sign → List Char
  | .absent => []
  | .plus => ['+']
  | .minus => ['-']

def isNegative : Sign → Bool
  | .minus => true
  | _ => false

end Sign

structure Exponent where
  mark : Char
  isMark : mark = 'e' ∨ mark = 'E'
  sign : Sign
  run : Digits

namespace Exponent

def text (exponent : Exponent) : List Char :=
  exponent.mark :: (exponent.sign.text ++ exponent.run.letters)

def value (exponent : Exponent) : Int :=
  if exponent.sign.isNegative then -(exponent.run.value : Int) else exponent.run.value

end Exponent

/-- The integer part has no zero in front of other digits. -/
structure Numeral where
  isNegative : Bool
  whole : Digits
  canonical : whole.letters.head? = some '0' → whole.letters.length = 1
  fraction : Option Digits
  exponent : Option Exponent

namespace Numeral

variable (numeral : Numeral)

/-- The sign and the integer part. -/
def start : List Char := (if numeral.isNegative then ['-'] else []) ++ numeral.whole.letters

def fractionText (fraction : Option Digits) : List Char :=
  fraction.elim [] fun run => '.' :: run.letters

def exponentText (exponent : Option Exponent) : List Char := exponent.elim [] Exponent.text

/-- What may follow the integer part. -/
def ending : List Char := fractionText numeral.fraction ++ exponentText numeral.exponent

def text : List Char := numeral.start ++ numeral.ending

def parts : Number.Parts where
  negative := numeral.isNegative
  integer := numeral.whole.letters
  fraction := numeral.fraction.map Digits.letters
  exponent := numeral.exponent.map Exponent.value

end Numeral

/-! ## Letters -/

namespace Number

def isNumeral (letter : Char) : Bool := letter.isDigit || "-+.eE".toList.contains letter

theorem isNumeral_of_isDigit {letter : Char} (digit : letter.isDigit) : isNumeral letter := by
  rw [isNumeral, digit, Bool.true_or]

/-- What a literal can start with. -/
def Starts (letter : Char) : Prop := letter.isDigit ∨ letter = '-'

end Number

open Number (Starts isNumeral isNumeral_of_isDigit)

namespace Numeral

variable {numeral : Numeral} {letter : Char}

theorem starts_of_mem_start (inside : letter ∈ numeral.start) : Starts letter := by
  rcases List.mem_append.mp inside with inSign | inWhole
  · right
    cases negative : numeral.isNegative with
    | true => simpa [negative] using inSign
    | false => simp [negative] at inSign
  · exact .inl (numeral.whole.isDigit_of_mem letter inWhole)

theorem start_ne_nil : numeral.start ≠ [] :=
  List.append_ne_nil_of_right_ne_nil _ numeral.whole.nonempty

theorem isNumeral_of_mem_exponentText {exponent : Option Exponent}
    (inside : letter ∈ exponentText exponent) : isNumeral letter := by
  cases exponent with
  | none => contradiction
  | some exponent =>
      rcases List.mem_cons.mp inside with rfl | later
      · rcases exponent.isMark with same | same <;> rw [same] <;> decide
      rcases List.mem_append.mp later with inSign | inRun
      · cases sign : exponent.sign <;> simp [sign, Sign.text] at inSign <;> rw [inSign] <;> decide
      · exact isNumeral_of_isDigit (exponent.run.isDigit_of_mem letter inRun)

theorem isNumeral_of_mem_fractionText {fraction : Option Digits}
    (inside : letter ∈ fractionText fraction) : isNumeral letter := by
  cases fraction with
  | none => contradiction
  | some run =>
      rcases List.mem_cons.mp inside with rfl | inRun
      · decide
      · exact isNumeral_of_isDigit (run.isDigit_of_mem letter inRun)

theorem isNumeral_of_mem (inside : letter ∈ numeral.text) : isNumeral letter := by
  rcases List.mem_append.mp inside with inStart | inEnding
  · rcases starts_of_mem_start inStart with digit | rfl
    · exact isNumeral_of_isDigit digit
    · decide
  · rcases List.mem_append.mp inEnding with inFraction | inExponent
    · exact isNumeral_of_mem_fractionText inFraction
    · exact isNumeral_of_mem_exponentText inExponent

/-! ## Ends of runs -/

variable {accepts : Char → Bool} {rest : List Char}

theorem takeWhile_exponentText (exponent : Option Exponent)
    (refused : accepts 'e' = false ∧ accepts 'E' = false)
    (stops : rest.takeWhile accepts = []) :
    (exponentText exponent ++ rest).takeWhile accepts = [] := by
  cases exponent with
  | none => exact stops
  | some exponent =>
      have notAccepted : accepts exponent.mark = false := by
        rcases exponent.isMark with same | same
        · rw [same, refused.1]
        · rw [same, refused.2]
      exact List.takeWhile_cons_of_neg (by simp [notAccepted])

/-- A run of letters that goes on neither with a point nor with an exponent ends where the integer
part does. -/
theorem takeWhile_ending (numeral : Numeral)
    (refused : accepts '.' = false ∧ accepts 'e' = false ∧ accepts 'E' = false)
    (stops : rest.takeWhile accepts = []) :
    (numeral.ending ++ rest).takeWhile accepts = [] := by
  rw [ending, List.append_assoc]
  cases numeral.fraction with
  | none => exact takeWhile_exponentText _ refused.2 stops
  | some run => exact List.takeWhile_cons_of_neg (by simp [refused.1])

end Numeral

/-! ## Scans that succeed -/

namespace Number

open Numeral (exponentText fractionText)

variable {text rest : List Char}

theorem exists_of_digits {letters : List Char} (found : digits text = .ok (letters, rest)) :
    ∃ run : Digits, run.letters = letters ∧ text = run.letters ++ rest := by
  have whole := List.takeWhile_append_dropWhile (p := Char.isDigit) (l := text)
  have all : (text.takeWhile Char.isDigit).all Char.isDigit := List.all_takeWhile
  unfold digits at found
  generalize text.takeWhile Char.isDigit = front at found whole all
  generalize text.dropWhile Char.isDigit = back at found whole
  cases front with
  | nil => cases back <;> cases found
  | cons letter front =>
      simp only [Except.ok.injEq, Prod.mk.injEq] at found
      obtain ⟨rfl, rfl⟩ := found
      exact ⟨⟨_, List.cons_ne_nil _ _, all⟩, rfl, whole.symm⟩

theorem exists_of_integerPart {letters : List Char}
    (found : integerPart text = .ok (letters, rest)) :
    ∃ run : Digits, run.letters = letters ∧ text = run.letters ++ rest ∧
      (run.letters.head? = some '0' → run.letters.length = 1) := by
  obtain ⟨⟨front, back⟩, first, next⟩ := Outcome.bind_eq_ok_iff.mp found
  obtain ⟨run, rfl, whole⟩ := exists_of_digits first
  simp only at next
  split at next
  · contradiction
  · rename_i canonical
    simp only [Except.ok.injEq, Prod.mk.injEq] at next
    obtain ⟨rfl, rfl⟩ := next
    refine ⟨run, rfl, whole, fun zero => ?_⟩
    exact Decidable.not_not.mp fun long => canonical ⟨zero, long⟩

theorem exists_of_fractionPart {part : Option (List Char)}
    (found : fractionPart text = .ok (part, rest)) :
    ∃ fraction : Option Digits, fraction.map Digits.letters = part ∧
      text = fractionText fraction ++ rest := by
  unfold fractionPart at found
  split at found
  · obtain ⟨⟨letters, back⟩, first, same⟩ := Outcome.map_eq_ok_iff.mp found
    obtain ⟨run, rfl, whole⟩ := exists_of_digits first
    simp only [Prod.mk.injEq] at same
    obtain ⟨rfl, rfl⟩ := same
    exact ⟨some run, rfl, congrArg _ whole⟩
  · simp only [Except.ok.injEq, Prod.mk.injEq] at found
    obtain ⟨rfl, rfl⟩ := found
    exact ⟨none, rfl, rfl⟩

theorem exists_of_signed (text : List Char) :
    ∃ sign : Sign, sign.isNegative = (signed text).1 ∧ text = sign.text ++ (signed text).2 := by
  unfold signed
  split
  · exact ⟨.minus, rfl, rfl⟩
  · exact ⟨.plus, rfl, rfl⟩
  · exact ⟨.absent, rfl, rfl⟩

theorem exists_of_exponentPart {power : Option Int}
    (found : exponentPart text = .ok (power, rest)) :
    ∃ exponent : Option Exponent, exponent.map Exponent.value = power ∧
      text = exponentText exponent ++ rest := by
  unfold exponentPart at found
  split at found
  · rename_i mark back
    split at found
    · rename_i isMark
      obtain ⟨⟨letters, tail⟩, first, next⟩ := Outcome.bind_eq_ok_iff.mp found
      change digits (signed back).2 = .ok (letters, tail) at first
      obtain ⟨sign, negative, unsigned⟩ := exists_of_signed back
      obtain ⟨run, rfl, whole⟩ := exists_of_digits first
      simp only [Except.ok.injEq, Prod.mk.injEq] at next
      obtain ⟨rfl, rfl⟩ := next
      refine ⟨some ⟨mark, isMark, sign, run⟩, ?_, ?_⟩
      · simp only [Option.map_some, Exponent.value, negative, Digits.value]
        rfl
      · rw [unsigned, whole]
        simp [exponentText, Exponent.text]
    · simp only [Except.ok.injEq, Prod.mk.injEq] at found
      obtain ⟨rfl, rfl⟩ := found
      exact ⟨none, rfl, rfl⟩
  · simp only [Except.ok.injEq, Prod.mk.injEq] at found
    obtain ⟨rfl, rfl⟩ := found
    exact ⟨none, rfl, rfl⟩

/-- What a scan takes off the text is a literal, and its parts give the value. -/
theorem exists_numeral_of_scan {value : Number} (found : scan text = .ok (value, rest)) :
    ∃ numeral : Numeral, value = ofParts numeral.parts ∧ text = numeral.text ++ rest := by
  unfold scan at found
  split at found
  rename_i isNegative unsigned split
  have signs : text = (if isNegative then ['-'] else []) ++ unsigned := by
    split at split
    · cases split
      rfl
    · cases split
      rfl
  obtain ⟨⟨letters, afterWhole⟩, foundWhole, found⟩ := Outcome.bind_eq_ok_iff.mp found
  obtain ⟨⟨part, afterPart⟩, foundPart, found⟩ := Outcome.bind_eq_ok_iff.mp found
  obtain ⟨⟨power, afterPower⟩, foundPower, found⟩ := Outcome.bind_eq_ok_iff.mp found
  obtain ⟨whole, rfl, cutWhole, canonical⟩ := exists_of_integerPart foundWhole
  obtain ⟨fraction, rfl, cutPart⟩ := exists_of_fractionPart foundPart
  obtain ⟨exponent, rfl, cutPower⟩ := exists_of_exponentPart foundPower
  simp only [Except.ok.injEq, Prod.mk.injEq] at found
  obtain ⟨rfl, rfl⟩ := found
  refine ⟨⟨isNegative, whole, canonical, fraction, exponent⟩, rfl, ?_⟩
  rw [signs, cutWhole, cutPart, cutPower, Numeral.text, Numeral.start, Numeral.ending]
  simp only [List.append_assoc]

/-! ## Scans of literals -/

/-- A number would not go on with this text. -/
def Closed : List Char → Prop
  | [] => True
  | letter :: _ => isNumeral letter = false

theorem Closed.takeWhile (closed : Closed rest) (accepts : Char → Bool)
    (numerals : ∀ letter, accepts letter → isNumeral letter) : rest.takeWhile accepts = [] := by
  cases rest with
  | nil => rfl
  | cons letter rest =>
      refine List.takeWhile_cons_of_neg fun accepted => ?_
      exact Bool.false_ne_true (closed.symm.trans (numerals letter accepted))

theorem digits_append (run : Digits) (stops : rest.takeWhile Char.isDigit = []) :
    digits (run.letters ++ rest) = .ok (run.letters, rest) := by
  have left := List.takeWhile_append_dropWhile (p := Char.isDigit) (l := rest)
  rw [stops, List.nil_append] at left
  unfold digits
  rw [List.takeWhile_append_of_pos run.isDigit_of_mem,
    List.dropWhile_append_of_pos run.isDigit_of_mem, stops,
    left, List.append_nil]
  cases same : run.letters with
  | nil => exact absurd same run.nonempty
  | cons letter letters => rfl

theorem integerPart_append (run : Digits)
    (canonical : run.letters.head? = some '0' → run.letters.length = 1)
    (stops : rest.takeWhile Char.isDigit = []) :
    integerPart (run.letters ++ rest) = .ok (run.letters, rest) := by
  have single : ¬(run.letters.head? = some '0' ∧ run.letters.length ≠ 1) := fun ⟨zero, long⟩ =>
    long (canonical zero)
  simp only [integerPart, digits_append run stops, bind, Except.bind, if_neg single]

theorem fractionPart_append (fraction : Option Digits) (stops : rest.takeWhile Char.isDigit = [])
    (pointless : rest.head? ≠ some '.') :
    fractionPart (fractionText fraction ++ rest) =
      .ok (fraction.map Digits.letters, rest) := by
  cases fraction with
  | none =>
      change fractionPart rest = _
      unfold fractionPart
      split
      · contradiction
      · rfl
  | some run =>
      change (digits (run.letters ++ rest)).map _ = _
      rw [digits_append run stops]
      rfl

theorem signed_append (sign : Sign) (run : Digits) (rest : List Char) :
    signed (sign.text ++ (run.letters ++ rest)) = (sign.isNegative, run.letters ++ rest) := by
  cases sign with
  | minus | plus => rfl
  | absent =>
      cases same : run.letters with
      | nil => exact absurd same run.nonempty
      | cons letter letters =>
          have digit := run.isDigit_of_mem letter (by simp [same])
          change signed (letter :: (letters ++ rest)) = _
          unfold signed
          split
          · rename_i sign
            cases sign
            contradiction
          · rename_i sign
            cases sign
            contradiction
          · rfl

theorem exponentPart_append (exponent : Option Exponent) (closed : Closed rest) :
    exponentPart (exponentText exponent ++ rest) =
      .ok (exponent.map Exponent.value, rest) := by
  cases exponent with
  | none =>
      change exponentPart rest = _
      unfold exponentPart
      cases rest with
      | nil => rfl
      | cons letter rest =>
          have noMark : ¬(letter = 'e' ∨ letter = 'E') := by
            rintro (rfl | rfl) <;> contradiction
          simp only [if_neg noMark]
          rfl
  | some exponent =>
      have stops := closed.takeWhile Char.isDigit fun _ => isNumeral_of_isDigit
      have read := digits_append exponent.run stops
      simp only [exponentText, Option.elim_some, Exponent.text, List.cons_append,
        List.append_assoc, exponentPart, if_pos exponent.isMark, signed_append, read, bind,
        Except.bind]
      rfl

theorem head?_exponentText_append (exponent : Option Exponent) (closed : Closed rest) :
    (exponentText exponent ++ rest).head? ≠ some '.' := by
  cases exponent with
  | none =>
      change rest.head? ≠ _
      cases rest with
      | nil => nofun
      | cons letter rest =>
          rintro ⟨⟩
          contradiction
  | some exponent =>
      rcases exponent.isMark with same | same <;> simp [exponentText, Exponent.text, same]

/-- The sign is taken off first: what follows it starts with a digit. -/
theorem scan_start (numeral : Numeral) (rest : List Char) :
    scan (numeral.start ++ rest) = (do
      let (whole, rest) ← integerPart (numeral.whole.letters ++ rest)
      let (part, rest) ← fractionPart rest
      let (power, rest) ← exponentPart rest
      .ok (ofParts ⟨numeral.isNegative, whole, part, power⟩, rest)) := by
  rw [Numeral.start]
  cases numeral.isNegative with
  | true => rfl
  | false =>
      cases same : numeral.whole.letters with
      | nil => exact absurd same numeral.whole.nonempty
      | cons letter letters =>
          have digit := numeral.whole.isDigit_of_mem letter (by simp [same])
          change scan (letter :: (letters ++ rest)) = _
          unfold scan
          split
          rename_i signed
          split at signed
          · rename_i sign
            cases sign
            contradiction
          · cases signed
            rfl

/-- A literal in front of a text that it would not go on with is taken off as a whole. -/
theorem scan_text (numeral : Numeral) (closed : Closed rest) :
    scan (numeral.text ++ rest) = .ok (ofParts numeral.parts, rest) := by
  have refused : '.'.isDigit = false ∧ 'e'.isDigit = false ∧ 'E'.isDigit = false := by decide
  have stops := closed.takeWhile Char.isDigit fun _ => isNumeral_of_isDigit
  have readWhole := integerPart_append numeral.whole numeral.canonical
    (numeral.takeWhile_ending refused stops)
  have readPart := fractionPart_append numeral.fraction
    (Numeral.takeWhile_exponentText numeral.exponent refused.2 stops)
    (head?_exponentText_append numeral.exponent closed)
  have readPower := exponentPart_append numeral.exponent closed
  rw [Numeral.ending, List.append_assoc] at readWhole
  rw [Numeral.text, Numeral.ending, List.append_assoc, List.append_assoc, scan_start, readWhole]
  simp only [bind, Except.bind, readPart, readPower]
  rfl

end Number

end Visa.Json
