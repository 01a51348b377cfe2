import Mathlib.Data.List.Induction
import Visa.Proofs.Editing
import Visa.Proofs.RoundTrip
import Visa.Proofs.Selection
import Visa.Proofs.Thresholds
import Visa.Proofs.Transcript

namespace Visa

/-! How far day counts reach. The limit of answers is above that of records, and no rule covers a
stay that lies between the two. -/

/-! ## Numerals -/

namespace DayCount

/-- The digits stand for the value; each one behind others makes these worth ten times as much. -/
inductive Denotes : List Char → Nat → Prop
  | digit {letter : Char} (isDigit : letter.isDigit) : Denotes [letter] (letter.toNat - '0'.toNat)
  | later {text : List Char} {value : Nat} {letter : Char} (front : Denotes text value)
      (isDigit : letter.isDigit) :
      Denotes (text ++ [letter]) (10 * value + (letter.toNat - '0'.toNat))

/-- The digits may have one sign in front, by which the value is multiplied. -/
inductive Signed (mark : Char) (sign : Int) : List Char → Int → Prop
  | plain {text : List Char} {value : Nat} (digits : Denotes text value) :
      Signed mark sign text value
  | marked {text : List Char} {value : Nat} (digits : Denotes text value) :
      Signed mark sign (mark :: text) (sign * value)

variable {text : List Char} {value limit : Nat} {letter mark : Char} {sign : Int} {count : UInt32}

theorem Denotes.isDigit_of_mem (denotes : Denotes text value) :
    ∀ letter ∈ text, letter.isDigit := by
  induction denotes with
  | digit isDigit => simpa using isDigit
  | later _ isDigit ih =>
      intro letter inside
      rcases List.mem_append.mp inside with before | last
      · exact ih letter before
      · exact List.mem_singleton.mp last ▸ isDigit

theorem Denotes.ne_nil (denotes : Denotes text value) : text ≠ [] := by
  cases denotes with
  | digit => exact List.cons_ne_nil _ _
  | later => exact List.concat_ne_nil _ _

theorem digits?_singleton (letter : Char) :
    digits? [letter] = if letter.isDigit then some (letter.toNat - '0'.toNat) else none := by
  cases isDigit : letter.isDigit <;> simp [digits?, isDigit, Nat.ofDigitChars_cons]

theorem digits?_concat (nonempty : text ≠ []) (letter : Char) :
    digits? (text ++ [letter]) =
      if letter.isDigit then
        (digits? text).map fun value => 10 * value + (letter.toNat - '0'.toNat)
      else none := by
  rw [digits?, digits?, Nat.ofDigitChars_append, Nat.ofDigitChars_cons, Nat.ofDigitChars_nil,
    List.all_append]
  cases text.all Char.isDigit <;> cases isDigit : letter.isDigit <;> simp [isDigit, nonempty]

theorem digits?_eq_some_iff : digits? text = some value ↔ Denotes text value := by
  -- from the back, where the last digit adds itself to ten times what is in front of it
  constructor
  · intro found
    induction text using List.reverseRecOn generalizing value with
    | nil => contradiction
    | append_singleton front letter ih =>
        by_cases single : front = []
        · subst single
          rw [List.nil_append, digits?_singleton, Option.ite_none_right_eq_some] at found
          obtain ⟨isDigit, same⟩ := found
          cases same
          exact .digit isDigit
        · rw [digits?_concat single, Option.ite_none_right_eq_some, Option.map_eq_some_iff] at found
          obtain ⟨isDigit, value, before, rfl⟩ := found
          exact .later (ih before) isDigit
  · intro denotes
    induction denotes with
    | digit isDigit => rw [digits?_singleton, if_pos isDigit]
    | later front isDigit ih =>
        rw [digits?_concat front.ne_nil, if_pos isDigit, ih, Option.map_some]

/-! ## Readers -/

theorem bind_upTo_eq_some_iff (inWord : limit < UInt32.size) :
    (digits? text).bind (upTo limit) = some count ↔
      ∃ value, Denotes text value ∧ value ≤ limit ∧ count.toNat = value := by
  rw [Option.bind_eq_some_iff]
  constructor
  · rintro ⟨value, found, inside⟩
    obtain ⟨same, bound⟩ := toNat_of_upTo inWord inside
    exact ⟨value, digits?_eq_some_iff.mp found, bound, same⟩
  · rintro ⟨value, denotes, bound, same⟩
    refine ⟨value, digits?_eq_some_iff.mpr denotes, ?_⟩
    rw [upTo, if_pos bound, ← same, UInt32.ofNat_toNat]

theorem signed_marked_iff (mark : Char) (noDigit : mark.isDigit = false) {value : Int} :
    Signed mark sign (mark :: text) value ↔
      ∃ digits : Nat, Denotes text digits ∧ value = sign * digits := by
  constructor
  · intro signed
    cases signed with
    | plain digits =>
        have isDigit := digits.isDigit_of_mem mark List.mem_cons_self
        rw [noDigit] at isDigit
        contradiction
    | marked digits => exact ⟨_, digits, rfl⟩
  · rintro ⟨digits, denotes, rfl⟩
    exact .marked denotes

theorem signed_plain_iff (unmarked : ∀ rest, text = mark :: rest → False) {value : Int} :
    Signed mark sign text value ↔ ∃ digits : Nat, Denotes text digits ∧ value = 1 * digits := by
  constructor
  · intro signed
    cases signed with
    | plain digits => exact ⟨_, digits, (Int.one_mul _).symm⟩
    | marked => exact (unmarked _ rfl).elim
  · rintro ⟨digits, denotes, rfl⟩
    rw [Int.one_mul]
    exact .plain denotes

/-- A reader admits the digits up to its own limit, which is right where these are the digits whose
value, sign and all, lies between zero and the greatest count. -/
theorem bind_upTo_eq_some_iff_between {greatest : Int} (inWord : limit < UInt32.size)
    (admitted : ∀ digits : Nat, digits ≤ limit → sign * digits = digits ∧ (digits : Int) ≤ greatest)
    (complete : ∀ digits : Nat, 0 ≤ sign * digits → sign * digits ≤ greatest → digits ≤ limit) :
    (digits? text).bind (upTo limit) = some count ↔
      ∃ value : Int, (∃ digits : Nat, Denotes text digits ∧ value = sign * digits) ∧
        0 ≤ value ∧ value ≤ greatest ∧ (count.toNat : Int) = value := by
  rw [bind_upTo_eq_some_iff inWord]
  constructor
  · rintro ⟨digits, denotes, bound, same⟩
    obtain ⟨unsigned, small⟩ := admitted digits bound
    exact ⟨digits, ⟨digits, denotes, unsigned.symm⟩, Int.natCast_nonneg _, small, by rw [same]⟩
  · rintro ⟨_, ⟨digits, denotes, rfl⟩, nonneg, small, same⟩
    have bound := complete digits nonneg small
    rw [(admitted digits bound).1] at same
    exact ⟨digits, denotes, bound, Int.ofNat.inj same⟩

theorem ofRecord?_eq_some_iff :
    ofRecord? text = some count ↔
      ∃ value : Int, Signed '-' (-1) text value ∧ 0 ≤ value ∧ value ≤ 2147483647 ∧
        (count.toNat : Int) = value := by
  fun_cases ofRecord? text with
  | case1 digits =>
      simp only [signed_marked_iff '-' rfl]
      exact bind_upTo_eq_some_iff_between (by decide) (by omega) (by omega)
  | case2 text unmarked =>
      simp only [signed_plain_iff unmarked]
      exact bind_upTo_eq_some_iff_between (by decide) (by unfold recordLimit; omega)
        (by unfold recordLimit; omega)

theorem ofAnswer?_eq_some_iff :
    ofAnswer? text = some count ↔
      ∃ value : Int, Signed '+' 1 text value ∧ 0 ≤ value ∧ value ≤ 4294967295 ∧
        (count.toNat : Int) = value := by
  fun_cases ofAnswer? text with
  | case1 digits =>
      simp only [signed_marked_iff '+' rfl]
      exact bind_upTo_eq_some_iff_between (by decide) (by unfold answerLimit; omega)
        (by unfold answerLimit; omega)
  | case2 text unmarked =>
      simp only [signed_plain_iff unmarked]
      exact bind_upTo_eq_some_iff_between (by decide) (by unfold answerLimit; omega)
        (by unfold answerLimit; omega)

end DayCount

/-! ## Records and answers -/

/-- No rule that was read admits a stay above the limit of records. -/
theorem Source.not_covers {source : Source} {trip : Trip}
    (long : DayCount.recordLimit < trip.stay.toNat) :
    ∀ rule ∈ source.load.rules, ¬rule.covers trip := by
  intro rule inside covers
  have bounded := Rule.excess?_eq_none_iff.mp (source.excess?_of_mem_load rule inside)
  have within := UInt32.le_iff_toNat_le.mp (Record.covers_iff.mp covers).2.2.2
  omega

/-- Each reader takes every numeral up to its limit and no other, whatever the number of digits, for
exactly its value; and a stay above what a record can give has no answer in any text of rules. -/
theorem counts_exact_to_their_limits :
    (∀ field text, text ≠ [] → (∀ letter ∈ text, Record.isCountLetter letter) → ∀ count,
      Record.dayCount field text = .ok count ↔
        ∃ value : Int, DayCount.Signed '-' (-1) text value ∧ 0 ≤ value ∧ value ≤ 2147483647 ∧
          (count.toNat : Int) = value) ∧
    (∀ text count, Interview.readStay text = .ok count ↔
      ∃ value : Int, DayCount.Signed '+' 1 (Text.trim text.toList) value ∧ 0 ≤ value ∧
        value ≤ 4294967295 ∧ (count.toNat : Int) = value) ∧
    ∀ (source : Source) (trip : Trip), 2147483647 < trip.stay.toNat →
      RuleBook.evaluate source.load.rules trip = .fallback := by
  refine ⟨fun field text _ _ count => ?_, fun text count => ?_, fun source trip long => ?_⟩
  · rw [Record.dayCount_eq_ok_iff, DayCount.ofRecord?_eq_some_iff]
  · rw [Interview.readStay_eq_ok_iff, DayCount.ofAnswer?_eq_some_iff]
  · rw [RuleBook.evaluate_eq_fallback_iff, List.length_eq_zero_iff, RuleBook.candidates_eq_nil_iff]
    exact Source.not_covers long

/-- Zero may have a minus sign, the longest stay that an answer can name is read, and the rule of a
text that covers a route as long as a record can say does so for no longer. -/
theorem counts_at_their_limits :
    let rule : Rule :=
      { destination := .japan, passport := .usa, purpose := .tourism, maxStay := 2147483647
        visaRequired := false, category := .visaFree, kind := .none, documents := []
        processing := 0 }
    let source : Source := ⟨"rules.json", .ok (Rule.renderAll [rule])⟩
    Record.dayCount .maxStay "-00".toList = .ok 0 ∧
      Interview.readStay " +4294967295" = .ok 4294967295 ∧
      source.load.rules = [rule] ∧
      RuleBook.evaluate source.load.rules ⟨⟨.japan, .usa, .tourism⟩, 2147483647⟩ =
        .ofRule rule [] ∧
      RuleBook.evaluate source.load.rules ⟨⟨.japan, .usa, .tourism⟩, 2147483648⟩ = .fallback := by
  intro rule source
  obtain ⟨records, answers, long⟩ := counts_exact_to_their_limits
  have zeros : DayCount.Denotes "00".toList 0 := DayCount.digits?_eq_some_iff.mp (by decide)
  have greatest : DayCount.Denotes "4294967295".toList 4294967295 :=
    DayCount.digits?_eq_some_iff.mp (by decide)
  have trimmed : Text.trim " +4294967295".toList = '+' :: "4294967295".toList := by decide
  have loaded : source.load.rules = [rule] := by
    have bounded : ∀ other ∈ [rule], other.excess? = none := by decide
    change (Report.ofText (Rule.renderAll [rule])).rules = [rule]
    rw [Report.ofText_renderAll_of_bounded bounded]
  refine ⟨?_, ?_, loaded, ?_, long _ _ (by decide)⟩
  · exact (records .maxStay _ (by decide) (List.all_eq_true.mp (by decide)) 0).mpr
      ⟨_, .marked zeros, by decide, by decide, rfl⟩
  · have signed := answers " +4294967295" 4294967295
    rw [trimmed] at signed
    exact signed.mpr ⟨_, .marked greatest, by decide, by decide, rfl⟩
  · rw [loaded]
    decide

end Visa
