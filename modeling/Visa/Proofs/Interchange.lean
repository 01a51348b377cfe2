import Visa.Proofs.Transcript
import Visa.Proofs.Trim

namespace Visa

/-! The value of an attribute may be given as a flag or typed as an answer. That comes to the same,
also where there are blanks around it or letters of it are in another case. -/

/-! ## Letter case -/

namespace Text

theorem isAlpha_iff_toNat {letter : Char} : letter.isAlpha ↔
    (65 ≤ letter.toNat ∧ letter.toNat ≤ 90) ∨ 97 ≤ letter.toNat ∧ letter.toNat ≤ 122 := by
  have upper : letter.isUpper ↔ 65 ≤ letter.toNat ∧ letter.toNat ≤ 90 := decide_eq_true_iff
  have lower : letter.isLower ↔ 97 ≤ letter.toNat ∧ letter.toNat ≤ 122 :=
    Bool.and_eq_true_iff.trans (and_congr decide_eq_true_iff decide_eq_true_iff)
  rw [← upper, ← lower]
  exact Bool.or_eq_true_iff

theorem toUpper_cases (letter : Char) :
    letter.toUpper = letter ∨ letter.isAlpha ∧ letter.toUpper.isAlpha := by
  by_cases small : 'a'.val ≤ letter.val ∧ letter.val ≤ 'z'.val
  · have first : 97 ≤ letter.toNat := UInt32.le_iff_toNat_le.mp small.1
    have last : letter.toNat ≤ 122 := UInt32.le_iff_toNat_le.mp small.2
    have capital : letter.toUpper.toNat = letter.toNat - 32 := by
      have shift : ('A'.val - 'a'.val).toNat = 4294967264 := rfl
      unfold Char.toUpper
      rw [dif_pos small, ← Char.toNat_val, UInt32.toNat_add, shift, Char.toNat_val]
      omega
    exact .inr ⟨isAlpha_iff_toNat.mpr (by omega), isAlpha_iff_toNat.mpr (by omega)⟩
  · exact .inl (dif_neg small)

/-- What holds of no letter does not depend on letter case. -/
theorem apply_toUpper {accepts : Char → Bool}
    (refuses : ∀ letter : Char, letter.isAlpha → accepts letter = false) (letter : Char) :
    accepts letter.toUpper = accepts letter := by
  rcases toUpper_cases letter with same | ⟨before, after⟩
  · rw [same]
  · rw [refuses _ before, refuses _ after]

theorem isBlank_toUpper (letter : Char) : isBlank letter.toUpper = isBlank letter := by
  refine apply_toUpper (fun letter alpha => ?_) letter
  have bounds := isAlpha_iff_toNat.mp alpha
  exact isBlank_of_visible (by omega) (by omega)

theorem isDigit_of_isAlpha {letter : Char} (alpha : letter.isAlpha) : letter.isDigit = false := by
  have bounds := isAlpha_iff_toNat.mp alpha
  have last : '9'.toNat = 57 := rfl
  rw [Bool.eq_false_iff, ne_eq, Char.isDigit_iff_toNat]
  omega

theorem isDigit_toUpper (letter : Char) : letter.toUpper.isDigit = letter.isDigit :=
  apply_toUpper (fun _ => isDigit_of_isAlpha) letter

theorem toUpper_beq (mark : Char) (sign : mark.isAlpha = false) (letter : Char) :
    (letter.toUpper == mark) = (letter == mark) := by
  have refuses : ∀ letter : Char, letter.isAlpha → (letter == mark) = false := by
    intro letter alpha
    rw [beq_eq_false_iff_ne]
    rintro rfl
    simp [alpha] at sign
  exact apply_toUpper refuses letter

theorem trim_map_toUpper (text : List Char) :
    trim (text.map Char.toUpper) = (trim text).map Char.toUpper :=
  trim_map isBlank_toUpper text

end Text

namespace DayCount

theorem digits?_map_toUpper (text : List Char) :
    digits? (text.map Char.toUpper) = digits? text := by
  by_cases digits : text.all Char.isDigit
  · have same : text.map Char.toUpper = text := by
      refine (List.map_congr_left fun letter inside => ?_).trans (List.map_id text)
      have digit := List.all_eq_true.mp digits letter inside
      rcases Text.toUpper_cases letter with same | ⟨alpha, _⟩
      · exact same
      · rw [Text.isDigit_of_isAlpha alpha] at digit
        contradiction
    rw [same]
  · simp [digits?, Function.comp_def, Text.isDigit_toUpper, digits]

theorem ofAnswer?_of_ne {first : Char} (other : first ≠ '+') (rest : List Char) :
    ofAnswer? (first :: rest) = (digits? (first :: rest)).bind (upTo answerLimit) := by
  rw [ofAnswer?]
  rintro _ ⟨rfl, rfl⟩
  exact other rfl

/-- The sign and the digits of an answer have no letter case. -/
theorem ofAnswer?_map_toUpper (text : List Char) :
    ofAnswer? (text.map Char.toUpper) = ofAnswer? text := by
  cases text with
  | nil => rfl
  | cons first rest =>
      by_cases plus : first = '+'
      · subst plus
        change (digits? (rest.map Char.toUpper)).bind _ = (digits? rest).bind _
        rw [digits?_map_toUpper]
      · have other : first.toUpper ≠ '+' := by
          simpa [plus] using Text.toUpper_beq '+' rfl first
        rw [List.map_cons, ofAnswer?_of_ne other, ofAnswer?_of_ne plus, ← List.map_cons,
          digits?_map_toUpper]

end DayCount

namespace Interview

/-! ## Given and typed -/

/-- The attributes for which there is a flag, and no others. -/
def Answers.given (answers : Answers) (flagged : Question → Bool) : Given where
  destination := if flagged .destination then some answers.destination else none
  passport := if flagged .passport then some answers.passport else none
  purpose := if flagged .purpose then some answers.purpose else none
  stay := if flagged .stay then some answers.stay else none

def unflagged (flagged : Question → Bool) : List Question :=
  Question.all.filter fun question => !flagged question

/-- The lines that answer for the attributes without a flag. -/
def Answers.typed (answers : Answers) (flagged : Question → Bool) : List UInt8 :=
  (unflagged flagged).flatMap fun question => encode (answers.text question ++ "\n")

/-- What is known after the interview: a typed answer has the end of its line. -/
def Answers.heard (answers : Answers) (flagged : Question → Bool) : Answers :=
  .ofText fun question =>
    if flagged question then answers.text question else answers.text question ++ "\n"

theorem Answers.text?_given (answers : Answers) (flagged : Question → Bool) (question : Question) :
    (answers.given flagged).text? question =
      if flagged question then some (answers.text question) else none := by
  cases question <;> rfl

theorem Answers.questions_given (answers : Answers) (flagged : Question → Bool) :
    (answers.given flagged).questions = unflagged flagged := by
  rw [Given.questions_eq, unflagged]
  apply List.filter_congr
  intro question _
  rw [answers.text?_given]
  cases flagged question <;> rfl

theorem Answers.text_heard_of_mem {answers : Answers} {flagged : Question → Bool}
    {question : Question} (due : question ∈ unflagged flagged) :
    (answers.heard flagged).text question = answers.text question ++ "\n" := by
  have notFlagged := (List.mem_filter.mp due).2
  rw [heard, text_ofText, if_neg (by simpa using notFlagged)]

theorem collected_heard (answers : Answers) (flagged : Question → Bool) :
    Collected (answers.given flagged)
      ((unflagged flagged).map fun question => answers.text question ++ "\n")
      (answers.heard flagged) where
  known question text found := by
    rw [answers.text?_given, Option.ite_none_right_eq_some, Option.some.injEq] at found
    rw [Answers.heard, Answers.text_ofText, if_pos found.1, found.2]
  asked := by
    rw [answers.questions_given]
    exact List.map_congr_left fun question => Answers.text_heard_of_mem

theorem taken_typed {text : Question → String} (oneLine : ∀ question, '\n' ∉ (text question).toList)
    (questions : List Question) (rest : List UInt8) :
    Taken (questions.map fun question => encode (text question ++ "\n"))
      ((questions.flatMap fun question => encode (text question ++ "\n")) ++ rest) rest := by
  induction questions with
  | nil => exact .nothing rest
  | cons question more ih =>
      have line : encode (text question ++ "\n") = encode (text question) ++ [newline] :=
        encode_append _ _
      rw [List.map_cons, List.flatMap_cons, line]
      refine .ended (newline_not_mem_encode (oneLine question)) ?_ ih
      simp

theorem trip_run_given {answers : Answers}
    (oneLine : ∀ question, '\n' ∉ (answers.text question).toList) (flagged : Question → Bool)
    (rest : List UInt8) :
    (run (answers.given flagged) (answers.typed flagged ++ rest)).trip =
      (answers.heard flagged).toTrip := by
  have taken := taken_typed oneLine (unflagged flagged) rest
  have lines : (unflagged flagged).map (fun question => encode (answers.text question ++ "\n")) =
      ((unflagged flagged).map fun question => answers.text question ++ "\n").map encode := by
    rw [List.map_map, Function.comp_def]
  rw [lines] at taken
  rw [Answers.typed, ← (Transcript.complete taken (collected_heard answers flagged)
    (interpreted_iff.mpr rfl)).eq_run]

theorem trip_run_all_given {answers : Answers}
    (oneLine : ∀ question, '\n' ∉ (answers.text question).toList) (input : List UInt8) :
    (run (answers.given fun _ => true) input).trip = answers.toTrip :=
  trip_run_given oneLine (fun _ => true) input

/-! ## Alike -/

/-- Two interpretations come to the same: the same value, or a fault of the same kind about the same
thing, with the same text but for letter case. -/
inductive Alike {α : Type} : Except Fault α → Except Fault α → Prop
  | value (value : α) : Alike (.ok value) (.ok value)
  | token (subject : String) {first second : String}
      (same : first.toList.map Char.toUpper = second.toList.map Char.toUpper) :
      Alike (.error (.unknownToken subject first)) (.error (.unknownToken subject second))
  | count (field : String) {first second : String}
      (same : first.toList.map Char.toUpper = second.toList.map Char.toUpper) :
      Alike (.error (.invalidCount field first)) (.error (.invalidCount field second))

theorem Alike.bind {α β : Type} {left right : Except Fault α}
    {leftNext rightNext : α → Except Fault β} (first : Alike left right)
    (next : ∀ value, Alike (leftNext value) (rightNext value)) :
    Alike (left >>= leftNext) (right >>= rightNext) := by
  cases first with
  | value value => exact next value
  | token subject same => exact .token subject same
  | count field same => exact .count field same

theorem Alike.eq_ok {α : Type} {outcome : Except Fault α} {value : α}
    (alike : Alike outcome (.ok value)) : outcome = .ok value := by
  cases alike
  rfl

/-- The texts are the same but for the blanks around them and letter case. -/
def SameReading (first second : String) : Prop :=
  (Text.trim first.toList).map Char.toUpper = (Text.trim second.toList).map Char.toUpper

theorem SameReading.alike_readToken {first second : String} (α : Type) [Vocabulary α]
    (same : SameReading first second) :
    Alike (readToken (α := α) first) (readToken (α := α) second) := by
  rw [readToken, same, readToken, Vocabulary.read]
  cases Vocabulary.ofToken? (α := α) _ with
  | some member => exact .value member
  | none => exact .token _ rfl

theorem SameReading.alike_readStay {first second : String} (same : SameReading first second) :
    Alike (readStay first) (readStay second) := by
  -- a count is read in the case in which it is written, but no text that is one has letters
  have counts : DayCount.ofAnswer? (Text.trim first.toList) =
      DayCount.ofAnswer? (Text.trim second.toList) := by
    rw [← DayCount.ofAnswer?_map_toUpper, same, DayCount.ofAnswer?_map_toUpper]
  rw [readStay, readStay, counts]
  cases DayCount.ofAnswer? (Text.trim second.toList) with
  | some count => exact .value count
  | none =>
      refine .count _ ?_
      rw [String.toList_ofList, String.toList_ofList]
      exact same

theorem alike_toTrip {first second : Answers}
    (same : ∀ question, SameReading (first.text question) (second.text question)) :
    Alike first.toTrip second.toTrip := by
  refine ((same .destination).alike_readToken Country).bind fun destination => ?_
  refine ((same .passport).alike_readToken Country).bind fun passport => ?_
  refine ((same .purpose).alike_readToken Purpose).bind fun purpose => ?_
  exact (same .stay).alike_readStay.bind fun stay => .value _

/-! ## Restyled values -/

/-- The text is the value but for letter case and for blanks around it, none of them the end of a
line. -/
def Restyled (value text : String) : Prop :=
  ∃ lead core trail, text.toList = lead ++ (core ++ trail) ∧
    (∀ letter ∈ lead ++ trail, Text.isBlank letter ∧ letter ≠ '\n') ∧
    core.map Char.toUpper = value.toList.map Char.toUpper

variable {value text : String}

theorem Restyled.of_all (lead core trail : List Char)
    (parts : text.toList = lead ++ (core ++ trail))
    (padding : (lead ++ trail).all fun letter => Text.isBlank letter && letter != '\n')
    (letters : core.map Char.toUpper = value.toList.map Char.toUpper) : Restyled value text := by
  refine ⟨lead, core, trail, parts, fun letter inside => ?_, letters⟩
  simpa using List.all_eq_true.mp padding letter inside

theorem Restyled.sameReading (restyled : Restyled value text) (behind : String)
    (blank : ∀ letter ∈ behind.toList, Text.isBlank letter) :
    SameReading (text ++ behind) value := by
  obtain ⟨lead, core, trail, parts, padding, letters⟩ := restyled
  have blankLead : ∀ letter ∈ lead, Text.isBlank letter := fun letter inside =>
    (padding letter (List.mem_append_left _ inside)).1
  have blankTrail : ∀ letter ∈ trail ++ behind.toList, Text.isBlank letter := by
    intro letter inside
    rcases List.mem_append.mp inside with inTrail | isBehind
    · exact (padding letter (List.mem_append_right _ inTrail)).1
    · exact blank letter isBehind
  rw [SameReading, String.toList_append, parts, List.append_assoc, List.append_assoc,
    Text.trim_padded core blankLead blankTrail, ← Text.trim_map_toUpper, letters,
    Text.trim_map_toUpper]

theorem Restyled.oneLine (restyled : Restyled value text) (valueLine : '\n' ∉ value.toList) :
    '\n' ∉ text.toList := by
  obtain ⟨lead, core, trail, parts, padding, letters⟩ := restyled
  have coreLine : '\n' ∉ core := by
    intro inside
    have member : '\n' ∈ value.toList.map Char.toUpper :=
      letters ▸ List.mem_map_of_mem (f := Char.toUpper) inside
    obtain ⟨letter, inValue, same⟩ := List.mem_map.mp member
    have isEnd := Text.toUpper_beq '\n' rfl letter
    rw [same, beq_self_eq_true] at isEnd
    exact valueLine (beq_iff_eq.mp isEnd.symm ▸ inValue)
  intro inside
  rw [parts, List.mem_append, List.mem_append] at inside
  rcases inside with inLead | inCore | inTrail
  · exact (padding _ (List.mem_append_left _ inLead)).2 rfl
  · exact coreLine inCore
  · exact (padding _ (List.mem_append_right _ inTrail)).2 rfl

theorem sameReading_heard {values texts : Answers}
    (restyled : ∀ question, Restyled (values.text question) (texts.text question))
    (flagged : Question → Bool) (question : Question) :
    SameReading ((texts.heard flagged).text question) (values.text question) := by
  rw [Answers.heard, Answers.text_ofText]
  split
  · have same := (restyled question).sameReading "" nofun
    rwa [String.append_empty] at same
  · exact (restyled question).sameReading "\n" (List.all_eq_true.mp (by decide))

/-- Whichever values are flags and whichever are typed, and however they are padded and capitalized,
the interview comes to the same as one in which the plain values are all flags. -/
theorem alike_run_flagged {values texts : Answers}
    (oneLine : ∀ question, '\n' ∉ (values.text question).toList)
    (restyled : ∀ question, Restyled (values.text question) (texts.text question))
    (flagged : Question → Bool) (rest input : List UInt8) :
    Alike (run (texts.given flagged) (texts.typed flagged ++ rest)).trip
      (run (values.given fun _ => true) input).trip := by
  have textLine : ∀ question, '\n' ∉ (texts.text question).toList := fun question =>
    (restyled question).oneLine (oneLine question)
  rw [trip_run_given textLine flagged rest, trip_run_all_given oneLine input]
  exact alike_toTrip (sameReading_heard restyled flagged)

/-- One flag among three lines, one of which ends with a carriage return as well. -/
theorem trip_run_of_mixed_answers :
    let values : Answers := ⟨"japan", "USA", "Tourism", "+5"⟩
    let texts : Answers := ⟨"\u00a0JaPan\r", "usa", "\tTOURISM", "+5 "⟩
    (∀ question, Restyled (values.text question) (texts.text question)) ∧
      (run (texts.given (· == .passport)) (texts.typed (· == .passport) ++ [newline])).trip =
        .ok ⟨⟨.japan, .usa, .tourism⟩, 5⟩ := by
  intro values texts
  have oneLine : ∀ question, '\n' ∉ (values.text question).toList := by
    intro question
    cases question <;> decide
  have restyled : ∀ question, Restyled (values.text question) (texts.text question) := by
    intro question
    cases question with
    | destination =>
        exact .of_all ['\u00a0'] "JaPan".toList ['\r'] (by decide) (by decide) (by decide)
    | passport => exact .of_all [] "usa".toList [] (by decide) (by decide) (by decide)
    | purpose => exact .of_all ['\t'] "TOURISM".toList [] (by decide) (by decide) (by decide)
    | stay => exact .of_all [] "+5".toList [' '] (by decide) (by decide) (by decide)
  have alike := alike_run_flagged oneLine restyled (· == .passport) [newline] []
  have names : Names values ⟨⟨.japan, .usa, .tourism⟩, 5⟩ :=
    ⟨by decide, by decide, by decide, by decide⟩
  rw [trip_run_all_given oneLine, toTrip_eq_ok_iff.mpr names] at alike
  exact ⟨restyled, alike.eq_ok⟩

end Interview

end Visa
