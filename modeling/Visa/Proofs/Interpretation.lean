import Visa.Interview
import Visa.Proofs.Outcome
import Visa.Record.Reading

namespace Visa

/-! What is found in a record or answered to a question is interpreted in the end. All that can go
wrong there is that a text means nothing where it stands. -/

open Outcome (FailsWith)

/-- Something that was found means nothing in its place. -/
inductive Fault.IsMisread : Fault → Prop
  | token (subject text : String) : IsMisread (.unknownToken subject text)
  | count (field text : String) : IsMisread (.invalidCount field text)

open Fault (IsMisread)

theorem Vocabulary.failsWith_read {α : Type} [Vocabulary α] (text : String) :
    FailsWith IsMisread (read (α := α) text) := by
  unfold read
  cases ofToken? (α := α) text with
  | none =>
      rintro _ ⟨⟩
      exact .token _ _
  | some member => nofun

namespace Record

theorem failsWith_dayCount (field : Field) (text : List Char) :
    FailsWith IsMisread (dayCount field text) := by
  unfold dayCount
  cases DayCount.ofRecord? text with
  | none =>
      rintro _ ⟨⟩
      exact .count _ _
  | some count => nofun

theorem failsWith_toRule (members : Members) : FailsWith IsMisread members.toRule :=
  (Vocabulary.failsWith_read _).bind fun _ =>
  (Vocabulary.failsWith_read _).bind fun _ =>
  (Vocabulary.failsWith_read _).bind fun _ =>
  (failsWith_dayCount _ _).bind fun _ =>
  (Vocabulary.failsWith_read _).bind fun _ =>
  (Vocabulary.failsWith_read _).bind fun _ =>
  (FailsWith.mapM fun text => Vocabulary.failsWith_read text).bind fun _ =>
  (failsWith_dayCount _ _).bind fun _ => nofun

end Record

namespace Interview

theorem failsWith_readToken {α : Type} [Vocabulary α] (text : String) :
    FailsWith IsMisread (readToken (α := α) text) := Vocabulary.failsWith_read _

theorem failsWith_readStay (text : String) : FailsWith IsMisread (readStay text) := by
  rw [readStay]
  cases DayCount.ofAnswer? (Text.trim text.toList) with
  | none =>
      rintro _ ⟨⟩
      exact .count _ _
  | some count => nofun

theorem failsWith_toTrip (answers : Answers) : FailsWith IsMisread answers.toTrip :=
  (failsWith_readToken _).bind fun _ =>
  (failsWith_readToken _).bind fun _ =>
  (failsWith_readToken _).bind fun _ =>
  (failsWith_readStay _).bind fun _ => nofun

end Interview

end Visa
