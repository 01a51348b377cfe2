import Mathlib.Data.List.Nodup
import Visa.Proofs.Asking
import Visa.Proofs.Diagnosis
import Visa.Proofs.Lines

namespace Visa

/-! The whole of an interview, told from what is given and from the input alone: which questions are
put, how far the input is read, and what comes of the answers. -/

/-! ## Attributes by their questions -/

namespace Question

/-- The order of the questions, and of the attributes that they ask for. -/
def all : List Question := [.destination, .passport, .purpose, .stay]

theorem mem_all (question : Question) : question ∈ all := by
  cases question <;> decide

end Question

def Given.text? (given : Given) : Question → Option String
  | .destination => given.destination
  | .passport => given.passport
  | .purpose => given.purpose
  | .stay => given.stay

theorem Given.questions_eq (given : Given) :
    given.questions = Question.all.filter fun question => (given.text? question).isNone := by
  obtain ⟨destination, passport, purpose, stay⟩ := given
  cases destination <;> cases passport <;> cases purpose <;> cases stay <;> rfl

theorem Given.nodup_questions (given : Given) : given.questions.Nodup := by
  rw [given.questions_eq]
  exact List.Pairwise.filter _ (by decide)

theorem Given.text?_of_mem {given : Given} {question : Question}
    (due : question ∈ given.questions) : given.text? question = none := by
  rw [given.questions_eq] at due
  exact Option.isNone_iff_eq_none.mp (List.mem_filter.mp due).2

namespace Interview

def Answers.text (answers : Answers) : Question → String
  | .destination => answers.destination
  | .passport => answers.passport
  | .purpose => answers.purpose
  | .stay => answers.stay

def Answers.ofText (text : Question → String) : Answers :=
  ⟨text .destination, text .passport, text .purpose, text .stay⟩

theorem Answers.text_ofText (text : Question → String) : (ofText text).text = text := by
  funext question
  cases question <;> rfl

/-- All attributes are known: each that is given as it is given, and the others by the replies to
the questions, in order. -/
structure Collected (given : Given) (replies : List String) (answers : Answers) : Prop where
  known : ∀ question text, given.text? question = some text → answers.text question = text
  asked : given.questions.map answers.text = replies

theorem Collected.eq_fill {given : Given} {replies : List String} {answers : Answers}
    (collected : Collected given replies answers) : answers = given.fill replies := by
  obtain ⟨known, rfl⟩ := collected
  obtain ⟨destination, passport, purpose, stay⟩ := given
  have knownDestination := known .destination
  have knownPassport := known .passport
  have knownPurpose := known .purpose
  have knownStay := known .stay
  cases answers
  -- which reply an attribute takes depends on which of those in front of it are given
  cases destination <;> cases passport <;> cases purpose <;> cases stay <;>
    simp_all [Given.text?, Given.questions, Given.fill, Given.take, Answers.text]

theorem exists_map_eq {questions : List Question} {replies : List String}
    (distinct : questions.Nodup) (count : replies.length = questions.length) :
    ∃ reply : Question → String, questions.map reply = replies := by
  induction questions generalizing replies with
  | nil => exact ⟨fun _ => "", (List.length_eq_zero_iff.mp count).symm⟩
  | cons question rest ih =>
      cases replies with
      | nil => contradiction
      | cons first more =>
          obtain ⟨fresh, later⟩ := List.nodup_cons.mp distinct
          obtain ⟨reply, rfl⟩ := ih later (Nat.succ.inj count)
          refine ⟨Function.update reply question first, ?_⟩
          rw [List.map_cons, Function.update_self, later.map_update, if_neg fresh]

theorem exists_collected {given : Given} {replies : List String}
    (count : replies.length = given.questions.length) :
    ∃ answers, Collected given replies answers := by
  obtain ⟨reply, rfl⟩ := exists_map_eq given.nodup_questions count
  refine ⟨.ofText fun question => (given.text? question).getD (reply question), ?_, ?_⟩
  · intro question text found
    rw [Answers.text_ofText, found, Option.getD_some]
  · rw [Answers.text_ofText]
    apply List.map_congr_left
    intro question due
    rw [Given.text?_of_mem due, Option.getD_none]

/-! ## Interpretation -/

end Interview

/-- What is interpreted of an answer: its text without the blanks around it, a token in capitals. -/
def Question.normal (question : Question) (text : String) : List Char :=
  match question with
  | .destination | .passport | .purpose => (Text.trim text.toList).map Char.toUpper
  | .stay => Text.trim text.toList

/-- The fault of an answer that means nothing. -/
def Question.misread? (question : Question) (text : String) : Option Fault :=
  match question with
  | .destination | .passport => Record.unknown? Country (question.normal text)
  | .purpose => Record.unknown? Purpose (question.normal text)
  | .stay =>
      if (DayCount.ofAnswer? (question.normal text)).isSome then none
      else some (.invalidCount question.field (String.ofList (question.normal text)))

open Outcome (EndsAtFirst bind_eq_ok_iff endsAtFirst_of_ok)

namespace Interview

variable {answers : Answers} {outcome : Except Fault Trip} {trip : Trip}

/-- The answers name the trip. -/
structure Names (answers : Answers) (trip : Trip) : Prop where
  destination : trip.destination.token.toList = Question.destination.normal answers.destination
  passport : trip.passport.token.toList = Question.passport.normal answers.passport
  purpose : trip.purpose.token.toList = Question.purpose.normal answers.purpose
  stay : DayCount.ofAnswer? (Question.stay.normal answers.stay) = some trip.stay

/-- What comes of the answers: the trip that they name, or else the fault of the first of them that
means nothing. -/
inductive Interpreted (answers : Answers) : Except Fault Trip → Prop
  | trip {trip : Trip} (names : Names answers trip) : Interpreted answers (.ok trip)
  | fault {fault : Fault}
      (first : Question.all.findSome? (fun question => question.misread? (answers.text question)) =
        some fault) : Interpreted answers (.error fault)

theorem readToken_eq_ok_iff {α : Type} [Vocabulary α] {text : String} {member : α} :
    readToken text = .ok member ↔
      (Vocabulary.token member).toList = (Text.trim text.toList).map Char.toUpper := by
  rw [readToken, Vocabulary.read_eq_ok_iff, ← String.toList_inj, String.toList_ofList, eq_comm]

theorem readStay_eq_ok_iff {text : String} {count : UInt32} :
    readStay text = .ok count ↔ DayCount.ofAnswer? (Text.trim text.toList) = some count := by
  rw [readStay]
  cases DayCount.ofAnswer? (Text.trim text.toList) <;> simp

theorem toTrip_eq_ok_iff : answers.toTrip = .ok trip ↔ Names answers trip := by
  simp only [Answers.toTrip, bind_eq_ok_iff, readToken_eq_ok_iff, readStay_eq_ok_iff]
  constructor
  · rintro ⟨destination, named, passport, namedPassport, purpose, namedPurpose, stay, namedStay,
      same⟩
    cases same
    exact ⟨named, namedPassport, namedPurpose, namedStay⟩
  · rintro ⟨destination, passport, purpose, stay⟩
    exact ⟨_, destination, _, passport, _, purpose, _, stay, rfl⟩

theorem endsAtFirst_readToken {α : Type} [Vocabulary α] {fault : Option Fault} {text : String}
    (means : fault = Record.unknown? α ((Text.trim text.toList).map Char.toUpper)) :
    EndsAtFirst [fault] (readToken (α := α) text) := by
  rw [means]
  exact Record.endsAtFirst_read α _

theorem endsAtFirst_readStay {fault : Option Fault} {text : String}
    (means : fault = Question.stay.misread? text) : EndsAtFirst [fault] (readStay text) := by
  rw [means, Question.misread?, Question.normal, readStay]
  cases DayCount.ofAnswer? (Text.trim text.toList) with
  | none => rfl
  | some count => exact ⟨count, rfl⟩

-- the faults are variables here: where a goal spells them out, every token is compared to the text
theorem endsAtFirst_toTrip_of_faults {destination passport purpose stay : Option Fault}
    (ofDestination : destination = Question.destination.misread? answers.destination)
    (ofPassport : passport = Question.passport.misread? answers.passport)
    (ofPurpose : purpose = Question.purpose.misread? answers.purpose)
    (ofStay : stay = Question.stay.misread? answers.stay) :
    EndsAtFirst [destination, passport, purpose, stay] answers.toTrip :=
  (endsAtFirst_readToken ofDestination).bind fun _ =>
    (endsAtFirst_readToken ofPassport).bind fun _ =>
      (endsAtFirst_readToken ofPurpose).bind fun _ =>
        (endsAtFirst_readStay ofStay).bind fun _ => endsAtFirst_of_ok rfl

theorem endsAtFirst_toTrip (answers : Answers) :
    EndsAtFirst (Question.all.map fun question => question.misread? (answers.text question))
      answers.toTrip :=
  endsAtFirst_toTrip_of_faults rfl rfl rfl rfl

theorem interpreted_iff : Interpreted answers outcome ↔ outcome = answers.toTrip := by
  have ends := endsAtFirst_toTrip answers
  constructor
  · intro interpreted
    cases interpreted with
    | trip names => exact (toTrip_eq_ok_iff.mpr names).symm
    | fault first =>
        refine (ends.error_iff.mpr ?_).symm
        rwa [List.findSome?_map, Function.id_comp]
  · rintro rfl
    cases interpreted : answers.toTrip with
    | ok trip => exact .trip (toTrip_eq_ok_iff.mp interpreted)
    | error fault =>
        have first := ends.error_iff.mp interpreted
        rw [List.findSome?_map, Function.id_comp] at first
        exact .fault first

/-! ## Questions and lines -/

section Reading

variable {questions before : List Question} {replies : List String}
  {line input between unread : List UInt8} {lines : List (List UInt8)}

theorem ask_of_text {reply : String} (question : Question) (asked : List Question)
    (taken : Taken (encode reply :: lines) input unread) :
    ∃ between, ask question ⟨asked, input⟩ = (.ok reply, ⟨question :: asked, between⟩) ∧
      Taken lines between unread := by
  obtain ⟨nonempty, first, later⟩ := taken_cons_iff.mp taken
  refine ⟨(splitLine input).2, ?_, later⟩
  simp [ask, nonempty, first, decodeLine_encode]

theorem ask_of_no_text (question : Question) (asked : List Question)
    (taken : Taken [line] input unread) (noText : ∀ text, encode text ≠ line) :
    ask question ⟨asked, input⟩ =
      (.error (.unreadable "stream did not contain valid UTF-8"), ⟨question :: asked, unread⟩) := by
  obtain ⟨nonempty, rfl, rest⟩ := taken_cons_iff.mp taken
  rw [taken_nil_iff] at rest
  simp [ask, nonempty, rest, decodeLine_of_ne_encode noText]

theorem ask_of_end (question : Question) (asked : List Question) :
    ask question ⟨asked, []⟩ =
      (.error (.missingAnswer question.field), ⟨question :: asked, []⟩) := rfl

theorem askAll_of_taken (asked : List Question) (count : replies.length = questions.length)
    (taken : Taken (replies.map encode) input unread) :
    askAll questions ⟨asked, input⟩ = (.ok replies, ⟨questions.reverse ++ asked, unread⟩) := by
  induction questions generalizing asked input replies with
  | nil =>
      cases List.length_eq_zero_iff.mp count
      cases taken_nil_iff.mp taken
      rfl
  | cons question rest ih =>
      cases replies with
      | nil => contradiction
      | cons reply more =>
          obtain ⟨between, answered, further⟩ := ask_of_text question asked taken
          have followed := ih (question :: asked) (Nat.succ.inj count) further
          simp [askAll, andThen, answered, followed, done]

theorem andThen_done {α : Type} (first : Interview α) : andThen first done = first := by
  funext talk
  rcases outcome : first talk with ⟨found | fault, after⟩ <;> simp [andThen, outcome, done]

theorem askAll_append (before later : List Question) :
    askAll (before ++ later) =
      andThen (askAll before) fun replies => andThen (askAll later) fun more =>
        done (replies ++ more) := by
  induction before with
  | nil => simp only [List.nil_append, askAll_nil_andThen, andThen_done]
  | cons question rest ih =>
      rw [List.cons_append, askAll_cons_andThen, askAll, ih]
      simp only [andThen_assoc, done_andThen, List.cons_append]

/-- The first question that gets no answer ends the talk. -/
theorem askAll_broken {question : Question} {fault : Fault} {talk : Talk} (after : List Question)
    (count : replies.length = before.length) (taken : Taken (replies.map encode) input between)
    (failed : ask question ⟨before.reverse, between⟩ = (.error fault, talk)) :
    askAll (before ++ question :: after) ⟨[], input⟩ = (.error fault, talk) := by
  have answered := askAll_of_taken [] count taken
  rw [List.append_nil] at answered
  rw [askAll_append, askAll]
  simp only [andThen, answered, failed]

/-- How far the lines of an input answer questions: all of them, or those in front of one for which
there is no line or a line that is no text. -/
inductive Replied (questions : List Question) (input : List UInt8) : Prop
  | complete (replies : List String) {unread : List UInt8}
      (count : replies.length = questions.length) (taken : Taken (replies.map encode) input unread)
  | ended (before : List Question) {question : Question} {after : List Question}
      (replies : List String) (order : questions = before ++ question :: after)
      (count : replies.length = before.length) (taken : Taken (replies.map encode) input [])
  | garbled (before : List Question) {question : Question} {after : List Question}
      (replies : List String) {line unread : List UInt8}
      (order : questions = before ++ question :: after) (count : replies.length = before.length)
      (taken : Taken (replies.map encode ++ [line]) input unread)
      (noText : ∀ text, encode text ≠ line)

theorem Replied.cons {reply : String} (question : Question) (nonempty : input ≠ [])
    (first : (splitLine input).1 = encode reply) (later : Replied questions (splitLine input).2) :
    Replied (question :: questions) input := by
  have taken {lines : List (List UInt8)} {unread : List UInt8}
      (more : Taken lines (splitLine input).2 unread) :
      Taken (encode reply :: lines) input unread :=
    taken_cons_iff.mpr ⟨nonempty, first, more⟩
  cases later with
  | complete replies count more =>
      exact .complete (reply :: replies) (congrArg Nat.succ count) (taken more)
  | ended before replies order count more =>
      exact .ended (question :: before) (reply :: replies) (congrArg _ order)
        (congrArg Nat.succ count) (taken more)
  | garbled before replies order count more noText =>
      exact .garbled (question :: before) (reply :: replies) (congrArg _ order)
        (congrArg Nat.succ count) (taken more) noText

theorem replied (questions : List Question) (input : List UInt8) : Replied questions input := by
  -- on the questions, each of which takes its line off the input before the next one is put
  induction questions generalizing input with
  | nil => exact .complete [] rfl (.nothing input)
  | cons question rest ih =>
      by_cases noLine : input = []
      · exact .ended [] [] rfl rfl (taken_nil_iff.mpr noLine)
      by_cases isText : ∃ text, encode text = (splitLine input).1
      · obtain ⟨text, same⟩ := isText
        exact .cons question noLine same.symm (ih (splitLine input).2)
      · have line := taken_cons_iff.mpr ⟨noLine, rfl, .nothing (splitLine input).2⟩
        exact .garbled [] [] rfl rfl line fun text same => isText ⟨text, same⟩

end Reading

/-! ## The transcript -/

/-- How an interview goes. Every question about what is not given is put and takes one line, and
what is given and the lines are interpreted together; or one question finds no further line, or a
line that is no text, and is the last. -/
inductive Transcript (given : Given) (input : List UInt8) : Outcome → Prop
  | complete {replies : List String} {answers : Answers} {unread : List UInt8}
      {trip : Except Fault Trip} (taken : Taken (replies.map encode) input unread)
      (collected : Collected given replies answers) (interpreted : Interpreted answers trip) :
      Transcript given input
        { trip := trip
          prompts := String.join (given.questions.map Question.prompt)
          unread := unread }
  | ended {before after : List Question} {question : Question} {replies : List String}
      (order : given.questions = before ++ question :: after)
      (count : replies.length = before.length) (taken : Taken (replies.map encode) input []) :
      Transcript given input
        { trip := .error (.missingAnswer question.field)
          prompts := String.join ((before ++ [question]).map Question.prompt)
          unread := [] }
  | garbled {before after : List Question} {question : Question} {replies : List String}
      {line unread : List UInt8} (order : given.questions = before ++ question :: after)
      (count : replies.length = before.length)
      (taken : Taken (replies.map encode ++ [line]) input unread)
      (noText : ∀ text, encode text ≠ line) :
      Transcript given input
        { trip := .error (.unreadable "stream did not contain valid UTF-8")
          prompts := String.join ((before ++ [question]).map Question.prompt)
          unread := unread }

variable {given : Given} {input : List UInt8}

theorem Transcript.eq_run {outcome : Outcome} (transcript : Transcript given input outcome) :
    outcome = run given input := by
  cases transcript with
  | complete taken collected interpreted =>
      have count := congrArg List.length collected.asked
      rw [List.length_map] at count
      have asked := askAll_of_taken [] count.symm taken
      rw [List.append_nil] at asked
      rw [run_of_askAll asked, interpreted_iff.mp interpreted, collected.eq_fill]
      rfl
  | @ended before after question replies order count taken =>
      have asked := askAll_broken after count taken (ask_of_end question before.reverse)
      rw [← order, ← List.reverse_concat] at asked
      rw [run_of_askAll asked]
      rfl
  | @garbled before after question replies line unread order count taken noText =>
      obtain ⟨between, answered, failed⟩ := taken_append_iff.mp taken
      have asked := askAll_broken after count answered
        (ask_of_no_text question before.reverse failed noText)
      rw [← order, ← List.reverse_concat] at asked
      rw [run_of_askAll asked]
      rfl

theorem exists_transcript (given : Given) (input : List UInt8) :
    ∃ outcome, Transcript given input outcome := by
  cases replied given.questions input with
  | complete _ count taken =>
      obtain ⟨answers, collected⟩ := exists_collected count
      exact ⟨_, .complete taken collected (interpreted_iff.mpr rfl)⟩
  | ended _ _ order count taken => exact ⟨_, .ended order count taken⟩
  | garbled _ _ order count taken noText => exact ⟨_, .garbled order count taken noText⟩

theorem transcript_run (given : Given) (input : List UInt8) :
    Transcript given input (run given input) := by
  obtain ⟨outcome, transcript⟩ := exists_transcript given input
  rwa [← transcript.eq_run]

/-- An interview goes as its transcript says and in no other way. No more is asked than what is not
given, and no more is read than a line for each question that is put; a question without an answer
is the last, however little the others mean; and only when all attributes are there are they
interpreted, in their order. -/
theorem transcript_iff_eq_run (given : Given) (input : List UInt8) (outcome : Outcome) :
    Transcript given input outcome ↔ outcome = run given input := by
  constructor
  · exact Transcript.eq_run
  · rintro rfl
    exact transcript_run given input

end Interview

end Visa
