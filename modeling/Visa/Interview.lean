import Visa.DayCount
import Visa.Text.Blank
import Visa.Trip

namespace Visa

/-! A trip from what the command line gives and, for the rest, from answers to questions. Answers
are collected first and interpreted afterwards. -/

inductive Question where
  | destination
  | passport
  | purpose
  | stay
deriving DecidableEq, Repr

namespace Question

def field : Question → String
  | destination => "destination"
  | passport => "passport"
  | purpose => "purpose"
  | stay => "stayDays"

def prompt : Question → String
  | destination => "Destination country: "
  | passport => "Passport country: "
  | purpose => "Travel purpose (TOURISM, BUSINESS, STUDY, WORK, TRANSIT): "
  | stay => "Stay duration (days): "

end Question

/-- The attributes of a trip that are known without asking, as text. -/
structure Given where
  destination : Option String := none
  passport : Option String := none
  purpose : Option String := none
  stay : Option String := none
deriving DecidableEq, Repr

/-- The questions about the attributes that are not given, in the order in which they are put. -/
def Given.questions (given : Given) : List Question :=
  [(Question.destination, given.destination), (.passport, given.passport),
    (.purpose, given.purpose), (.stay, given.stay)].filterMap fun (question, text) =>
      if text.isNone then some question else none

/-- The course of an interview: the questions put, latest first, and the bytes not yet read. -/
structure Talk where
  asked : List Question
  unread : List UInt8
deriving DecidableEq, Repr

/-- What is known of the talk stays known when an answer fails. -/
abbrev Interview (α : Type) := Talk → Except Fault α × Talk

namespace Interview

def newline : UInt8 := 10

/-- The first line with its newline, if it has one, and the bytes after it. -/
def splitLine (input : List UInt8) : List UInt8 × List UInt8 :=
  match input.dropWhile fun byte => byte != newline with
  | [] => (input, [])
  | mark :: rest => (input.takeWhile (fun byte => byte != newline) ++ [mark], rest)

def decodeLine (line : List UInt8) : Except Fault String :=
  match String.fromUTF8? line.toByteArray with
  | some text => .ok text
  | none => .error (.unreadable "stream did not contain valid UTF-8")

/-- Puts a question and reads a line; a line that is no text is read all the same. -/
def ask (question : Question) : Interview String := fun talk =>
  let asked := question :: talk.asked
  if talk.unread.isEmpty then (.error (.missingAnswer question.field), ⟨asked, []⟩)
  else
    let (line, rest) := splitLine talk.unread
    (decodeLine line, ⟨asked, rest⟩)

def answer (question : Question) (given : Option String) : Interview String := fun talk =>
  match given with
  | some text => (.ok text, talk)
  | none => ask question talk

/-- Goes on with the answer, unless there is none. -/
def andThen {α β : Type} (first : Interview α) (next : α → Interview β) : Interview β :=
  fun talk =>
    match first talk with
    | (.ok value, talk) => next value talk
    | (.error fault, talk) => (.error fault, talk)

structure Answers where
  destination : String
  passport : String
  purpose : String
  stay : String
deriving DecidableEq, Repr

def collect (given : Given) : Interview Answers :=
  andThen (answer .destination given.destination) fun destination =>
  andThen (answer .passport given.passport) fun passport =>
  andThen (answer .purpose given.purpose) fun purpose =>
  andThen (answer .stay given.stay) fun stay =>
  fun talk => (.ok ⟨destination, passport, purpose, stay⟩, talk)

/-- A token may be given in any letter case and with blanks around it. -/
def readToken {α : Type} [Vocabulary α] (text : String) : Except Fault α :=
  Vocabulary.read (String.ofList ((Text.trim text.toList).map Char.toUpper))

def readStay (text : String) : Except Fault UInt32 :=
  let trimmed := Text.trim text.toList
  match DayCount.ofAnswer? trimmed with
  | some count => .ok count
  | none => .error (.invalidCount Question.stay.field (String.ofList trimmed))

def Answers.toTrip (answers : Answers) : Except Fault Trip := do
  let destination ← readToken answers.destination
  let passport ← readToken answers.passport
  let purpose ← readToken answers.purpose
  let stay ← readStay answers.stay
  return { destination := destination, passport := passport, purpose := purpose, stay := stay }

/-- How an interview ends: the trip or the reason why there is none, the text written to the
person asked, and the bytes left unread. -/
structure Outcome where
  trip : Except Fault Trip
  prompts : String
  unread : List UInt8

def run (given : Given) (input : List UInt8) : Outcome :=
  let (answers, talk) := collect given ⟨[], input⟩
  { trip := answers >>= Answers.toTrip
    prompts := String.join (talk.asked.reverse.map Question.prompt)
    unread := talk.unread }

end Interview

end Visa
