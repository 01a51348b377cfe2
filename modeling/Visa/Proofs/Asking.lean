import Visa.Interview

namespace Visa

/-! An interview as a list of questions. Those about what is not given are put one after the other,
and their answers fill in what is missing. -/

namespace Interview

variable {α β γ : Type}

/-! ## Interviews in a row -/

def done (value : α) : Interview α := fun talk => (.ok value, talk)

theorem done_andThen (value : α) (next : α → Interview β) :
    andThen (done value) next = next value := rfl

theorem andThen_assoc (first : Interview α) (second : α → Interview β) (third : β → Interview γ) :
    andThen (andThen first second) third =
      andThen first fun value => andThen (second value) third := by
  funext talk
  rcases outcome : first talk with ⟨found | fault, after⟩ <;> simp [andThen, outcome]

theorem answer_some (question : Question) (text : String) :
    answer question (some text) = done text := rfl

theorem answer_none (question : Question) : answer question none = ask question := rfl

def askAll : List Question → Interview (List String)
  | [] => done []
  | question :: rest =>
      andThen (ask question) fun answer => andThen (askAll rest) fun answers =>
        done (answer :: answers)

theorem askAll_nil_andThen (next : List String → Interview β) :
    andThen (askAll []) next = next [] := rfl

theorem askAll_cons_andThen (question : Question) (rest : List Question)
    (next : List String → Interview β) :
    andThen (askAll (question :: rest)) next =
      andThen (ask question) fun answer => andThen (askAll rest) fun answers =>
        next (answer :: answers) := by
  simp only [askAll, andThen_assoc, done_andThen]

end Interview

/-- An attribute and what is left of the answers: one that is given takes none of them. -/
def Given.take (text : Option String) (answers : List String) : String × List String :=
  match text with
  | some text => (text, answers)
  | none => (answers.headD "", answers.tail)

/-- All attributes, those that are not given from the answers in order. -/
def Given.fill (given : Given) (answers : List String) : Interview.Answers :=
  let (destination, answers) := Given.take given.destination answers
  let (passport, answers) := Given.take given.passport answers
  let (purpose, answers) := Given.take given.purpose answers
  let (stay, _) := Given.take given.stay answers
  ⟨destination, passport, purpose, stay⟩

namespace Interview

theorem collect_eq (given : Given) :
    collect given = andThen (askAll given.questions) fun answers => done (given.fill answers) := by
  obtain ⟨destination, passport, purpose, stay⟩ := given
  cases destination <;> cases passport <;> cases purpose <;> cases stay <;>
    simp [collect, Given.questions, Given.fill, Given.take, answer_some, answer_none, done_andThen,
      askAll_nil_andThen, askAll_cons_andThen] <;> rfl

/-! ## Whole interviews -/

/-- Answers are interpreted when all of them are there. -/
def interpret (given : Given) : Except Fault (List String) → Except Fault Trip
  | .ok answers => (given.fill answers).toTrip
  | .error fault => .error fault

theorem run_of_askAll {given : Given} {input : List UInt8} {outcome : Except Fault (List String)}
    {put : List Question} {unread : List UInt8}
    (asked : askAll given.questions ⟨[], input⟩ = (outcome, ⟨put.reverse, unread⟩)) :
    run given input =
      { trip := interpret given outcome
        prompts := String.join (put.map Question.prompt)
        unread := unread } := by
  rw [run, collect_eq, andThen, asked]
  cases outcome <;> simp only [done, interpret, bind, Except.bind, List.reverse_reverse]

end Interview

end Visa
