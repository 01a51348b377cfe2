import Visa.Proofs.ExitStatus
import Visa.Proofs.ReadBack
import Visa.Proofs.RoundTrip

namespace Visa

/-! What a check writes as JSON. The document that ends its output decodes to the decision; the
questions put before it stand in the same output, and with one of them it is no JSON any more. -/

open Json (Decoder Draft Token decodeText)

/-! ## Questions -/

namespace Question

/-- No JSON text starts like a question. -/
theorem ofText_prompt (question : Question) (rest : List Char) :
    Draft.ofText (question.prompt.toList ++ rest) = (.broken .malformed, false) := by
  have flawed (letter : Char) (text : List Char) (solid : Token.isSpace letter = false)
      (wrong : ∀ text, Token.step letter text = (.flawed .malformed, [])) :
      Draft.ofText (letter :: text) = (.broken .malformed, false) := by
    rw [Draft.ofText, Token.ofText_step text solid, wrong]
    rfl
  cases question <;> exact flawed _ _ rfl fun _ => rfl

theorem decodeText_prompt {α : Type} (decoder : Json.Decoder α) (question : Question)
    (rest : List Char) (refused : decoder (.broken .malformed) = .error (.flawed .malformed)) :
    decodeText decoder (question.prompt.toList ++ rest) = .error (.flawed .malformed) := by
  rw [decodeText, ofText_prompt]
  dsimp only
  rw [refused]
  rfl

theorem decodeText_prompts {α : Type} (decoder : Json.Decoder α) {questions : List Question}
    (put : questions ≠ []) (document : String)
    (refused : decoder (.broken .malformed) = .error (.flawed .malformed)) :
    decodeText decoder (String.join (questions.map prompt) ++ document).toList =
      .error (.flawed .malformed) := by
  obtain ⟨question, rest, rfl⟩ := List.exists_cons_of_ne_nil put
  rw [List.map_cons, String.join_cons, String.append_assoc, String.toList_append]
  exact question.decodeText_prompt decoder _ refused

/-- Behind questions a document that decodes is found only if there are none. -/
theorem decodeText_prompts_iff {questions : List Question} {document : String}
    {decision : Decision} (decoded : decodeText Decision.decoder document.toList = .ok decision) :
    decodeText Decision.decoder (String.join (questions.map prompt) ++ document).toList =
      .ok decision ↔ questions = [] := by
  constructor
  · intro whole
    by_contra put
    rw [decodeText_prompts Decision.decoder put document rfl] at whole
    contradiction
  · rintro rfl
    rwa [List.map_nil, String.join_nil, String.empty_append]

end Question

namespace Interview

theorem prompts_of_trip {given : Given} {input : List UInt8} {trip : Trip}
    (found : (run given input).trip = .ok trip) :
    (run given input).prompts = String.join (given.questions.map Question.prompt) := by
  have transcript := transcript_run given input
  generalize run given input = outcome at transcript found
  cases transcript with
  | complete => rfl
  | ended => contradiction
  | garbled => contradiction

end Interview

/-! ## Checks -/

namespace Run

variable {line : CommandLine} {world : World} {given : Given}

theorem status_ne_cleanStatus (severity : Fault.Severity) : status severity ≠ cleanStatus := by
  cases severity <;> decide

theorem Early.unclean {read : LogFilter.Reader} {ending : Outcome × Option Logger}
    (early : Early read line world ending) : ending.1.status ≠ cleanStatus := by
  cases early with
  | settings failed => nofun
  | logger stops => nofun
  | format refused => exact status_ne_cleanStatus _

theorem rulesFile?_of_ready {settings : Settings} {logger : Logger}
    (ready : ready? LogFilter.ofText line world = some (settings, logger)) :
    rulesFile? line world = some (line.rulesPath settings) := by
  rw [rulesFile?, ready]
  rfl

/-- A check that ends well has been answered all its questions, and its rules file is known. -/
theorem exists_of_clean (asked : line.command = .check given true)
    (clean : (run line world).1.status = 0) :
    ∃ path trip, rulesFile? line world = some path ∧
      (Interview.run given world.input).trip = .ok trip ∧
      (run line world).1.standardOutput = String.join (given.questions.map Question.prompt) ++
        answerText true (RuleBook.evaluate (source path world).load.rules trip) := by
  cases ready : ready? LogFilter.ofText line world with
  | none => exact absurd clean (early_of_unready ready).unclean
  | some pair =>
      obtain ⟨settings, logger⟩ := pair
      rw [run, runWith_of_ready ready, asked] at clean ⊢
      refine ⟨line.rulesPath settings, ?_⟩
      cases found : (Interview.run given world.input).trip with
      | error fault =>
          simp only [command, check, found, fail] at clean
          exact absurd clean (status_ne_cleanStatus _)
      | ok trip =>
          refine ⟨trip, rulesFile?_of_ready ready, rfl, ?_⟩
          simp only [command, check, found, Outcome.standardOutput, Interview.prompts_of_trip found]

theorem decodeText_answerText (decision : Decision) :
    decodeText Decision.decoder (answerText true decision).toList = .ok decision := by
  have blank : Token.AllSpace ['\n'] := List.forall_mem_singleton.mpr rfl
  have decoded := Decision.readable.decodeText_append decision blank
  rwa [answerText, if_pos rfl, String.toList_append, String.toList_ofList]

/-- A check that answers in JSON ends its output with a document that decodes to the decision on
the trip. In front of it stand the questions that were put; the whole output is the document only if
there are none, and no JSON text at all otherwise. -/
theorem standardOutput_json (asked : line.command = .check given true)
    (clean : (run line world).1.status = 0) :
    ∃ path trip document, rulesFile? line world = some path ∧
      (Interview.run given world.input).trip = .ok trip ∧
      (run line world).1.standardOutput =
        String.join (given.questions.map Question.prompt) ++ document ∧
      decodeText Decision.decoder document.toList =
        .ok (RuleBook.evaluate (source path world).load.rules trip) ∧
      (decodeText Decision.decoder (run line world).1.standardOutput.toList =
        .ok (RuleBook.evaluate (source path world).load.rules trip) ↔ given.questions = []) ∧
      (given.questions ≠ [] →
        decodeText Decoder.skip (run line world).1.standardOutput.toList =
          .error (.flawed .malformed)) := by
  obtain ⟨path, trip, place, found, output⟩ := exists_of_clean asked clean
  have decoded := decodeText_answerText (RuleBook.evaluate (source path world).load.rules trip)
  rw [output]
  exact ⟨path, trip, _, place, found, rfl, decoded, Question.decodeText_prompts_iff decoded,
    fun put => Question.decodeText_prompts Decoder.skip put _ rfl⟩

theorem rules_saving (world : World) (path : String) {rules : List Rule}
    (bounded : ∀ rule ∈ rules, rule.excess? = none) :
    (source path (world.saving path (String.ofList (Rule.renderAll rules)))).load.rules =
      rules := by
  rw [Source.load, source, World.text_saving, String.toList_ofList]
  dsimp only
  rw [Report.ofText_renderAll_of_bounded bounded]

/-- One rule covers the trip; the passport and the length of the stay are asked for. -/
theorem standardOutput_json_two_asked :
    let line : CommandLine :=
      { rules := none, config := none, logFormat := none, verbose := false
        command := .check { destination := some "japan", purpose := some "TOURISM" } true }
    let rule : Rule :=
      { destination := .japan, passport := .usa, purpose := .tourism, maxStay := 90
        visaRequired := false, category := .visaFree, kind := .none, documents := [.passport]
        processing := 0 }
    let empty : World :=
      ⟨fun _ => .error "No such file or directory (os error 2)", fun _ => none,
        "usa\n 30 \n".toUTF8.data.toList⟩
    let world := empty.saving "rules.json" (String.ofList (Rule.renderAll [rule]))
    (run line world).1.status = 0 ∧ ∃ document,
      (run line world).1.standardOutput =
        String.join ([Question.passport, .stay].map Question.prompt) ++ document ∧
      decodeText Decision.decoder document.toList = .ok (Decision.ofRule rule []) ∧
      decodeText Decoder.skip (run line world).1.standardOutput.toList =
        .error (.flawed .malformed) := by
  intro line rule empty world
  have clean : (run line world).1.status = 0 := by decide +kernel
  have resolved : (Interview.run { destination := some "japan", purpose := some "TOURISM" }
      world.input).trip = .ok ⟨⟨.japan, .usa, .tourism⟩, 30⟩ := by decide +kernel
  have known : rulesFile? line world = some "rules.json" := rfl
  have loaded : (source "rules.json" world).load.rules = [rule] :=
    rules_saving empty "rules.json" (by decide)
  obtain ⟨path, trip, document, place, found, output, decoded, _, broken⟩ :=
    standardOutput_json rfl clean
  cases resolved.symm.trans found
  cases known.symm.trans place
  have evaluated : RuleBook.evaluate [rule] ⟨⟨.japan, .usa, .tourism⟩, 30⟩ =
      .ofRule rule [] := by decide
  rw [loaded, evaluated] at decoded
  exact ⟨clean, document, output, decoded, broken nofun⟩

/-- With all four attributes asked for, a check that ends well writes no JSON. -/
theorem standardOutput_four_asked :
    let line : CommandLine :=
      { rules := none, config := none, logFormat := none, verbose := false
        command := .check {} true }
    let world : World :=
      ⟨fun _ => .error "No such file or directory (os error 2)", fun _ => none,
        "JAPAN\nUSA\nTOURISM\n5\n".toUTF8.data.toList⟩
    (run line world).1.status = 0 ∧
      decodeText Decision.decoder (run line world).1.standardOutput.toList =
        .error (.flawed .malformed) ∧
      decodeText Decoder.skip (run line world).1.standardOutput.toList =
        .error (.flawed .malformed) := by
  intro line world
  have clean : (run line world).1.status = 0 := by decide +kernel
  obtain ⟨path, trip, _, _, output⟩ := exists_of_clean rfl clean
  have asks : ({} : Given).questions ≠ [] := by decide
  rw [output]
  exact ⟨clean, Question.decodeText_prompts Decision.decoder asks _ rfl,
    Question.decodeText_prompts Decoder.skip asks _ rfl⟩

end Run

end Visa
