import Visa.Proofs.Logging
import Visa.Proofs.Startup
import Visa.Proofs.Transcript

namespace Visa

/-! The status that a run ends with. It tells settings that cannot be used from answers that cannot
be read, and both from findings that the user can mend; the rules file has a say in it only where
the rules are checked.

What reads the filter of the logger is a parameter here. All that is asked of it is that it reads or
refuses the texts of the run; where it stops, the run stops too, with a status of its own. -/

/-! ## Faults of answers -/

/-- The fault is in an answer: there is none, or it means nothing where it was asked for. -/
inductive Fault.OfAnswer : Fault → Prop
  | missing (field : String) : OfAnswer (.missingAnswer field)
  | token (subject token : String) : OfAnswer (.unknownToken subject token)
  | count (field text : String) : OfAnswer (.invalidCount field text)

theorem Fault.IsMisread.ofAnswer {fault : Fault} (misread : fault.IsMisread) : fault.OfAnswer := by
  cases misread with
  | token subject text => exact .token subject text
  | count field text => exact .count field text

theorem Fault.OfAnswer.status {fault : Fault} (ofAnswer : fault.OfAnswer) :
    Run.status fault.severity = Run.findingsStatus := by
  cases ofAnswer <;> rfl

namespace Interview

/-- The first read that gets no answer is that of a line that is no text. -/
def Garbled (given : Given) (input : List UInt8) : Prop :=
  ∃ (replies : List String) (line unread : List UInt8),
    replies.length < given.questions.length ∧
      Taken (replies.map encode ++ [line]) input unread ∧ ∀ text, encode text ≠ line

variable {given : Given} {input : List UInt8}

theorem trip_of_garbled (garbled : Garbled given input) :
    ∃ reason, (run given input).trip = .error (.unreadable reason) := by
  obtain ⟨replies, line, unread, due, taken, noText⟩ := garbled
  have order : given.questions = given.questions.take replies.length ++
      given.questions[replies.length] :: given.questions.drop (replies.length + 1) := by
    rw [List.getElem_cons_drop, List.take_append_drop]
  have count : replies.length = (given.questions.take replies.length).length := by
    rw [List.length_take, Nat.min_eq_left due.le]
  have transcript : Transcript given input _ := .garbled order count taken noText
  rw [← transcript.eq_run]
  exact ⟨_, rfl⟩

theorem trip_cases (given : Given) (input : List UInt8) :
    (∃ trip, (run given input).trip = .ok trip ∧ ¬Garbled given input) ∨
      (∃ fault, (run given input).trip = .error fault ∧ fault.OfAnswer ∧ ¬Garbled given input) ∨
      ∃ reason, (run given input).trip = .error (.unreadable reason) ∧ Garbled given input := by
  have unreadable := @trip_of_garbled given input
  have transcript := transcript_run given input
  generalize run given input = outcome at unreadable transcript
  cases transcript with
  | @complete replies answers unread outcome taken collected interpreted =>
      cases outcome with
      | ok trip =>
          refine .inl ⟨trip, rfl, fun garbled => ?_⟩
          obtain ⟨reason, failed⟩ := unreadable garbled
          contradiction
      | error fault =>
          have misread := failsWith_toTrip answers fault (interpreted_iff.mp interpreted).symm
          refine .inr (.inl ⟨fault, rfl, misread.ofAnswer, fun garbled => ?_⟩)
          obtain ⟨reason, failed⟩ := unreadable garbled
          cases failed
          cases misread
  | ended =>
      refine .inr (.inl ⟨_, rfl, .missing _, fun garbled => ?_⟩)
      obtain ⟨reason, failed⟩ := unreadable garbled
      cases failed
  | @garbled before after question replies line unread order count taken noText =>
      have due : replies.length < given.questions.length := by
        rw [order, List.length_append, List.length_cons]
        omega
      exact .inr (.inr ⟨_, rfl, replies, line, unread, due, taken, noText⟩)

end Interview

open Interview (Garbled)

/-! ## Settings -/

namespace Run

variable {read : LogFilter.Reader} {line : CommandLine} {world other : World} {logger : Logger}

/-- The run has no settings to go by: the file named for them cannot be read, it does not hold
settings, or what it and the line say together cannot be used. -/
inductive Misconfigured (line : CommandLine) (world : World) : Prop
  | unreadable {path reason : String} (named : line.config = some path)
      (failed : world.text path = .error reason)
  | malformed {path : String} {text : List Char} {fault : Fault} (named : line.config = some path)
      (found : world.text path = .ok text)
      (refused : Settings.ofText world.environment text = .error fault)
  | unsound {settings : Settings} {fault : Fault} (found : Run.settings line world = .ok settings)
      (refused : line.startupFormat settings = .error fault)

theorem misconfigured_of_error {fault : Fault} (failed : settings line world = .error fault) :
    Misconfigured line world := by
  unfold settings at failed
  cases named : line.config with
  | none =>
      rw [named] at failed
      contradiction
  | some path =>
      rw [named] at failed
      dsimp only at failed
      cases found : world.text path with
      | error reason => exact .unreadable named found
      | ok text =>
          rw [found] at failed
          exact .malformed named found failed

theorem misconfigured_iff :
    Misconfigured line world ↔ ∀ settings, Run.settings line world = .ok settings →
      ∃ fault, line.startupFormat settings = .error fault := by
  constructor
  · intro misconfigured settings known
    cases misconfigured with
    | unreadable named failed => simp [Run.settings, named, failed] at known
    | malformed named found refused => simp [Run.settings, named, found, refused] at known
    | unsound found refused =>
        cases found.symm.trans known
        exact ⟨_, refused⟩
  · intro refused
    cases found : settings line world with
    | error fault => exact misconfigured_of_error found
    | ok settings =>
        obtain ⟨fault, failed⟩ := refused settings found
        exact .unsound found failed

theorem ready?_eq_some_iff {settings : Settings} :
    ready? read line world = some (settings, logger) ↔
      Run.settings line world = .ok settings ∧
        (∃ format, line.startupFormat settings = .ok format) ∧
        logger? read line settings world = some logger := by
  unfold ready?
  cases found : Run.settings line world with
  | error fault => simp
  | ok known =>
      dsimp only
      cases resolved : line.startupFormat known with
      | error fault =>
          constructor
          · nofun
          · rintro ⟨⟨⟩, ⟨format, sound⟩, _⟩
            cases resolved.symm.trans sound
      | ok format =>
          rw [Option.map_eq_some_iff]
          constructor
          · rintro ⟨logger, chosen, ⟨⟩⟩
            exact ⟨rfl, ⟨format, resolved⟩, chosen⟩
          · rintro ⟨⟨⟩, _, chosen⟩
            exact ⟨logger, chosen, rfl⟩

theorem unready_of_misconfigured (misconfigured : Misconfigured line world) :
    ready? read line world = none := by
  cases ready : ready? read line world with
  | none => rfl
  | some pair =>
      obtain ⟨found, ⟨format, resolved⟩, _⟩ := ready?_eq_some_iff.mp ready
      obtain ⟨fault, refused⟩ := misconfigured_iff.mp misconfigured _ found
      cases resolved.symm.trans refused

theorem exists_ready (returns : ¬Stopped read line world) (configured : ¬Misconfigured line world) :
    ∃ settings logger, ready? read line world = some (settings, logger) := by
  rw [misconfigured_iff] at configured
  push Not at configured
  obtain ⟨settings, found, sound⟩ := configured
  cases resolved : line.startupFormat settings with
  | error fault => exact absurd resolved (sound fault)
  | ok format =>
      cases chosen : logger? read line settings world with
      | none => exact absurd ⟨settings, found, chosen⟩ returns
      | some logger =>
          exact ⟨settings, logger, ready?_eq_some_iff.mpr ⟨found, ⟨format, resolved⟩, chosen⟩⟩

theorem refused_of_unready {settings : Settings} (unready : ready? read line world = none)
    (found : Run.settings line world = .ok settings)
    (chosen : logger? read line settings world = some logger) :
    ∃ fault, line.startupFormat settings = .error fault := by
  cases resolved : line.startupFormat settings with
  | error fault => exact ⟨fault, rfl⟩
  | ok format =>
      have ready := ready?_eq_some_iff.mpr ⟨found, ⟨format, resolved⟩, chosen⟩
      rw [unready] at ready
      contradiction

/-! ## How far a run gets -/

/-- The event is about rules or the loading of them. -/
def IsAboutRules (event : Event) : Prop := event.origin = .reader ∨ event.origin = .loader

/-- How a run ends that does not get as far as its command. -/
inductive Early (read : LogFilter.Reader) (line : CommandLine) (world : World) :
    Outcome × Option Logger → Prop
  | settings {fault : Fault} (failed : Run.settings line world = .error fault) :
      Early read line world (failSettings (line.config.getD "") fault, none)
  | logger (stops : Stopped read line world) : Early read line world (stopped, none)
  | format {settings : Settings} {fault : Fault} {logger : Logger}
      (refused : line.startupFormat settings = .error fault) :
      Early read line world (fail fault, some logger)

theorem early_of_unready (unready : ready? read line world = none) :
    Early read line world (runWith read line world) := by
  unfold runWith
  cases found : Run.settings line world with
  | error fault => exact .settings found
  | ok settings =>
      dsimp only
      cases chosen : logger? read line settings world with
      | none => exact .logger ⟨settings, found, chosen⟩
      | some logger =>
          obtain ⟨fault, refused⟩ := refused_of_unready unready found chosen
          dsimp only
          rw [proceed, refused]
          exact .format refused

theorem Early.silent {ending : Outcome × Option Logger} (early : Early read line world ending) :
    ending.1.standardOutput = "" ∧
      ∀ event, .event event ∈ ending.1.notices → ¬IsAboutRules event := by
  cases early with
  | settings failed => exact ⟨rfl, by simp [failSettings]⟩
  | logger stops => exact ⟨rfl, nofun⟩
  | format refused => exact ⟨rfl, by simp [fail, faultEvent, IsAboutRules]⟩

theorem status_of_misconfigured (returns : ¬Stopped read line world)
    (misconfigured : Misconfigured line world) :
    (runWith read line world).1.status = settingsStatus := by
  have early : Early read line world _ :=
    early_of_unready (unready_of_misconfigured misconfigured)
  generalize runWith read line world = ending at early
  cases early with
  | settings failed => rfl
  | logger stops => contradiction
  | @format settings fault logger refused =>
      simp [fail, CommandLine.severity_of_startupFormat refused, status]

theorem runWith_of_ready {settings : Settings}
    (ready : ready? read line world = some (settings, logger)) :
    (runWith read line world).1 =
      { command line.command (line.rulesPath settings) world with
        notices := .event (pathEvent (line.rulesPath settings)) ::
          (command line.command (line.rulesPath settings) world).notices } := by
  obtain ⟨found, ⟨format, resolved⟩, chosen⟩ := ready?_eq_some_iff.mp ready
  simp only [runWith, found, chosen, proceed, resolved]

/-! ## Commands -/

/-- The run asks a question to which the first unanswered line is no text. -/
def GarbledAnswer (line : CommandLine) (world : World) : Prop :=
  ∃ given json, line.command = .check given json ∧ Garbled given world.input

/-- What the user can mend: an answer that cannot be used, or a record that was skipped. -/
inductive Findings (line : CommandLine) (world : World) : Prop
  | answer {given : Given} {json : Bool} {fault : Fault} (asked : line.command = .check given json)
      (failed : (Interview.run given world.input).trip = .error fault) (ofAnswer : fault.OfAnswer)
  | record {settings : Settings} (linting : line.command = .lint)
      (found : Run.settings line world = .ok settings)
      (skipped : (source (line.rulesPath settings) world).load.skipped ≠ [])

/-- How a run ends that gets as far as its command. -/
inductive Ending (line : CommandLine) (world : World) : Nat → Prop
  | garbled (garbled : GarbledAnswer line world) : Ending line world 3
  | findings (plain : ¬GarbledAnswer line world) (findings : Findings line world) :
      Ending line world 2
  | clean (plain : ¬GarbledAnswer line world) (nothing : ¬Findings line world) :
      Ending line world 0

theorem not_garbledAnswer {given : Given} {json : Bool} (asked : line.command = .check given json)
    (plain : ¬Garbled given world.input) : ¬GarbledAnswer line world := by
  rintro ⟨_, _, same, garbled⟩
  cases asked.symm.trans same
  exact plain garbled

theorem not_garbledAnswer_of_ne (silent : ∀ given json, line.command ≠ .check given json) :
    ¬GarbledAnswer line world := fun ⟨given, json, asked, _⟩ => silent given json asked

theorem ending_check {given : Given} {json : Bool} (path : String)
    (asked : line.command = .check given json) :
    Ending line world (check given json path world).status := by
  rcases Interview.trip_cases given world.input with
    ⟨trip, found, plain⟩ | ⟨fault, failed, ofAnswer, plain⟩ | ⟨reason, failed, garbled⟩
  · have clean : (check given json path world).status = 0 := by
      simp [check, found, cleanStatus]
    rw [clean]
    refine .clean (not_garbledAnswer asked plain) fun findings => ?_
    cases findings with
    | answer same failed _ =>
        cases asked.symm.trans same
        exact nomatch found.symm.trans failed
    | record linting => exact nomatch asked.symm.trans linting
  · have mendable : (check given json path world).status = 2 := by
      simp [check, failed, fail, ofAnswer.status, findingsStatus]
    rw [mendable]
    exact .findings (not_garbledAnswer asked plain) (.answer asked failed ofAnswer)
  · have critical : (check given json path world).status = 3 := by
      simp [check, failed, fail, status, Fault.severity]
    rw [critical]
    exact .garbled ⟨given, json, asked, garbled⟩

theorem ending_lint {settings : Settings} (asked : line.command = .lint)
    (found : Run.settings line world = .ok settings) :
    Ending line world (lint (line.rulesPath settings) world).status := by
  have plain : ¬GarbledAnswer line world :=
    not_garbledAnswer_of_ne fun given json same => nomatch asked.symm.trans same
  by_cases skipped : (source (line.rulesPath settings) world).load.skipped = []
  · have clean : (lint (line.rulesPath settings) world).status = 0 := by
      simp [lint, Report.isClean, skipped, cleanStatus]
    rw [clean]
    refine .clean plain fun findings => ?_
    cases findings with
    | answer same => exact nomatch asked.symm.trans same
    | record _ known skips =>
        cases found.symm.trans known
        exact skips skipped
  · have mendable : (lint (line.rulesPath settings) world).status = 2 := by
      simp [lint, Report.isClean, skipped, findingsStatus]
    rw [mendable]
    exact .findings plain (.record asked found skipped)

theorem ending_list (path : String) (asked : line.command = .list) :
    Ending line world (list path world).status := by
  refine .clean (not_garbledAnswer_of_ne fun given json same => nomatch asked.symm.trans same)
    fun findings => ?_
  cases findings with
  | answer same => exact nomatch asked.symm.trans same
  | record linting => exact nomatch asked.symm.trans linting

theorem ending_of_ready {settings : Settings}
    (ready : ready? read line world = some (settings, logger)) :
    Ending line world (runWith read line world).1.status := by
  rw [runWith_of_ready ready]
  cases asked : line.command with
  | check given json => exact ending_check _ asked
  | lint => exact ending_lint asked (ready?_eq_some_iff.mp ready).1
  | list => exact ending_list (line.rulesPath settings) asked

/-- The status of a run that stopped is that of no other run. -/
theorem status_eq_stoppedStatus_iff (read : LogFilter.Reader) (line : CommandLine) (world : World) :
    (runWith read line world).1.status = stoppedStatus ↔ Stopped read line world := by
  constructor
  · intro ended
    by_contra returns
    by_cases misconfigured : Misconfigured line world
    · rw [status_of_misconfigured returns misconfigured] at ended
      contradiction
    · obtain ⟨settings, logger, ready⟩ := exists_ready returns misconfigured
      have other := ending_of_ready ready
      rw [ended] at other
      cases other
  · rintro ⟨settings, found, stops⟩
    simp only [runWith, found, stops, stopped]

-- the equals sign of the second directive is looked for one byte in, which is inside of its blank
example :
    let line : CommandLine :=
      { rules := none, config := some "visa.toml", logFormat := none, verbose := false
        command := .list }
    let world : World :=
      ⟨fun _ => .ok "[logging]\nlevel = \"info,\u00a0a=info\"\n".toUTF8.data.toList,
        fun _ => none, []⟩
    (run line world).1.status = stoppedStatus := by
  decide +kernel

/-! ## Two runs -/

end Run

end Visa
