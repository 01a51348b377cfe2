import Visa.CommandLine
import Visa.Exchange.Writing
import Visa.LogFilter
import Visa.RuleBook
import Visa.Settings.Document

namespace Visa

/-! One run of the program, from an accepted command line and what it finds around it to what it
writes and the status it ends with. -/

/-- What a run finds: files by their path, variables of the environment, and standard input. A
file that cannot be read has a reason. -/
structure World where
  file : String → Except String (List UInt8)
  environment : Settings.Environment
  input : List UInt8

namespace World

def text (world : World) (path : String) : Except String (List Char) := do
  let bytes ← world.file path
  match String.fromUTF8? bytes.toByteArray with
  | some text => .ok text.toList
  | none => .error "stream did not contain valid UTF-8"

end World

/-- Something for standard error: an event, if the filter lets it through, or plain text. -/
inductive Notice where
  | event (event : Event)
  | text (text : String)
deriving DecidableEq, Repr

/-- What a run amounts to. The questions put to the user are written before the output. -/
structure Outcome where
  status : Nat
  prompts : String
  output : String
  notices : List Notice
deriving DecidableEq, Repr

/-- Everything that a run writes to standard output. -/
def Outcome.standardOutput (outcome : Outcome) : String := outcome.prompts ++ outcome.output

/-- The logger of a run: what it shows, and in which layout. -/
structure Logger where
  filter : LogFilter
  format : LogFormat
deriving DecidableEq, Repr

namespace Run

def cleanStatus : Nat := 0

/-- Skipped records and bad answers can be mended by the user. -/
def findingsStatus : Nat := 2

def settingsStatus : Nat := 1

def status : Fault.Severity → Nat
  | .low | .medium => findingsStatus
  | .high => settingsStatus
  | .critical => 3

def faultEvent (fault : Fault) : Event where
  level := .error
  origin := .command
  message := fault.message ++ " (Category: " ++ fault.category.name ++ ", Severity: " ++
    fault.severity.name ++ ")"

def fail (fault : Fault) : Outcome where
  status := status fault.severity
  prompts := ""
  output := ""
  notices := [.event (faultEvent fault),
    .text ("Error: " ++ fault.explanation ++ "\nSuggestion: " ++ fault.suggestion ++ "\n")]

/-! ## Settings -/

/-- The settings that a line names; no file has to be named. -/
def settings (line : CommandLine) (world : World) : Except Fault Settings :=
  match line.config with
  | none => .ok {}
  | some path =>
      match world.text path with
      | .ok text => Settings.ofText world.environment text
      | .error reason => .error (.unreadable reason)

/-- The causes under a fault, from the fault itself down to what made it. -/
def causes (fault : Fault) : List String :=
  match fault with
  | .unreadable reason | .malformedSettings reason => [fault.message, reason]
  | _ => [fault.message]

def causeLines (fault : Fault) : List String :=
  (causes fault).zipIdx.map fun (cause, index) => "    " ++ index.repr ++ ": " ++ cause

/-- The end of a run whose settings cannot be read; there is no logger yet. -/
def failSettings (path : String) (fault : Fault) : Outcome where
  status := settingsStatus
  prompts := ""
  output := ""
  notices := [.text ("\n".intercalate
    (["Error: failed to load config file '" ++ path ++ "'", "", "Caused by:"] ++
      causeLines fault) ++ "\n")]

/-! ## Commands -/

def source (path : String) (world : World) : Source := ⟨path, world.text path⟩

def events (events : List Event) : List Notice := events.map Notice.event

/-- The decision as the command shows it: as JSON, or as text with a blank line in front. -/
def answerText (json : Bool) (decision : Decision) : String :=
  if json then String.ofList decision.toJson.render ++ "\n"
  else "\n" ++ decision.render ++ "\n"

/-- The rules are loaded only when the trip is known. -/
def check (given : Given) (json : Bool) (path : String) (world : World) : Outcome :=
  let interview := Interview.run given world.input
  match interview.trip with
  | .error fault => { fail fault with prompts := interview.prompts }
  | .ok trip =>
      let source := source path world
      let book := source.load.rules
      { status := cleanStatus
        prompts := interview.prompts
        output := answerText json (RuleBook.evaluate book trip)
        notices := events (source.events ++ RuleBook.events book trip) }

def skippedText (skipped : Skipped) : String :=
  "  record #" ++ skipped.index.repr ++ ": " ++ skipped.reason.message ++ "\n    " ++
    skipped.snippet ++ "\n"

def lintText (path : String) (report : Report) : String :=
  report.rules.length.repr ++ " rule(s) parsed from " ++ path ++ "\n" ++
    String.join (report.skipped.map skippedText)

def lint (path : String) (world : World) : Outcome :=
  let source := source path world
  { status := if source.load.isClean then cleanStatus else findingsStatus
    prompts := ""
    output := lintText path source.load
    notices := events source.events }

def list (path : String) (world : World) : Outcome :=
  let source := source path world
  { status := cleanStatus
    prompts := ""
    output := String.ofList (Rule.renderAll source.load.rules) ++ "\n"
    notices := events source.events }

def command (command : Command) (path : String) (world : World) : Outcome :=
  match command with
  | .check given json => check given json path world
  | .lint => lint path world
  | .list => list path world

/-! ## The whole run -/

def filterVariable : String := "RUST_LOG"

def pathEvent (path : String) : Event := ⟨.debug, .command, "Using rules file " ++ path⟩

/-- The level and the layout for the logger. Settings that cannot be used leave it at its
defaults. -/
def logging (line : CommandLine) (settings : Settings) : Option String × LogFormat :=
  match line.startupFormat settings with
  | .error _ => (none, .compact)
  | .ok format => (settings.logLevel, format)

/-- The logger of a run whose settings have been read. -/
def logger? (read : LogFilter.Reader) (line : CommandLine) (settings : Settings) (world : World) :
    Option Logger :=
  let (level, format) := logging line settings
  (LogFilter.choose read (world.environment filterVariable) line.verbose level).map fun filter =>
    ⟨filter, format⟩

/-- The settings and the logger of a run that gets as far as its command. -/
def ready? (read : LogFilter.Reader) (line : CommandLine) (world : World) :
    Option (Settings × Logger) :=
  match settings line world with
  | .error _ => none
  | .ok settings =>
      match line.startupFormat settings with
      | .error _ => none
      | .ok _ => (logger? read line settings world).map fun logger => (settings, logger)

/-- The questions that a run puts if all of them are answered. -/
def questions (line : CommandLine) (world : World) : List Question :=
  match ready? LogFilter.ofText line world, line.command with
  | some _, .check given _ => given.questions
  | _, _ => []

/-- The rules file of a run that gets as far as its command. -/
def rulesFile? (line : CommandLine) (world : World) : Option String :=
  (ready? LogFilter.ofText line world).map fun (settings, _) => line.rulesPath settings

/-- What a run amounts to from where its settings have been read and its logger is set up. -/
def proceed (line : CommandLine) (settings : Settings) (world : World) : Outcome :=
  match line.startupFormat settings with
  | .error fault => fail fault
  | .ok _ =>
      let path := line.rulesPath settings
      let outcome := command line.command path world
      { outcome with notices := .event (pathEvent path) :: outcome.notices }

def stoppedStatus : Nat := 101

/-- The end of a run whose logger cannot be set up, as the reading of its filter stopped. What is
said about that is left out. -/
def stopped : Outcome where
  status := stoppedStatus
  prompts := ""
  output := ""
  notices := []

/-- The outcome of a run and the logger through which its events go, for any reader of filters. -/
def runWith (read : LogFilter.Reader) (line : CommandLine) (world : World) :
    Outcome × Option Logger :=
  match settings line world with
  | .error fault => (failSettings (line.config.getD "") fault, none)
  | .ok settings =>
      match logger? read line settings world with
      | none => (stopped, none)
      | some logger => (proceed line settings world, some logger)

def run (line : CommandLine) (world : World) : Outcome × Option Logger :=
  runWith LogFilter.ofText line world

/-! ## Standard error -/

/-- A line of standard error: the first line of a log entry, or any other line. -/
inductive Line where
  | log (format : LogFormat) (level : Level) (text : String)
  | plain (text : String)
deriving DecidableEq, Repr

/-- Characters that could steer a terminal are spelled out in compact entries. -/
def harmless (letter : Char) : List Char :=
  if letter = '\x1b' then "\\x1b".toList
  else if letter = '\x07' then "\\x07".toList
  else if letter = '\x08' then "\\x08".toList
  else if letter = '\x0c' then "\\x0c".toList
  else if letter = '\x7f' then "\\x7f".toList
  else if 0x80 ≤ letter.toNat ∧ letter.toNat ≤ 0x9F then
    ['\\', 'u', '{'] ++ Text.hexadecimal letter.toNat ++ ['}']
  else [letter]

/-- The lines of a text; a line break at its end starts no further line. -/
def linesOf (text : List Char) : List String :=
  let lines := (text.splitOnP (· == '\n')).map String.ofList
  if lines.getLast? = some "" then lines.dropLast else lines

/-- An entry in the compact layout takes as many lines as its message has. -/
def compactLines (event : Event) : List Line :=
  let shown := event.message.toList.flatMap harmless
  match (shown.splitOnP (· == '\n')).map String.ofList with
  | [] => []
  | first :: rest => .log .compact event.level first :: rest.map Line.plain

def eventLines (format : LogFormat) (event : Event) : List Line :=
  match format with
  | .compact => compactLines event
  | .json => [.log .json event.level event.message]

/-- Without a logger no event is shown. -/
def noticeLines (logger : Option Logger) : Notice → List Line
  | .event event =>
      match logger with
      | some logger => if logger.filter.shows event then eventLines logger.format event else []
      | none => []
  | .text text => (linesOf text.toList).map Line.plain

def errorLines (outcome : Outcome) (logger : Option Logger) : List Line :=
  outcome.notices.flatMap (noticeLines logger)

end Run

end Visa
