import Visa.Interview
import Visa.Settings

namespace Visa

/-! The command line: which words are options, which are values of options, and what a line of
them asks for. Words are taken in order. An option and its value are only recorded when the next
option begins, a switch is met or the words end. -/

inductive Command where
  | check (given : Given) (json : Bool)
  | lint
  | list
deriving DecidableEq, Repr

structure CommandLine where
  rules : Option String
  config : Option String
  logFormat : Option String
  verbose : Bool
  command : Command
deriving DecidableEq, Repr

namespace CommandLine

/-- Why a command line is not carried out. Asking for help is one of the reasons. -/
inductive Refusal where
  | helpAsked
  | nothingGiven
  | noCommand
  | unknownCommand
  | unknownArgument
  | missingValue
  | unneededValue
  | repeated
deriving DecidableEq, Repr

inductive Valued where
  | rules
  | config
  | logFormat
  | destination
  | passport
  | purpose
  | stay
deriving DecidableEq, Repr

inductive Switch where
  | verbose
  | json
deriving DecidableEq, Repr

inductive Flag where
  | valued (option : Valued)
  | switch (switch : Switch)
  | help
deriving DecidableEq, Repr

/-- Where a flag stands: in front of the command or behind it. -/
inductive Scope where
  | program
  | check
  | lint
  | list
deriving DecidableEq, Repr

/-- The flags that every scope knows. -/
def globalFlag? (name : String) : Option Flag :=
  if name = "rules" then some (.valued .rules)
  else if name = "config" then some (.valued .config)
  else if name = "log-format" then some (.valued .logFormat)
  else if name = "verbose" then some (.switch .verbose)
  else if name = "help" then some .help
  else none

def checkFlag? (name : String) : Option Flag :=
  if name = "destination" then some (.valued .destination)
  else if name = "passport" then some (.valued .passport)
  else if name = "purpose" then some (.valued .purpose)
  else if name = "stay-days" then some (.valued .stay)
  else if name = "json" then some (.switch .json)
  else none

def longFlag? (scope : Scope) (name : String) : Option Flag :=
  (globalFlag? name).or (if scope = .check then checkFlag? name else none)

def shortFlag? (letter : Char) : Option Flag :=
  if letter = 'r' then some (.valued .rules)
  else if letter = 'c' then some (.valued .config)
  else if letter = 'v' then some (.switch .verbose)
  else if letter = 'h' then some .help
  else none

/-- What a scope has recorded, and the option that has begun but is not recorded yet. -/
structure Taken where
  values : List (Valued × String) := []
  switches : List Switch := []
  begun : Option (Valued × Option String) := none
deriving DecidableEq, Repr

namespace Taken

def value? (taken : Taken) (option : Valued) : Option String := taken.values.lookup option

def isEmpty (taken : Taken) : Bool := taken.values.isEmpty && taken.switches.isEmpty

/-- Whether the next word is the value of an option, unless it looks like a flag. -/
def awaits (taken : Taken) : Bool :=
  match taken.begun with
  | some (_, none) => true
  | _ => false

def record (taken : Taken) (option : Valued) (value : String) : Except Refusal Taken :=
  if (taken.value? option).isSome then .error .repeated
  else .ok { taken with values := taken.values ++ [(option, value)] }

/-- Records the option that has begun. -/
def settle (taken : Taken) : Except Refusal Taken :=
  match taken.begun with
  | none => .ok taken
  | some (_, none) => .error .missingValue
  | some (option, some value) => { taken with begun := none }.record option value

/-- An option with its value in the same word. -/
def attach (taken : Taken) (option : Valued) (value : String) : Except Refusal Taken := do
  (← taken.settle).record option value

/-- An option whose value is the next word. -/
def begin (taken : Taken) (option : Valued) : Except Refusal Taken := do
  return { ← taken.settle with begun := some (option, none) }

def turnOn (taken : Taken) (switch : Switch) : Except Refusal Taken := do
  let taken ← taken.settle
  if taken.switches.contains switch then .error .repeated
  else .ok { taken with switches := taken.switches ++ [switch] }

def askHelp (taken : Taken) : Except Refusal Taken := do
  let _ ← taken.settle
  .error .helpAsked

/-- The value that the option begun last has been waiting for. -/
def supply (taken : Taken) (value : String) : Taken :=
  { taken with begun := taken.begun.map fun (option, _) => (option, some value) }

end Taken

/-- A word behind two dashes: a flag, perhaps with a value after an equals sign. -/
def long (scope : Scope) (taken : Taken) (letters : List Char) : Except Refusal Taken :=
  let name := String.ofList (letters.takeWhile (· ≠ '='))
  let value? : Option String :=
    (letters.dropWhile (· ≠ '=')).tail?.map String.ofList
  match longFlag? scope name, value? with
  | none, _ => .error .unknownArgument
  | some (.valued option), some value => taken.attach option value
  | some (.valued option), none => taken.begin option
  | some _, some _ => .error .unneededValue
  | some (.switch switch), none => taken.turnOn switch
  | some .help, none => taken.askHelp

/-- The letters behind one dash: switches, and perhaps one option, whose value takes the rest. -/
def short (taken : Taken) : List Char → Except Refusal Taken
  | [] => .ok taken
  | letter :: rest =>
      match shortFlag? letter with
      | none => .error .unknownArgument
      | some (.switch switch) => do short (← taken.turnOn switch) rest
      | some .help => taken.askHelp
      | some (.valued option) =>
          match rest with
          | [] => taken.begin option
          | '=' :: value => taken.attach option (String.ofList value)
          | value => taken.attach option (String.ofList value)

inductive CommandWord where
  | scope (scope : Scope)
  | help
deriving DecidableEq, Repr

def commandWord? (word : String) : Option CommandWord :=
  if word = "check" then some (.scope .check)
  else if word = "lint" then some (.scope .lint)
  else if word = "list" then some (.scope .list)
  else if word = "help" then some .help
  else none

/-- Help on commands: at most one of them can be named. -/
def helpOn : List String → Refusal
  | [] => .helpAsked
  | [word] => if (commandWord? word).isSome then .helpAsked else .unknownCommand
  | _ => .unknownCommand

def stray (scope : Scope) : Refusal :=
  if scope = .program then .unknownCommand else .unknownArgument

/-- Two dashes end the flags. No scope takes words after them, not even the name of a command. -/
def afterDashes (scope : Scope) (taken : Taken) : List String → Except Refusal Taken
  | [] => taken.settle
  | word :: _ =>
      if scope = .program ∧ (commandWord? word).isSome then .error .unknownArgument
      else .error (stray scope)

def step (scope : Scope) (taken : Taken) (word : String) : Except Refusal Taken :=
  match word.toList with
  | '-' :: '-' :: letters => long scope taken letters
  | '-' :: letter :: letters => short taken (letter :: letters)
  | _ => if taken.awaits then .ok (taken.supply word) else .error (stray scope)

def commandWords (scope : Scope) : Taken → List String → Except Refusal Taken
  | taken, [] => taken.settle
  | taken, word :: rest => do
      if word = "--" then afterDashes scope taken rest
      else commandWords scope (← step scope taken word) rest

def commandOf (taken : Taken) : Scope → Option Command
  | .program => none
  | .lint => some .lint
  | .list => some .list
  | .check => some (.check
      { destination := taken.value? .destination
        passport := taken.value? .passport
        purpose := taken.value? .purpose
        stay := taken.value? .stay }
      (taken.switches.contains .json))

/-- What is said behind the command counts before what is said in front of it. -/
def combine (outer inner : Taken) (scope : Scope) : Except Refusal CommandLine :=
  match commandOf inner scope with
  | none => .error .noCommand
  | some command => .ok
      { rules := (inner.value? .rules).or (outer.value? .rules)
        config := (inner.value? .config).or (outer.value? .config)
        logFormat := (inner.value? .logFormat).or (outer.value? .logFormat)
        verbose := inner.switches.contains .verbose || outer.switches.contains .verbose
        command := command }

def withoutCommand (taken : Taken) : Refusal :=
  if taken.isEmpty then .nothingGiven else .noCommand

/-- The words from the start of the line up to the command, and then those of the command. -/
def words : Taken → List String → Except Refusal CommandLine
  | taken, [] => do .error (withoutCommand (← taken.settle))
  | taken, word :: rest =>
      match if taken.awaits then none else commandWord? word with
      | some .help => .error (helpOn rest)
      | some (.scope scope) => do
          let inner ← commandWords scope {} rest
          let outer ← taken.settle
          combine outer inner scope
      | none => do
          if word = "--" then .error (withoutCommand (← afterDashes .program taken rest))
          else words (← step .program taken word) rest

def parse (arguments : List String) : Except Refusal CommandLine := words {} arguments

/-! ## What the line and the settings say together -/

/-- The line wins over the settings. -/
def rulesPath (line : CommandLine) (settings : Settings) : String :=
  line.rules.getD settings.path

def format (line : CommandLine) (settings : Settings) : Except Fault LogFormat :=
  match line.logFormat with
  | some text => LogFormat.read text
  | none => settings.format

/-- The settings have to be sound even where the line wins over them. -/
def startupFormat (line : CommandLine) (settings : Settings) : Except Fault LogFormat := do
  settings.validate
  line.format settings

end CommandLine

end Visa
