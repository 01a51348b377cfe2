import Visa.LogFilter.Directive

namespace Visa

/-! Which events are shown. A filter is a list of directives; of those that apply to an event the
most specific one decides, and without one the event is not shown. -/

/-- The place of a level, counted from the most important one. -/
def Level.rank : Level → Nat
  | .error => 1
  | .warn => 2
  | .info => 3
  | .debug => 4

abbrev LogFilter := List Directive

namespace LogFilter

/-- What reads filters. It gives a filter, finds that a text is none, or stops. -/
abbrev Reader := List Char → Except Directive.Flaw LogFilter

/-- The texts of the directives, which have commas between them. -/
def pieces (text : List Char) : List (List Char) :=
  (text.splitOnP (· == ',')).filter fun piece => !piece.isEmpty

/-- Directives in their order; the first one that cannot be read spoils them all. -/
def ofText : Reader := fun text => (pieces text).mapM Directive.ofText

/-! ## Deciding -/

def messageField : String := "message"

def applies (directive : Directive) (event : Event) : Bool :=
  let targetFits := match directive.target with
    | some target => target.toList.isPrefixOf event.origin.path.toList
    | none => true
  !directive.forSpans && targetFits && directive.fields.all fun field => field == messageField

/-- A longer target is more specific, and any target more than none; then the fields count. -/
def isBelow (left right : Directive) : Bool :=
  let size (directive : Directive) : Nat :=
    match directive.target with
    | some target => target.length + 1
    | none => 0
  size left < size right || (size left == size right && left.fields.length ≤ right.fields.length)

/-- Of two directives that are equally specific the later one counts. -/
def mostSpecific (directives : List Directive) : Option Directive :=
  directives.foldl (fun best next =>
    match best with
    | some best => if isBelow best next then some next else some best
    | none => some next) none

def shows (filter : LogFilter) (event : Event) : Bool :=
  match mostSpecific (filter.filter fun directive => applies directive event) with
  | some directive => event.level.rank ≤ directive.threshold
  | none => false

/-! ## Choosing -/

def verboseText : String := "visa_rules=debug,info"

def levelText (level : String) : String := "visa_rules=" ++ level ++ ",warn"

def defaultLevel : String := "info"

/-- The filter that was read, or another one if the text is none. -/
def orElse (reading : Except Directive.Flaw LogFilter) (other : Option LogFilter) :
    Option LogFilter :=
  match reading with
  | .ok filter => some filter
  | .error .unreadable => other
  | .error .stopped => none

/-- The filter for a run: one from the environment if it can be read; else a fixed one for verbose
runs; else one for the level of the settings, or for the default level if that is none. A fixed text
that cannot be read leaves a filter that shows nothing, and there is no filter at all where the
reading of a text stops. -/
def choose (read : Reader) (fromEnvironment : Option String) (verbose : Bool)
    (level : Option String) : Option LogFilter :=
  let reading (text : String) := read text.toList
  orElse ((fromEnvironment.map reading).getD (.error .unreadable)) <|
    if verbose then orElse (reading verboseText) (some [])
    else orElse (reading (levelText (level.getD defaultLevel)))
      (orElse (reading (levelText defaultLevel)) (some []))

end LogFilter

end Visa
