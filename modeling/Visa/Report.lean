import Visa.Event
import Visa.Record.Cut
import Visa.Record.Reading

namespace Visa

/-! What reading a rule text yields: the rules in source order, and an account of every record
that gave none. -/

/-- A record that gave no rule, by its position among the records of the source. -/
structure Skipped where
  index : Nat
  reason : Fault
  snippet : String
deriving DecidableEq, Repr

structure Report where
  rules : List Rule
  skipped : List Skipped
deriving DecidableEq, Repr

namespace Report

def empty : Report := ⟨[], []⟩

def isClean (report : Report) : Bool := report.skipped.isEmpty

def snippetLength : Nat := 80

/-- The words of a record with single spaces between them, cut short if that is long. -/
def snippet (record : List Char) : List Char :=
  let flat := [' '].intercalate (Text.words record)
  if flat.length > snippetLength then flat.take snippetLength ++ "...".toList else flat

def skip? (entry : List Char × Nat) : Option Skipped :=
  match Record.read entry.1 with
  | .ok _ => none
  | .error reason => some ⟨entry.2, reason, String.ofList (snippet entry.1)⟩

def ofCut (cut : Record.Cut) : Report where
  rules := cut.records.filterMap fun record => (Record.read record).toOption
  skipped := cut.records.zipIdx.filterMap skip? ++ cut.tail.toList.map fun tail =>
    ⟨cut.records.length, .unterminatedRecord, String.ofList (snippet tail)⟩

def ofText (text : List Char) : Report := ofCut (Record.Cut.ofText text)

def skipEvent (source : String) (skipped : Skipped) : Event where
  level := .warn
  origin := .reader
  message := "Skipping rule #" ++ skipped.index.repr ++ " in " ++ source ++ ": " ++
    skipped.reason.message ++ " (" ++ skipped.snippet ++ ")"

/-- The events of reading a text from a named source: a warning for each skipped record, then the
totals; a blank text is only noted. -/
def events (source : String) (text : List Char) : List Event :=
  if Text.allBlank text then [⟨.debug, .reader, "Rule source " ++ source ++ " is empty"⟩]
  else
    let report := ofText text
    report.skipped.map (skipEvent source) ++
      [⟨.debug, .reader, "Parsed " ++ report.rules.length.repr ++ " rule(s) from " ++ source ++
        ", skipped " ++ report.skipped.length.repr⟩]

end Report

end Visa
