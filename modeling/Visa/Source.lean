import Visa.Report

namespace Visa

/-! Where rule texts come from: a named place, and the text found there or the reason why there
is none. -/

structure Source where
  location : String
  content : Except String (List Char)

namespace Source

def defaultPath : String := "rules.json"

/-- A source that cannot be read yields nothing. -/
def load (source : Source) : Report :=
  match source.content with
  | .ok text => .ofText text
  | .error _ => .empty

def loadedEvent (location : String) (report : Report) : Event where
  level := .info
  origin := .loader
  message := "Loaded " ++ report.rules.length.repr ++ " visa rule(s) from " ++ location ++ " (" ++
    report.skipped.length.repr ++ " skipped)"

/-- The events of reading the text and then the totals, or a single error. -/
def events (source : Source) : List Event :=
  match source.content with
  | .ok text =>
      Report.events source.location text ++ [loadedEvent source.location (.ofText text)]
  | .error reason =>
      [⟨.error, .loader, "Failed to read rules config " ++ source.location ++ ": " ++
        (Fault.unreadable reason).message⟩]

end Source

end Visa
