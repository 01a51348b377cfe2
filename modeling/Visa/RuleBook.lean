import Visa.Decision
import Visa.Event

namespace Visa

/-- The rules in the order in which they were loaded; an earlier rule wins over a later one. -/
abbrev RuleBook := List Rule

namespace RuleBook

def candidates (book : RuleBook) (trip : Trip) : List Rule :=
  book.filter fun rule => rule.covers trip

/-- The answer for a trip: the first rule that covers it, with a warning if there are more. -/
def evaluate (book : RuleBook) (trip : Trip) : Decision :=
  match book.candidates trip with
  | [] => .fallback
  | [rule] => .ofRule rule []
  | rule :: _ => .ofRule rule [Decision.ambiguityWarning]

def describe (trip : Trip) : String :=
  trip.passport.token ++ " -> " ++ trip.destination.token ++ " (" ++ trip.purpose.token ++ ", " ++
    trip.stay.toNat.repr ++ " days)"

/-- What evaluating a trip reports: nothing if exactly one rule covers it. -/
def events (book : RuleBook) (trip : Trip) : List Event :=
  match book.candidates trip with
  | [] => [⟨.debug, .evaluator, "No rule for " ++ describe trip ++ "; using fallback"⟩]
  | [_] => []
  | rules => [⟨.warn, .evaluator, rules.length.repr ++ " rules match " ++ describe trip ++
      "; using the first loaded"⟩]

end RuleBook

end Visa
