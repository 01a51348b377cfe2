import Visa.Country
import Visa.Purpose

namespace Visa

/-- What rules are looked up by: where to, on which passport, and why. -/
structure Route where
  destination : Country
  passport : Country
  purpose : Purpose
deriving DecidableEq, Repr

/-- One question to a rule book: a route and the length of the stay in days. -/
structure Trip extends Route where
  stay : UInt32
deriving DecidableEq, Repr

end Visa
