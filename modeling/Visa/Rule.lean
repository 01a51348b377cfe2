import Visa.Trip
import Visa.Permit
import Visa.Document

namespace Visa

/-- A configured outcome for the stays on one route up to a number of days. -/
structure Rule extends Route where
  maxStay : UInt32
  visaRequired : Bool
  category : Category
  kind : Kind
  documents : List Document
  processing : UInt32
deriving DecidableEq, Repr

/-- The route has to be the same; the bound on the stay is inclusive. -/
def Rule.covers (rule : Rule) (trip : Trip) : Bool :=
  decide (rule.toRoute = trip.toRoute) && decide (trip.stay ≤ rule.maxStay)

end Visa
