import Visa.Decision
import Visa.Json.Value

namespace Visa

/-! Rules, trips and decisions as JSON objects. -/

open Json (Value)

def tokens {α : Type} [Vocabulary α] (members : List α) : Value :=
  .list (members.map fun member => .string (Vocabulary.token member))

namespace Rule

def toJson (rule : Rule) : Value :=
  .object
    [("destination", .string rule.destination.token),
     ("passportCountry", .string rule.passport.token),
     ("purpose", .string rule.purpose.token),
     ("maxStayDays", .number rule.maxStay.toNat),
     ("visaRequired", .bool rule.visaRequired),
     ("visaCategory", .string rule.category.token),
     ("visaType", .string rule.kind.token),
     ("documents", tokens rule.documents),
     ("processingDays", .number rule.processing.toNat)]

/-- A list of rules in the form that rule files have. -/
def renderAll (rules : List Rule) : List Char := (Value.list (rules.map toJson)).render

end Rule

def Trip.toJson (trip : Trip) : Value :=
  .object
    [("destination", .string trip.destination.token),
     ("passport", .string trip.passport.token),
     ("purpose", .string trip.purpose.token),
     ("stayDays", .number trip.stay.toNat)]

def Decision.toJson (decision : Decision) : Value :=
  .object
    [("visaRequired", .bool decision.visaRequired),
     ("visaCategory", .string decision.category.token),
     ("visaType", .string decision.kind.token),
     ("documents", tokens decision.documents),
     ("processingDays", .number decision.processing.toNat),
     ("warnings", .list (decision.warnings.map Value.string))]

end Visa
