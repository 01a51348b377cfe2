import Visa.Vocabulary

namespace Visa

/-! What a traveller is granted: the way permission to enter is obtained, and the kind of visa. -/

inductive Category where
  | visaFree
  | onArrival
  | travelAuthorization
  | electronic
  | embassy
deriving DecidableEq, Repr

namespace Category

def token : Category → String
  | visaFree => "VISA_FREE"
  | onArrival => "VISA_ON_ARRIVAL"
  | travelAuthorization => "ETA"
  | electronic => "E_VISA"
  | embassy => "EMBASSY_VISA"

instance : Vocabulary Category where
  subject := "visa category"
  all := [visaFree, onArrival, travelAuthorization, electronic, embassy]
  token := token
  mem_all member := by cases member <;> decide
  distinct := by decide

end Category

inductive Kind where
  | none
  | tourist
  | business
  | student
  | work
  | transit
deriving DecidableEq, Repr

namespace Kind

def token : Kind → String
  | none => "NONE"
  | tourist => "TOURIST"
  | business => "BUSINESS"
  | student => "STUDENT"
  | work => "WORK"
  | transit => "TRANSIT"

instance : Vocabulary Kind where
  subject := "visa type"
  all := [none, tourist, business, student, work, transit]
  token := token
  mem_all member := by cases member <;> decide
  distinct := by decide

end Kind

end Visa
