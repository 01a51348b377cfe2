import Visa.Vocabulary

namespace Visa

/-- Why a trip is made. -/
inductive Purpose where
  | tourism
  | business
  | study
  | work
  | transit
deriving DecidableEq, Repr

namespace Purpose

def token : Purpose → String
  | tourism => "TOURISM"
  | business => "BUSINESS"
  | study => "STUDY"
  | work => "WORK"
  | transit => "TRANSIT"

instance : Vocabulary Purpose where
  subject := "travel purpose"
  all := [tourism, business, study, work, transit]
  token := token
  mem_all member := by cases member <;> decide
  distinct := by decide

end Purpose

end Visa
