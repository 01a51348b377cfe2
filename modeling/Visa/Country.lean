import Visa.Vocabulary

namespace Visa

inductive Country where
  | usa
  | canada
  | mexico
  | brazil
  | uk
  | ireland
  | france
  | germany
  | italy
  | spain
  | india
  | china
  | japan
  | southKorea
  | singapore
  | thailand
  | uae
  | turkey
  | australia
  | newZealand
  | southAfrica
deriving DecidableEq, Repr

namespace Country

def token : Country → String
  | usa => "USA"
  | canada => "CANADA"
  | mexico => "MEXICO"
  | brazil => "BRAZIL"
  | uk => "UK"
  | ireland => "IRELAND"
  | france => "FRANCE"
  | germany => "GERMANY"
  | italy => "ITALY"
  | spain => "SPAIN"
  | india => "INDIA"
  | china => "CHINA"
  | japan => "JAPAN"
  | southKorea => "SOUTH_KOREA"
  | singapore => "SINGAPORE"
  | thailand => "THAILAND"
  | uae => "UAE"
  | turkey => "TURKEY"
  | australia => "AUSTRALIA"
  | newZealand => "NEW_ZEALAND"
  | southAfrica => "SOUTH_AFRICA"

instance : Vocabulary Country where
  subject := "country"
  all := [usa, canada, mexico, brazil, uk, ireland, france, germany, italy, spain, india, china,
    japan, southKorea, singapore, thailand, uae, turkey, australia, newZealand, southAfrica]
  token := token
  mem_all member := by cases member <;> decide
  distinct := by decide

end Country

end Visa
