import Visa.Vocabulary

namespace Visa

/-- A paper that has to be shown or handed in. -/
inductive Document where
  | passport
  | photo
  | applicationForm
  | bankStatement
  | returnTicket
  | hotelBooking
  | travelInsurance
  | invitationLetter
  | admissionLetter
  | employmentContract
  | onwardTicket
deriving DecidableEq, Repr

namespace Document

def token : Document → String
  | passport => "PASSPORT"
  | photo => "PHOTO"
  | applicationForm => "APPLICATION_FORM"
  | bankStatement => "BANK_STATEMENT"
  | returnTicket => "RETURN_TICKET"
  | hotelBooking => "HOTEL_BOOKING"
  | travelInsurance => "TRAVEL_INSURANCE"
  | invitationLetter => "INVITATION_LETTER"
  | admissionLetter => "ADMISSION_LETTER"
  | employmentContract => "EMPLOYMENT_CONTRACT"
  | onwardTicket => "ONWARD_TICKET"

instance : Vocabulary Document where
  subject := "document type"
  all := [passport, photo, applicationForm, bankStatement, returnTicket, hotelBooking,
    travelInsurance, invitationLetter, admissionLetter, employmentContract, onwardTicket]
  token := token
  mem_all member := by cases member <;> decide
  distinct := by decide

end Document

end Visa
