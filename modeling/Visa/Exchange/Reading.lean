import Visa.Decision
import Visa.Json.Decoding

namespace Visa

/-! Rules, trips and decisions from JSON texts. -/

open Json (Decoder Slot Shape Failure)

/-- A member of a vocabulary is written as its token; any other string fails with the message of
its fault. -/
def tokenDecoder {α : Type} [Vocabulary α] : Decoder α := fun draft => do
  let token ← Decoder.string draft
  match Vocabulary.read token with
  | .ok member => .ok member
  | .error fault => .error (.mismatch fault.message)

namespace Rule

/-- A rule under construction. -/
structure Parts where
  destination : Option Country := none
  passport : Option Country := none
  purpose : Option Purpose := none
  maxStay : Option UInt32 := none
  visaRequired : Option Bool := none
  category : Option Category := none
  kind : Option Kind := none
  documents : Option (List Document) := none
  processing : Option UInt32 := none

namespace Parts

def slots : List (Slot Parts) :=
  [⟨"destination", false, fun parts => parts.destination.isSome, fun parts draft =>
      (tokenDecoder draft).map fun value => { parts with destination := some value }⟩,
   ⟨"passportCountry", false, fun parts => parts.passport.isSome, fun parts draft =>
      (tokenDecoder draft).map fun value => { parts with passport := some value }⟩,
   ⟨"purpose", false, fun parts => parts.purpose.isSome, fun parts draft =>
      (tokenDecoder draft).map fun value => { parts with purpose := some value }⟩,
   ⟨"maxStayDays", false, fun parts => parts.maxStay.isSome, fun parts draft =>
      (Decoder.word draft).map fun value => { parts with maxStay := some value }⟩,
   ⟨"visaRequired", false, fun parts => parts.visaRequired.isSome, fun parts draft =>
      (Decoder.bool draft).map fun value => { parts with visaRequired := some value }⟩,
   ⟨"visaCategory", false, fun parts => parts.category.isSome, fun parts draft =>
      (tokenDecoder draft).map fun value => { parts with category := some value }⟩,
   ⟨"visaType", false, fun parts => parts.kind.isSome, fun parts draft =>
      (tokenDecoder draft).map fun value => { parts with kind := some value }⟩,
   ⟨"documents", true, fun parts => parts.documents.isSome, fun parts draft =>
      (Decoder.list tokenDecoder draft).map fun value => { parts with documents := some value }⟩,
   ⟨"processingDays", false, fun parts => parts.processing.isSome, fun parts draft =>
      (Decoder.word draft).map fun value => { parts with processing := some value }⟩]

/-- Only the documents may be left out. -/
def complete (parts : Parts) : Except Failure Rule := do
  let destination ← Json.required "destination" parts.destination
  let passport ← Json.required "passportCountry" parts.passport
  let purpose ← Json.required "purpose" parts.purpose
  let maxStay ← Json.required "maxStayDays" parts.maxStay
  let visaRequired ← Json.required "visaRequired" parts.visaRequired
  let category ← Json.required "visaCategory" parts.category
  let kind ← Json.required "visaType" parts.kind
  let processing ← Json.required "processingDays" parts.processing
  return {
    destination := destination
    passport := passport
    purpose := purpose
    maxStay := maxStay
    visaRequired := visaRequired
    category := category
    kind := kind
    documents := parts.documents.getD []
    processing := processing }

end Parts

def decoder : Decoder Rule :=
  Shape.decode ⟨"struct VisaRule", Parts.slots, {}, Parts.complete⟩

end Rule

namespace Trip

/-- A trip under construction. -/
structure Parts where
  destination : Option Country := none
  passport : Option Country := none
  purpose : Option Purpose := none
  stay : Option UInt32 := none

namespace Parts

def slots : List (Slot Parts) :=
  [⟨"destination", false, fun parts => parts.destination.isSome, fun parts draft =>
      (tokenDecoder draft).map fun value => { parts with destination := some value }⟩,
   ⟨"passport", false, fun parts => parts.passport.isSome, fun parts draft =>
      (tokenDecoder draft).map fun value => { parts with passport := some value }⟩,
   ⟨"purpose", false, fun parts => parts.purpose.isSome, fun parts draft =>
      (tokenDecoder draft).map fun value => { parts with purpose := some value }⟩,
   ⟨"stayDays", false, fun parts => parts.stay.isSome, fun parts draft =>
      (Decoder.word draft).map fun value => { parts with stay := some value }⟩]

def complete (parts : Parts) : Except Failure Trip := do
  let destination ← Json.required "destination" parts.destination
  let passport ← Json.required "passport" parts.passport
  let purpose ← Json.required "purpose" parts.purpose
  let stay ← Json.required "stayDays" parts.stay
  return { destination := destination, passport := passport, purpose := purpose, stay := stay }

end Parts

def decoder : Decoder Trip :=
  Shape.decode ⟨"struct TripQuery", Parts.slots, {}, Parts.complete⟩

end Trip

namespace Decision

/-- A decision under construction. -/
structure Parts where
  visaRequired : Option Bool := none
  category : Option Category := none
  kind : Option Kind := none
  documents : Option (List Document) := none
  processing : Option UInt32 := none
  warnings : Option (List String) := none

namespace Parts

def slots : List (Slot Parts) :=
  [⟨"visaRequired", false, fun parts => parts.visaRequired.isSome, fun parts draft =>
      (Decoder.bool draft).map fun value => { parts with visaRequired := some value }⟩,
   ⟨"visaCategory", false, fun parts => parts.category.isSome, fun parts draft =>
      (tokenDecoder draft).map fun value => { parts with category := some value }⟩,
   ⟨"visaType", false, fun parts => parts.kind.isSome, fun parts draft =>
      (tokenDecoder draft).map fun value => { parts with kind := some value }⟩,
   ⟨"documents", false, fun parts => parts.documents.isSome, fun parts draft =>
      (Decoder.list tokenDecoder draft).map fun value => { parts with documents := some value }⟩,
   ⟨"processingDays", false, fun parts => parts.processing.isSome, fun parts draft =>
      (Decoder.word draft).map fun value => { parts with processing := some value }⟩,
   ⟨"warnings", false, fun parts => parts.warnings.isSome, fun parts draft =>
      (Decoder.list Decoder.string draft).map fun value => { parts with warnings := some value }⟩]

def complete (parts : Parts) : Except Failure Decision := do
  let visaRequired ← Json.required "visaRequired" parts.visaRequired
  let category ← Json.required "visaCategory" parts.category
  let kind ← Json.required "visaType" parts.kind
  let documents ← Json.required "documents" parts.documents
  let processing ← Json.required "processingDays" parts.processing
  let warnings ← Json.required "warnings" parts.warnings
  return {
    visaRequired := visaRequired
    category := category
    kind := kind
    documents := documents
    processing := processing
    warnings := warnings }

end Parts

def decoder : Decoder Decision :=
  Shape.decode ⟨"struct VisaDecision", Parts.slots, {}, Parts.complete⟩

end Decision

end Visa
