import Visa.DayCount
import Visa.Record.Member
import Visa.Rule

namespace Visa.Record

/-! One record as a rule, or the fault that stands in its way. All required members are looked
for before any of them is interpreted. -/

structure Members where
  destination : String
  passport : String
  purpose : String
  maxStay : List Char
  visaRequired : List Char
  category : String
  kind : String
  documents : List String
  processing : List Char

def required {α : Type} (field : Field) (found : Option α) : Except Fault α :=
  match found with
  | some value => .ok value
  | none => .error (.missingField field.name)

def requiredString (field : Field) (record : List Char) : Except Fault String :=
  (required field (string? field record)).map String.ofList

/-- Documents are never missing: no list reads as the empty list. -/
def members (record : List Char) : Except Fault Members := do
  let destination ← requiredString .destination record
  let passport ← requiredString .passport record
  let purpose ← requiredString .purpose record
  let maxStay ← required .maxStay (count? .maxStay record)
  let visaRequired ← required .visaRequired (boolean? .visaRequired record)
  let category ← requiredString .category record
  let kind ← requiredString .kind record
  let processing ← required .processing (count? .processing record)
  let documents := (items .documents record).map String.ofList
  return ⟨destination, passport, purpose, maxStay, visaRequired, category, kind, documents,
    processing⟩

def dayCount (field : Field) (text : List Char) : Except Fault UInt32 :=
  match DayCount.ofRecord? text with
  | some count => .ok count
  | none => .error (.invalidCount field.name (String.ofList text))

/-- Only the word "true", in any letter case, stands for true. -/
def isTrue (text : List Char) : Bool := text.map Char.toLower == "true".toList

/-- The interpretation of the members; the first that has none gives the fault. -/
def Members.toRule (members : Members) : Except Fault Rule := do
  let destination ← Vocabulary.read members.destination
  let passport ← Vocabulary.read members.passport
  let purpose ← Vocabulary.read members.purpose
  let maxStay ← dayCount .maxStay members.maxStay
  let category ← Vocabulary.read members.category
  let kind ← Vocabulary.read members.kind
  let documents ← members.documents.mapM Vocabulary.read
  let processing ← dayCount .processing members.processing
  return {
    destination := destination
    passport := passport
    purpose := purpose
    maxStay := maxStay
    visaRequired := isTrue members.visaRequired
    category := category
    kind := kind
    documents := documents
    processing := processing }

def read (record : List Char) : Except Fault Rule := members record >>= Members.toRule

end Visa.Record
