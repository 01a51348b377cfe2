import Visa.Text.Alphabetic
import Visa.Text.Blank
import Visa.Text.Search

namespace Visa.Record

/-! Members of one record. A member is found by the first occurrence of its quoted name, and its
value starts after the first colon that follows; nothing else of the record's structure is
looked at. -/

inductive Field where
  | destination
  | passport
  | purpose
  | maxStay
  | visaRequired
  | category
  | kind
  | documents
  | processing
deriving DecidableEq, Repr

def Field.name : Field → String
  | .destination => "destination"
  | .passport => "passportCountry"
  | .purpose => "purpose"
  | .maxStay => "maxStayDays"
  | .visaRequired => "visaRequired"
  | .category => "visaCategory"
  | .kind => "visaType"
  | .documents => "documents"
  | .processing => "processingDays"

def Field.key (field : Field) : List Char := ['"'] ++ field.name.toList ++ ['"']

/-- The text after the colon of a member. -/
def valueText (field : Field) (record : List Char) : Option (List Char) :=
  (Text.after? field.key record).bind (Text.after? [':'])

/-- The text between the next two quotes, without the blanks around it. -/
def string? (field : Field) (record : List Char) : Option (List Char) := do
  let value ← valueText field record
  let opened ← Text.after? ['"'] value
  let inside ← Text.before? ['"'] opened
  return Text.trim inside

/-- The longest run of characters of one class that starts the value; an empty run counts as no
value. -/
def run? (accepts : Char → Bool) (field : Field) (record : List Char) : Option (List Char) := do
  let value ← valueText field record
  let run := (Text.trimStart value).takeWhile accepts
  if run.isEmpty then none else some run

def isCountLetter (letter : Char) : Bool := letter.isDigit || letter == '-'

/-- A count is read as digits and minus signs. -/
def count? : Field → List Char → Option (List Char) := run? isCountLetter

def boolean? : Field → List Char → Option (List Char) := run? Text.isAlphabetic

/-- Removes one pair of quotes; a single quote is no pair. -/
def unquote : List Char → List Char
  | '"' :: rest => if rest.getLast? = some '"' then rest.dropLast else '"' :: rest
  | item => item

/-- The non-empty items between the next opening bracket and the closing bracket after it; a
missing or unfinished list has no items. -/
def items (field : Field) (record : List Char) : List (List Char) :=
  let inside := do
    let value ← valueText field record
    let opened ← Text.after? ['['] value
    Text.before? [']'] opened
  match inside with
  | none => []
  | some inside =>
      ((inside.splitOnP (· == ',')).map fun item => unquote (Text.trim item)).filter
        fun item => !item.isEmpty

end Visa.Record
