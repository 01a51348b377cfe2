import Visa.Json.Draft
import Visa.Text.Quoted

namespace Visa.Json

/-! Drafts as values of a known shape. What is expected decides what a draft is taken for, and the
first thing in the text that does not fit is the failure. -/

/-- A draft of the wrong shape fails with a message; a text that is no JSON fails by its flaw. -/
inductive Failure where
  | mismatch (message : String)
  | flawed (flaw : Flaw)
deriving DecidableEq, Repr

abbrev Decoder (α : Type) := Draft → Except Failure α

namespace Decoder

def literal (text : Literal) : Except Failure String :=
  match text.value with
  | .ok value => .ok value
  | .error flaw => .error (.flawed flaw)

def wrongType (found expected : String) : Failure :=
  .mismatch ("invalid type: " ++ found ++ ", expected " ++ expected)

/-- The failure of a draft in a place where something else is expected. Literals and numbers have
to be sound before they can be of the wrong type. -/
def unexpected (expected : String) : Draft → Failure
  | .null => wrongType "null" expected
  | .bool true => wrongType "boolean `true`" expected
  | .bool false => wrongType "boolean `false`" expected
  | .number .tooLarge => .flawed .malformed
  | .number value => wrongType value.describe expected
  | .string text =>
      match literal text with
      | .ok value => wrongType ("string " ++ Text.quoted value) expected
      | .error failure => failure
  | .list _ _ => wrongType "sequence" expected
  | .object _ _ => wrongType "map" expected
  | .broken flaw => .flawed flaw
  | .unfinished | .absent => .flawed .truncated

def string : Decoder String
  | .string text => literal text
  | draft => .error (unexpected "a string" draft)

def bool : Decoder Bool
  | .bool value => .ok value
  | draft => .error (unexpected "a boolean" draft)

def outOfRange (found expected : String) : Failure :=
  .mismatch ("invalid value: " ++ found ++ ", expected " ++ expected)

/-- A 32-bit word; other integers are of the right type but out of range. -/
def word : Decoder UInt32
  | .number (.natural value) =>
      if value < UInt32.size then .ok (UInt32.ofNat value)
      else .error (outOfRange (Number.natural value).describe "u32")
  | .number (.negative magnitude) =>
      .error (outOfRange (Number.negative magnitude).describe "u32")
  | draft => .error (unexpected "u32" draft)

/-- A value that may be null. -/
def nullable {α : Type} (decoder : Decoder α) : Decoder (Option α)
  | .null => .ok none
  | draft => (decoder draft).map some

def ended : Option Flaw → Except Failure Unit
  | none => .ok ()
  | some flaw => .error (.flawed flaw)

def list {α : Type} (decoder : Decoder α) : Decoder (List α)
  | .list items stop => do
      let values ← items.mapM decoder
      ended stop
      return values
  | draft => .error (unexpected "a sequence" draft)

def skip : Decoder Unit := fun draft => ended draft.flaw?

end Decoder

/-- A named part of a structure under construction. `inList` tells whether the part may be left
out where the structure is given as a list. -/
structure Slot (β : Type) where
  name : String
  inList : Bool
  isFilled : β → Bool
  fill : β → Decoder β

/-- How a structure is built from its parts. `complete` supplies what may be left out and fails on
what may not. -/
structure Shape (β α : Type) where
  name : String
  slots : List (Slot β)
  empty : β
  complete : β → Except Failure α

def missing (field : String) : Failure := .mismatch ("missing field `" ++ field ++ "`")

def required {α : Type} (field : String) : Option α → Except Failure α
  | some value => .ok value
  | none => .error (missing field)

namespace Shape

variable {α β : Type}

def duplicate (field : String) : Failure := .mismatch ("duplicate field `" ++ field ++ "`")

/-- Members in the order of the text: an unknown one is skipped, a known one may occur once. -/
def members (shape : Shape β α) : β → List (Draft × Draft) → Except Failure β
  | built, [] => .ok built
  | built, (.string text, value) :: rest => do
      let key ← Decoder.literal text
      match shape.slots.find? fun slot => slot.name == key with
      | none =>
          Decoder.skip value
          shape.members built rest
      | some slot =>
          if slot.isFilled built then .error (duplicate slot.name)
          else
            let built ← slot.fill built value
            shape.members built rest
  | _, _ :: _ => .error (.flawed .malformed)

def elements (count : Nat) : String :=
  if count = 1 then "1 element" else count.repr ++ " elements"

def tooShort (shape : Shape β α) (length : Nat) : Failure :=
  .mismatch ("invalid length " ++ length.repr ++ ", expected " ++ shape.name ++ " with " ++
    elements shape.slots.length)

/-- Items stand for the parts in declaration order. -/
def items (shape : Shape β α) (stop : Option Flaw) :
    Nat → List (Slot β) → β → List Draft → Except Failure β
  | _, [], built, [] => (Decoder.ended stop).map fun _ => built
  | _, [], _, _ :: _ => .error (.flawed .malformed)
  | position, slot :: slots, built, [] =>
      match stop with
      | some flaw => .error (.flawed flaw)
      | none =>
          if slot.inList then shape.items stop (position + 1) slots built []
          else .error (shape.tooShort position)
  | position, slot :: slots, built, item :: rest => do
      let built ← slot.fill built item
      shape.items stop (position + 1) slots built rest

/-- An object, or a list of the parts in declaration order. -/
def decode (shape : Shape β α) : Decoder α
  | .object members stop => do
      let built ← shape.members shape.empty members
      Decoder.ended stop
      shape.complete built
  | .list items stop => do
      let built ← shape.items stop 0 shape.slots shape.empty items
      shape.complete built
  | draft => .error (Decoder.unexpected shape.name draft)

end Shape

/-- A whole text as one value. -/
def decodeText {α : Type} (decoder : Decoder α) (text : List Char) : Except Failure α := do
  let (draft, trailing) := Draft.ofText text
  let value ← decoder draft
  if trailing then .error (.flawed .malformed) else .ok value

end Visa.Json
