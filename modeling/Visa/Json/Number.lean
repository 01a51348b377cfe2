import Visa.Decimal.Shortest
import Visa.Json.Flaw

namespace Visa.Json

/-! Number literals, and the value each one stands for. -/

/-- `natural` and `negative` hold the integers that fit a 64-bit word, without their sign; all
other literals are fractions, unless they are too large even for that. -/
inductive Number where
  | natural (value : Nat)
  | negative (magnitude : Nat)
  | fraction (negative : Bool) (magnitude : Decimal.Binary)
  | tooLarge
deriving DecidableEq, Repr

/-- The digits of a literal that were kept, as one integer, and the power of ten it is scaled
by. -/
structure Significand where
  value : Nat
  scale : Int
deriving DecidableEq, Repr

namespace Significand

def limit : Nat := Decimal.twoTo 64 - 1

def digitOf (letter : Char) : Nat := letter.toNat - '0'.toNat

/-- Integer digits are kept until the first that does not fit; from there on they only scale. -/
def integer (value : Nat) : List Char → Significand
  | [] => ⟨value, 0⟩
  | letter :: rest =>
      let next := value * 10 + digitOf letter
      if limit < next then ⟨value, rest.length + 1⟩ else integer next rest

/-- Digits of the fraction are kept until the first that does not fit. -/
def withFraction (significand : Significand) : List Char → Significand
  | [] => significand
  | letter :: rest =>
      let next := significand.value * 10 + digitOf letter
      if limit < next then significand
      else withFraction ⟨next, significand.scale - 1⟩ rest

/-- The greatest power of ten that a binary fraction can hold. -/
def greatestPower : Nat := 308

def power? (exponent : Nat) : Option Decimal.Binary :=
  Decimal.Binary.ofNat? (Decimal.tenTo exponent)

/-- Scaling rounds once for the digits, once for the power of ten and once for the result; a
power that is out of reach is approached in two steps. -/
def toBinary? (significand : Significand) (exponent : Int) : Option Decimal.Binary := do
  let value ← Decimal.Binary.ofNat? significand.value
  let scale := significand.scale + exponent
  if value.isZero then return value
  else if 0 ≤ scale then
    if (greatestPower : Int) < scale then none
    else value.mul? (← power? scale.toNat)
  else if -(greatestPower : Int) ≤ scale then value.div? (← power? (-scale).toNat)
  else if -(2 * greatestPower : Int) ≤ scale then
    let step ← value.div? (← power? greatestPower)
    step.div? (← power? (-scale - greatestPower).toNat)
  else return .zero

end Significand

namespace Number

def ofBinary? (isNegative : Bool) : Option Decimal.Binary → Number
  | some magnitude => .fraction isNegative magnitude
  | none => .tooLarge

/-- An integer literal; minus zero is a fraction, since no integer is equal to it. -/
def ofInteger (isNegative : Bool) (digits : List Char) : Number :=
  let value := Nat.ofDigitChars 10 digits 0
  if isNegative then
    if value = 0 ∨ Decimal.twoTo 63 < value then
      ofBinary? true ((Significand.integer 0 digits).toBinary? 0)
    else .negative value
  else if Significand.limit < value then
    ofBinary? false ((Significand.integer 0 digits).toBinary? 0)
  else .natural value

structure Parts where
  negative : Bool
  integer : List Char
  fraction : Option (List Char)
  exponent : Option Int

def ofParts (parts : Parts) : Number :=
  match parts.fraction, parts.exponent with
  | none, none => ofInteger parts.negative parts.integer
  | _, _ =>
      let significand :=
        (Significand.integer 0 parts.integer).withFraction (parts.fraction.getD [])
      ofBinary? parts.negative (significand.toBinary? (parts.exponent.getD 0))

/-- A run of digits and the text after it; the run must not be empty. -/
def digits (text : List Char) : Except Flaw (List Char × List Char) :=
  match text.takeWhile Char.isDigit, text.dropWhile Char.isDigit with
  | [], [] => .error .truncated
  | [], _ => .error .malformed
  | run, rest => .ok (run, rest)

/-- The integer part has no zero in front of other digits. -/
def integerPart (text : List Char) : Except Flaw (List Char × List Char) := do
  let (run, rest) ← digits text
  if run.head? = some '0' ∧ run.length ≠ 1 then .error .malformed else .ok (run, rest)

def fractionPart (text : List Char) : Except Flaw (Option (List Char) × List Char) :=
  match text with
  | '.' :: rest => (digits rest).map fun (run, rest) => (some run, rest)
  | _ => .ok (none, text)

def signed (text : List Char) : Bool × List Char :=
  match text with
  | '-' :: rest => (true, rest)
  | '+' :: rest => (false, rest)
  | _ => (false, text)

def exponentPart (text : List Char) : Except Flaw (Option Int × List Char) :=
  match text with
  | letter :: rest =>
      if letter = 'e' ∨ letter = 'E' then do
        let (isNegative, unsigned) := signed rest
        let (run, rest) ← digits unsigned
        let value : Int := Nat.ofDigitChars 10 run 0
        .ok (some (if isNegative then -value else value), rest)
      else .ok (none, text)
  | [] => .ok (none, text)

/-- A literal at the start of a text, and the text after it. -/
def scan (text : List Char) : Except Flaw (Number × List Char) := do
  let (isNegative, unsigned) :=
    match text with
    | '-' :: rest => (true, rest)
    | _ => (false, text)
  let (whole, rest) ← integerPart unsigned
  let (part, rest) ← fractionPart rest
  let (power, rest) ← exponentPart rest
  .ok (ofParts ⟨isNegative, whole, part, power⟩, rest)

/-- Fractions in diagnostics: up to sixteen digits before the point and four zeros after it. -/
def layout : Decimal.Layout := ⟨16, 4⟩

def sign (isNegative : Bool) : String := if isNegative then "-" else ""

def describe : Number → String
  | .natural value => "integer `" ++ value.repr ++ "`"
  | .negative magnitude => "integer `-" ++ magnitude.repr ++ "`"
  | .fraction isNegative magnitude =>
      let text :=
        if magnitude.isZero then "0.0" else String.ofList (layout.write magnitude.shortest)
      "floating point `" ++ sign isNegative ++ text ++ "`"
  | .tooLarge => "number"

end Number

end Visa.Json
