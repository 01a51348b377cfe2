import Visa.Decimal.Binary
import Visa.Toml.Letter

namespace Visa.Toml

/-! Values without quotes or brackets: truth values, numbers, dates and times. No setting holds
one, so it only matters which texts are values at all, which of them are dates or times, and which
are numbers that have no value. -/

/-- A number that is written soundly but has no value is `unusable`. It does no harm where nobody
asks for its value. -/
inductive Scalar where
  | plain
  | moment
  | unusable
deriving DecidableEq, Repr

/-- The characters of unquoted values: all but those that have a meaning between values. A date and
a time may have a space between them as well. -/
def isScalarLetter (letter : Char) : Bool :=
  !("=,[]\x7b\x7d# \t\r\n".toList.contains letter)

/-! ## Numbers -/

/-- The sign of a number, and the number without it. -/
def signed : List Char → Bool × List Char
  | '-' :: rest => (true, rest)
  | '+' :: rest => (false, rest)
  | rest => (false, rest)

def isOctalDigit (letter : Char) : Bool := letter.isDigit && letter < '8'

def isBinaryDigit (letter : Char) : Bool := letter == '0' || letter == '1'

/-- The widest integers have 128 bits, with or without a sign. -/
def fits (negative : Bool) (value : Nat) : Bool :=
  if negative then value ≤ Decimal.twoTo 127 else value < Decimal.twoTo 128

def ofBool (isUsable : Bool) : Scalar := if isUsable then .plain else .unusable

/-- A number as the pieces between its underscores. -/
def pieces (text : List Char) : List (List Char) := text.splitOnP (· == '_')

/-- Whether pieces may have underscores between them. Only the characters next to an underscore are
looked at, and those of a piece of one character only once. -/
def areJoinable (accepts : Char → Bool) (pieces : List (List Char)) : Bool :=
  pieces.all (fun piece => !piece.isEmpty) &&
    pieces.tail.all (fun piece => piece.head?.any accepts) &&
    pieces.dropLast.all fun piece => piece.length == 1 || piece.getLast?.any accepts

/-- Decimal digits without a zero in front that says nothing. -/
def isDecimal (digits : List Char) : Bool :=
  !digits.isEmpty && digits.all Char.isDigit && (digits.head? != some '0' || digits.length == 1)

/-- Digits behind a mark for their base. There may be none, but then there is no value. -/
def marked? (base : Nat) (accepts : Char → Bool) (text : List Char) : Option Scalar :=
  let digits := (pieces text).flatten
  if text.isEmpty then some .unusable
  else if areJoinable accepts (pieces text) && digits.all accepts then
    some (ofBool (fits false (Text.valueOf base digits)))
  else none

/-- The value of a sign and digits, or of a text that turns out to be something else. -/
def counted (text : List Char) : Scalar :=
  let (negative, digits) := signed text
  ofBool (!digits.isEmpty && digits.all Char.isDigit && fits negative (Text.valueOf 10 digits))

/-- An integer to the base ten. With underscores, what is not next to one is only looked at when
the value is asked for. -/
def decimalInteger? (text : List Char) : Option Scalar :=
  let unsigned := (signed text).2
  let isFraction (letter : Char) : Bool := letter == '.' || Text.isExponentMark letter
  match unsigned.dropWhile Char.isDigit with
  | [] => if isDecimal unsigned then some (counted text) else none
  | '_' :: rest =>
      if unsigned.head? == some '0' || rest.any isFraction then none
      else if areJoinable Text.isHexDigit (pieces text) then some (counted (pieces text).flatten)
      else none
  | _ => none

def integer? (text : List Char) : Option Scalar :=
  match text with
  | '0' :: 'x' :: rest => marked? 16 Text.isHexDigit rest
  | '0' :: 'o' :: rest => marked? 8 isOctalDigit rest
  | '0' :: 'b' :: rest => marked? 2 isBinaryDigit rest
  | _ => decimalInteger? text

/-- Whether `value * 10 ^ exponent` can be rounded to a binary fraction; far from the limits the
number of digits tells. -/
def isFinite (value : Nat) (exponent : Int) : Bool :=
  let magnitude : Int := (Nat.toDigits 10 value).length + exponent
  if value = 0 ∨ magnitude < 300 then true
  else if 320 < magnitude then false
  else
    (Decimal.Binary.nearest? (value * Decimal.tenTo exponent.toNat)
      (Decimal.tenTo (-exponent).toNat)).isSome

def digits? (text : List Char) : Option (List Char) :=
  if !text.isEmpty && text.all Char.isDigit then some text else none

/-- The exponent of a number: nothing, or a mark and digits. -/
def exponent? : List Char → Option Int
  | [] => some 0
  | mark :: rest =>
      if Text.isExponentMark mark then
        let (negative, digits) := signed rest
        (digits? digits).map fun digits =>
          let value : Int := Text.valueOf 10 digits
          if negative then -value else value
      else none

/-- A number with a fraction, an exponent or both, without its sign. -/
def fraction? (unsigned : List Char) : Option Scalar :=
  let mantissa := unsigned.takeWhile fun letter => !Text.isExponentMark letter
  let power := unsigned.dropWhile fun letter => !Text.isExponentMark letter
  let whole := mantissa.takeWhile fun letter => letter != '.'
  let part? := match mantissa.dropWhile fun letter => letter != '.' with
    | [] => if power.isEmpty then none else some []
    | _ :: digits => digits? digits
  match part?, exponent? power with
  | some part, some exponent =>
      if isDecimal whole then
        some (ofBool (isFinite (Text.valueOf 10 (whole ++ part)) (exponent - part.length)))
      else none
  | _, _ => none

def float? (text : List Char) : Option Scalar :=
  let unsigned := (signed text).2
  if unsigned = "inf".toList ∨ unsigned = "nan".toList then some .plain
  else if areJoinable Char.isDigit (pieces text) then
    fraction? (signed (pieces text).flatten).2
  else none

/-! ## Dates and times -/

def two? (first second : Char) : Option Nat :=
  if first.isDigit ∧ second.isDigit then some (Text.valueOf 10 [first, second]) else none

def isLeap (year : Nat) : Bool := year % 4 == 0 && (year % 100 != 0 || year % 400 == 0)

def monthLength (year month : Nat) : Nat :=
  if month = 2 then if isLeap year then 29 else 28
  else if month = 4 ∨ month = 6 ∨ month = 9 ∨ month = 11 then 30
  else 31

/-- The text after a date. -/
def date? : List Char → Option (List Char)
  | y₁ :: y₂ :: y₃ :: y₄ :: '-' :: m₁ :: m₂ :: '-' :: d₁ :: d₂ :: rest => do
      let century ← two? y₁ y₂
      let year ← two? y₃ y₄
      let month ← two? m₁ m₂
      let day ← two? d₁ d₂
      if 1 ≤ month ∧ month ≤ 12 ∧ 1 ≤ day ∧ day ≤ monthLength (century * 100 + year) month then
        some rest
      else none
  | _ => none

/-- The text after hours and minutes. -/
def clock? : List Char → Option (List Char)
  | h₁ :: h₂ :: ':' :: m₁ :: m₂ :: rest => do
      let hour ← two? h₁ h₂
      let minute ← two? m₁ m₂
      if hour ≤ 23 ∧ minute ≤ 59 then some rest else none
  | _ => none

/-- The text after the fraction of a second, if there is one. -/
def subsecond? : List Char → Option (List Char)
  | '.' :: digit :: rest => if digit.isDigit then some (rest.dropWhile Char.isDigit) else none
  | '.' :: [] => none
  | rest => some rest

/-- The text after a time, whose seconds may be left out. -/
def time? (text : List Char) : Option (List Char) := do
  match ← clock? text with
  | ':' :: s₁ :: s₂ :: rest =>
      let second ← two? s₁ s₂
      if second ≤ 60 then subsecond? rest else none
  | ':' :: _ => none
  | rest => some rest

def isOffset : List Char → Bool
  | [] => true
  | [letter] => letter == 'Z' || letter == 'z'
  | sign :: rest => (sign == '+' || sign == '-') && clock? rest == some []

/-- A date, a time, or both with a mark between them and perhaps an offset behind. -/
def isMoment (text : List Char) : Bool :=
  match date? text with
  | some [] => true
  | some (mark :: rest) =>
      (mark == 'T' || mark == 't' || mark == ' ') && ((time? rest).map isOffset).getD false
  | none => time? text == some []

/-! ## Any of them -/

def classify? (text : List Char) : Option Scalar :=
  if text = "true".toList ∨ text = "false".toList then some .plain
  else if isMoment text then some .moment
  else (integer? text).or (float? text)

/-- The characters of an unquoted value at the start of a text, and the text after them. A date
reaches over a space to a digit. -/
def cutScalar (text : List Char) : List Char × List Char :=
  let letters := text.takeWhile isScalarLetter
  match text.dropWhile isScalarLetter with
  | ' ' :: digit :: rest =>
      if date? letters = some [] ∧ digit.isDigit then
        (letters ++ ' ' :: (digit :: rest).takeWhile isScalarLetter,
          (digit :: rest).dropWhile isScalarLetter)
      else (letters, ' ' :: digit :: rest)
  | rest => (letters, rest)

end Visa.Toml
