import Visa.Event
import Visa.LogFilter.Pattern
import Visa.Text.Bytes
import Visa.Text.Digit

namespace Visa

/-! What one directive of a log filter says, and how it is written. -/

/-- How many of the levels, from the most important one on, are let through. -/
abbrev Threshold := Nat

/-- `fields` restricts a directive to events that have those fields. A directive for spans says
nothing about an event outside of them. -/
structure Directive where
  target : Option String
  fields : List String
  forSpans : Bool
  threshold : Threshold
deriving DecidableEq, Repr

namespace Directive

/-! ## Thresholds -/

def everything : Threshold := 5

/-- Levels are named in any letter case; a number lets that many of them through. -/
def threshold? (text : List Char) : Option Threshold :=
  let digits := match text with
    | '+' :: rest => rest
    | rest => rest
  if digits ≠ [] ∧ digits.all Char.isDigit then
    let number := Nat.ofDigitChars 10 digits 0
    if number ≤ everything then some number else none
  else
    let name := String.ofList (text.map Char.toLower)
    if name = "off" then some 0
    else if name = "error" then some 1
    else if name = "warn" then some 2
    else if name = "info" then some 3
    else if name = "debug" then some 4
    else if name = "trace" then some everything
    else none

/-- What follows the equals sign; nothing there lets everything through. -/
def thresholdOrAll? (text : List Char) : Option Threshold :=
  if text.isEmpty then some everything else threshold? text

/-! ## Fields -/

/-- Whether an exponent is nothing, or a mark and digits that may have a sign. -/
def isExponent (text : List Char) : Bool :=
  match text.tail with
  | '+' :: digits | '-' :: digits => !digits.isEmpty && digits.all Char.isDigit
  | digits => text.isEmpty || (!digits.isEmpty && digits.all Char.isDigit)

/-- Decimal digits with a point among them or at either end, and perhaps an exponent; or one of the
values that have no digits. -/
def isNumber (text : List Char) : Bool :=
  let mantissa := text.takeWhile fun letter => !Text.isExponentMark letter
  let digits := mantissa.filter Char.isDigit
  let others := mantissa.filter fun letter => !letter.isDigit
  ["inf", "infinity", "nan"].contains (String.ofList (text.map Char.toLower)) ||
    (!digits.isEmpty && (others.isEmpty || others == ['.']) &&
      isExponent (text.dropWhile fun letter => !Text.isExponentMark letter))

/-- The value of a field is a pattern, or a number with a plus sign, which is none. -/
def isSoundValue (value : List Char) : Bool :=
  Pattern.isSound value ||
    match value with
    | '+' :: number => isNumber number
    | _ => false

/-- A field: a name, and perhaps a value behind an equals sign. A second sign ends the value. -/
def fieldName (field : List Char) : List Char := field.takeWhile (· ≠ '=')

def fieldValue? (field : List Char) : Option (List Char) :=
  (field.dropWhile (· ≠ '=')).tail?.map fun value => value.takeWhile (· ≠ '=')

def isField (field : List Char) : Bool := !field.isEmpty && (fieldValue? field).all isSoundValue

/-! ## Whole directives

The marks of a directive are looked for in its text without the blanks around it. What stands
between them is taken from the text as it is, at the same positions. Behind blanks such a position
can be inside a character: nothing can be taken there, and the reading stops. -/

/-- Why a text gives no directive: it is none, or the reading of it stopped. -/
inductive Flaw where
  | unreadable
  | stopped
deriving DecidableEq, Repr

def readable {α : Type} : Option α → Except Flaw α
  | some value => .ok value
  | none => .error .unreadable

def taken (part : Option (List Char)) : Except Flaw (List Char) :=
  match part with
  | some letters => .ok letters
  | none => .error .stopped

/-- The threshold behind the equals sign at a position. -/
def thresholdBehind (text : List Char) (position : Nat) : Except Flaw Threshold := do
  let letters ← taken (Text.sliceFrom? (position + 1) text)
  readable (thresholdOrAll? letters)

/-- What follows a span: nothing, or a threshold behind an equals sign. -/
def afterSpan (text : List Char) (position : Nat) : List Char → Except Flaw Threshold
  | [] => .ok everything
  | '=' :: _ => thresholdBehind text position
  | _ => .error .unreadable

/-- What ends the field of a span. -/
def isFieldMark (letter : Char) : Bool := letter == '}'

/-- The field of a span, from behind its opening brace to the end of the span. -/
def spanField (target : Option String) (named : Bool) (text : List Char) (position : Nat)
    (marked : List Char) : Except Flaw Directive := do
  let behindField := position + Text.byteSize (marked.takeWhile fun letter => !isFieldMark letter)
  match marked.dropWhile fun letter => !isFieldMark letter with
  | [] => .error .unreadable
  | _ :: rest =>
      let field ← taken (Text.slice? position behindField text)
      match isField field, rest with
      | true, ']' :: rest =>
          let threshold ← afterSpan text (behindField + 2) rest
          return {
            target := target
            fields := [String.ofList (fieldName field)]
            forSpans := named || (fieldValue? field).isSome
            threshold := threshold }
      | _, _ => .error .unreadable

/-- What ends the name of a span. -/
def isSpanMark (letter : Char) : Bool := letter == ']' || letter == '{'

/-- A span from behind its opening bracket: a name, or a field in braces, or both. -/
def span (target : Option String) (text : List Char) (position : Nat) (marked : List Char) :
    Except Flaw Directive := do
  let behindName := position + Text.byteSize (marked.takeWhile fun letter => !isSpanMark letter)
  match marked.dropWhile fun letter => !isSpanMark letter with
  | [] => .error .unreadable
  | mark :: rest =>
      let name ← taken (Text.slice? position behindName text)
      if mark = ']' then
        return ⟨target, [], true, ← afterSpan text (behindName + 1) rest⟩
      else spanField target (!name.isEmpty) text (behindName + 1) rest

/-- What may start the name of a target or a level. -/
def isStart (letter : Char) : Bool :=
  letter == '-' || letter == ':' || letter == '_' || Text.isAlphanumeric letter

/-- A directive without a mark: a level, or else a target. -/
def unmarked (text : List Char) : Directive :=
  match threshold? text with
  | some threshold => ⟨none, [], false, threshold⟩
  | none => ⟨some (String.ofList text), [], false, everything⟩

/-- What ends the name that a directive starts with. -/
def isNameMark (letter : Char) : Bool := letter == '=' || letter == '['

/-- A directive that starts with a name: a level, a target, or a target with a level or a span. -/
def namedDirective (text trimmed : List Char) : Except Flaw Directive := do
  let behindName := Text.byteSize (trimmed.takeWhile fun letter => !isNameMark letter)
  match trimmed.dropWhile fun letter => !isNameMark letter with
  | [] => return unmarked text
  | mark :: rest =>
      let target := some (String.ofList (← taken (Text.slice? 0 behindName text)))
      if mark = '=' then
        return ⟨target, [], false, ← thresholdBehind text behindName⟩
      else span target text (behindName + 1) rest

/-- One directive: a span, or what starts with a name. -/
def ofText (text : List Char) : Except Flaw Directive :=
  match Text.trim text with
  | [] => .error .unreadable
  | '[' :: rest => span none text 1 rest
  | first :: rest =>
      if isStart first then namedDirective text (first :: rest) else .error .unreadable

end Directive

end Visa
