import Visa.Json.Flaw
import Visa.Text.Bytes
import Visa.Text.Digit

namespace Visa.Json

/-! String literals: how a text is written between quotes, and the two ways to go over one. A
literal that is read has to stand for a text; one that is only skipped may hold halves of
surrogate pairs, which stand for nothing. -/

namespace Literal

/-! ## Writing -/

def hexDigit (value : Nat) : Char := (Nat.digitChar value)

/-- The form of a control character that has no letter of its own. -/
def control (code : Nat) : List Char :=
  ['\\', 'u', '0', '0', hexDigit (code / 16), hexDigit (code % 16)]

def escaped (letter : Char) : List Char :=
  if letter = '"' then ['\\', '"']
  else if letter = '\\' then ['\\', '\\']
  else if letter = '\x08' then ['\\', 'b']
  else if letter = '\x0c' then ['\\', 'f']
  else if letter = '\n' then ['\\', 'n']
  else if letter = '\r' then ['\\', 'r']
  else if letter = '\t' then ['\\', 't']
  else if letter.toNat < 0x20 then control letter.toNat
  else [letter]

def write (text : List Char) : List Char := ['"'] ++ text.flatMap escaped ++ ['"']

/-! ## Reading -/

/-- The code unit that four hexadecimal digits give. -/
def unit? (first second third fourth : Char) : Option Nat :=
  Text.code? [first, second, third, fourth]

/-- The flaw of a code unit that is not four hexadecimal digits: the text ends early if less than
four bytes of it are left. -/
def unitFlaw (rest : List Char) : Flaw :=
  if Text.byteSize rest < 4 then .truncated else .malformed

/-- The character that an escape of one letter stands for. -/
def short? (letter : Char) : Option Char :=
  if letter = '"' ∨ letter = '\\' ∨ letter = '/' then some letter
  else if letter = 'b' then some '\x08'
  else if letter = 'f' then some '\x0c'
  else if letter = 'n' then some '\n'
  else if letter = 'r' then some '\r'
  else if letter = 't' then some '\t'
  else none

def isControl (letter : Char) : Bool := letter.toNat < 0x20

def isHigh (code : Nat) : Bool := 0xD800 ≤ code && code ≤ 0xDBFF

def isLow (code : Nat) : Bool := 0xDC00 ≤ code && code ≤ 0xDFFF

/-- The character of a surrogate pair. -/
def paired (high low : Nat) : Char :=
  Char.ofNat (0x10000 + (high - 0xD800) * 0x400 + (low - 0xDC00))

/-- The text after the closing quote. -/
def skip : List Char → Except Flaw (List Char)
  | [] => .error .truncated
  | '"' :: rest => .ok rest
  | '\\' :: 'u' :: first :: second :: third :: fourth :: rest =>
      match unit? first second third fourth with
      | some _ => skip rest
      | none => .error (unitFlaw (first :: second :: third :: fourth :: rest))
  | '\\' :: 'u' :: rest => .error (unitFlaw rest)
  | '\\' :: letter :: rest =>
      match short? letter with
      | some _ => skip rest
      | none => .error .malformed
  | ['\\'] => .error .truncated
  | letter :: rest => if isControl letter then .error .malformed else skip rest

/-- The text that a literal stands for, up to the closing quote. A high surrogate that waits for
its other half is passed along. -/
def read : Option Nat → List Char → Except Flaw (List Char)
  | none, '"' :: _ => .ok []
  | none, '\\' :: 'u' :: first :: second :: third :: fourth :: rest =>
      match unit? first second third fourth with
      | some code =>
          if isLow code then .error .malformed
          else if isHigh code then read (some code) rest
          else (read none rest).map fun text => Char.ofNat code :: text
      | none => .error (unitFlaw (first :: second :: third :: fourth :: rest))
  | some high, '\\' :: 'u' :: first :: second :: third :: fourth :: rest =>
      match unit? first second third fourth with
      | some code =>
          if isLow code then (read none rest).map fun text => paired high code :: text
          else .error .malformed
      | none => .error (unitFlaw (first :: second :: third :: fourth :: rest))
  | _, '\\' :: 'u' :: rest => .error (unitFlaw rest)
  | none, '\\' :: letter :: rest =>
      match short? letter with
      | some character => (read none rest).map fun text => character :: text
      | none => .error .malformed
  | _, [] => .error .truncated
  | _, ['\\'] => .error .truncated
  | some _, _ :: _ => .error .malformed
  | none, letter :: rest =>
      if isControl letter then .error .malformed
      else (read none rest).map fun text => letter :: text

/-! ## Reading what was written -/

theorem unit?_control {code : Nat} (small : code < 32) :
    unit? '0' '0' (hexDigit (code / 16)) (hexDigit (code % 16)) = some code := by
  have every : ∀ code : Fin 32,
      unit? '0' '0' (hexDigit (code.val / 16)) (hexDigit (code.val % 16)) = some code.val := by
    decide
  exact every ⟨code, small⟩

theorem skip_escaped (letter : Char) (rest : List Char) :
    skip (escaped letter ++ rest) = skip rest := by
  unfold escaped
  split <;> rename_i quote
  · rfl
  split <;> rename_i backslash
  · rfl
  split
  · rfl
  split
  · rfl
  split
  · rfl
  split
  · rfl
  split
  · rfl
  split <;> rename_i small
  · simp only [control, List.cons_append, List.nil_append, skip, unit?_control small]
  · rw [List.singleton_append, skip]
    · simp [isControl, small]
    all_goals simp_all

theorem read_escaped (letter : Char) (rest : List Char) :
    read none (escaped letter ++ rest) = (read none rest).map fun text => letter :: text := by
  unfold escaped
  split <;> rename_i quote
  · rw [quote]; rfl
  split <;> rename_i backslash
  · rw [backslash]; rfl
  split <;> rename_i backspace
  · rw [backspace]; rfl
  split <;> rename_i formFeed
  · rw [formFeed]; rfl
  split <;> rename_i newline
  · rw [newline]; rfl
  split <;> rename_i carriageReturn
  · rw [carriageReturn]; rfl
  split <;> rename_i tab
  · rw [tab]; rfl
  split <;> rename_i small
  · have low : isLow letter.toNat = false := by
      simp only [isLow, Bool.and_eq_false_iff, decide_eq_false_iff_not]; omega
    have high : isHigh letter.toNat = false := by
      simp only [isHigh, Bool.and_eq_false_iff, decide_eq_false_iff_not]; omega
    simp [control, read, unit?_control small, low, high, Char.ofNat_toNat]
  · rw [List.singleton_append, read]
    · simp [isControl, small]
    all_goals simp_all

theorem skip_write (text rest : List Char) :
    skip (text.flatMap escaped ++ '"' :: rest) = .ok rest := by
  induction text with
  | nil => rfl
  | cons letter text ih => rw [List.flatMap_cons, List.append_assoc, skip_escaped, ih]

theorem read_write (text rest : List Char) :
    read none (text.flatMap escaped ++ '"' :: rest) = .ok text := by
  induction text with
  | nil => rfl
  | cons letter text ih =>
      rw [List.flatMap_cons, List.append_assoc, read_escaped, ih]
      rfl

end Literal

/-- A literal as a text holds it: what it stands for, and the flaw on which it breaks off if it
has no end. -/
structure Literal where
  value : Except Flaw String
  ending : Option Flaw

end Visa.Json
