import Visa.Text.Digit

namespace Visa.Toml

/-! The characters of TOML texts, and what may stand between its elements. -/

def isBlank (letter : Char) : Bool := letter == ' ' || letter == '\t'

/-- What comments and one-line strings may hold: no control character but the tab. -/
def isPlain (letter : Char) : Bool :=
  letter == '\t' || (0x20 ≤ letter.toNat && letter.toNat != 0x7F)

def skipBlanks (text : List Char) : List Char := text.dropWhile isBlank

/-- The text after a line break; a carriage return alone is none. -/
def newline? : List Char → Option (List Char)
  | '\n' :: rest => some rest
  | '\r' :: '\n' :: rest => some rest
  | _ => none

/-- The text after the rest of a line that may hold only blanks and a comment. -/
def lineEnd? (text : List Char) : Option (List Char) :=
  let afterComment := match skipBlanks text with
    | '#' :: rest => rest.dropWhile isPlain
    | rest => rest
  match afterComment with
  | [] => some []
  | rest => newline? rest

/-- The text after blanks, line breaks and comments. A comment that holds a forbidden character
ends there, where nothing that may follow can start. -/
def skipGap : Bool → List Char → List Char
  | _, [] => []
  | _, '\r' :: '\n' :: rest => skipGap false rest
  | _, '\n' :: rest => skipGap false rest
  | true, letter :: rest => if isPlain letter then skipGap true rest else letter :: rest
  | false, '#' :: rest => skipGap true rest
  | false, letter :: rest => if isBlank letter then skipGap false rest else letter :: rest

/-- The character whose code point some hexadecimal digits give. -/
def codePoint? (digits : List Char) : Option Char := do
  let code ← Text.code? digits
  if code.isValidChar then some (Char.ofNat code) else none

end Visa.Toml
