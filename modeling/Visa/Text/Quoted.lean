import Visa.Text.Hidden

namespace Visa.Text

/-! Quoted text as diagnostics show it: one line, no matter what the text holds. -/

/-- A code point in lower-case hexadecimal, without padding. -/
def hexadecimal (code : Nat) : List Char := Nat.toDigits 16 code

/-- The written form of one character between quotes. -/
def escaped (letter : Char) : List Char :=
  if letter = '"' then ['\\', '"']
  else if letter = '\\' then ['\\', '\\']
  else if letter = '\t' then ['\\', 't']
  else if letter = '\r' then ['\\', 'r']
  else if letter = '\n' then ['\\', 'n']
  else if letter = '\x00' then ['\\', '0']
  else if isAttaching letter || isHidden letter then
    ['\\', 'u', '{'] ++ hexadecimal letter.toNat ++ ['}']
  else [letter]

/-- The text between double quotes, with every character in its written form. -/
def quoted (text : String) : String :=
  String.ofList (['"'] ++ text.toList.flatMap escaped ++ ['"'])

end Visa.Text
