import Visa.Json.Literal
import Visa.Json.Number

namespace Visa.Json

/-! A JSON text as tokens. Where the text cannot be cut any further, the last token says why. -/

/-- `unfinished` is a number that the text ends in. -/
inductive Token where
  | listOpen
  | listClose
  | objectOpen
  | objectClose
  | comma
  | colon
  | null
  | bool (value : Bool)
  | number (value : Number)
  | string (text : Literal)
  | unfinished
  | flawed (flaw : Flaw)

namespace Token

def isSpace (letter : Char) : Bool :=
  letter == ' ' || letter == '\n' || letter == '\r' || letter == '\t'

/-- Whether a text goes on with a word, or ends within it, or differs. -/
def word : List Char → List Char → Except Flaw (List Char)
  | [], rest => .ok rest
  | _ :: _, [] => .error .truncated
  | expected :: more, letter :: rest =>
      if expected = letter then word more rest else .error .malformed

def punctuation? (letter : Char) : Option Token :=
  if letter = '[' then some listOpen
  else if letter = ']' then some listClose
  else if letter = '{' then some objectOpen
  else if letter = '}' then some objectClose
  else if letter = ',' then some comma
  else if letter = ':' then some colon
  else none

/-- A token and the text after it; no text is left after a flaw. -/
abbrev Step := Token × List Char

def ofWord (token : Token) (letters text : List Char) : Step :=
  match word letters text with
  | .ok rest => (token, rest)
  | .error flaw => (flawed flaw, [])

def ofLiteral (text : List Char) : Step :=
  let value := (Literal.read none text).map String.ofList
  match Literal.skip text with
  | .ok rest => (string ⟨value, none⟩, rest)
  | .error flaw => (string ⟨value, some flaw⟩, [])

def ofNumber (text : List Char) : Step :=
  match Number.scan text with
  | .ok (value, rest) => (number value, rest)
  | .error .truncated => (unfinished, [])
  | .error .malformed => (flawed .malformed, [])

/-- The token that starts with a character; `rest` is the text after that character. -/
def step (letter : Char) (rest : List Char) : Step :=
  match punctuation? letter with
  | some token => (token, rest)
  | none =>
      if letter = '"' then ofLiteral rest
      else if letter = 'n' then ofWord null "ull".toList rest
      else if letter = 't' then ofWord (bool true) "rue".toList rest
      else if letter = 'f' then ofWord (bool false) "alse".toList rest
      else if letter = '-' ∨ letter.isDigit then ofNumber (letter :: rest)
      else (flawed .malformed, [])

/-- A text of `n` characters has at most `n` tokens. -/
def scan : Nat → List Char → List Token
  | 0, _ => []
  | _ + 1, [] => []
  | fuel + 1, letter :: rest =>
      if isSpace letter then scan fuel rest
      else
        let (token, rest) := step letter rest
        token :: scan fuel rest

def ofText (text : List Char) : List Token := scan text.length text

end Token

end Visa.Json
