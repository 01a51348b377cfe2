import Visa.Toml.Letter

namespace Visa.Toml

/-! Quoted strings, read from the character after the opening quotes. Each reader gives the text
that the string stands for and what follows its closing quotes. -/

abbrev Quoted := Option (List Char × List Char)

def Quoted.cons (letter : Char) (more : Quoted) : Quoted :=
  more.map fun (text, rest) => (letter :: text, rest)

/-- The character that an escape of one letter stands for. -/
def escape? (letter : Char) : Option Char :=
  if letter = '"' ∨ letter = '\\' then some letter
  else if letter = 'b' then some '\x08'
  else if letter = 't' then some '\t'
  else if letter = 'n' then some '\n'
  else if letter = 'f' then some '\x0c'
  else if letter = 'r' then some '\r'
  else if letter = 'e' then some '\x1b'
  else none

/-- The character of an escape with digits, by its letter. -/
def coded? (digits : List Char) (next : Char → Quoted) : Quoted := codePoint? digits >>= next

def basic : List Char → Quoted
  | [] => none
  | '"' :: rest => some ([], rest)
  | '\\' :: 'x' :: a :: b :: rest => coded? [a, b] fun letter => (basic rest).cons letter
  | '\\' :: 'u' :: a :: b :: c :: d :: rest =>
      coded? [a, b, c, d] fun letter => (basic rest).cons letter
  | '\\' :: 'U' :: a :: b :: c :: d :: e :: f :: g :: h :: rest =>
      coded? [a, b, c, d, e, f, g, h] fun letter => (basic rest).cons letter
  | '\\' :: letter :: rest => escape? letter >>= fun letter => (basic rest).cons letter
  | letter :: rest => if isPlain letter then (basic rest).cons letter else none

def literal : List Char → Quoted
  | [] => none
  | '\'' :: rest => some ([], rest)
  | letter :: rest => if isPlain letter then (literal rest).cons letter else none

/-- The line break that may follow opening quotes is no part of the text. -/
def dropNewline (text : List Char) : List Char := (newline? text).getD text

/-- What a reader of several lines is doing: reading, looking for the line break after a backslash
at the end of a line, or dropping the blanks at the start of the next lines. -/
inductive Fold where
  | reading
  | seeking
  | dropping
deriving DecidableEq

/-- Up to two quotes may stand right before the closing three. -/
def basicLines : Fold → List Char → Quoted
  | _, [] => none
  | .seeking, '\n' :: rest => basicLines .dropping rest
  | .seeking, '\r' :: '\n' :: rest => basicLines .dropping rest
  | .seeking, letter :: rest => if isBlank letter then basicLines .seeking rest else none
  | _, '"' :: '"' :: '"' :: '"' :: '"' :: rest => some (['"', '"'], rest)
  | _, '"' :: '"' :: '"' :: '"' :: rest => some (['"'], rest)
  | _, '"' :: '"' :: '"' :: rest => some ([], rest)
  | _, '\\' :: 'x' :: a :: b :: rest =>
      coded? [a, b] fun letter => (basicLines .reading rest).cons letter
  | _, '\\' :: 'u' :: a :: b :: c :: d :: rest =>
      coded? [a, b, c, d] fun letter => (basicLines .reading rest).cons letter
  | _, '\\' :: 'U' :: a :: b :: c :: d :: e :: f :: g :: h :: rest =>
      coded? [a, b, c, d, e, f, g, h] fun letter => (basicLines .reading rest).cons letter
  | _, '\\' :: '\n' :: rest => basicLines .dropping rest
  | _, '\\' :: '\r' :: '\n' :: rest => basicLines .dropping rest
  | _, '\\' :: letter :: rest =>
      if isBlank letter then basicLines .seeking rest
      else escape? letter >>= fun letter => (basicLines .reading rest).cons letter
  | .dropping, '\n' :: rest => basicLines .dropping rest
  | .dropping, '\r' :: '\n' :: rest => basicLines .dropping rest
  | .dropping, ' ' :: rest => basicLines .dropping rest
  | .dropping, '\t' :: rest => basicLines .dropping rest
  | _, '\n' :: rest => (basicLines .reading rest).cons '\n'
  | _, '\r' :: '\n' :: rest => ((basicLines .reading rest).cons '\n').cons '\r'
  | _, letter :: rest => if isPlain letter then (basicLines .reading rest).cons letter else none

def literalLines : List Char → Quoted
  | [] => none
  | '\'' :: '\'' :: '\'' :: '\'' :: '\'' :: rest => some (['\'', '\''], rest)
  | '\'' :: '\'' :: '\'' :: '\'' :: rest => some (['\''], rest)
  | '\'' :: '\'' :: '\'' :: rest => some ([], rest)
  | '\n' :: rest => (literalLines rest).cons '\n'
  | '\r' :: '\n' :: rest => ((literalLines rest).cons '\n').cons '\r'
  | letter :: rest => if isPlain letter then (literalLines rest).cons letter else none

/-- A string of one of the four forms, from its opening quotes. -/
def string? : List Char → Quoted
  | '"' :: '"' :: '"' :: rest => basicLines .reading (dropNewline rest)
  | '\'' :: '\'' :: '\'' :: rest => literalLines (dropNewline rest)
  | '"' :: rest => basic rest
  | '\'' :: rest => literal rest
  | _ => none

end Visa.Toml
