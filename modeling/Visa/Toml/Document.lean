import Visa.Toml.Node
import Visa.Toml.Quoted
import Visa.Toml.Scalar

namespace Visa.Toml

/-! Whole TOML texts. Each reader gives what it read and the text after it, or nothing if the text
is not TOML. -/

def isBareLetter (letter : Char) : Bool := letter.isAlphanum || letter == '_' || letter == '-'

def keyPart? (text : List Char) : Option (String × List Char) :=
  match text with
  | '"' :: rest => (basic rest).map fun (letters, rest) => (String.ofList letters, rest)
  | '\'' :: rest => (literal rest).map fun (letters, rest) => (String.ofList letters, rest)
  | _ =>
      let letters := text.takeWhile isBareLetter
      if letters.isEmpty then none
      else some (String.ofList letters, text.dropWhile isBareLetter)

/-- A key: its path and its last part. -/
abbrev Key := List String × String

/-- A key with its dots; every part takes at least one character. -/
def key? : Nat → List Char → Option (Key × List Char)
  | 0, _ => none
  | fuel + 1, text => do
      let (part, rest) ← keyPart? (skipBlanks text)
      match skipBlanks rest with
      | '.' :: rest =>
          let ((path, last), rest) ← key? fuel rest
          some ((part :: path, last), rest)
      | rest => some (([], part), rest)

/-- How many parts a key may have, and how deep lists and tables in braces may be nested. -/
def depthLimit : Nat := 80

def keyOf? (text : List Char) : Option (Key × List Char) := do
  let (key, rest) ← key? text.length text
  if key.1.length < depthLimit then some (key, rest) else none

/-- A key and the equals sign after it, with the same things ignored on both sides of the sign. -/
def assigned? (skip : List Char → List Char) (text : List Char) : Option (Key × List Char) := do
  let (key, rest) ← keyOf? text
  match skip rest with
  | '=' :: rest => some (key, skip rest)
  | _ => none

def scalar? (text : List Char) : Option (Node × List Char) := do
  let (letters, rest) := cutScalar text
  match ← classify? letters with
  | .plain => some (.plain, rest)
  | .moment => some (.moment, rest)
  | .unusable => some (.unusable, rest)

mutual

/-- A value; `fuel` bounds the steps and `depth` the brackets that may still be opened. -/
def value? : Nat → Nat → List Char → Option (Node × List Char)
  | 0, _, _ => none
  | _ + 1, 0, '[' :: _ => none
  | _ + 1, 0, '{' :: _ => none
  | fuel + 1, depth + 1, '[' :: rest =>
      (items? fuel depth rest).map fun (items, rest) => (.list items, rest)
  | fuel + 1, depth + 1, '{' :: rest =>
      (members? fuel depth ⟨.inline, []⟩ rest).map fun (table, rest) =>
        (.table .inline table.members, rest)
  | _ + 1, _, text =>
      match text with
      | '"' :: _ | '\'' :: _ =>
          (string? text).map fun (letters, rest) => (.text (String.ofList letters), rest)
      | _ => scalar? text

/-- The items of a list up to its closing bracket, which a comma may precede. -/
def items? : Nat → Nat → List Char → Option (List Node × List Char)
  | 0, _, _ => none
  | fuel + 1, depth, text =>
      match skipGap false text with
      | ']' :: rest => some ([], rest)
      | start => do
          let (item, rest) ← value? fuel depth start
          match skipGap false rest with
          | ',' :: rest =>
              let (more, rest) ← items? fuel depth rest
              some (item :: more, rest)
          | ']' :: rest => some ([item], rest)
          | _ => none

/-- The members of a table up to its closing brace, which a comma may precede. -/
def members? : Nat → Nat → Table → List Char → Option (Table × List Char)
  | 0, _, _, _ => none
  | fuel + 1, depth, table, text =>
      match skipGap false text with
      | '}' :: rest => some (table, rest)
      | start => do
          let ((path, key), rest) ← assigned? (skipGap false) start
          let (node, rest) ← value? fuel depth rest
          let table ← table.put path key node
          match skipGap false rest with
          | ',' :: rest => members? fuel depth table rest
          | '}' :: rest => some (table, rest)
          | _ => none

end

/-- Every character is passed at most twice. -/
def valueOf? (text : List Char) : Option (Node × List Char) :=
  value? (2 * text.length + 2) depthLimit text

/-- A document under construction: the tree so far, and the table to which lines add. -/
structure Draft where
  root : Table
  current : List String

/-- The key of a header, up to its closing brackets and the end of the line. -/
def header? (closing : List Char) (text : List Char) : Option (Key × List Char) := do
  let (key, rest) ← keyOf? text
  if closing.isPrefixOf rest then
    let rest ← lineEnd? (rest.drop closing.length)
    some (key, rest)
  else none

/-- One line that is not blank, or several if its value spans them. -/
def line? (draft : Draft) (text : List Char) : Option (Draft × List Char) :=
  match text with
  | '[' :: '[' :: rest => do
      let ((path, key), rest) ← header? [']', ']'] rest
      let root ← draft.root.openElement path key
      some (⟨root, path ++ [key]⟩, rest)
  | '[' :: rest => do
      let ((path, key), rest) ← header? [']'] rest
      let root ← draft.root.openTable path key
      some (⟨root, path ++ [key]⟩, rest)
  | _ => do
      let ((path, key), rest) ← assigned? skipBlanks text
      let (node, rest) ← valueOf? rest
      let rest ← lineEnd? rest
      let root ← draft.root.within false (Table.put path key node) draft.current
      some ({ draft with root := root }, rest)

/-- The lines of a document; every line takes at least one character. -/
def lines? : Nat → Draft → List Char → Option Table
  | 0, draft, text => if text.isEmpty then some draft.root else none
  | fuel + 1, draft, text =>
      match skipGap false text with
      | [] => some draft.root
      | start => do
          let (draft, rest) ← line? draft start
          lines? fuel draft rest

/-- A mark of the byte order may precede the text. -/
def dropMark : List Char → List Char
  | '\uFEFF' :: rest => rest
  | text => text

/-- The tree of a text, if the text is TOML. -/
def ofText? (text : List Char) : Option Table :=
  lines? (text.length + 1) ⟨⟨.header, []⟩, []⟩ (dropMark text)

end Visa.Toml
