import Visa.Text.Blank
import Visa.Text.Digit
import Visa.Text.Numeric

namespace Visa.Pattern

/-! Which texts are regular expressions. Filters only ask whether a pattern is sound; nothing is
matched here. A comma or a closing brace would end the pattern that a filter holds, so whatever
needs one of them, such as a counted repetition, cannot be completed. -/

/-- What flags decide about the text behind them: whether characters are those of Unicode or bytes,
and whether white space and comments say nothing. -/
structure Mode where
  unicode : Bool
  spaced : Bool
deriving DecidableEq, Repr

/-- The text behind white space and comments; a comment ends with its line. -/
def skipSpace : Bool → List Char → List Char
  | _, [] => []
  | true, letter :: rest => skipSpace (letter != '\n') rest
  | false, '#' :: rest => skipSpace true rest
  | false, letter :: rest => if Text.isBlank letter then skipSpace false rest else letter :: rest

def skip (mode : Mode) (text : List Char) : List Char :=
  if mode.spaced then skipSpace false text else text

/-! ## Escapes -/

/-- What a pattern is made of: single characters, sets of them, and positions between them. -/
inductive Item where
  | letter (code : Nat)
  | set
  | position
deriving DecidableEq, Repr

def isAscii (code : Nat) : Bool := code < 0x80

/-- A character by its code point in a fixed number of digits. Two digits give a byte where bytes
are matched, and only bytes of ASCII are characters. -/
def coded? (mode : Mode) (count : Nat) (text : List Char) : Option (Item × List Char) := do
  let digits := text.take count
  let code ← Text.code? digits
  let isByte := count == 2 && !mode.unicode
  if digits.length = count ∧ code.isValidChar ∧ (isByte → isAscii code) then
    some (.letter code, text.drop count)
  else none

/-- The general categories that have names of one letter. -/
def categories : List Char := "clmnpsz".toList

def category? (mode : Mode) : List Char → Option (Item × List Char)
  | [] => none
  | letter :: rest =>
      if mode.unicode && categories.contains letter.toLower then some (.set, rest) else none

/-- The control characters that have letters of their own. -/
def control? (letter : Char) : Option Nat :=
  [('a', 0x07), ('f', 0x0C), ('n', 0x0A), ('r', 0x0D), ('t', 0x09), ('v', 0x0B)].lookup letter

/-- Every character of ASCII may be escaped that could not become an escape of its own. -/
def isEscapable (letter : Char) : Bool :=
  isAscii letter.toNat && !letter.isAlphanum && letter != '<' && letter != '>'

/-- The item that stands behind a backslash. The ends of words are only known among bytes, and
among bytes the complement of a set is no set of characters. -/
def escape? (mode : Mode) : List Char → Option (Item × List Char)
  | [] => none
  | letter :: rest =>
      if letter = 'x' then coded? mode 2 rest
      else if letter = 'u' then coded? mode 4 rest
      else if letter = 'U' then coded? mode 8 rest
      else if letter = 'p' ∨ letter = 'P' then category? mode rest
      else if "dsw".toList.contains letter then some (.set, rest)
      else if "DSW".toList.contains letter then if mode.unicode then some (.set, rest) else none
      else if "Az".toList.contains letter then some (.position, rest)
      else if "bB<>".toList.contains letter then
        if mode.unicode then none else some (.position, rest)
      else
        match control? letter with
        | some code => some (.letter code, rest)
        | none => if isEscapable letter then some (.letter letter.toNat, rest) else none

/-! ## Sets in brackets -/

/-- One item of a set: a character or an escape. -/
def setItem? (mode : Mode) : List Char → Option (Item × List Char)
  | [] => none
  | '\\' :: rest => escape? mode rest
  | letter :: rest =>
      if mode.unicode || isAscii letter.toNat then some (.letter letter.toNat, rest) else none

def setNames : List String :=
  ["alnum", "alpha", "ascii", "blank", "cntrl", "digit", "graph", "lower", "print", "punct",
    "space", "upper", "word", "xdigit"]

/-- The text behind a set given by its name, from behind its opening bracket. -/
def afterSetName? : List Char → Option (List Char)
  | ':' :: text =>
      let named := if text.head? = some '^' then text.tail else text
      match named.dropWhile fun letter => letter != ':' with
      | ':' :: ']' :: rest =>
          let name := String.ofList (named.takeWhile fun letter => letter != ':')
          if setNames.contains name then some rest else none
      | _ => none
  | _ => none

/-- The text behind the dashes with which a set may start, and whether there are any. -/
def skipDashes (mode : Mode) : Nat → List Char → Bool × List Char
  | fuel + 1, '-' :: rest => (true, (skipDashes mode fuel (skip mode rest)).2)
  | _, text => (false, text)

/-- The start of a set behind its opening bracket: a mark for the complement, and characters that
have no meaning of their own there. -/
def openSet? (mode : Mode) (text : List Char) : Option (List Char) :=
  let start := skip mode text
  let isComplement := start.head? == some '^'
  let marked := if isComplement then skip mode start.tail else start
  let (hasDashes, rest) := skipDashes mode marked.length marked
  if isComplement && !mode.unicode then none
  else if !hasDashes && rest.head? == some ']' then some rest.tail
  else some rest

/-- A character, an escape, or a range of characters. A dash in front of a bracket or of another
dash makes no range. -/
def setRange? (mode : Mode) (text : List Char) : Option (List Char) := do
  let (first, rest) ← setItem? mode text
  let alone := if first = .position then none else some (skip mode rest)
  match skip mode rest with
  | '-' :: more =>
      match skip mode more with
      | ']' :: _ | '-' :: _ => alone
      | more =>
          match first, ← setItem? mode more with
          | .letter low, (.letter high, rest) => if low ≤ high then some rest else none
          | _, _ => none
  | _ => alone

/-- The text behind a set, from behind its start; `depth` sets stand open around it. -/
def afterSet? (mode : Mode) : Nat → Nat → List Char → Option (List Char)
  | 0, _, _ => none
  | fuel + 1, depth, text =>
      match skip mode text with
      | [] => none
      | ']' :: rest => if depth = 0 then some rest else afterSet? mode fuel (depth - 1) rest
      | '[' :: rest =>
          match afterSetName? rest with
          | some rest => afterSet? mode fuel depth rest
          | none => do afterSet? mode fuel (depth + 1) (← openSet? mode rest)
      | '&' :: '&' :: rest | '-' :: '-' :: rest | '~' :: '~' :: rest =>
          afterSet? mode fuel depth rest
      | start => do afterSet? mode fuel depth (← setRange? mode start)

/-! ## Groups -/

/-- How far a pattern has been read: the mode, the modes to go back to when the open groups close,
the names of groups, and whether there is something to repeat. -/
structure State where
  mode : Mode
  outer : List Mode
  names : List (List Char)
  repeatable : Bool

def start : State := ⟨⟨true, false⟩, [], [], false⟩

def isNameStart (letter : Char) : Bool := letter == '_' || Text.isAlphabetic letter

def isNameLetter (letter : Char) : Bool :=
  letter == '_' || letter == '.' || letter == '[' || letter == ']' || Text.isAlphanumeric letter

def isFreshName (state : State) (name : List Char) : Bool :=
  name.head?.any isNameStart && name.tail.all isNameLetter && !state.names.contains name

/-- A group that a mode is for, which ends with the group. -/
def State.enter (state : State) (mode : Mode) : State :=
  { state with mode := mode, outer := state.mode :: state.outer, repeatable := false }

/-- A group with a name, from behind the angle bracket in front of the name. -/
def named? (state : State) (text : List Char) : Option (State × List Char) :=
  let name := text.takeWhile fun letter => letter != '>'
  match text.dropWhile fun letter => letter != '>' with
  | _ :: rest =>
      if isFreshName state name then
        some ({ state.enter state.mode with names := name :: state.names }, rest)
      else none
  | [] => none

/-- A mode with flags: those behind a dash are turned off, and none is named twice. -/
def Mode.with? (mode : Mode) (flags : List Char) : Option Mode :=
  let on := flags.takeWhile fun flag => flag != '-'
  let off := flags.dropWhile fun flag => flag != '-'
  if flags.all "imsUuRx-".toList.contains ∧ flags.Nodup ∧ flags.getLast? ≠ some '-' then
    some ⟨(mode.unicode || on.contains 'u') && !off.contains 'u',
      (mode.spaced || on.contains 'x') && !off.contains 'x'⟩
  else none

/-- Flags, for a group or up to the end of the group that they stand in. -/
def flagged? (state : State) (text : List Char) : Option (State × List Char) := do
  let isEnd (letter : Char) : Bool := letter == ':' || letter == ')'
  let flags := text.takeWhile fun letter => !isEnd letter
  let mode ← state.mode.with? flags
  match text.dropWhile fun letter => !isEnd letter with
  | ':' :: rest => some (state.enter mode, rest)
  | ')' :: rest =>
      if flags.isEmpty then none else some ({ state with mode := mode, repeatable := false }, rest)
  | _ => none

/-- The start of a group behind its opening bracket. Nothing can look ahead or behind. -/
def open? (state : State) (text : List Char) : Option (State × List Char) :=
  match skip state.mode text with
  | '?' :: '=' :: _ | '?' :: '!' :: _ | '?' :: '<' :: '=' :: _ | '?' :: '<' :: '!' :: _ => none
  | '?' :: 'P' :: '<' :: rest | '?' :: '<' :: rest => named? state rest
  | '?' :: rest => flagged? state rest
  | rest => some (state.enter state.mode, rest)

/-! ## Patterns -/

def isRepetition (letter : Char) : Bool := letter == '?' || letter == '*' || letter == '+'

/-- A question mark behind a repetition belongs to it. -/
def dropLazy (text : List Char) : List Char := if text.head? = some '?' then text.tail else text

/-- Every step takes at least one character. -/
def isSoundFrom : Nat → State → List Char → Bool
  | 0, _, _ => false
  | fuel + 1, state, text =>
      let after (rest : List Char) : Bool := isSoundFrom fuel { state with repeatable := true } rest
      match skip state.mode text with
      | [] => state.outer.isEmpty
      | '(' :: rest =>
          match open? state rest with
          | some (inner, rest) => isSoundFrom fuel inner rest
          | none => false
      | ')' :: rest =>
          match state.outer with
          | [] => false
          | mode :: outer =>
              isSoundFrom fuel { state with mode := mode, outer := outer, repeatable := true } rest
      | '|' :: rest => isSoundFrom fuel { state with repeatable := false } rest
      | '[' :: rest =>
          match openSet? state.mode rest >>= afterSet? state.mode rest.length 0 with
          | some rest => after rest
          | none => false
      | '\\' :: rest =>
          match escape? state.mode rest with
          | some (_, rest) => after rest
          | none => false
      | '{' :: _ => false
      | '.' :: rest => state.mode.unicode && after rest
      | letter :: rest =>
          if isRepetition letter then state.repeatable && after (dropLazy rest) else after rest

def isSound (text : List Char) : Bool := isSoundFrom (text.length + 1) start text

end Visa.Pattern
