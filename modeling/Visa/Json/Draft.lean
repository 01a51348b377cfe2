import Visa.Json.Token

namespace Visa.Json

/-! A JSON text as far as it can be read. A draft is a value in which the place where reading
stopped is marked, so whoever goes through it in order meets the first flaw of the text first. -/

/-- `stop` tells why a list or an object ends without its closing bracket, `broken` why there is
no value where one is due although the text goes on, and `absent` that it does not; `unfinished` is
a number that the text ends in. A member whose key is no literal, or that lacks its colon, has no
value. -/
inductive Draft where
  | null
  | bool (value : Bool)
  | number (value : Number)
  | string (text : Literal)
  | list (items : List Draft) (stop : Option Flaw)
  | object (members : List (Draft × Draft)) (stop : Option Flaw)
  | broken (flaw : Flaw)
  | unfinished
  | absent

namespace Draft

/-- An open bracket with what stands after it, latest first. -/
inductive Frame where
  | list (items : List Draft)
  | object (members : List (Draft × Draft))
  | member (members : List (Draft × Draft)) (key : Draft)

/-- What may come next: a value, or the end of the list just opened; a key, or the end of the
object just opened; a colon; a comma or a closing bracket. -/
inductive Due where
  | value
  | firstItem
  | firstKey
  | key
  | colon
  | continuation
deriving DecidableEq

inductive State where
  | reading (frames : List Frame) (due : Due)
  | finished (draft : Draft) (trailing : Bool)

def start : State := .reading [] .value

/-- Closes every open bracket around a draft that cannot be continued. -/
def unwind (flaw : Flaw) : List Frame → Draft → Draft
  | [], draft => draft
  | .list items :: frames, draft => unwind flaw frames (.list (draft :: items).reverse (some flaw))
  | .object members :: frames, _ => unwind flaw frames (.object members.reverse (some flaw))
  | .member members key :: frames, draft =>
      unwind flaw frames (.object ((key, draft) :: members).reverse (some flaw))

/-- Stops between values: the innermost bracket stays open. -/
def stopBetween (flaw : Flaw) : List Frame → State
  | [] => .finished (.broken flaw) false
  | .list items :: frames => .finished (unwind flaw frames (.list items.reverse (some flaw))) false
  | .object members :: frames =>
      .finished (unwind flaw frames (.object members.reverse (some flaw))) false
  | .member members key :: frames =>
      .finished (unwind flaw (.member members key :: frames) (.broken flaw)) false

/-- Stops where a value is due. -/
def stopAt (flaw : Flaw) (frames : List Frame) : State :=
  .finished (unwind flaw frames (.broken flaw)) false

/-- A key that is due at the end of the text, as a literal without anything in it. -/
def cutOff : Draft := .string ⟨.error .truncated, some .truncated⟩

/-- Places a value that has been read completely. -/
def place (draft : Draft) : List Frame → State
  | [] => .finished draft false
  | .list items :: frames => .reading (.list (draft :: items) :: frames) .continuation
  | .object members :: frames => .reading (.object members :: frames) .continuation
  | .member members key :: frames =>
      .reading (.object ((key, draft) :: members) :: frames) .continuation

/-- A token where a value is due. -/
def value (frames : List Frame) : Token → State
  | .null => place .null frames
  | .bool value => place (.bool value) frames
  | .number value => place (.number value) frames
  | .string text => place (.string text) frames
  | .listOpen => .reading (.list [] :: frames) .firstItem
  | .objectOpen => .reading (.object [] :: frames) .firstKey
  | .unfinished => .finished (unwind .truncated frames .unfinished) false
  | .flawed flaw => stopAt flaw frames
  | .listClose | .objectClose | .comma | .colon => stopAt .malformed frames

/-- A token where a key is due; only a literal can be one. -/
def key (frames : List Frame) (token : Token) : State :=
  match frames, token with
  | .object members :: frames, .string text =>
      .reading (.member members (.string text) :: frames) .colon
  | .object members :: frames, _ =>
      stopAt .malformed (.member members (.broken .malformed) :: frames)
  | frames, _ => stopBetween .malformed frames

def continuation (frames : List Frame) (token : Token) : State :=
  match frames, token with
  | .list items :: frames, .comma => .reading (.list items :: frames) .value
  | .list items :: frames, .listClose => place (.list items.reverse none) frames
  | .object members :: frames, .comma => .reading (.object members :: frames) .key
  | .object members :: frames, .objectClose => place (.object members.reverse none) frames
  | frames, _ => stopBetween .malformed frames

def step (state : State) (token : Token) : State :=
  match state with
  | .finished draft _ => .finished draft true
  | .reading frames due =>
      match due, token with
      | .firstItem, .listClose | .firstKey, .objectClose => continuation frames token
      | .value, _ | .firstItem, _ => value frames token
      | .firstKey, _ | .key, _ => key frames token
      | .colon, .colon => .reading frames .value
      | .colon, _ => stopAt .malformed frames
      | .continuation, _ => continuation frames token

/-- The draft of a text that ends where something is due. -/
def close (frames : List Frame) (due : Due) : Draft :=
  match due, frames with
  | .value, _ | .colon, _ => unwind .truncated frames .absent
  | .key, .object members :: frames =>
      unwind .truncated (.member members cutOff :: frames) .absent
  | _, .list items :: frames => unwind .truncated frames (.list items.reverse (some .truncated))
  | _, .object members :: frames =>
      unwind .truncated frames (.object members.reverse (some .truncated))
  | _, frames => unwind .truncated frames .absent

def finish : State → Draft × Bool
  | .finished draft trailing => (draft, trailing)
  | .reading frames due => (close frames due, false)

/-- The draft of a text, and whether anything but white space follows the value. -/
def ofText (text : List Char) : Draft × Bool :=
  finish ((Token.ofText text).foldl step start)

mutual

/-- The first flaw that skipping a value meets. A number is skipped character by character, so that
one without its end is malformed. -/
def flaw? : Draft → Option Flaw
  | .null | .bool _ | .number _ => none
  | .string text => text.ending
  | .list items stop => (itemsFlaw? items).or stop
  | .object members stop => (membersFlaw? members).or stop
  | .broken flaw => some flaw
  | .unfinished => some .malformed
  | .absent => some .truncated

def itemsFlaw? : List Draft → Option Flaw
  | [] => none
  | item :: rest => (flaw? item).or (itemsFlaw? rest)

def membersFlaw? : List (Draft × Draft) → Option Flaw
  | [] => none
  | (key, value) :: rest =>
      let keyFlaw := match key with
        | .string text => text.ending
        | _ => some .malformed
      (keyFlaw.or (flaw? value)).or (membersFlaw? rest)

end

end Draft

end Visa.Json
