import Visa.Json.Literal

namespace Visa.Json

/-! Complete JSON values and their standard written form: one item or member a line, each level
two spaces further in. -/

/-- Members keep their order. -/
inductive Value where
  | null
  | bool (value : Bool)
  | number (value : Nat)
  | string (text : String)
  | list (items : List Value)
  | object (members : List (String × Value))
deriving Repr

namespace Value

def newline (level : Nat) : List Char := '\n' :: List.replicate (2 * level) ' '

mutual

def write (level : Nat) : Value → List Char
  | .null => "null".toList
  | .bool true => "true".toList
  | .bool false => "false".toList
  | .number value => Nat.toDigits 10 value
  | .string text => Literal.write text.toList
  | .list [] => ['[', ']']
  | .list (item :: rest) =>
      '[' :: newline (level + 1) ++ write (level + 1) item ++ writeItems (level + 1) rest ++
        newline level ++ [']']
  | .object [] => ['{', '}']
  | .object ((key, item) :: rest) =>
      '{' :: newline (level + 1) ++ Literal.write key.toList ++ [':', ' '] ++
        write (level + 1) item ++ writeMembers (level + 1) rest ++ newline level ++ ['}']

def writeItems (level : Nat) : List Value → List Char
  | [] => []
  | item :: rest => ',' :: newline level ++ write level item ++ writeItems level rest

def writeMembers (level : Nat) : List (String × Value) → List Char
  | [] => []
  | (key, item) :: rest =>
      ',' :: newline level ++ Literal.write key.toList ++ [':', ' '] ++ write level item ++
        writeMembers level rest

end

def render (value : Value) : List Char := write 0 value

end Value

end Visa.Json
