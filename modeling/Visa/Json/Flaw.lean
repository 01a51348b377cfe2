namespace Visa.Json

/-- How a text can fail to be JSON: by a character that has no place there, or by ending early. -/
inductive Flaw where
  | malformed
  | truncated
deriving DecidableEq, Repr

end Visa.Json
