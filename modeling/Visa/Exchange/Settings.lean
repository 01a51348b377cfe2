import Visa.Json.Decoding
import Visa.Json.Value
import Visa.Settings

namespace Visa

/-! Settings and log formats in their JSON form. -/

open Json (Value Decoder Draft Slot Shape Failure)

namespace LogFormat

def toJson (format : LogFormat) : Value := .string format.name

def ofName (name : String) : Except Failure LogFormat :=
  if name = "compact" then .ok compact
  else if name = "json" then .ok json
  else .error (.mismatch ("unknown variant `" ++ name ++ "`, expected `compact` or `json`"))

def ofKey : Decoder LogFormat
  | .string text => Decoder.literal text >>= ofName
  | _ => .error (.flawed .malformed)

def nothing : Decoder Unit
  | .null => .ok ()
  | draft => .error (Decoder.unexpected "unit" draft)

/-- The name, or an object whose only member has the name as its key and holds null. -/
def decoder : Decoder LogFormat
  | .string text => Decoder.literal text >>= ofName
  | .object [] stop => .error (.flawed (stop.getD .malformed))
  | .object ((key, value) :: rest) stop => do
      let format ← ofKey key
      nothing value
      if rest.isEmpty then
        Decoder.ended stop
        return format
      else .error (.flawed .malformed)
  | .absent => .error (.flawed .truncated)
  | _ => .error (.flawed .malformed)

end LogFormat

namespace Settings

def optional : Option String → Value
  | some text => .string text
  | none => .null

def toJson (settings : Settings) : Value :=
  .object
    [("rules", .object [("path", optional settings.rulesPath)]),
     ("logging", .object
       [("level", optional settings.logLevel), ("format", optional settings.logFormat)])]

/-- The section on rules under construction. -/
structure RulesPart where
  path : Option (Option String) := none

def RulesPart.shape : Shape RulesPart (Option String) where
  name := "struct RulesConfig"
  slots :=
    [⟨"path", false, fun part => part.path.isSome, fun _ draft =>
      (Decoder.nullable Decoder.string draft).map fun value => ⟨some value⟩⟩]
  empty := {}
  complete part := .ok part.path.join

/-- The section on logging under construction. -/
structure LoggingPart where
  level : Option (Option String) := none
  format : Option (Option String) := none

def LoggingPart.shape : Shape LoggingPart (Option String × Option String) where
  name := "struct LoggingConfig"
  slots :=
    [⟨"level", false, fun part => part.level.isSome, fun part draft =>
      (Decoder.nullable Decoder.string draft).map fun value => { part with level := some value }⟩,
     ⟨"format", false, fun part => part.format.isSome, fun part draft =>
      (Decoder.nullable Decoder.string draft).map fun value => { part with format := some value }⟩]
  empty := {}
  complete part := .ok (part.level.join, part.format.join)

/-- Settings under construction. -/
structure Parts where
  rules : Option (Option String) := none
  logging : Option (Option String × Option String) := none

/-- Both sections may be left out, and within a section every entry. -/
def Parts.shape : Shape Parts Settings where
  name := "struct AppConfig"
  slots :=
    [⟨"rules", true, fun parts => parts.rules.isSome, fun parts draft =>
      (RulesPart.shape.decode draft).map fun value => { parts with rules := some value }⟩,
     ⟨"logging", true, fun parts => parts.logging.isSome, fun parts draft =>
      (LoggingPart.shape.decode draft).map fun value => { parts with logging := some value }⟩]
  empty := {}
  complete parts :=
    let logging := parts.logging.getD (none, none)
    .ok { rulesPath := parts.rules.join, logLevel := logging.1, logFormat := logging.2 }

def decoder : Decoder Settings := Parts.shape.decode

end Settings

end Visa
