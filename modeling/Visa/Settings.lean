import Visa.LogFormat
import Visa.Source

namespace Visa

/-- What a settings file can say. -/
structure Settings where
  rulesPath : Option String := none
  logLevel : Option String := none
  logFormat : Option String := none
deriving DecidableEq, Repr

namespace Settings

/-- A path has to be more than blanks, and it cannot hold a NUL. -/
def checkPath (field value : String) : Except Fault Unit :=
  if Text.allBlank value.toList then
    .error (.invalidSetting field value "Path cannot be empty")
  else if value.toList.contains '\x00' then
    .error (.invalidSetting field value "Path contains null bytes")
  else .ok ()

def checkFilled (field value : String) : Except Fault Unit :=
  if Text.allBlank value.toList then
    .error (.invalidSetting field value "Value cannot be empty or whitespace-only")
  else .ok ()

/-- A setting that is absent is not checked. -/
def checkPresent (check : String → Except Fault Unit) : Option String → Except Fault Unit
  | some value => check value
  | none => .ok ()

def path (settings : Settings) : String := settings.rulesPath.getD Source.defaultPath

def format (settings : Settings) : Except Fault LogFormat :=
  match settings.logFormat with
  | some text => LogFormat.read text
  | none => .ok .compact

/-- The first setting that cannot be used, in the order of the file's sections. -/
def validate (settings : Settings) : Except Fault Unit := do
  checkPresent (checkPath "rules.path") settings.rulesPath
  checkPresent (checkFilled "logging.level") settings.logLevel
  let _ ← settings.format
  return ()

end Settings

end Visa
