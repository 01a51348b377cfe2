import Visa.Fault
import Visa.Text.Blank

namespace Visa

/-- The two layouts of log lines; lines are compact unless asked otherwise. -/
inductive LogFormat where
  | compact
  | json
deriving DecidableEq, Repr

namespace LogFormat

def name : LogFormat → String
  | compact => "compact"
  | json => "json"

/-- A format name as it is compared: without blanks around it and without capitals. -/
def normalized (text : String) : String :=
  String.ofList ((Text.trim text.toList).map Char.toLower)

def read (text : String) : Except Fault LogFormat :=
  let written := normalized text
  if written = "compact" then .ok compact
  else if written = "json" then .ok json
  else .error (.invalidSetting "logging.format" written "Supported formats: compact, json")

end LogFormat

end Visa
