import Visa.Text.Quoted

namespace Visa

/-! What can go wrong, as causes; the wording for diagnostics, for the person at the terminal and
for the way out is derived from the cause. -/

inductive Fault where
  | missingField (field : String)
  | unknownToken (subject token : String)
  | invalidCount (field text : String)
  | unterminatedRecord
  | missingAnswer (field : String)
  | unreadable (reason : String)
  | unwritable (reason : String)
  | malformedSettings (reason : String)
  | rejectedSettings (problem : String)
  | invalidSetting (field value reason : String)
deriving DecidableEq, Repr

namespace Fault

inductive Category where
  | rule
  | files
  | configuration
  | input
deriving DecidableEq, Repr

def Category.name : Category → String
  | .rule => "Rule"
  | .files => "Io"
  | .configuration => "Configuration"
  | .input => "Input"

inductive Severity where
  | low
  | medium
  | high
  | critical
deriving DecidableEq, Repr

def Severity.name : Severity → String
  | .low => "Low"
  | .medium => "Medium"
  | .high => "High"
  | .critical => "Critical"

def category : Fault → Category
  | missingField _ | invalidCount _ _ | unterminatedRecord => .rule
  | unknownToken _ _ | missingAnswer _ => .input
  | unreadable _ => .files
  | unwritable _ | malformedSettings _ | rejectedSettings _ | invalidSetting _ _ _ =>
      .configuration

/-- A single bad record never stops a load, so faults of records are low. -/
def severity : Fault → Severity
  | missingField _ | invalidCount _ _ | unterminatedRecord => .low
  | unknownToken _ _ | missingAnswer _ => .medium
  | malformedSettings _ | rejectedSettings _ | invalidSetting _ _ _ => .high
  | unreadable _ | unwritable _ => .critical

/-- The text for logs and reports; text taken from the input is quoted. -/
def message : Fault → String
  | missingField field => "Missing required field: " ++ field
  | unknownToken subject token => "Unknown " ++ subject ++ " token: " ++ Text.quoted token
  | invalidCount field text => "Invalid number for " ++ field ++ ": " ++ Text.quoted text
  | unterminatedRecord => "Unterminated rule record"
  | missingAnswer field => "No value entered for " ++ field
  | unreadable reason => "IO error: " ++ reason
  | unwritable reason => "Serialization error: " ++ reason
  | malformedSettings reason => "TOML parsing error: " ++ reason
  | rejectedSettings problem => "Configuration error: " ++ problem
  | invalidSetting field value reason =>
      "Invalid value for " ++ field ++ " (" ++ Text.quoted value ++ "): " ++ reason

/-- The text for the person at the terminal; text taken from the input is shown as it is. -/
def explanation : Fault → String
  | missingField field => "A visa rule is missing the \"" ++ field ++ "\" field"
  | unknownToken subject token => "\"" ++ token ++ "\" is not a recognised " ++ subject
  | invalidCount field text => "\"" ++ text ++ "\" is not a valid day count for " ++ field
  | unterminatedRecord => "A visa rule record is missing its closing brace"
  | missingAnswer field => "Input ended before a value for " ++ field ++ " was entered"
  | unreadable reason => "Could not read or write a file: " ++ reason
  | unwritable reason => "Could not serialize output: " ++ reason
  | malformedSettings reason => "The configuration file is not valid TOML: " ++ reason
  | rejectedSettings problem => "Configuration problem: " ++ problem
  | invalidSetting field _ reason =>
      "Configuration value \"" ++ field ++ "\" is invalid: " ++ reason

/-- The command line flag for a field: each capital becomes a dash and the small letter. -/
def flagName (field : String) : String :=
  String.ofList (field.toList.flatMap fun letter =>
    if letter.isUpper then ['-', letter.toLower] else [letter])

def suggestion : Fault → String
  | missingField _ | invalidCount _ _ | unterminatedRecord =>
      "Fix the offending record in the rules file; run `visa-check lint` to list them"
  | unknownToken subject _ =>
      "Use one of the supported " ++ subject ++ " values (upper case)"
  | missingAnswer field =>
      "Enter a value for " ++ field ++ " or pass it as a --" ++ flagName field ++ " flag"
  | unreadable _ => "Make sure the file exists and is readable"
  | unwritable _ | malformedSettings _ | rejectedSettings _ | invalidSetting _ _ _ =>
      "Check the TOML configuration file and command line flags"

end Fault

end Visa
