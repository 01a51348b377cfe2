import Visa.Run

namespace Visa.Terminal

/-! The program at a terminal. Everything is decided by `Visa.Run.run`; here files, variables and
answers are fetched for it, and what it returns is written out. -/

/-- The reason that a failed read is reported with. -/
def reason : IO.Error → String
  | .noFileOrDirectory _ _ _ => "No such file or directory (os error 2)"
  | .inappropriateType _ _ _ => "Is a directory (os error 21)"
  | .permissionDenied _ _ _ => "Permission denied (os error 13)"
  | error => toString error

def fetchFile (path : String) : IO (Except String (List UInt8)) := do
  try
    return .ok (← IO.FS.readBinFile path).toList
  catch error =>
    return .error (reason error)

def fetchVariables (names : List String) : IO (List (String × String)) :=
  names.filterMapM fun name => do
    return (← IO.getEnv name).map fun value => (name, value)

/-- The bytes of the next line, with its newline if it has one. -/
partial def fetchLine (input : IO.FS.Stream) (heard : ByteArray) : IO ByteArray := do
  let next ← input.read 1
  if next.isEmpty then return heard
  else if next.toList == [Interview.newline] then return heard ++ next
  else fetchLine input (heard ++ next)

/-- Puts questions until one has no answer, and returns everything that was answered. -/
def converse (input output : IO.FS.Stream) (heard : List UInt8) :
    List Question → IO (List UInt8)
  | [] => return heard
  | question :: rest => do
      output.putStr question.prompt
      output.flush
      let line := (← fetchLine input ByteArray.empty).toList
      match line, Interview.decodeLine line with
      | [], _ => return heard
      | line, .error _ => return heard ++ line
      | line, .ok _ => converse input output (heard ++ line) rest

/-- A world of what has been fetched; files that have not been are missing. -/
def world (files : List (String × Except String (List UInt8)))
    (bindings : List (String × String)) (input : List UInt8) : World where
  file path := (files.lookup path).getD (.error "No such file or directory (os error 2)")
  environment name := bindings.lookup name
  input := input

def writeLine (output : IO.FS.Stream) : Run.Line → IO Unit
  | .plain text => output.putStrLn text
  | .log .compact level text => output.putStrLn (level.name ++ " " ++ text)
  | .log .json level text =>
      output.putStrLn (String.ofList (['{'] ++ "\"level\":".toList ++
        Json.Literal.write level.name.toList ++ ",\"message\":".toList ++
        Json.Literal.write text.toList ++ ['}']))

/-- The files that a run can ask for: the settings first, then the rules that they name. -/
def fetchFiles (line : CommandLine) (bindings : List (String × String)) (named : Option String)
    (config : Except String (List UInt8)) : IO (List (String × Except String (List UInt8))) := do
  let files := named.toList.map fun path => (path, config)
  match Run.rulesFile? line (world files bindings []) with
  | none => return files
  | some path => return files ++ [(path, ← fetchFile path)]

def carryOut (line : CommandLine) : IO UInt32 := do
  let config ← match line.config with
    | some path => fetchFile path
    | none => pure (.ok [])
  let text := match config with
    | .ok bytes => (String.fromUTF8? bytes.toByteArray).getD ""
    | .error _ => ""
  let bindings ← fetchVariables (Run.filterVariable :: Settings.names text.toList)
  let output ← IO.getStdout
  let errors ← IO.getStderr
  let first := world (line.config.toList.map fun path => (path, config)) bindings []
  let answers ← converse (← IO.getStdin) output [] (Run.questions line first)
  let files ← fetchFiles line bindings line.config config
  let (outcome, logger) := Run.run line (world files bindings answers)
  for written in Run.errorLines outcome logger do
    writeLine errors written
  errors.flush
  output.putStr outcome.output
  output.flush
  return UInt32.ofNat outcome.status

def usage : String :=
  "Checks visa requirements against a configured rule table\n\n" ++
  "Usage: visa-check [OPTIONS] <COMMAND>\n\n" ++
  "Commands:\n" ++
  "  check  Evaluate one trip; missing attributes are prompted for\n" ++
  "  lint   Report records in the rules file that fail to parse\n" ++
  "  list   Print the loaded rules in normalized form\n" ++
  "  help   Print this message\n\n" ++
  "Options:\n" ++
  "  -r, --rules <RULES>            Rules file\n" ++
  "  -c, --config <CONFIG>          Path to a TOML configuration file\n" ++
  "      --log-format <LOG_FORMAT>  Log format (compact or json)\n" ++
  "  -v, --verbose                  Enable verbose output\n" ++
  "  -h, --help                     Print help\n\n" ++
  "Options of check:\n" ++
  "      --destination <DESTINATION>\n" ++
  "      --passport <PASSPORT>\n" ++
  "      --purpose <PURPOSE>\n" ++
  "      --stay-days <STAY_DAYS>\n" ++
  "      --json                     Print the decision as JSON\n"

/-- Help that was asked for is output; any other refusal is an error. -/
def refuse (refusal : CommandLine.Refusal) : IO UInt32 := do
  if refusal = .helpAsked then
    (← IO.getStdout).putStr usage
    return 0
  else
    (← IO.getStderr).putStr usage
    return 2

end Visa.Terminal

def main (arguments : List String) : IO UInt32 :=
  match Visa.CommandLine.parse arguments with
  | .error refusal => Visa.Terminal.refuse refusal
  | .ok line => Visa.Terminal.carryOut line
