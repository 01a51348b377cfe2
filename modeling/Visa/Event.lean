namespace Visa

/-! Diagnostic events: what happened, how important it is, and which part reports it. -/

inductive Level where
  | error
  | warn
  | info
  | debug
deriving DecidableEq, Repr

def Level.name : Level → String
  | .error => "ERROR"
  | .warn => "WARN"
  | .info => "INFO"
  | .debug => "DEBUG"

/-- The part of the program that reports an event. -/
inductive Origin where
  | reader
  | loader
  | evaluator
  | command
deriving DecidableEq, Repr

/-- The path by which log filters address an origin. -/
def Origin.path : Origin → String
  | .reader => "visa_rules::core::parser"
  | .loader => "visa_rules::core::loader"
  | .evaluator => "visa_rules::core::evaluator"
  | .command => "visa_check"

structure Event where
  level : Level
  origin : Origin
  message : String
deriving DecidableEq, Repr

end Visa
