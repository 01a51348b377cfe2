import Visa.Rule

namespace Visa

structure Decision where
  visaRequired : Bool
  category : Category
  kind : Kind
  documents : List Document
  processing : UInt32
  warnings : List String
deriving DecidableEq, Repr

namespace Decision

def noRuleWarning : String := "No visa rule found for this route"

def ambiguityWarning : String := "Multiple rules matched, using first"

/-- The cautious answer for a trip that no rule covers. -/
def fallback : Decision where
  visaRequired := true
  category := .embassy
  kind := .none
  documents := []
  processing := 0
  warnings := [noRuleWarning]

def ofRule (rule : Rule) (warnings : List String) : Decision where
  visaRequired := rule.visaRequired
  category := rule.category
  kind := rule.kind
  documents := rule.documents
  processing := rule.processing
  warnings := warnings

/-- A decision is known to be the fallback by its warning, not by its other fields. -/
def isFallback (decision : Decision) : Bool :=
  decision.warnings.any fun warning => warning == noRuleWarning

private def yesNo : Bool → String
  | true => "true"
  | false => "false"

/-- The answer as lines for the terminal; the line of warnings appears only if there are any. -/
def lines (decision : Decision) : List String :=
  if decision.isFallback then [noRuleWarning]
  else
    ["--- VISA DECISION ---",
      "Visa Required: " ++ yesNo decision.visaRequired,
      "Visa Category: " ++ decision.category.token,
      "Visa Type: " ++ decision.kind.token,
      "Documents: [" ++ ", ".intercalate (decision.documents.map Document.token) ++ "]",
      "Processing Days: " ++ decision.processing.toNat.repr] ++
    if decision.warnings.isEmpty then []
    else ["Warnings: " ++ "; ".intercalate decision.warnings]

def render (decision : Decision) : String := "\n".intercalate decision.lines

end Decision

end Visa
