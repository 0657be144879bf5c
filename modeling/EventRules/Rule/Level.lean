import EventRules.Rule.GrammarError

/-!
# Severity levels
-/

namespace EventRules

inductive Severity where
  | informational
  | low
  | medium
  | high
  | critical
  deriving DecidableEq, Repr, Inhabited

namespace Severity

/-- The level of a rule that names none. -/
def default : Severity := informational

def name : Severity → String
  | informational => "informational"
  | low => "low"
  | medium => "medium"
  | high => "high"
  | critical => "critical"

/-- The level of a name, in upper or lower case. -/
def read (text : String) : Except GrammarError Severity :=
  match text.map Char.toLower with
  | "informational" => .ok informational
  | "low" => .ok low
  | "medium" => .ok medium
  | "high" => .ok high
  | "critical" => .ok critical
  | other => .error (.document (.unknownLevel other))

end Severity

end EventRules
