import EventRules.Compile.Rule
import EventRules.Store

/-!
# Import of many documents

Documents are compiled one by one, and a document that fails does not hold up the others. What is not
supported may be skipped; any other failure is reported or, if the policy says so, ends the import.
-/

namespace EventRules

structure ImportPolicy where
  /-- Whether rules that ask for something unsupported are skipped rather than reported. -/
  skipUnsupported : Bool
  /-- Whether the first failure ends the import. -/
  failFast : Bool
  deriving DecidableEq, Repr

namespace ImportPolicy

/-- Skips what is not supported and reports every failure. -/
def lenient : ImportPolicy := ⟨true, false⟩

/-- Takes every rule that cannot be compiled for a failure, and the first one ends the import. -/
def strict : ImportPolicy := ⟨false, true⟩

/-- Whether a document with an error is skipped. -/
def skips (p : ImportPolicy) (error : RuleError) : Bool :=
  error.isUnsupported && p.skipUnsupported

end ImportPolicy

/-- A document that made no rule. -/
structure ImportFailure where
  /-- The place of the document, counted from zero. -/
  index : Nat
  ruleId : Option String
  error : RuleError

structure ImportReport where
  /-- The rules of the documents that compiled, in order. -/
  rules : ParsedRules
  skipped : List ImportFailure
  failures : List ImportFailure

namespace ImportReport

def empty : ImportReport := ⟨.empty, [], []⟩

def imported (r : ImportReport) : Nat :=
  r.rules.size

def isClean (r : ImportReport) : Bool :=
  r.failures.isEmpty

end ImportReport

namespace Import

/-- The id of the rule that failed: the one that the error carries, or the one that the grammar
reads from the document. -/
def ruleIdOf? (parser : RuleParser) (data : RuleData) (error : RuleError) : Option String :=
  error.ruleId?.or ((parser.grammar data.text).toOption.map (·.id))

def warn (intro : String) (failure : ImportFailure) : Run RuleError Unit :=
  let id := failure.ruleId.getD "<unknown>"
  Run.log .warn s!"{intro} rule {id} (document {failure.index}): {failure.error.message}"

/-- Adds a document with an error to a report. -/
def reject (policy : ImportPolicy) (report : ImportReport) (failure : ImportFailure) :
    Run RuleError ImportReport := do
  if policy.skips failure.error then
    warn "Skipping" failure
    return { report with skipped := report.skipped ++ [failure] }
  else
    warn "Failed to import" failure
    if policy.failFast then .fail failure.error
    else return { report with failures := report.failures ++ [failure] }

variable [PatternEngine]

/-- Adds a document to a report. -/
def add (parser : RuleParser) (policy : ImportPolicy) (report : ImportReport) (index : Nat)
    (data : RuleData) : Run RuleError ImportReport := do
  match ← (parser.parse data).attempt with
  | .ok rules => return { report with rules := report.rules ++ rules }
  | .error error => reject policy report ⟨index, ruleIdOf? parser data error, error⟩

/-- Adds documents to a report, counted from `index`. -/
def addAll (parser : RuleParser) (policy : ImportPolicy) (report : ImportReport) :
    Nat → List RuleData → Run RuleError ImportReport
  | _, [] => return report
  | index, data :: rest => do
    let report ← add parser policy report index data
    addAll parser policy report (index + 1) rest

def documents (parser : RuleParser) (policy : ImportPolicy) (data : List RuleData) :
    Run RuleError ImportReport := do
  let report ← addAll parser policy .empty 0 data
  Run.log .info (s!"Imported {report.imported} rule(s), skipped {report.skipped.length}, " ++
    s!"failed {report.failures.length}")
  return report

end Import

end EventRules
