import EventRules.Rule.Compiled

/-!
# Evaluation of events

A batch of events is run against a list of rules. For each event all evaluation conditions are
tried first, in the order of the rules, and then the rule conditions of the rules that passed. An
event that some rule detects makes a match; the first error ends the batch.
-/

namespace EventRules

/-- An event of a batch with the rules that detect it. -/
structure Match where
  /-- The place of the event in the batch, counted from zero. -/
  position : Nat
  datum : Datum
  stateless : List StatelessRule
  stateful : List StatefulRule

namespace Match

def ruleIds (m : Match) : List String :=
  m.stateless.map (·.id)

end Match

namespace Evaluate

/-- The rules that a condition of theirs keeps for an event, tried one after the other. -/
def keep (condition : StatelessRule → Predicate) (datum : Datum) :
    List StatelessRule → Run CastError (List StatelessRule)
  | [] => return []
  | rule :: rest => do
    let kept ← condition rule datum
    let others ← keep condition datum rest
    return if kept then rule :: others else others

def matching (rules : List StatelessRule) (datum : Datum) :
    Run CastError (List StatelessRule) := do
  let candidates ← keep (·.evaluationCondition) datum rules
  keep (·.ruleCondition) datum candidates

/-- The matches of the events from some place of the batch on. -/
def batchFrom (rules : List StatelessRule) : Nat → List Datum → Run CastError (List Match)
  | _, [] => return []
  | position, datum :: rest => do
    let matched ← matching rules datum
    Run.log .trace s!"Datum matched {matched.length} of {rules.length} rule(s)"
    let others ← batchFrom rules (position + 1) rest
    return if matched.isEmpty then others else ⟨position, datum, matched, []⟩ :: others

/-- The matches of a batch. Without rules nothing is tried. -/
def batch (rules : List StatelessRule) (data : List Datum) : Run CastError (List Match) :=
  if rules.isEmpty then return [] else batchFrom rules 0 data

end Evaluate

/-- Both conditions of a rule tried on an event, whatever the other says. -/
structure Trial where
  candidate : Except CastError Bool
  detected : Except CastError Bool

def StatelessRule.tryOn (rule : StatelessRule) (datum : Datum) : Trial :=
  ⟨(rule.evaluationCondition datum).outcome, (rule.ruleCondition datum).outcome⟩

def StatefulRule.tryOn (rule : StatefulRule) (datum : Datum) : Trial :=
  ⟨(rule.evaluationCondition datum).outcome, (rule.ruleCondition datum).outcome⟩

end EventRules
