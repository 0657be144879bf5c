import EventRules.Rule.Compiled

/-!
# Rule stores

The rules that are in force, stateless and stateful ones. An update replaces one of the two lists as
a whole; a list that was read before stays as it was.
-/

namespace EventRules

structure Store where
  stateless : List StatelessRule
  stateful : List StatefulRule

namespace Store

def empty : Store := ⟨[], []⟩

variable {ε : Type}

def updateStateless (s : Store) (rules : List StatelessRule) : Run ε Store := do
  Run.log .debug s!"Publishing {rules.length} stateless rule(s)"
  return { s with stateless := rules }

def updateStateful (s : Store) (rules : List StatefulRule) : Run ε Store := do
  Run.log .debug s!"Publishing {rules.length} stateful rule(s)"
  return { s with stateful := rules }

/-- Replaces both lists. -/
def publish (s : Store) (rules : ParsedRules) : Run ε Store := do
  let s ← s.updateStateless rules.stateless
  s.updateStateful rules.stateful

end Store

end EventRules
