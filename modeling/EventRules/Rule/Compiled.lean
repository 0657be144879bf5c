import EventRules.Predicate

/-!
# Compiled rules

A rule ready to run: an id and two predicates. The evaluation condition comes from the caller and
says cheaply whether an event is worth a closer look; the rule condition is what the rule detects.
-/

namespace EventRules

/-- Where findings of a rule go. -/
structure Routing where
  monitorId : Option String
  detectorName : Option String
  findingsIndex : Option String
  deriving DecidableEq, Repr, Inhabited

namespace Routing

def none : Routing := ⟨.none, .none, .none⟩

/-- The parts of a caller's data that say where findings go. -/
def ofMetadata (metadata : List (String × String)) : Routing :=
  ⟨metadata.lookup "monitorId", metadata.lookup "detectorName", metadata.lookup "findingsIndex"⟩

end Routing

/-- What describes a rule: its title, and its level, service and tags as texts. -/
structure Description where
  title : String
  tags : List String
  deriving DecidableEq, Repr, Inhabited

/-- A rule that looks at each event by itself. -/
structure StatelessRule where
  id : String
  evaluationCondition : Predicate
  ruleCondition : Predicate
  routing : Routing
  description : Description

/-- A rule that looks at events together. No document makes one yet. -/
structure StatefulRule where
  id : String
  evaluationCondition : Predicate
  ruleCondition : Predicate

structure ParsedRules where
  stateless : List StatelessRule
  stateful : List StatefulRule

namespace ParsedRules

def empty : ParsedRules := ⟨[], []⟩

def isEmpty (r : ParsedRules) : Bool :=
  r.stateless.isEmpty && r.stateful.isEmpty

def size (r : ParsedRules) : Nat :=
  r.stateless.length + r.stateful.length

instance : Append ParsedRules :=
  ⟨fun a b => ⟨a.stateless ++ b.stateless, a.stateful ++ b.stateful⟩⟩

end ParsedRules

/-- What a caller hands over for one rule. The metadata has each key once. -/
structure RuleData where
  text : String
  evaluationCondition : Predicate
  metadata : List (String × String)

end EventRules
