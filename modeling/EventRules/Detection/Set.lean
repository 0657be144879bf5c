import EventRules.Detection.Body

/-!
# The detections of a rule

Named bodies in the order of the rule. A body is only converted when a condition refers to it.
-/

namespace EventRules

open Condition (Item)

structure DetectionSet where
  entries : List (String × Yaml)
  deriving Inhabited

namespace DetectionSet

def empty : DetectionSet := ⟨[]⟩

def names (s : DetectionSet) : List String :=
  s.entries.map (·.1)

def size (s : DetectionSet) : Nat :=
  s.entries.length

def contains (s : DetectionSet) (name : String) : Bool :=
  s.entries.any (·.1 == name)

def resolve? (s : DetectionSet) (name : String) : Option (Except GrammarError Item) :=
  (s.entries.lookup name).map (Detection.body name)

end DetectionSet

end EventRules
