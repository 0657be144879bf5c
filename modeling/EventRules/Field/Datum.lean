import EventRules.Field.Value

/-!
# Data

A datum is one event as rules see it: a kind of record and a value, or nothing, for every name.
-/

namespace EventRules

inductive RecordKind where
  | json
  | cloudTrail
  deriving DecidableEq, Repr

structure Datum where
  kind : RecordKind
  /-- The field that holds the time of the event. -/
  timeField : Option String
  /-- The value stored under a name. -/
  value? : String → Option FieldValue

end EventRules
