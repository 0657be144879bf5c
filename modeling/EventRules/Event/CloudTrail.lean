import EventRules.Field.Datum
import EventRules.Json.Record
import EventRules.Json.Text

/-!
# CloudTrail events

A record of an audit log: the name of the event, which may be missing, and its time. Its JSON text
is an object with the members `eventName` and `time`; both may be left out when it is read.
-/

namespace EventRules

structure CloudTrailEvent where
  eventName : Option String
  time : Int64
  deriving DecidableEq, Repr

namespace CloudTrailEvent

/-- The event without a name at time zero. -/
def default : CloudTrailEvent := ⟨none, 0⟩

def timeField : String := "time"

def value? (e : CloudTrailEvent) (name : String) : Option FieldValue :=
  match name with
  | "eventName" => e.eventName.map .string
  | "time" => some (.integer e.time)
  | _ => none

def datum (e : CloudTrailEvent) : Datum where
  kind := .cloudTrail
  timeField := some timeField
  value? := e.value?

def ofFields? : List (Option Json.Tree) → Option CloudTrailEvent
  | [name, time] =>
    match name.elim (some none) Json.Tree.optionalString?, time.elim (some 0) Json.Tree.int64? with
    | some eventName, some time => some ⟨eventName, time⟩
    | _, _ => none
  | _ => none

def read? (text : String) : Option CloudTrailEvent :=
  ((Json.Tree.read? text).bind (Json.Record.fields? ["eventName", "time"])).bind ofFields?

def render (e : CloudTrailEvent) : String :=
  .ofList (Json.renderObject [
    ("eventName".toList, e.eventName.elim "null".toList fun name => Json.renderString name.toList),
    ("time".toList, Json.renderInt e.time.toInt)])

end CloudTrailEvent

end EventRules
