import EventRules.Condition.Tree
import EventRules.Field.Access
import EventRules.Network.Block
import EventRules.PatternEngine
import EventRules.Predicate
import EventRules.Rule.Error

/-!
# Tests of one field

A test reads its field under its stored name, with the type that its literal asks for. An absent
field fails every test but the one for null. Patterns and blocks are read when the test is made.
-/

namespace EventRules.Compile

open Binary Condition

/-- A test of the value of a field, if there is one. -/
def test {α : Type} (read : Datum → Except CastError (Option α)) (accepts : α → Bool) :
    Predicate :=
  .ofTest fun datum => (read datum).map fun value => value.any accepts

/-- What an operator says about a value and a threshold. -/
def comparison? : String → Option (Single → Single → Bool)
  | ">" => some fun value threshold => threshold.less value
  | "<" => some fun value threshold => value.less threshold
  | ">=" => some fun value threshold => threshold.lessEqual value
  | "<=" => some fun value threshold => value.lessEqual threshold
  | _ => none

variable [PatternEngine] (names : FieldNames) (field : String)

/-- The test of a field against a literal. -/
def leaf : Literal → Except LeafFault Predicate
  | .string text => .ok (test (names.readString · field) (· == text))
  | .boolean value => .ok (test (names.readBoolean · field) (· == value))
  | .number (.integer value) => .ok (test (names.readInteger · field) (· == value))
  | .number (.float value) => .ok (test (names.readFloat · field) value.toSingle.equal)
  | .null => .ok (.ofTest fun datum => .ok (names.readValue datum field).isNone)
  | .regex text =>
    match PatternEngine.read text with
    | .ok pattern => .ok (test (names.readString · field) (PatternEngine.isFoundIn pattern))
    | .error reason => .error (.invalidPattern text field reason)
  | .cidr text =>
    match AddressBlock.read? text.toList with
    | some block => .ok (test (names.readString · field) block.containsText)
    | none => .error (.invalidBlock text)
  | .compare op number =>
    match comparison? op with
    | some compare => .ok (test (names.readFloat · field) (compare · number.toSingle))
    | none => .error (.unknownOperator op field)
  | .expansion _ => .error (.expansion field)

end EventRules.Compile
