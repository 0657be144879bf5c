import EventRules.Condition.Tree
import EventRules.Rule.GrammarError

/-!
# Bodies of detections

A body is a mapping of fields to values, a list of such mappings, or keywords. A mapping asks for
all of its entries, a list for any of its items. Modifiers after the name of a field say how its
value is meant, and whether of a list of values all are asked for rather than any.
-/

namespace EventRules.Detection

open Condition (Item Literal)

/-- How the values of a field are meant. -/
inductive ValueKind where
  | plain
  | regex
  | cidr
  | compare (op : String)
  deriving DecidableEq, Repr

/-- A name with its modifiers, read. -/
structure FieldSpec where
  field : String
  kind : ValueKind
  /-- Whether all values of a list are asked for. -/
  matchAll : Bool
  deriving DecidableEq, Repr

def kindOf? : String → Option ValueKind
  | "re" => some .regex
  | "cidr" => some .cidr
  | "gt" => some (.compare ">")
  | "gte" => some (.compare ">=")
  | "lt" => some (.compare "<")
  | "lte" => some (.compare "<=")
  | _ => none

def scalar? : Yaml → Option Literal
  | .null => some .null
  | .bool value => some (.boolean value)
  | .number value => some (.number (.ofNumeral value))
  | .string text => some (.string text)
  | _ => none

def number? : Yaml → Option Number
  | .number value => some (.ofNumeral value)
  | .string text => Number.read? (Text.trim text.toList)
  | _ => none

/-- The literal that a value of some kind is. -/
def literal? (kind : ValueKind) (value : Yaml) : Option Literal :=
  match kind with
  | .plain => scalar? value
  | .regex => value.string?.map .regex
  | .cidr => value.string?.map .cidr
  | .compare op => (number? value).map (.compare op)

section
variable (name : String)

/-- Applies the modifiers of a field from left to right. Any but `all` may come once. -/
def applyModifiers (spec : FieldSpec) : List String → Except GrammarError FieldSpec
  | [] => .ok spec
  | modifier :: rest =>
    if modifier = "all" then applyModifiers { spec with matchAll := true } rest
    else
      match kindOf? modifier with
      | none => .error (.unsupportedModifier spec.field modifier)
      | some kind =>
        if spec.kind = .plain then applyModifiers { spec with kind := kind } rest
        else .error (.detection name (.conflictingModifiers spec.field))

def fieldSpec (key : String) : Except GrammarError FieldSpec :=
  match key.toList.splitOn '|' with
  | [] => .error (.detection name (.missingFieldName key))
  | field :: modifiers =>
    if field.isEmpty then .error (.detection name (.missingFieldName key))
    else applyModifiers name ⟨.ofList field, .plain, false⟩ (modifiers.map String.ofList)

def literal (spec : FieldSpec) (value : Yaml) : Except GrammarError Literal :=
  match literal? spec.kind value with
  | some l => .ok l
  | none => .error (.detection name (.unsuitedValue spec.field value))

/-- The test that an entry of a mapping asks for. -/
def entry (key : String) (value : Yaml) : Except GrammarError Item := do
  let spec ← fieldSpec name key
  match value with
  | .sequence items =>
    if items.isEmpty then .error (.detection name (.emptyValueList spec.field))
    else
      let literals ← items.mapM (literal name spec)
      if spec.matchAll then return .join .and (literals.map (.field spec.field))
      else return .field spec.field (.expansion literals)
  | single => return .field spec.field (← literal name spec single)

/-- The tests of the entries of a mapping, in order. -/
def entries : List (Yaml × Yaml) → Except GrammarError (List Item)
  | [] => .ok []
  | (key, value) :: rest => do
    match key.string? with
    | none => .error (.detection name (.invalidFieldName key))
    | some key =>
      let item ← entry name key value
      return item :: (← entries rest)

def mapping (fields : List (Yaml × Yaml)) : Except GrammarError Item :=
  if fields.isEmpty then .error (.detection name .emptyMapping)
  else return .join .and (← entries name fields)

def mappings (items : List Yaml) : Except GrammarError Item := do
  return .join .or (← (items.filterMap Yaml.mapping?).mapM (mapping name))

def body (value : Yaml) : Except GrammarError Item :=
  match value with
  | .mapping fields => mapping name fields
  | .sequence items =>
    if items.isEmpty then .error (.detection name .emptyList)
    else if items.all Yaml.isMapping then mappings name items
    else
      match items.mapM scalar? with
      | some values => .ok (.join .or (values.map .keyword))
      | none => .error (.detection name .nestedKeyword)
  | other =>
    match scalar? other with
    | some literal => .ok (.keyword literal)
    | none => .error (.detection name (.unsupportedBody other))

end

end EventRules.Detection
