import EventRules.Json.Value

/-!
# Field values

What a record holds under the name of a field. A record without the field, or with null there, has
no value. A value that is itself an array or an object comes with the place where it lies: such
values are equal only if they are one and the same.
-/

namespace EventRules

/-- A step into a JSON value. -/
inductive Json.Step where
  | key (name : String)
  | index (position : Nat)
  deriving DecidableEq, Repr

inductive FieldType where
  | string
  | boolean
  | integer
  | float
  | double
  deriving DecidableEq, Repr

def FieldType.name : FieldType → String
  | string => "string"
  | boolean => "boolean"
  | integer => "integer"
  | float => "float"
  | double => "double"

/-- The field holds a value of another type than the one it is read as. -/
structure CastError where
  field : String
  target : String
  deriving DecidableEq, Repr

def CastError.message (e : CastError) : String :=
  s!"Unable to cast field {e.field} to type {e.target}"

inductive FieldValue where
  | string (text : String)
  | boolean (value : Bool)
  | integer (value : Int64)
  | float (value : Binary.Double)
  | structured (place : List Json.Step) (content : Json)

namespace FieldValue

def typeName : FieldValue → String
  | string _ => "string"
  | boolean _ => "boolean"
  | integer _ => "integer"
  | float _ => "float"
  | structured .. => "structured"

/-- Two values of one record are equal. Floats compare as numbers, structured values by place. -/
def same : FieldValue → FieldValue → Bool
  | string a, string b => a == b
  | boolean a, boolean b => a == b
  | integer a, integer b => a == b
  | float a, float b => a.equal b
  | structured a _, structured b _ => a == b
  | _, _ => false

end FieldValue

end EventRules
