import EventRules.Field.Datum
import EventRules.Field.Names

/-!
# Typed reads

A field is read by the name that rules use, as a value of one type. An absent field reads as
nothing whatever the type; a value of another type is a `CastError`, which names the stored field.
Numbers are not converted: an integer is no float, and a float no integer.
-/

namespace EventRules.FieldNames

open Binary

variable (names : FieldNames) (datum : Datum) (field : String)

/-- Reads a field as the values that `select` picks. -/
def read {α : Type} (type : FieldType) (select : FieldValue → Option α) :
    Except CastError (Option α) :=
  match datum.value? (names.storedName field) with
  | none => .ok none
  | some value =>
    match select value with
    | some a => .ok (some a)
    | none => .error ⟨names.storedName field, type.name⟩

def readString : Except CastError (Option String) :=
  names.read datum field .string fun
    | .string text => some text
    | _ => none

def readBoolean : Except CastError (Option Bool) :=
  names.read datum field .boolean fun
    | .boolean value => some value
    | _ => none

def readInteger : Except CastError (Option Int64) :=
  names.read datum field .integer fun
    | .integer value => some value
    | _ => none

/-- A read in single precision. -/
def readFloat : Except CastError (Option Single) :=
  names.read datum field .float fun
    | .float value => some value.toSingle
    | _ => none

def readDouble : Except CastError (Option Double) :=
  names.read datum field .double fun
    | .float value => some value
    | _ => none

def readValue : Option FieldValue :=
  datum.value? (names.storedName field)

end EventRules.FieldNames
