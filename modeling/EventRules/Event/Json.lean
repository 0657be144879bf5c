import EventRules.Field.Datum

/-!
# JSON events

An event is any JSON value. A field is the member of the root object whose key is the whole name;
if there is none and the name has dots, its parts are followed as keys from the root. Arrays on the
way are searched item by item, and the first item with a hit counts. Null reads as absent.
-/

namespace EventRules

namespace Json

/-- A place in a value, with what lies there. -/
abbrev Found := List Step × Json

/-- A hit found one step further up. -/
def Found.under (step : Step) (f : Found) : Found :=
  (step :: f.1, f.2)

mutual

/-- The first place that the keys lead to. -/
def find? : Json → List String → Option Found
  | value, [] => some ([], value)
  | .object members, key :: rest => findMember? members key rest
  | .array items, key :: rest => findItem? items 0 (key :: rest)
  | _, _ :: _ => none

/-- A hit below the member with the given key. -/
def findMember? : List (String × Json) → String → List String → Option Found
  | [], _, _ => none
  | (k, value) :: members, key, rest =>
    if k = key then (find? value rest).map (Found.under (.key key))
    else findMember? members key rest

/-- A hit in the first item that has one; the items are counted from `position`. -/
def findItem? : List Json → Nat → List String → Option Found
  | [], _, _ => none
  | item :: items, position, keys =>
    match find? item keys with
    | some found => some (found.under (.index position))
    | none => findItem? items (position + 1) keys

end

def findKey? (root : Json) (key : String) : Option Found :=
  match root with
  | .object members => (member? key members).map fun value => ([.key key], value)
  | _ => none

def segments (name : String) : List String :=
  (name.toList.splitOn '.').map String.ofList

/-- What a field name leads to. -/
def lookup? (root : Json) (name : String) : Option Found :=
  match root.findKey? name with
  | some found => some found
  | none => if name.toList.contains '.' then root.find? (segments name) else none

/-- The field value at a place. An integer that does not fit into a signed word is a float. -/
def fieldValue? : Found → Option FieldValue
  | (_, .null) => none
  | (_, .bool value) => some (.boolean value)
  | (_, .number value) =>
    match value with
    | .integer n => if Digits.inInt64 n then some (.integer (.ofInt n)) else some (.float (.ofInt n))
    | .float x => some (.float x)
  | (_, .string text) => some (.string text)
  | (place, content) => some (.structured place content)

end Json

structure JsonEvent where
  root : Json
  timeField : Option String

namespace JsonEvent

def read? (text : String) (timeField : Option String) : Option JsonEvent :=
  (Json.read? text).map fun root => ⟨root, timeField⟩

def value? (e : JsonEvent) (name : String) : Option FieldValue :=
  (e.root.lookup? name).bind Json.fieldValue?

def datum (e : JsonEvent) : Datum where
  kind := .json
  timeField := e.timeField
  value? := e.value?

end JsonEvent

end EventRules
