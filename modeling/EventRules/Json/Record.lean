import EventRules.Json.Value

/-!
# Records in JSON text

A record with named fields is read from an object or, field by field in order, from an array.
A field may be left out, and an object may have members that are no fields, but a field comes once.
`Record.fields?` gives the tree of each field; the readers below it read scalars strictly.
-/

namespace EventRules.Json

namespace Record

/-- Gives the field `name` its tree, if it has none yet; other names are passed over. -/
def setField? (name : String) (t : Tree) :
    List String → List (Option Tree) → Option (List (Option Tree))
  | field :: fields, value :: values =>
    if field = name then
      match value with
      | none => some (some t :: values)
      | some _ => none
    else (setField? name t fields values).map (value :: ·)
  | _, values => some values

/-- Sets the fields from the members of an object. Every key must denote text. -/
def ofMembers? (names : List String) :
    List (Option String × Tree) → List (Option Tree) → Option (List (Option Tree))
  | [], values => some values
  | (none, _) :: _, _ => none
  | (some key, t) :: rest, values => (setField? key t names values).bind (ofMembers? names rest)

/-- The fields of a record: for each name the tree of its value, or nothing. -/
def fields? (names : List String) : Tree → Option (List (Option Tree))
  | .object members => ofMembers? names members (names.map fun _ => none)
  | .array items =>
    if items.length ≤ names.length then
      some (items.map some ++ List.replicate (names.length - items.length) none)
    else none
  | _ => none

end Record

namespace Tree

def bool? : Tree → Option Bool
  | .bool value => some value
  | _ => none

def string? : Tree → Option String
  | .string text => text
  | _ => none

def optionalString? : Tree → Option (Option String)
  | .null => some none
  | .string text => text.map some
  | _ => none

def int64? : Tree → Option Int64
  | .number text =>
    match text.value? with
    | some (.integer value) => if Digits.inInt64 value then some (.ofInt value) else none
    | _ => none
  | _ => none

end Tree

end EventRules.Json
