import EventRules.Number

/-!
# Condition trees

What a condition comes to when its names are replaced by the detections that they stand for: tests
of fields, put together. A name that stands for nothing is kept, so that it can be reported.
-/

namespace EventRules.Condition

/-- What a field is compared with. -/
inductive Literal where
  | string (text : String)
  | boolean (value : Bool)
  | number (value : Number)
  | null
  | regex (pattern : String)
  | cidr (block : String)
  /-- An operator as written, and what stands on its right. -/
  | compare (op : String) (number : Number)
  /-- Any of some literals. -/
  | expansion (alternatives : List Literal)
  deriving Repr

def Literal.kind : Literal → String
  | string _ => "string"
  | boolean _ => "boolean"
  | number _ => "number"
  | null => "null"
  | regex _ => "regex"
  | cidr _ => "cidr"
  | compare .. => "compare"
  | expansion _ => "expansion"

mutual

inductive Item where
  | and (args : List Arg)
  | or (args : List Arg)
  | not (args : List Arg)
  | field (name : String) (value : Literal)
  /-- A search for a value in all fields. -/
  | keyword (value : Literal)
  | identifier (name : String)

/-- A child of a branch: an item, or a name that stands for none. -/
inductive Arg where
  | resolved (item : Item)
  | unresolved (name : String)

end

namespace Item

def kind : Item → String
  | and _ => "AND"
  | or _ => "OR"
  | not _ => "NOT"
  | field .. => "FieldEqualsValue"
  | keyword _ => "Value"
  | identifier _ => "Identifier"

/-- Items joined by `wrap`; one alone is itself. -/
def join (wrap : List Arg → Item) : List Item → Item
  | [item] => item
  | items => wrap (items.map .resolved)

end Item

end EventRules.Condition
