import EventRules.Unicode.Age
import EventRules.Unicode.Category
import EventRules.Unicode.GraphemeBreak
import EventRules.Unicode.Property
import EventRules.Unicode.Script
import EventRules.Unicode.SentenceBreak
import EventRules.Unicode.WordBreak

/-!
# Sets that patterns name

The names of `\p`, which are compared loosely, and those of classes such as `[:alpha:]`.
-/

namespace EventRules.Pattern

open Unicode

/-- What loose names leave out of a name: separators, case, what is not ASCII. -/
def squeeze (name : List Char) : List Char :=
  (name.filter fun c => c != ' ' && c != '_' && c != '-' && c.toNat < 128).map Char.toLower

/-- The loose form of a name, without `is` in front of it. The name `isc` is no prefixed `c`. -/
def looseName (name : List Char) : String :=
  match name with
  | i :: s :: rest =>
    if i.toLower = 'i' ∧ s.toLower = 's' then
      if squeeze rest = ['c'] then "isc" else .ofList (squeeze rest)
    else .ofList (squeeze name)
  | _ => .ofList (squeeze name)

/-- The set with a given name in a table. -/
def lookup? (name : String) (table : List (List String × CodeSet)) : Option CodeSet :=
  (table.find? (·.1.contains name)).map (·.2)

def category? (name : String) : Option CodeSet :=
  match name with
  | "any" => some .scalars
  | "assigned" => some Category.unassigned.complement
  | "ascii" => some (.ofRange 0 0x7F)
  | _ => lookup? name Category.table

def script? (name : String) (code : Script → CodeSet) : Option CodeSet :=
  (Script.table.find? (·.names.contains name)).map code

/-- The set that a name alone stands for: a property, a category or a script. Three names are short
for a category rather than for a property that has no set. -/
def namedSet? (name : List Char) : Option CodeSet :=
  let name := looseName name
  let property := if name = "cf" ∨ name = "sc" ∨ name = "lc" then none
    else lookup? name Property.table
  property.or (category? name |>.or (script? name Script.own))

/-- The set of the code points that have a value of a property. -/
def valueSet? (name value : List Char) : Option CodeSet :=
  let value := looseName value
  match looseName name with
  | "gc" | "generalcategory" => category? value
  | "sc" | "script" => script? value Script.own
  | "scx" | "scriptextensions" => script? value Script.extended
  | "age" => Age.upTo? value
  | "gcb" | "graphemeclusterbreak" => lookup? value GraphemeBreak.table
  | "wb" | "wordbreak" => lookup? value WordBreak.table
  | "sb" | "sentencebreak" => lookup? value SentenceBreak.table
  | _ => none

/-- Text in front of the first place where `sign` stands, and behind it. -/
def cutAt? (sign : List Char) : List Char → Option (List Char × List Char)
  | [] => none
  | c :: rest =>
    if sign.isPrefixOf (c :: rest) then some ([], (c :: rest).drop sign.length)
    else (cutAt? sign rest).map fun (a, b) => (c :: a, b)

/-- The set that stands in the braces of `\p`: a name, or a name and a value. Only the letter before
the braces negates, not the sign between name and value. -/
def propertySet? (content : List Char) : Option CodeSet :=
  match (cutAt? ['!', '='] content).or ((cutAt? [':'] content).or (cutAt? ['='] content)) with
  | some (name, value) => valueSet? name value
  | none => namedSet? content

def asciiClass? (name : List Char) : Option CodeSet :=
  (ranges? (.ofList name)).map .ofRanges
where
  digits : List (Nat × Nat) := [(0x30, 0x39)]
  uppers : List (Nat × Nat) := [(0x41, 0x5A)]
  lowers : List (Nat × Nat) := [(0x61, 0x7A)]
  ranges? : String → Option (List (Nat × Nat))
    | "alnum" => some (digits ++ uppers ++ lowers)
    | "alpha" => some (uppers ++ lowers)
    | "ascii" => some [(0, 0x7F)]
    | "blank" => some [(0x9, 0x9), (0x20, 0x20)]
    | "cntrl" => some [(0, 0x1F), (0x7F, 0x7F)]
    | "digit" => some digits
    | "graph" => some [(0x21, 0x7E)]
    | "lower" => some lowers
    | "print" => some [(0x20, 0x7E)]
    | "punct" => some [(0x21, 0x2F), (0x3A, 0x40), (0x5B, 0x60), (0x7B, 0x7E)]
    | "space" => some [(0x9, 0xD), (0x20, 0x20)]
    | "upper" => some uppers
    | "word" => some (digits ++ uppers ++ [(0x5F, 0x5F)] ++ lowers)
    | "xdigit" => some (digits ++ [(0x41, 0x46), (0x61, 0x66)])
    | _ => none

end EventRules.Pattern
