import EventRules.Numeral

/-!
# YAML values

The value of a document: scalars have types, aliases are followed, and the entries of a mapping are
in the order of the document. A value may have a tag of its own.
-/

namespace EventRules

inductive Yaml where
  | null
  | bool (value : Bool)
  | number (value : Numeral)
  | string (text : String)
  | sequence (items : List Yaml)
  | mapping (entries : List (Yaml × Yaml))
  | tagged (tag : String) (value : Yaml)
  deriving Repr, Inhabited

namespace Yaml

mutual

/-- Whether two values are equal; the order of the entries of a mapping does not count. -/
def same : Yaml → Yaml → Bool
  | null, null => true
  | bool a, bool b => a == b
  | number a, number b => a.same b
  | string a, string b => a == b
  | sequence a, sequence b => sameItems a b
  | mapping a, mapping b => a.length == b.length && sameEntries a b
  | tagged s a, tagged t b => s == t && same a b
  | _, _ => false

def sameItems : List Yaml → List Yaml → Bool
  | [], [] => true
  | a :: as, b :: bs => same a b && sameItems as bs
  | _, _ => false

/-- Every entry of the first mapping is one of the second. -/
def sameEntries : List (Yaml × Yaml) → List (Yaml × Yaml) → Bool
  | [], _ => true
  | (key, value) :: rest, entries =>
    entries.any (fun entry => same key entry.1 && same value entry.2) && sameEntries rest entries

end

/-- The value below its tags. -/
def untagged : Yaml → Yaml
  | tagged _ value => untagged value
  | value => value

def string? (v : Yaml) : Option String :=
  match v.untagged with
  | string text => some text
  | _ => none

/-- The entries of a mapping, tagged or not. -/
def mapping? (v : Yaml) : Option (List (Yaml × Yaml)) :=
  match v.untagged with
  | mapping entries => some entries
  | _ => none

def isMapping (v : Yaml) : Bool :=
  v.mapping?.isSome

/-- The value of the first entry whose key is a string without a tag, namely `key`. -/
def lookup? (key : String) : List (Yaml × Yaml) → Option Yaml
  | [] => none
  | (string k, value) :: rest => if k = key then some value else lookup? key rest
  | _ :: rest => lookup? key rest

/-- The value of an entry of a mapping, tagged or not. -/
def get? (v : Yaml) (key : String) : Option Yaml :=
  v.mapping?.bind (lookup? key)

end Yaml

end EventRules
