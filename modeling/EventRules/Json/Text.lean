import EventRules.Decimal.Layout

/-!
# Writing JSON text

Strings and integers in compact form: a string escapes quotes, backslashes and control characters
and nothing else.
-/

namespace EventRules.Json

/-- A character between quotes. -/
def escape (c : Char) : List Char :=
  match c with
  | '"' => ['\\', '"']
  | '\\' => ['\\', '\\']
  | '\x08' => ['\\', 'b']
  | '\x0c' => ['\\', 'f']
  | '\n' => ['\\', 'n']
  | '\r' => ['\\', 'r']
  | '\t' => ['\\', 't']
  | c =>
    if c.toNat < 0x10 then "\\u000".toList ++ Nat.toDigits 16 c.toNat
    else if c.toNat < 0x20 then "\\u00".toList ++ Nat.toDigits 16 c.toNat
    else [c]

def renderString (text : List Char) : List Char :=
  '"' :: text.flatMap escape ++ ['"']

def renderInt (value : Int) : List Char :=
  Decimal.Layout.integer value

/-- An object, from its keys and the texts of their values. -/
def renderMembers : List (List Char × List Char) → List Char
  | [] => []
  | [(key, value)] => renderString key ++ ':' :: value
  | (key, value) :: rest => renderString key ++ ':' :: value ++ ',' :: renderMembers rest

def renderObject (members : List (List Char × List Char)) : List Char :=
  '\x7b' :: renderMembers members ++ ['\x7d']

end EventRules.Json
