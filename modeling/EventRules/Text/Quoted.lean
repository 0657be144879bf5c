import EventRules.Unicode.Category
import EventRules.Unicode.Property

/-!
# Quoted text

The form in which diagnostics show a string: between double quotes, with every character that does
not print, or that would join the one before it, written as an escape.
-/

namespace EventRules.Text

/-- A character that is shown as itself: no control, format, private use or unassigned one, no
separator but the space, and none that extends the character before it. -/
def isPrinted (c : Char) : Bool :=
  if c.toNat < 127 then 32 ≤ c.toNat
  else !(Unicode.Category.other.contains c || Unicode.Category.separator.contains c
    || Unicode.Property.graphemeExtend.contains c)

/-- The number of a character in hexadecimal, between braces. -/
def codeEscape (c : Char) : List Char :=
  "\\u\x7b".toList ++ Nat.toDigits 16 c.toNat ++ ['\x7d']

/-- A character between quotes. -/
def escape (c : Char) : List Char :=
  match c with
  | '\x00' => ['\\', '0']
  | '\t' => ['\\', 't']
  | '\r' => ['\\', 'r']
  | '\n' => ['\\', 'n']
  | '\\' => ['\\', '\\']
  | '"' => ['\\', '"']
  | c => if isPrinted c then [c] else codeEscape c

def quote (text : String) : String :=
  String.ofList ('"' :: text.toList.flatMap escape ++ ['"'])

end EventRules.Text
