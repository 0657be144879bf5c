import EventRules.Pattern.Flag
import EventRules.Pattern.Spacing
import EventRules.Text.Alphanumeric

/-!
# Heads of groups

What follows an opening parenthesis: nothing, a name, or flags.
-/

namespace EventRules.Pattern

inductive GroupHead where
  /-- A group whose match is kept, under a name if it has one. -/
  | capture (name : Option (List Char))
  /-- A group with flags of its own. -/
  | plain (changes : FlagChanges)
  /-- Flags up to the end of the group around them; there is no group. -/
  | directive (changes : FlagChanges)
  deriving DecidableEq, Repr

def startsName (c : Char) : Bool :=
  c == '_' || Unicode.Property.alphabetic.contains c

def continuesName (c : Char) : Bool :=
  c == '_' || c == '.' || c == '[' || c == ']' || Text.isAlphanumeric c

/-- The name of a group, and the text after the sign that closes it. -/
def readName? (text : List Char) : Option (List Char × List Char) :=
  match Text.cut? '>' text with
  | some (c :: name, rest) =>
    if startsName c && name.all continuesName then some (c :: name, rest) else none
  | _ => none

/-- The head of a group whose parenthesis is read, and the text after the head. Groups that look
around their place are not supported. -/
def readHead? (spaced : Bool) (text : List Char) : Option (GroupHead × List Char) :=
  match skip spaced text with
  | '?' :: '=' :: _ | '?' :: '!' :: _ | '?' :: '<' :: '=' :: _ | '?' :: '<' :: '!' :: _ => none
  | '?' :: 'P' :: '<' :: rest | '?' :: '<' :: rest =>
    (readName? rest).map fun (name, rest) => (.capture (some name), rest)
  | '?' :: rest =>
    match readChanges [] true false rest with
    | some ([], ')', _) => none
    | some (changes, ')', rest) => some (.directive changes, rest)
    | some (changes, _, rest) => some (.plain changes, rest)
    | none => none
  | rest => some (.capture none, rest)

end EventRules.Pattern
