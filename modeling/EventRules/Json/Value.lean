import EventRules.Json.Tree

/-!
# JSON values

A value is what a tree denotes: the members of an object are sorted by key, and of members with one
key the last counts. Texts with more than 127 arrays and objects inside one another denote nothing.
-/

namespace EventRules

inductive Json where
  | null
  | bool (value : Bool)
  | number (value : Numeral)
  | string (text : String)
  | array (items : List Json)
  | object (members : List (String × Json))
  deriving Repr, Inhabited

namespace Json

/-- The value of a member in sorted members is set, in place of the one it has if there is one. -/
def insertMember (key : String) (value : Json) : List (String × Json) → List (String × Json)
  | [] => [(key, value)]
  | (k, v) :: rest =>
    if key < k then (key, value) :: (k, v) :: rest
    else if key = k then (key, value) :: rest
    else (k, v) :: insertMember key value rest

/-- An object with the given members, put in one after the other. -/
def ofMembers (members : List (String × Json)) : Json :=
  .object (members.foldl (fun sorted (key, value) => insertMember key value sorted) [])

def member? (key : String) (members : List (String × Json)) : Option Json :=
  members.lookup key

namespace Tree

mutual

/-- The number of arrays and objects that the deepest value lies in, itself counted if it is one. -/
def depth : Tree → Nat
  | .array items => itemsDepth items + 1
  | .object members => membersDepth members + 1
  | _ => 0

def itemsDepth : List Tree → Nat
  | [] => 0
  | t :: rest => max (depth t) (itemsDepth rest)

def membersDepth : List (Option String × Tree) → Nat
  | [] => 0
  | (_, t) :: rest => max (depth t) (membersDepth rest)

end

mutual

/-- The value that a tree denotes, whatever its depth. -/
def denote? : Tree → Option Json
  | .null => some .null
  | .bool value => some (.bool value)
  | .number text => text.value?.map .number
  | .string text => text.map .string
  | .array items => (itemsDenote? items).map .array
  | .object members => (membersDenote? members).map ofMembers

def itemsDenote? : List Tree → Option (List Json)
  | [] => some []
  | t :: rest =>
    match denote? t, itemsDenote? rest with
    | some value, some values => some (value :: values)
    | _, _ => none

def membersDenote? : List (Option String × Tree) → Option (List (String × Json))
  | [] => some []
  | (key, t) :: rest =>
    match key, denote? t, membersDenote? rest with
    | some key, some value, some members => some ((key, value) :: members)
    | _, _, _ => none

end

end Tree

/-- The most arrays and objects that a value may lie in. -/
def depthLimit : Nat := 127

def read? (text : String) : Option Json :=
  (Tree.read? text).bind fun t => if t.depth ≤ depthLimit then t.denote? else none

end Json

end EventRules
