/-!
# Names of fields

Rules name fields as they see fit; `FieldNames` gives the names under which records store them. A
name that is not listed is stored as it is.
-/

namespace EventRules

/-- Stored names by the names that rules use, one for each. -/
structure FieldNames where
  entries : List (String × String)
  deriving DecidableEq, Repr, Inhabited

namespace FieldNames

def empty : FieldNames := ⟨[]⟩

/-- Gives a name its stored name, in place of the one it has if there is one. -/
def insertEntry (name stored : String) : List (String × String) → List (String × String)
  | [] => [(name, stored)]
  | (n, s) :: rest => if n = name then (name, stored) :: rest else (n, s) :: insertEntry name stored rest

def insert (names : FieldNames) (name stored : String) : FieldNames :=
  ⟨insertEntry name stored names.entries⟩

/-- The stored names of a list; of those for one name the last counts. -/
def ofList (entries : List (String × String)) : FieldNames :=
  entries.foldl (fun names (name, stored) => names.insert name stored) empty

def size (names : FieldNames) : Nat :=
  names.entries.length

def storedName (names : FieldNames) (name : String) : String :=
  (names.entries.lookup name).getD name

end FieldNames

end EventRules
