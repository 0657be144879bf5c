import EventRules.Compile.Leaf

/-!
# Compilation of condition trees

A branch is compiled only if all of its children are: a child that stands for nothing is an error
of the branch, found after the errors inside its other children. Literals that are alternatives are
tests of the same field, any of which is enough.
-/

namespace EventRules.Compile

open Condition

variable [PatternEngine] (names : FieldNames)

/-- The predicates of a branch with `declared` children; there is at least one. -/
def checkArgs (branch : Branch) (declared : Nat) (predicates : List Predicate) :
    Except RuleError (List Predicate) :=
  if predicates.length ≠ declared then
    .error (.ofFault (.arity branch declared predicates.length))
  else if predicates.isEmpty then .error (.ofFault (.noPredicates branch))
  else .ok predicates

mutual

/-- The test of a field against a literal or any of its alternatives. -/
def literal (field : String) : Literal → Except RuleError Predicate
  | .expansion alternatives => do
    let predicates ← literals field alternatives
    return .any (← checkArgs .or alternatives.length predicates)
  | value => (leaf names field value).mapError fun fault => .ofFault (.leaf fault)

def literals (field : String) : List Literal → Except RuleError (List Predicate)
  | [] => .ok []
  | value :: rest => do
    let predicate ← literal field value
    return predicate :: (← literals field rest)

end

mutual

def item : Item → Except RuleError Predicate
  | .and children => do
    return .all (← checkArgs .and children.length (← args children))
  | .or children => do
    return .any (← checkArgs .or children.length (← args children))
  | .not children => do
    match ← checkArgs .not children.length (← args children) with
    | [predicate] => return .negate predicate
    | predicates => .error (.ofFault (.arity .not 1 predicates.length))
  | .field name value => literal names name value
  | .keyword _ => .error (.unsupported .keyword)
  | .identifier name => .error (.ofFault (.reference name))

/-- The predicates of the children that stand for something. -/
def args : List Arg → Except RuleError (List Predicate)
  | [] => .ok []
  | .resolved child :: rest => do
    let predicate ← item child
    return predicate :: (← args rest)
  | .unresolved _ :: rest => args rest

end

/-- The predicate of the conditions of a rule: any of them; none never matches. -/
def items (conditions : List Item) : Run RuleError Predicate := do
  let predicates ← .ofExcept (conditions.mapM (item names))
  Run.log .debug s!"Compiled {predicates.length} condition block(s)"
  match predicates with
  | [] => return .constant false
  | [predicate] => return predicate
  | _ => return .any predicates

end EventRules.Compile
