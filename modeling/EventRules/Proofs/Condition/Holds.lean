import EventRules.Field.Access
import EventRules.Proofs.Condition.Tree
import EventRules.Proofs.Verdict

/-!
# What a condition tree says about a datum

`Item.holds` evaluates a tree from left to right: conjunctions, disjunctions and the alternatives of a
literal stop as soon as the answer is known. It knows nothing of compilation. A node that cannot be
compiled says no, whatever the datum.
-/

namespace EventRules

/-- The verdict of a typed read: an absent field fails the test. -/
def Verdict.ofRead {α : Type} (read : Except CastError (Option α)) (accepts : α → Bool) : Verdict :=
  read.map (·.any accepts)

namespace Condition

open Binary

/-- What an operator says about the value of a field and a threshold. -/
def compares (op : String) (value threshold : Single) : Bool :=
  match op with
  | ">" => threshold.less value
  | "<" => value.less threshold
  | ">=" => threshold.lessEqual value
  | "<=" => value.lessEqual threshold
  | _ => false

variable [PatternEngine] (names : FieldNames) (datum : Datum)

namespace Literal

mutual

/-- What a datum says about a field and a literal. -/
def holds (field : String) : Literal → Verdict
  | .string text => .ofRead (names.readString datum field) (· == text)
  | .boolean value => .ofRead (names.readBoolean datum field) (· == value)
  | .number (.integer value) => .ofRead (names.readInteger datum field) (· == value)
  | .number (.float value) => .ofRead (names.readFloat datum field) value.toSingle.equal
  | .null => .ok (names.readValue datum field).isNone
  | .regex text =>
    match PatternEngine.read text with
    | .ok pattern => .ofRead (names.readString datum field) (PatternEngine.isFoundIn pattern)
    | .error _ => .ok false
  | .cidr text =>
    match AddressBlock.read? text.toList with
    | some block => .ofRead (names.readString datum field) block.containsText
    | none => .ok false
  | .compare op n => .ofRead (names.readFloat datum field) (compares op · n.toSingle)
  | .expansion alternatives => .any (verdicts field alternatives)

def verdicts (field : String) : List Literal → List Verdict
  | [] => []
  | l :: rest => l.holds field :: verdicts field rest

end

theorem verdicts_eq (field : String) (ls : List Literal) :
    verdicts names datum field ls = ls.map (holds names datum field) := by
  induction ls with
  | nil => rfl
  | cons l ls ih => rw [verdicts, ih, List.map_cons]

@[simp] theorem holds_expansion (field : String) (ls : List Literal) :
    (expansion ls).holds names datum field = .any (ls.map (holds names datum field)) := by
  rw [holds, verdicts_eq]

end Literal

namespace Item

mutual

/-- What a datum says about a tree. -/
def holds : Item → Verdict
  | and args => .all (verdicts args)
  | or args => .any (verdicts args)
  | not args =>
    match verdicts args with
    | [v] => v.negate
    | _ => .ok false
  | field name value => value.holds names datum name
  | keyword _ => .ok false
  | identifier _ => .ok false

def verdicts : List Arg → List Verdict
  | [] => []
  | .resolved t :: rest => t.holds :: verdicts rest
  | .unresolved _ :: rest => .ok false :: verdicts rest

end

end Item

/-- What a datum says about an argument. -/
def Arg.holds : Arg → Verdict
  | .resolved t => t.holds names datum
  | .unresolved _ => .ok false

namespace Item

theorem verdicts_eq (args : List Arg) :
    verdicts names datum args = args.map (Arg.holds names datum) := by
  induction args with
  | nil => rfl
  | cons a args ih => cases a <;> simp [verdicts, ih, Arg.holds]

@[simp] theorem holds_and (args : List Arg) :
    (Item.and args).holds names datum = .all (args.map (Arg.holds names datum)) := by
  rw [holds, verdicts_eq]

@[simp] theorem holds_or (args : List Arg) :
    (Item.or args).holds names datum = .any (args.map (Arg.holds names datum)) := by
  rw [holds, verdicts_eq]

@[simp] theorem holds_not (a : Arg) :
    (Item.not [a]).holds names datum = Verdict.negate (a.holds names datum) := by
  rw [holds, verdicts_eq]; rfl

@[simp] theorem holds_field (name : String) (value : Literal) :
    (field name value).holds names datum = value.holds names datum name := rfl

/-- A disjunction of one item is the item. -/
theorem holds_join_or (items : List Item) :
    (join .or items).holds names datum = .any (items.map (holds names datum)) := by
  match items with
  | [] => rfl
  | [t] => simp [join]
  | t :: u :: items => simp [join, Arg.holds, Function.comp_def]

/-- A conjunction of one item is the item. -/
theorem holds_join_and (items : List Item) :
    (join .and items).holds names datum = .all (items.map (holds names datum)) := by
  match items with
  | [] => rfl
  | [t] => simp [join]
  | t :: u :: items => simp [join, Arg.holds, Function.comp_def]

end Item

end Condition

end EventRules
