import EventRules.Condition.Glob
import EventRules.Detection.Set

/-!
# Resolution of conditions

The names in an expression are replaced by the condition trees of their detections. A quantifier
stands for the detections that it selects, in the order of the rule. A name of no detection is kept.
-/

namespace EventRules.Condition

/-- The names that a selector selects: for `them` all that do not start with an underscore. -/
def Selector.select (selector : Selector) (names : List String) : List String :=
  match selector with
  | .them => names.filter (!·.startsWith "_")
  | .pattern glob => names.filter (Glob.accepts glob)

/-- An argument as an item by itself. -/
def Arg.item : Arg → Item
  | .resolved item => item
  | .unresolved name => .identifier name

variable (detections : DetectionSet)

def resolveName (name : String) : Except GrammarError Arg :=
  match detections.resolve? name with
  | some item => item.map .resolved
  | none => .ok (.unresolved name)

/-- The detections that a quantifier selects, joined. -/
def quantify (selector : Selector) (wrap : List Arg → Item) : Except GrammarError Item :=
  match selector.select detections.names with
  | [] => .error (.condition (.emptySelection selector))
  | names => do
    let args ← names.mapM (resolveName detections)
    return .join wrap (args.map Arg.item)

mutual

/-- What an expression stands for; a name of no detection stays a name. -/
def resolveArg : Expr → Except GrammarError Arg
  | .identifier name => resolveName detections name
  | .and operands => return .resolved (.and (← resolveArgs operands))
  | .or operands => return .resolved (.or (← resolveArgs operands))
  | .not operand => return .resolved (.not [← resolveArg operand])
  | .oneOf selector => return .resolved (← quantify detections selector .or)
  | .allOf selector => return .resolved (← quantify detections selector .and)

def resolveArgs : List Expr → Except GrammarError (List Arg)
  | [] => .ok []
  | e :: rest => do
    let arg ← resolveArg e
    return arg :: (← resolveArgs rest)

end

def resolve (e : Expr) : Except GrammarError Item :=
  (resolveArg detections e).map Arg.item

def parse (text : String) : Except GrammarError Expr :=
  match tokenize text.toList with
  | .error fault => .error (.condition (.scan fault))
  | .ok [] => .error (.condition .empty)
  | .ok tokens => (parseTokens tokens).mapError fun fault => .condition (.parse fault)

structure Block where
  item : Item
  aggregation : Option Aggregation

def parseAggregation (clause : String) : Except GrammarError Aggregation :=
  (Aggregation.read clause).mapError fun fault =>
    .aggregation (.clause fault (.ofList (Text.trim clause.toList)))

/-- The condition tree of a condition, and its aggregation if a bar separates one from it. -/
def readBlock (text : String) : Except GrammarError Block :=
  match Text.cut? '|' text.toList with
  | none => return ⟨← resolve detections (← parse text), none⟩
  | some (search, clause) => do
    let item ← resolve detections (← parse (.ofList search))
    return ⟨item, some (← parseAggregation (.ofList clause))⟩

end EventRules.Condition
