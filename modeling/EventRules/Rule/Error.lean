import EventRules.Rule.GrammarError

/-!
# Why a rule cannot be compiled

Either the rule is malformed, or it asks for something that is not supported. An error of the first
kind carries the id of the rule where it is known.
-/

namespace EventRules

inductive Branch where
  | and
  | or
  | not
  deriving DecidableEq, Repr

def Branch.name : Branch → String
  | and => "AND"
  | or => "OR"
  | not => "NOT"

inductive LeafFault where
  | invalidPattern (pattern field reason : String)
  | invalidBlock (block : String)
  | unknownOperator (op field : String)
  | expansion (field : String)

inductive RuleFault where
  | grammar (error : GrammarError)
  | block (ruleId : String) (error : GrammarError)
  | aggregations (count : Nat)
  | arity (branch : Branch) (expected found : Nat)
  | noPredicates (branch : Branch)
  | reference (name : String)
  | leaf (fault : LeafFault)
  | other (text : String)

structure ParseError where
  fault : RuleFault
  ruleId : Option String

/-- What a rule may ask for in vain. -/
inductive Unsupported where
  | aggregation
  | keyword
  | other (text : String)

inductive RuleError where
  | parse (error : ParseError)
  | unsupported (feature : Unsupported)

def LeafFault.message : LeafFault → String
  | invalidPattern pattern field reason =>
    s!"Invalid regex pattern '{pattern}' for field {field}: {reason}"
  | invalidBlock block => s!"Invalid CIDR notation: {block}"
  | unknownOperator op field => s!"Unexpected operator {op} for field {field}"
  | expansion field => s!"Unexpected value type expansion for field {field}"

def RuleFault.message : RuleFault → String
  | grammar error => s!"Unable to parse rule: {error.message}"
  | block ruleId error => s!"Exception parsing rule with ID: {ruleId}: {error.message}"
  | aggregations count => s!"Expected 0 or 1 aggregations. Found {count}"
  | arity branch expected found =>
    s!"Unexpected number of conditions for {branch.name} expression. " ++
      s!"Expected {expected}. Found {found}"
  | noPredicates branch => s!"No predicates found for {branch.name} expression"
  | reference name => s!"Unexpected condition type Identifier referencing '{name}'"
  | leaf fault => fault.message
  | other text => text

def Unsupported.message : Unsupported → String
  | aggregation => "Aggregate rules are not yet supported"
  | keyword => "Keyword lookup is not yet supported"
  | other text => text

namespace RuleError

/-- A malformed rule whose id is not known. -/
def ofFault (fault : RuleFault) : RuleError :=
  parse ⟨fault, none⟩

/-- What the error says by itself, without its kind. -/
def reason : RuleError → String
  | parse error => error.fault.message
  | unsupported feature => feature.message

def message : RuleError → String
  | parse error => "Rule parse error: " ++ error.fault.message
  | unsupported feature => "Unsupported operation: " ++ feature.message

/-- The error with the id of the rule, unless it has one or cannot have any. -/
def withRuleId (id : String) : RuleError → RuleError
  | parse error => parse { error with ruleId := some (error.ruleId.getD id) }
  | unsupported feature => unsupported feature

def ruleId? : RuleError → Option String
  | parse error => error.ruleId
  | unsupported _ => none

def isUnsupported : RuleError → Bool
  | parse _ => false
  | unsupported _ => true

end RuleError

end EventRules
