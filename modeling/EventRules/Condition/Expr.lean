import EventRules.Condition.Token

/-!
# Condition expressions

Names of detections and quantifiers over them, put together with `and`, `or`, `not` and
parentheses; `not` binds closest and `or` loosest. A chain of one operator is one node.

The parser takes one token after the other, with a stack of the parentheses that are open. In each
of these it holds the alternatives so far, the operands of the conjunction that is being read, and
the number of negations before the next operand.
-/

namespace EventRules.Condition

/-- The detections that a quantifier ranges over. -/
inductive Selector where
  | them
  | pattern (pattern : String)
  deriving DecidableEq, Repr

def Selector.inspect : Selector → String
  | them => "Them"
  | pattern p => "Pattern(" ++ Text.quote p ++ ")"

inductive Expr where
  | identifier (name : String)
  | and (operands : List Expr)
  | or (operands : List Expr)
  | not (operand : Expr)
  | oneOf (selector : Selector)
  | allOf (selector : Selector)
  deriving Repr

/-- How many of the detections selected have to match. -/
inductive Quantity where
  | count (n : UInt32)
  | all
  deriving DecidableEq, Repr

inductive ParseFault where
  | unexpectedToken (token : Token)
  | unexpectedEnd
  | unclosed
  | missingOf (after : Quantity)
  | missingSelector
  | unsupportedCount (n : UInt32)
  | trailingToken (token : Token)
  deriving DecidableEq, Repr

/-- What a quantifier has in front of `of`. -/
def Quantity.describe : Quantity → String
  | count _ => "number"
  | all => "'all'"

def ParseFault.message : ParseFault → String
  | unexpectedToken token => s!"Unexpected token in condition: {token.inspect}"
  | unexpectedEnd => "Unexpected end of condition"
  | unclosed => "Expected closing parenthesis"
  | missingOf quantity => s!"Expected 'of' after {quantity.describe}"
  | missingSelector => "Expected 'them' or pattern after 'of'"
  | unsupportedCount n =>
    s!"Only '1 of' and 'all of' quantifiers are supported, found '{n.toNat} of'"
  | trailingToken token => s!"Unexpected trailing token in condition: {token.inspect}"

/-- A chain of operands; one alone is itself. -/
def chain (wrap : List Expr → Expr) : List Expr → Expr
  | [e] => e
  | operands => wrap operands

/-- An expression with negations before it. -/
def negated : Nat → Expr → Expr
  | 0, e => e
  | n + 1, e => .not (negated n e)

/-- What has been read inside one pair of parentheses, up to the current operand. Lists are in
reverse order. -/
structure Level where
  /-- The alternatives that are complete. -/
  alternatives : List Expr
  /-- The operands of the conjunction before the current one. -/
  conjuncts : List Expr
  /-- The negations before the current operand. -/
  negations : Nat

namespace Level

def empty : Level := ⟨[], [], 0⟩

/-- The conjunction that ends with an operand. -/
def conjunction (l : Level) (operand : Expr) : Expr :=
  chain .and (operand :: l.conjuncts).reverse

/-- The expression that ends with an operand. -/
def close (l : Level) (operand : Expr) : Expr :=
  chain .or (l.conjunction operand :: l.alternatives).reverse

end Level

/-- What the next token has to be. -/
inductive Expected where
  | operand
  /-- The operand before it is complete. -/
  | operator (operand : Expr)
  | of (quantity : Quantity)
  | selector (quantity : Quantity)

structure Parser where
  /-- The levels around the current one, innermost first. -/
  outer : List Level
  level : Level
  expected : Expected

namespace Parser

def start : Parser := ⟨[], .empty, .operand⟩

/-- The operand is read; the negations before it apply. -/
def complete (p : Parser) (e : Expr) : Parser :=
  { p with level := { p.level with negations := 0 }, expected := .operator (negated p.level.negations e) }

def quantified (p : Parser) (quantity : Quantity) (selector : Selector) :
    Except ParseFault Parser :=
  match quantity with
  | .all => .ok (p.complete (.allOf selector))
  | .count n => if n = 1 then .ok (p.complete (.oneOf selector)) else .error (.unsupportedCount n)

/-- A token where an operand starts. -/
def operand (p : Parser) : Token → Except ParseFault Parser
  | .not => .ok { p with level := { p.level with negations := p.level.negations + 1 } }
  | .leftParen => .ok ⟨p.level :: p.outer, .empty, .operand⟩
  | .identifier name => .ok (p.complete (.identifier name))
  | .number n => .ok { p with expected := .of (.count n) }
  | .all => .ok { p with expected := .of .all }
  | token => .error (.unexpectedToken token)

/-- A token after a complete operand. -/
def operator (p : Parser) (e : Expr) : Token → Except ParseFault Parser
  | .and => .ok ⟨p.outer, { p.level with conjuncts := e :: p.level.conjuncts }, .operand⟩
  | .or => .ok ⟨p.outer, ⟨p.level.conjunction e :: p.level.alternatives, [], 0⟩, .operand⟩
  | token =>
    match p.outer with
    | [] => .error (.trailingToken token)
    | level :: outer =>
      if token = .rightParen then .ok (Parser.complete ⟨outer, level, .operand⟩ (p.level.close e))
      else .error .unclosed

/-- A token that says what a quantifier ranges over. -/
def selector (p : Parser) (quantity : Quantity) : Token → Except ParseFault Parser
  | .them => p.quantified quantity .them
  | .wildcard pattern => p.quantified quantity (.pattern pattern)
  | .identifier name => p.quantified quantity (.pattern name)
  | _ => .error .missingSelector

def step (p : Parser) (token : Token) : Except ParseFault Parser :=
  match p.expected with
  | .operand => p.operand token
  | .operator e => p.operator e token
  | .of quantity =>
    if token = .of then .ok { p with expected := .selector quantity } else .error (.missingOf quantity)
  | .selector quantity => p.selector quantity token

/-- The expression, if the tokens may end here. -/
def finish (p : Parser) : Except ParseFault Expr :=
  match p.expected with
  | .operand => .error .unexpectedEnd
  | .operator e => if p.outer.isEmpty then .ok (p.level.close e) else .error .unclosed
  | .of quantity => .error (.missingOf quantity)
  | .selector _ => .error .missingSelector

end Parser

def parseTokens (tokens : List Token) : Except ParseFault Expr :=
  (tokens.foldlM Parser.step .start).bind Parser.finish

end EventRules.Condition
