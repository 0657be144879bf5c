import EventRules.Pattern.Reader
import EventRules.Pattern.Size
import EventRules.PatternEngine

/-!
# Patterns

Regular expressions with the syntax of Perl and without the parts of it that need backtracking. A
pattern is found in a text if any part of the text matches.
-/

namespace EventRules

structure Pattern where
  expr : Pattern.Expr CodeSet Pattern.Edge

namespace Pattern

/-- The pattern that a text is. Patterns that are too deep or too large are refused. -/
def read? (text : String) : Option Pattern :=
  match readPiece? text.toList with
  | some piece =>
    if piece.depth ≤ greatestDepth ∧ size piece.expr ≤ greatestSize then some ⟨piece.expr⟩ else none
  | none => none

/-- Whether some part of a text matches. -/
def isFoundIn (p : Pattern) (text : String) : Bool :=
  p.expr.isIn text.toList

/-- The engine does not say why it refuses a text. -/
instance engine : PatternEngine where
  Regex := Pattern
  read text := (read? text).elim (.error "<regex>") .ok
  isFoundIn := isFoundIn

end Pattern

end EventRules
