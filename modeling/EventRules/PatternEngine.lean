/-!
# Engines of patterns

Regular expressions are read, and searched for in texts, by an engine. Rules are compiled and evaluated
with any engine; what it takes for a pattern, and where it finds one, is its own business.
-/

namespace EventRules

class PatternEngine where
  /-- What a pattern is read as. -/
  Regex : Type
  /-- Reads a pattern, or tells why a text is none. -/
  read : String → Except String Regex
  /-- Whether some part of a text matches. -/
  isFoundIn : Regex → String → Bool

end EventRules
