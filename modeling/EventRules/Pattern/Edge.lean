import EventRules.Unicode.Category
import EventRules.Unicode.Property

/-!
# Edges

A pattern may ask for a kind of place between two characters: an end of the text or of a line, or an
edge of a word. `Edge.holds` decides from the neighbours of the place, of which there is none at
an end of the text.
-/

namespace EventRules.Pattern

/-- Letters, marks, digits, joining punctuation and join controls. -/
def wordChars : CodeSet :=
  .ofRanges (Unicode.Property.alphabetic.ranges ++ Unicode.Category.mark.ranges
    ++ Unicode.Category.decimalNumber.ranges ++ Unicode.Category.connectorPunctuation.ranges
    ++ Unicode.Property.joinControl.ranges)

/-- The ASCII characters of words. -/
def asciiWordChars : CodeSet :=
  .ofRanges [(0x30, 0x39), (0x41, 0x5A), (0x5F, 0x5F), (0x61, 0x7A)]

/-- How a place lies to the words around it. -/
inductive WordEdge where
  | boundary
  | noBoundary
  | start
  | ending
  /-- No word character stands before the place. -/
  | startHalf
  /-- No word character stands after the place. -/
  | endingHalf
  deriving DecidableEq, Repr

/-- Whether a place lies so, from whether word characters stand before and after it. -/
def WordEdge.holds (before after : Bool) : WordEdge → Bool
  | boundary => before != after
  | noBoundary => before == after
  | start => !before && after
  | ending => before && !after
  | startHalf => !before
  | endingHalf => !after

inductive Edge where
  | textStart
  | textEnd
  /-- The start of a line; with `paired`, a carriage return ends a line too, unless a line feed
  follows it. -/
  | lineStart (paired : Bool)
  | lineEnd (paired : Bool)
  /-- An edge of a word, of ASCII characters only unless `unicode`. -/
  | word (edge : WordEdge) (unicode : Bool)
  deriving DecidableEq, Repr

/-- Whether the edge is between two neighbours. -/
def Edge.holds (before after : Option Char) : Edge → Bool
  | textStart => before.isNone
  | textEnd => after.isNone
  | lineStart paired =>
    before.all (· == '\n') || (paired && before == some '\r' && after != some '\n')
  | lineEnd paired =>
    after.isNone || (if paired then after == some '\r' || (after == some '\n' && before != some '\r')
      else after == some '\n')
  | word edge unicode =>
    let chars := if unicode then wordChars else asciiWordChars
    edge.holds (before.any chars.contains) (after.any chars.contains)

end EventRules.Pattern
