import EventRules.Field.Datum
import EventRules.Run

/-!
# Predicates

A predicate tests one datum; it may fail with a `CastError`, and the calls of labelled predicates
are noted. Conjunctions and disjunctions call their members from left to right and stop as soon as
the answer is known.
-/

namespace EventRules

abbrev Predicate := Datum → Run CastError Bool

namespace Predicate

def constant (answer : Bool) : Predicate :=
  fun _ => pure answer

/-- The predicate that a test which notes nothing makes. -/
def ofTest (test : Datum → Except CastError Bool) : Predicate :=
  fun datum => .ofExcept (test datum)

/-- All predicates accept the datum. The first that does not ends the test. -/
def all : List Predicate → Predicate
  | [], _ => pure true
  | p :: rest, datum => do if ← p datum then all rest datum else pure false

/-- Some predicate accepts the datum. The first that does ends the test. -/
def any : List Predicate → Predicate
  | [], _ => pure false
  | p :: rest, datum => do if ← p datum then pure true else any rest datum

def negate (p : Predicate) : Predicate :=
  fun datum => (! ·) <$> p datum

/-- The predicate with a label: each call is noted before it is run. -/
def labelled (label : String) (p : Predicate) : Predicate :=
  fun datum => do Run.call label; p datum

def failing (error : CastError) : Predicate :=
  fun _ => .fail error

/-- The datum has a value for the field. -/
def has (field : String) : Predicate :=
  fun datum => pure (datum.value? field).isSome

/-- The datum is a record of one kind. -/
def isKind (kind : RecordKind) : Predicate :=
  fun datum => pure (datum.kind == kind)

end Predicate

end EventRules
