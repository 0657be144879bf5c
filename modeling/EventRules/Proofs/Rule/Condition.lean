import EventRules.Proofs.Condition.Resolve
import EventRules.Proofs.Text.Trim
import EventRules.Rule.Document

/-!
# The conditions of a rule

`RuleCondition.holds` evaluates a condition over the bodies of its detections and `Rule.holds` all the
conditions of a rule. `RuleCondition.Acceptable` says which conditions can be compiled: those that read
as a tree without an aggregation, all of whose nodes fit (`RuleCondition.acceptable_iff`).
-/

namespace EventRules

open Condition

namespace RuleCondition

variable {c : RuleCondition}

/-- A condition without an aggregation is one without a bar. -/
theorem read_eq_ok_none_iff {t : Item} :
    c.read = .ok ⟨t, none⟩ ↔ '|' ∉ c.expression.toList ∧
      ∃ e, parse c.expression = .ok e ∧ resolve c.detections e = .ok t := by
  unfold read readBlock
  rw [← Text.cut?_eq_none_iff]
  cases hcut : Text.cut? '|' c.expression.toList with
  | none => simp [Except.bind_eq_ok_iff]
  | some parts =>
    obtain ⟨search, clause⟩ := parts
    simp [Except.bind_eq_ok_iff]

variable [PatternEngine]

/-- What a datum says about a condition: what it says about the expression over the detections. -/
def holds (names : FieldNames) (datum : Datum) (c : RuleCondition) : Verdict :=
  match parse c.expression with
  | .ok e => e.holds names datum c.detections
  | .error _ => .ok false

/-- The condition has no aggregation and refers only to detections that are there and can be used. -/
structure Acceptable (c : RuleCondition) : Prop where
  noBar : '|' ∉ c.expression.toList
  sound : ∃ e, parse c.expression = .ok e ∧ e.Sound c.detections

theorem read_holds {t : Item} (h : c.read = .ok ⟨t, none⟩) (names : FieldNames) (datum : Datum) :
    t.holds names datum = c.holds names datum := by
  obtain ⟨-, e, he, ht⟩ := read_eq_ok_none_iff.1 h
  rw [holds, he, resolve_holds ht names datum]

theorem acceptable_iff : c.Acceptable ↔ ∃ t, c.read = .ok ⟨t, none⟩ ∧ t.Compilable := by
  simp only [read_eq_ok_none_iff]
  constructor
  · rintro ⟨hbar, e, he, hsound⟩
    obtain ⟨t, ht, hc⟩ := (resolve_compilable_iff (parse_formed he)).2 hsound
    exact ⟨t, ⟨hbar, e, he, ht⟩, hc⟩
  · rintro ⟨t, ⟨hbar, e, he, ht⟩, hc⟩
    exact ⟨hbar, e, he, (resolve_compilable_iff (parse_formed he)).1 ⟨t, ht, hc⟩⟩

end RuleCondition

/-- What a datum says about a rule: any of its conditions, in order. -/
def Rule.holds [PatternEngine] (names : FieldNames) (datum : Datum) (r : Rule) : Verdict :=
  .any (r.conditions.map (RuleCondition.holds names datum))

end EventRules
