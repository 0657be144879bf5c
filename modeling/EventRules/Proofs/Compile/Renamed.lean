import EventRules.Proofs.Compile.Item
import EventRules.Proofs.Condition.Renamed

/-!
# Compilation under other names

Predicates read their fields through the stored names and look at nothing else: on data that answer
alike a predicate ends alike (`Makes.congr`).
-/

namespace EventRules.Compile

open Condition

variable [PatternEngine]

/-- The predicates that compilation makes, of one tree or of the conditions of a rule. -/
inductive Makes (names : FieldNames) : Predicate → Prop
  | item {t : Item} {p : Predicate} (h : Compile.item names t = .ok p) : Makes names p
  | items {ts : List Item} {p : Predicate} (h : (Compile.items names ts).outcome = .ok p) : Makes names p

variable {names : FieldNames} {p : Predicate}

/-- A predicate that is made evaluates trees. -/
theorem Makes.exists_trees (h : Makes names p) :
    ∃ ts : List Item, p = .ofTest fun datum => Verdict.any (ts.map (Item.holds names datum)) := by
  cases h with
  | @item t _ h =>
    rw [item_eq, settle_eq_ok_iff] at h
    obtain ⟨-, rfl⟩ := h
    refine ⟨[t], ?_⟩
    simp only [itemTest, List.map_singleton, Verdict.any_singleton]
  | @items ts _ h => exact ⟨ts, (items_eq_ok_iff.1 h).2.symm⟩

theorem Makes.congr {datum datum' : Datum} (h : Makes names p)
    (hread : ∀ field, SameRead names datum field names datum' field) : p datum = p datum' := by
  obtain ⟨ts, rfl⟩ := h.exists_trees
  have hholds (t : Item) : t.holds names datum = t.holds names datum' :=
    t.holds_congr_of_tests fun name value _ => Literal.holds_congr (hread name) value
  simp only [Predicate.ofTest, List.map_congr_left fun t _ => hholds t]

end EventRules.Compile
