import EventRules.Pattern
import EventRules.Proofs.Condition.Reordered
import EventRules.Proofs.Rule.Parse

/-!
# Conditions in another order

Conditions of a rule that are reordered, among themselves and inside, compile or fail together. Where
both of the predicates that they compile to have an answer, it is the same, so that the order matters
only for whether a cast error comes first; and if every field suits the literals that it is tested
against, both have an answer (`Compile.items_reordered`).
-/

namespace EventRules

open Condition

/-- The same conditions in another order, each of them possibly reordered inside. -/
def Condition.Reordered (ts ts' : List Item) : Prop :=
  ∃ us, List.Forall₂ Item.Reordered ts us ∧ us.Perm ts'

namespace Compile

variable {names : FieldNames} {ts ts' : List Item} {datum : Datum}

/-- What holds of all conditions does not depend on the order, if it does not inside any of them. -/
theorem forall_reordered_iff {P : Item → Prop} (hP : ∀ t t', t.Reordered t' → (P t ↔ P t'))
    (h : Condition.Reordered ts ts') : (∀ t ∈ ts, P t) ↔ ∀ t ∈ ts', P t := by
  obtain ⟨us, hus, hperm⟩ := h
  simp only [← hperm.mem_iff]
  constructor
  · intro hts u hu
    obtain ⟨t, ht, hr⟩ := hus.exists_of_mem_right hu
    exact (hP t u hr).1 (hts t ht)
  · intro hts t ht
    obtain ⟨u, hu, hr⟩ := hus.exists_of_mem_left ht
    exact (hP t u hr).2 (hts u hu)

section

variable [PatternEngine]

theorem any_decisions_reordered (h : Condition.Reordered ts ts') :
    Decision.any (ts.map (Item.decision names datum)) = Decision.any (ts'.map (Item.decision names datum)) := by
  obtain ⟨us, hus, hperm⟩ := h
  have hmap : ts.map (Item.decision names datum) = us.map (Item.decision names datum) :=
    hus.map_eq_map fun t _ u hr => hr.decision_eq
  rw [hmap]
  exact Decision.branch_perm (b := .or) (by decide) (hperm.map _)

theorem any_decisions_agrees (ts : List Item) :
    (Decision.any (ts.map (Item.decision names datum))).Agrees (.any (ts.map (Item.holds names datum))) :=
  Decision.branch_map_agrees .or fun t _ => t.decision_agrees

theorem exists_any_holds (h : ∀ t ∈ ts, t.Suits names datum) :
    ∃ b, Verdict.any (ts.map (Item.holds names datum)) = .ok b := by
  refine Verdict.exists_any fun v hv => ?_
  obtain ⟨t, ht, rfl⟩ := List.mem_map.1 hv
  exact Item.exists_holds (h t ht)

/-- Conditions in another order compile or fail together, and the predicates differ only in whether a
cast error comes first. -/
theorem items_reordered (names : FieldNames) {ts ts' : List Item} (h : Condition.Reordered ts ts') :
    ((∃ p, (items names ts).outcome = .ok p) ↔ ∃ p, (items names ts').outcome = .ok p) ∧
      ∀ p p', (items names ts).outcome = .ok p → (items names ts').outcome = .ok p' → ∀ datum,
        (∀ b b', (p datum).outcome = .ok b → (p' datum).outcome = .ok b' → b = b') ∧
        ((∀ t ∈ ts, t.Suits names datum) →
          ∃ b, (p datum).outcome = .ok b ∧ (p' datum).outcome = .ok b) := by
  constructor
  · rw [exists_items_iff, exists_items_iff]
    exact forall_reordered_iff (fun t t' hr => hr.compilable_iff) h
  · intro p p' hp hp' datum
    obtain ⟨-, rfl⟩ := items_eq_ok_iff.1 hp
    obtain ⟨-, rfl⟩ := items_eq_ok_iff.1 hp'
    have hsame : ∀ b b', Verdict.any (ts.map (Item.holds names datum)) = .ok b →
        Verdict.any (ts'.map (Item.holds names datum)) = .ok b' → b = b' := by
      intro b b' hb hb'
      have hdecision := any_decisions_agrees ts b hb
      rw [any_decisions_reordered h, any_decisions_agrees ts' b' hb'] at hdecision
      exact (Option.some.inj hdecision).symm
    refine ⟨hsame, fun hsuits => ?_⟩
    obtain ⟨b, hb⟩ := exists_any_holds hsuits
    have hsuits' := (forall_reordered_iff (fun t t' hr => hr.suits_iff) h).1 hsuits
    obtain ⟨b', hb'⟩ := exists_any_holds hsuits'
    exact ⟨b, hb, hsame b b' hb hb' ▸ hb'⟩

end

def portTest : Arg := .resolved (.field "port" (.number (.integer 443)))

def hostTest : Arg := .resolved (.field "host" (.string "web"))

/-- The port is read first and is a text, or the host is another and the port is not read. -/
theorem items_reordered_swapped :
    let datum : Datum :=
      ⟨.json, none, fun name =>
        if name = "port" then some (.string "https")
        else if name = "host" then some (.string "db") else none⟩
    ∃ p p', (items .empty [.and [portTest, hostTest]]).outcome = .ok p ∧
      (items .empty [.and [hostTest, portTest]]).outcome = .ok p' ∧
      (∀ datum b b', (p datum).outcome = .ok b → (p' datum).outcome = .ok b' → b = b') ∧
      (p datum).outcome = .error ⟨"port", "integer"⟩ ∧ (p' datum).outcome = .ok false := by
  intro datum
  have hswap : Condition.Reordered [.and [portTest, hostTest]] [.and [hostTest, portTest]] := by
    refine ⟨[.and [hostTest, portTest]], .cons ?_ .nil, .refl _⟩
    exact .perm (b := .and) (by decide) (.swap _ _ _)
  have hcompilable : ∀ t ∈ [Item.and [portTest, hostTest]], t.Compilable := by
    simp only [List.mem_singleton, forall_eq, Item.compilable_iff_error?]
    rfl
  obtain ⟨hiff, hsame⟩ := items_reordered .empty hswap
  obtain ⟨p, hp⟩ := exists_items_iff.2 hcompilable
  obtain ⟨p', hp'⟩ := hiff.1 ⟨p, hp⟩
  refine ⟨p, p', hp, hp', fun datum => (hsame p p' hp hp' datum).1, ?_, ?_⟩
  · obtain ⟨-, rfl⟩ := items_eq_ok_iff.1 hp
    rfl
  · obtain ⟨-, rfl⟩ := items_eq_ok_iff.1 hp'
    rfl

end Compile

end EventRules
