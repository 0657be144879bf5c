import EventRules.Proofs.Verdict
import EventRules.Rule.Error

/-!
# What verdicts decide in any order

A verdict that stops at the first error depends on the order of what it looks at. `Decision.branch` looks
at all children of a branch: the branch is decided if one child is enough to decide it or all children
are decided, as in the three-valued logic of Kleene. This does not depend on the order
(`Decision.branch_perm`), and a verdict that is not an error is the decision (`Decision.branch_agrees`).
-/

namespace EventRules

/-- The answer in any order, or none if an error may come instead. -/
abbrev Decision := Option Bool

/-- What the verdicts of the children say of a branch, from left to right. -/
def Verdict.branch : Branch → List Verdict → Verdict
  | .and, vs => all vs
  | .or, vs => any vs
  | .not, [v] => v.negate
  | .not, _ => .ok false

namespace Verdict

theorem any_eq_negate_all (vs : List Verdict) : any vs = (all (vs.map negate)).negate := by
  induction vs with
  | nil => rfl
  | cons v vs ih =>
    rw [List.map_cons, any, all, ih]
    rcases v with e | _ | _ <;> rfl

theorem exists_all {vs : List Verdict} (h : ∀ v ∈ vs, ∃ b, v = .ok b) : ∃ b, all vs = .ok b := by
  induction vs with
  | nil => exact ⟨true, rfl⟩
  | cons v vs ih =>
    obtain ⟨b, rfl⟩ := h v (by simp)
    cases b with
    | false => exact ⟨false, rfl⟩
    | true => exact ih fun u hu => h u (by simp [hu])

theorem exists_negate {v : Verdict} (h : ∃ b, v = .ok b) : ∃ b, v.negate = .ok b := by
  obtain ⟨b, rfl⟩ := h
  exact ⟨!b, rfl⟩

theorem exists_any {vs : List Verdict} (h : ∀ v ∈ vs, ∃ b, v = .ok b) : ∃ b, any vs = .ok b := by
  rw [any_eq_negate_all]
  refine exists_negate (exists_all fun v hv => ?_)
  obtain ⟨u, hu, rfl⟩ := List.mem_map.1 hv
  exact exists_negate (h u hu)

theorem exists_branch {branch : Branch} {vs : List Verdict} (h : ∀ v ∈ vs, ∃ b, v = .ok b) :
    ∃ b, Verdict.branch branch vs = .ok b := by
  cases branch with
  | and => exact exists_all h
  | or => exact exists_any h
  | not =>
    match vs with
    | [v] => exact exists_negate (h v (by simp))
    | [] | _ :: _ :: _ => exact ⟨false, rfl⟩

/-- An error of a branch is the error of one of its children. -/
theorem mem_of_branch_eq_error {branch : Branch} {vs : List Verdict} {e : CastError}
    (h : Verdict.branch branch vs = .error e) : .error e ∈ vs := by
  cases branch with
  | and => exact mem_of_all_eq_error h
  | or =>
    have hany : any vs = .error e := h
    rw [any_eq_negate_all] at hany
    have hall := mem_of_all_eq_error (Except.map_eq_error_iff.1 hany)
    obtain ⟨v, hv, hnegate⟩ := List.mem_map.1 hall
    obtain rfl : v = .error e := Except.map_eq_error_iff.1 hnegate
    exact hv
  | not =>
    match vs with
    | [v] =>
      obtain rfl : v = .error e := Except.map_eq_error_iff.1 h
      exact List.mem_singleton_self _
    | [] | _ :: _ :: _ => cases h

end Verdict

namespace Decision

/-- One that does not hold is enough, even if others are open. -/
def all (as : List Decision) : Decision :=
  if some false ∈ as then some false else if none ∈ as then none else some true

def negate (a : Decision) : Decision :=
  a.map (!·)

/-- One that holds is enough, even if others are open. -/
def any (as : List Decision) : Decision :=
  (all (as.map negate)).negate

def branch : Branch → List Decision → Decision
  | .and, as => all as
  | .or, as => any as
  | .not, [a] => a.negate
  | .not, _ => some false

theorem all_perm {as as' : List Decision} (h : as.Perm as') : all as = all as' := by
  simp only [all, h.mem_iff]

theorem branch_perm {b : Branch} (hb : b ≠ .not) {as as' : List Decision} (h : as.Perm as') :
    branch b as = branch b as' := by
  cases b with
  | and => exact all_perm h
  | or => exact congrArg negate (all_perm (h.map negate))
  | not => exact absurd rfl hb

/-- The decision is that of the verdict, unless the verdict is an error. -/
def Agrees (a : Decision) (v : Verdict) : Prop :=
  ∀ b, v = .ok b → a = some b

theorem Agrees.negate {a : Decision} {v : Verdict} (h : Agrees a v) : Agrees a.negate v.negate := by
  intro b hb
  obtain ⟨c, hc, rfl⟩ := Except.map_eq_ok_iff.1 hb
  rw [h c hc]; rfl

theorem all_agrees {as : List Decision} {vs : List Verdict} (h : List.Forall₂ Agrees as vs) :
    Agrees (all as) (.all vs) := by
  intro b hb
  induction h with
  | nil =>
    obtain rfl := Except.ok.inj hb
    rfl
  | @cons a v as vs ha _ ih =>
    rcases v with e | _ | _
    · cases hb
    · -- What follows is not looked at, and need not be: this one is enough.
      obtain rfl := Except.ok.inj hb
      rw [all, ha false rfl, if_pos (by simp)]
    · have hrest := ih hb
      rw [ha true rfl, ← hrest]
      simp [all]

theorem branch_agrees {b : Branch} {as : List Decision} {vs : List Verdict}
    (h : List.Forall₂ Agrees as vs) : Agrees (branch b as) (.branch b vs) := by
  cases b with
  | and => exact all_agrees h
  | or =>
    show Agrees (all (as.map Decision.negate)).negate (Verdict.any vs)
    rw [Verdict.any_eq_negate_all]
    refine (all_agrees ?_).negate
    rw [List.forall₂_map_left_iff, List.forall₂_map_right_iff]
    exact h.imp fun _ _ ha => ha.negate
  | not =>
    match as, vs, h with
    | [], [], _ => rintro b ⟨⟩; rfl
    | [a], [v], .cons ha .nil => exact ha.negate
    | _ :: _ :: _, _ :: _ :: _, _ => rintro b ⟨⟩; rfl

theorem branch_map_agrees {α : Type} (b : Branch) {children : List α} {decision : α → Decision}
    {verdict : α → Verdict} (h : ∀ c ∈ children, Agrees (decision c) (verdict c)) :
    Agrees (branch b (children.map decision)) (.branch b (children.map verdict)) := by
  refine branch_agrees ?_
  rw [List.forall₂_map_left_iff, List.forall₂_map_right_iff, List.forall₂_same]
  exact h

end Decision

end EventRules
