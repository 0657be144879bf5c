import EventRules.Predicate
import EventRules.Rule.Error

/-!
# Laws of predicates

Conjunctions and disjunctions that stop early, and whose members may fail, obey the laws of De Morgan
(`Predicate.negate_all`, `Predicate.negate_any`) and can be regrouped (`Predicate.all_splice`,
`Predicate.any_splice`). The equations are between runs, so that both sides make the same calls in the
same order, and end in the same way.
-/

namespace EventRules

def Branch.dual : Branch → Branch
  | .and => .or
  | .or => .and
  | .not => .not

namespace Predicate

@[simp] theorem negate_negate (p : Predicate) : negate (negate p) = p := by
  funext datum
  show (! ·) <$> (! ·) <$> p datum = p datum
  rw [← comp_map]
  have hnot : ((! ·) ∘ (! ·) : Bool → Bool) = id := funext Bool.not_not
  rw [hnot, id_map]

theorem map_negate_negate (ps : List Predicate) : (ps.map negate).map negate = ps := by
  rw [List.map_map]
  have hid : negate ∘ negate = id := funext negate_negate
  rw [hid, List.map_id]

theorem negate_all (ps : List Predicate) : negate (all ps) = any (ps.map negate) := by
  funext datum
  induction ps with
  | nil => exact map_pure _ _
  | cons p ps ih =>
    show (! ·) <$> (p datum >>= fun b => if b then all ps datum else pure false) =
      (! ·) <$> p datum >>= fun b => if b then pure true else any (ps.map negate) datum
    rw [map_bind, bind_map_left]
    refine bind_congr fun b => ?_
    cases b with
    | false => exact map_pure _ _
    | true => exact ih

theorem negate_any (ps : List Predicate) : negate (any ps) = all (ps.map negate) := by
  have hall := negate_all (ps.map negate)
  rw [map_negate_negate] at hall
  rw [← hall, negate_negate]

theorem all_cons_congr (p : Predicate) {ps qs : List Predicate} (h : all ps = all qs) :
    all (p :: ps) = all (p :: qs) := by
  funext datum
  rw [all, all, h]

/-- A conjunction at the front of a conjunction. -/
theorem all_cons_all (inner after : List Predicate) : all (all inner :: after) = all (inner ++ after) := by
  induction inner with
  | nil =>
    funext datum
    show (pure true >>= fun b => if b then all after datum else pure false) = all after datum
    rw [pure_bind]
    rfl
  | cons p inner ih =>
    rw [List.cons_append, ← all_cons_congr p ih]
    funext datum
    simp only [all, bind_assoc]
    refine bind_congr fun b => ?_
    cases b with
    | false =>
      show (pure false >>= fun b => if b then all after datum else pure false) = pure false
      rw [pure_bind]
      rfl
    | true => rfl

theorem all_splice (before inner after : List Predicate) :
    all (before ++ all inner :: after) = all (before ++ inner ++ after) := by
  induction before with
  | nil => exact all_cons_all inner after
  | cons p before ih => exact all_cons_congr p ih

theorem any_splice (before inner after : List Predicate) :
    any (before ++ any inner :: after) = any (before ++ inner ++ after) := by
  have hsplice := all_splice (before.map negate) (inner.map negate) (after.map negate)
  rw [← negate_any inner] at hsplice
  have hnegate : negate (any (before ++ any inner :: after)) = negate (any (before ++ inner ++ after)) := by
    rw [negate_any, negate_any]
    simpa using hsplice
  have hany := congrArg negate hnegate
  rwa [negate_negate, negate_negate] at hany

/-- The members called are those up to the first that decides, whichever side of the law they are on. -/
example :
    let datum : Datum := ⟨.json, none, fun _ => none⟩
    let members : List Predicate := [.labelled "a" (.constant true), .labelled "b" (.constant false),
      .labelled "c" (.failing ⟨"field", "string"⟩)]
    (negate (all members) datum).calls = ["a", "b"] ∧
      (any (members.map negate) datum).calls = ["a", "b"] := ⟨rfl, rfl⟩

/-- The predicate of a branch with the given members. -/
def branch : Branch → List Predicate → Predicate
  | .and, ps => all ps
  | .or, ps => any ps
  | .not, [p] => negate p
  | .not, _ => constant false

variable {b : Branch}

theorem negate_branch (hb : b ≠ .not) (ps : List Predicate) :
    negate (branch b ps) = branch b.dual (ps.map negate) := by
  cases b with
  | and => exact negate_all ps
  | or => exact negate_any ps
  | not => exact absurd rfl hb

theorem branch_splice (hb : b ≠ .not) (before inner after : List Predicate) :
    branch b (before ++ branch b inner :: after) = branch b (before ++ inner ++ after) := by
  cases b with
  | and => exact all_splice before inner after
  | or => exact any_splice before inner after
  | not => exact absurd rfl hb

end Predicate

end EventRules
