import EventRules.Predicate
import EventRules.Proofs.FirstFault

/-!
# Verdicts

A verdict is how a test of one datum ends: with an answer, or with a cast error. `Verdict.all` and
`Verdict.any` look at verdicts from left to right and stop as soon as the answer is known, so that an
error counts only if no verdict before it decides. Predicates that note nothing are put together as
their verdicts are (`Predicate.all_ofTest`, `Predicate.any_ofTest`, `Predicate.negate_ofTest`).
-/

namespace EventRules

/-- How a test of a datum ends. -/
abbrev Verdict := Except CastError Bool

namespace Verdict

def all : List Verdict → Verdict
  | [] => .ok true
  | v :: rest => do if ← v then all rest else .ok false

def any : List Verdict → Verdict
  | [] => .ok false
  | v :: rest => do if ← v then .ok true else any rest

def negate (v : Verdict) : Verdict :=
  v.map (!·)

@[simp] theorem all_singleton (v : Verdict) : all [v] = v := by
  rcases v with e | _ | _ <;> rfl

@[simp] theorem any_singleton (v : Verdict) : any [v] = v := by
  rcases v with e | _ | _ <;> rfl

theorem mem_of_all_eq_error {vs : List Verdict} {e : CastError} (h : all vs = .error e) : .error e ∈ vs := by
  induction vs with
  | nil => cases h
  | cons v vs ih =>
    rcases v with e' | _ | _
    · obtain rfl := Except.error.inj h
      exact List.mem_cons_self
    · cases h
    · exact List.mem_cons_of_mem _ (ih h)

end Verdict

namespace Predicate

variable {α : Type} (test : α → Datum → Verdict) (as : List α)

theorem all_ofTest :
    Predicate.all (as.map fun a => .ofTest (test a)) =
      .ofTest fun datum => Verdict.all (as.map (test · datum)) := by
  funext datum
  induction as with
  | nil => rfl
  | cons a as ih =>
    rw [List.map_cons, Predicate.all, ih]
    simp only [ofTest, List.map_cons, Verdict.all]
    rcases test a datum with e | _ | _ <;> rfl

theorem any_ofTest :
    Predicate.any (as.map fun a => .ofTest (test a)) =
      .ofTest fun datum => Verdict.any (as.map (test · datum)) := by
  funext datum
  induction as with
  | nil => rfl
  | cons a as ih =>
    rw [List.map_cons, Predicate.any, ih]
    simp only [ofTest, List.map_cons, Verdict.any]
    rcases test a datum with e | _ | _ <;> rfl

theorem negate_ofTest (test : Datum → Verdict) :
    Predicate.negate (.ofTest test) = .ofTest fun datum => (test datum).negate := by
  funext datum
  show (! ·) <$> Run.ofExcept (test datum) = .ofExcept ((test datum).map _)
  cases test datum <;> rfl

end Predicate

end EventRules
