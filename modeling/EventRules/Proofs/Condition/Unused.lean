import EventRules.Proofs.Condition.Resolve
import EventRules.Rule.Document

/-!
# Detections that a condition does not use

A condition uses the detections that it names and those that its quantifiers select. What it does not
use is never looked at: sets of detections that are the same apart from it (`DetectionSet.AgreeExcept`)
make the same of the condition (`RuleCondition.AgreeExcept.read`).
-/

namespace EventRules

open Condition

namespace Condition

namespace Selector

/-- The selector selects a detection of the name, if there is one. -/
def picks (s : Selector) (name : String) : Bool :=
  match s with
  | them => !name.startsWith "_"
  | pattern glob => Glob.accepts glob name

theorem select_eq (s : Selector) (names : List String) : s.select names = names.filter s.picks := by
  cases s <;> rfl

end Selector

namespace Expr

/-- The node names the detection or is a quantifier that selects it. -/
def RefersTo (name : String) : Expr → Prop
  | identifier other => other = name
  | oneOf s | allOf s => s.picks name
  | _ => False

def Uses (e : Expr) (name : String) : Prop :=
  ∃ node ∈ e.nodes, node.RefersTo name

end Expr

end Condition

namespace DetectionSet

variable {names : List String} {s s' : DetectionSet}

/-- Detections of some names are added, removed or given other bodies. -/
def AgreeExcept (names : List String) (s s' : DetectionSet) : Prop :=
  s.entries.filter (·.1 ∉ names) = s'.entries.filter (·.1 ∉ names)

theorem lookup_filter {entries : List (String × Yaml)} {name : String} (h : name ∉ names) :
    (entries.filter (·.1 ∉ names)).lookup name = entries.lookup name := by
  induction entries with
  | nil => rfl
  | cons entry entries ih =>
    obtain ⟨other, body⟩ := entry
    by_cases hname : name = other
    · subst hname
      simp [h]
    · have hne : (name == other) = false := by simpa using hname
      by_cases hother : other ∈ names
      · rw [List.filter_cons_of_neg (by simpa using hother), ih, List.lookup_cons, hne]
      · rw [List.filter_cons_of_pos (by simpa using hother), List.lookup_cons, hne, ih,
          List.lookup_cons, hne]

theorem AgreeExcept.resolve? (h : AgreeExcept names s s') {name : String} (hname : name ∉ names) :
    s.resolve? name = s'.resolve? name := by
  rw [DetectionSet.resolve?, DetectionSet.resolve?, ← lookup_filter hname, h, lookup_filter hname]

/-- What passes over some names selects the same without them. -/
theorem filter_names_filter {p : String → Bool} {entries : List (String × Yaml)}
    (hp : ∀ name ∈ names, p name = false) :
    ((entries.filter (·.1 ∉ names)).map (·.1)).filter p = (entries.map (·.1)).filter p := by
  induction entries with
  | nil => rfl
  | cons entry entries ih =>
    by_cases hentry : entry.1 ∈ names
    · rw [List.filter_cons_of_neg (by simpa using hentry), ih, List.map_cons,
        List.filter_cons_of_neg (by simp [hp _ hentry])]
    · rw [List.filter_cons_of_pos (by simpa using hentry), List.map_cons, List.map_cons,
        List.filter_cons, List.filter_cons, ih]

theorem AgreeExcept.select (h : AgreeExcept names s s') {selector : Selector}
    (hpicks : ∀ name ∈ names, selector.picks name = false) :
    selector.select s.names = selector.select s'.names := by
  rw [Selector.select_eq, Selector.select_eq, DetectionSet.names, DetectionSet.names,
    ← filter_names_filter hpicks, h, filter_names_filter hpicks]

end DetectionSet

namespace Condition

variable {names : List String} {s s' : DetectionSet}

theorem resolveName_agree (h : s.AgreeExcept names s') {name : String} (hname : name ∉ names) :
    resolveName s name = resolveName s' name := by
  rw [resolveName, resolveName, h.resolve? hname]

theorem quantify_agree (h : s.AgreeExcept names s') {selector : Selector}
    (hpicks : ∀ name ∈ names, selector.picks name = false) (wrap : List Arg → Item) :
    quantify s selector wrap = quantify s' selector wrap := by
  have hresolve : ∀ name ∈ selector.select s'.names, resolveName s name = resolveName s' name := by
    intro name hname
    rw [Selector.select_eq, List.mem_filter] at hname
    refine resolveName_agree h fun hmem => ?_
    rw [hpicks name hmem] at hname
    exact absurd hname.2 (by decide)
  rw [quantify, quantify, h.select hpicks]
  split
  case h_1 => rfl
  case h_2 => rw [Except.mapM_congr hresolve]

/-- What an expression stands for does not depend on detections that none of its nodes refers to. -/
theorem resolveArg_agree (h : s.AgreeExcept names s') {e : Expr}
    (hnodes : ∀ node ∈ e.nodes, ∀ name ∈ names, ¬ node.RefersTo name) :
    resolveArg s e = resolveArg s' e := by
  have operands {es : List Expr} (ih : ∀ e ∈ es, (∀ node ∈ e.nodes, ∀ name ∈ names,
      ¬ node.RefersTo name) → resolveArg s e = resolveArg s' e)
      (hes : ∀ e ∈ es, ∀ node ∈ e.nodes, ∀ name ∈ names, ¬ node.RefersTo name) :
      resolveArgs s es = resolveArgs s' es := by
    rw [resolveArgs_eq, resolveArgs_eq]
    exact Except.mapM_congr fun e he => ih e he (hes e he)
  have selected {selector : Selector} (hselector : ∀ name ∈ names, ¬ selector.picks name = true) :
      ∀ name ∈ names, selector.picks name = false :=
    fun name hmem => Bool.eq_false_iff.2 (hselector name hmem)
  induction e using Expr.induct with
  | identifier name =>
    have hname : name ∉ names := fun hmem => hnodes (.identifier name) (by simp) name hmem rfl
    exact resolveName_agree h hname
  | and es ih =>
    have hes := ((Expr.forall_nodes_iff (Expr.nodes_and es)).1 hnodes).1
    rw [resolveArg, resolveArg, operands ih hes]
  | or es ih =>
    have hes := ((Expr.forall_nodes_iff (Expr.nodes_or es)).1 hnodes).1
    rw [resolveArg, resolveArg, operands ih hes]
  | not e ih =>
    have he := ((Expr.forall_nodes_iff (Expr.nodes_not_flatMap e)).1 hnodes).1 e (by simp)
    rw [resolveArg, resolveArg, ih he]
  | oneOf selector =>
    have hselector := selected (hnodes (.oneOf selector) (by simp))
    rw [resolveArg, resolveArg, quantify_agree h hselector]
  | allOf selector =>
    have hselector := selected (hnodes (.allOf selector) (by simp))
    rw [resolveArg, resolveArg, quantify_agree h hselector]

theorem resolve_agree (h : s.AgreeExcept names s') {e : Expr}
    (hunused : ∀ name ∈ names, ¬ e.Uses name) : resolve s e = resolve s' e := by
  have hnodes : ∀ node ∈ e.nodes, ∀ name ∈ names, ¬ node.RefersTo name :=
    fun node hnode name hmem hrefers => hunused name hmem ⟨node, hnode, hrefers⟩
  rw [resolve, resolve, resolveArg_agree h hnodes]

end Condition

namespace RuleCondition

/-- The expression of a condition as it is written: what stands before a bar. -/
def search (c : RuleCondition) : String :=
  match Text.cut? '|' c.expression.toList with
  | none => c.expression
  | some (search, _) => .ofList search

/-- The condition names the detection, or one of its quantifiers selects it. -/
def Uses (c : RuleCondition) (name : String) : Prop :=
  ∃ e, parse c.search = .ok e ∧ e.Uses name

/-- The same text, bound to other detections of some names. -/
structure AgreeExcept (names : List String) (c c' : RuleCondition) : Prop where
  expression : c.expression = c'.expression
  detections : c.detections.AgreeExcept names c'.detections

variable {names : List String} {c c' : RuleCondition}

theorem AgreeExcept.read (h : c.AgreeExcept names c') (hunused : ∀ name ∈ names, ¬ c.Uses name) :
    c.read = c'.read := by
  have hresolve : ∀ e, parse c.search = .ok e →
      resolve c.detections e = resolve c'.detections e := fun e he =>
    resolve_agree h.detections fun name hmem huses => hunused name hmem ⟨e, he, huses⟩
  have hbind {β : Type} (next : Item → Except GrammarError β) :
      (parse c.search >>= fun e => resolve c.detections e >>= next) =
        parse c.search >>= fun e => resolve c'.detections e >>= next := by
    cases he : parse c.search with
    | error error => rfl
    | ok e => simp only [Except.ok_bind, hresolve e he]
  have hcut : Text.cut? '|' c.expression.toList = Text.cut? '|' c'.expression.toList := by
    rw [h.expression]
  unfold RuleCondition.read readBlock
  unfold search at hbind
  rw [← hcut, ← h.expression]
  cases hbar : Text.cut? '|' c.expression.toList with
  | none =>
    simp only [hbar] at hbind
    exact hbind _
  | some parts =>
    simp only [hbar] at hbind
    exact hbind _

end RuleCondition

end EventRules
