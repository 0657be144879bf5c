import EventRules.Pattern
import EventRules.Proofs.Compile.Item
import EventRules.Proofs.Condition.Reordered
import EventRules.Proofs.Predicate

/-!
# Trees rewritten by the laws of logic

`Item.Law` lists the ways to rewrite one node, and `Item.Rewritten` applies them at any depth, any number
of times. A tree that compiles is rewritten to one that compiles (`Item.Rewritten.compilable`), to a
predicate that does the same, even where a field cannot be read (`Compile.item_rewritten`).
-/

namespace EventRules

namespace Condition

def Arg.negate (a : Arg) : Arg :=
  .resolved (.not [a])

namespace Item

/-- One node is rewritten. -/
inductive Law : Item → Item → Prop
  /-- The negation of a conjunction is the disjunction of the negations, and the other way round. -/
  | distribute {b : Branch} (hb : b ≠ .not) (args : List Arg) :
    Law (.not [.resolved (ofBranch b args)]) (ofBranch b.dual (args.map Arg.negate))
  | collect {b : Branch} (hb : b ≠ .not) (args : List Arg) :
    Law (ofBranch b.dual (args.map Arg.negate)) (.not [.resolved (ofBranch b args)])
  | addNegations (t : Item) : Law t (.not [.resolved (.not [.resolved t])])
  | dropNegations (t : Item) : Law (.not [.resolved (.not [.resolved t])]) t
  /-- A conjunction among the children of a conjunction is replaced by its own children, and likewise
  with disjunctions. -/
  | splice {b : Branch} (hb : b ≠ .not) (before inner after : List Arg) :
    Law (ofBranch b (before ++ .resolved (ofBranch b inner) :: after))
      (ofBranch b (before ++ inner ++ after))
  | group {b : Branch} (hb : b ≠ .not) (before inner after : List Arg) (hinner : inner ≠ []) :
    Law (ofBranch b (before ++ inner ++ after))
      (ofBranch b (before ++ .resolved (ofBranch b inner) :: after))

/-- Subtrees are rewritten, at any depth. -/
inductive Rewritten : Item → Item → Prop
  | refl (t : Item) : Rewritten t t
  | trans {t u v : Item} (h : Rewritten t u) (h' : Rewritten u v) : Rewritten t v
  | here {t u : Item} (h : Law t u) : Rewritten t u
  | inside {t u : Item} (b : Branch) (before after : List Arg) (h : Rewritten t u) :
    Rewritten (ofBranch b (before ++ .resolved t :: after)) (ofBranch b (before ++ .resolved u :: after))

/-! ### What is rewritten compiles -/

section
variable [PatternEngine]

theorem compilable_ofBranch {b : Branch} (hb : b ≠ .not) {args : List Arg} :
    (ofBranch b args).Compilable ↔ args ≠ [] ∧ ∀ a ∈ args, ∃ t, a = .resolved t ∧ t.Compilable := by
  cases b with
  | and => exact compilable_and
  | or => exact compilable_or
  | not => exact absurd rfl hb

theorem compilable_negations {b : Branch} (hb : b ≠ .not) (args : List Arg) :
    (ofBranch b.dual (args.map Arg.negate)).Compilable ↔
      (Item.not [.resolved (ofBranch b args)]).Compilable := by
  have hdual : b.dual ≠ .not := by cases b <;> simp_all [Branch.dual]
  have hnot : (Item.not [.resolved (ofBranch b args)]).Compilable ↔ (ofBranch b args).Compilable := by
    simp [compilable_not]
  have hnegate (a : Arg) :
      (∃ t, a.negate = .resolved t ∧ t.Compilable) ↔ ∃ t, a = .resolved t ∧ t.Compilable := by
    simp [Arg.negate, compilable_not]
  rw [hnot, compilable_ofBranch hdual, compilable_ofBranch hb, List.forall_mem_map]
  simp only [hnegate, ne_eq, List.map_eq_nil_iff]

theorem compilable_splice {b : Branch} (hb : b ≠ .not) (before after : List Arg) {inner : List Arg} :
    (ofBranch b (before ++ .resolved (ofBranch b inner) :: after)).Compilable ↔
      inner ≠ [] ∧ (ofBranch b (before ++ inner ++ after)).Compilable := by
  have hinner : (∃ t, Arg.resolved (ofBranch b inner) = .resolved t ∧ t.Compilable) ↔
      inner ≠ [] ∧ ∀ a ∈ inner, ∃ t, a = .resolved t ∧ t.Compilable := by
    rw [← compilable_ofBranch hb]
    simp
  rw [compilable_ofBranch hb, compilable_ofBranch hb]
  simp only [List.forall_mem_append, List.forall_mem_cons, hinner]
  constructor
  · rintro ⟨-, hbefore, ⟨hne, hargs⟩, hafter⟩
    exact ⟨hne, by simp [hne], ⟨hbefore, hargs⟩, hafter⟩
  · rintro ⟨hne, -, ⟨hbefore, hargs⟩, hafter⟩
    exact ⟨by simp, hbefore, ⟨hne, hargs⟩, hafter⟩

theorem Law.compilable {t u : Item} (h : Law t u) (ht : t.Compilable) : u.Compilable := by
  cases h with
  | distribute hb args => exact (compilable_negations hb args).2 ht
  | collect hb args => exact (compilable_negations hb args).1 ht
  | addNegations => simpa [compilable_not] using ht
  | dropNegations => simpa [compilable_not] using ht
  | splice hb before inner after => exact ((compilable_splice hb before after).1 ht).2
  | group hb before inner after hinner => exact (compilable_splice hb before after).2 ⟨hinner, ht⟩

theorem Rewritten.compilable {t u : Item} (h : t.Rewritten u) (ht : t.Compilable) : u.Compilable := by
  induction h with
  | refl => exact ht
  | trans _ _ ih ih' => exact ih' (ih ht)
  | here h => exact h.compilable ht
  | @inside t u b before after _ ih =>
    have hfits : (ofBranch b (before ++ .resolved t :: after)).Fits ↔
        (ofBranch b (before ++ .resolved u :: after)).Fits :=
      fits_ofBranch_congr b (by simp) (by simp [children_append])
    unfold Compilable at ht ih ⊢
    rw [forall_nodes_iff (nodes_ofBranch _ _)] at ht ⊢
    obtain ⟨hchildren, hself⟩ := ht
    refine ⟨fun c hc => ?_, hfits.1 hself⟩
    rcases List.mem_append.1 hc with hc | hc
    · exact hchildren c (List.mem_append_left _ hc)
    rcases List.mem_cons.1 hc with hc | hc
    · obtain rfl := Arg.resolved.inj hc
      exact ih (hchildren t (by simp))
    · exact hchildren c (by simp [hc])

end

end Item

end Condition

namespace Compile

open Condition

section
variable [PatternEngine] (names : FieldNames)

def argTest (a : Arg) : Predicate :=
  .ofTest fun datum => a.holds names datum

theorem argTest_resolved (t : Item) : argTest names (.resolved t) = itemTest names t := rfl

theorem itemTest_ofBranch (b : Branch) (args : List Arg) :
    itemTest names (Item.ofBranch b args) = Predicate.branch b (args.map (argTest names)) := by
  unfold itemTest
  simp only [Item.holds_ofBranch]
  cases b with
  | and => exact (Predicate.all_ofTest (fun a datum => a.holds names datum) args).symm
  | or => exact (Predicate.any_ofTest (fun a datum => a.holds names datum) args).symm
  | not =>
    match args with
    | [a] => exact (Predicate.negate_ofTest fun datum => a.holds names datum).symm
    | [] | _ :: _ :: _ => rfl

theorem itemTest_not (a : Arg) : itemTest names (.not [a]) = Predicate.negate (argTest names a) :=
  itemTest_ofBranch names .not [a]

theorem itemTest_negations {b : Branch} (hb : b ≠ .not) (args : List Arg) :
    itemTest names (Item.ofBranch b.dual (args.map Arg.negate)) =
      itemTest names (.not [.resolved (Item.ofBranch b args)]) := by
  have hnegate : argTest names ∘ Arg.negate = Predicate.negate ∘ argTest names :=
    funext fun a => itemTest_not names a
  rw [itemTest_not, argTest_resolved, itemTest_ofBranch, itemTest_ofBranch, Predicate.negate_branch hb,
    List.map_map, List.map_map, hnegate]

theorem itemTest_splice {b : Branch} (hb : b ≠ .not) (before inner after : List Arg) :
    itemTest names (Item.ofBranch b (before ++ .resolved (Item.ofBranch b inner) :: after)) =
      itemTest names (Item.ofBranch b (before ++ inner ++ after)) := by
  have hsplice := Predicate.branch_splice hb (before.map (argTest names)) (inner.map (argTest names))
    (after.map (argTest names))
  rw [← itemTest_ofBranch] at hsplice
  rw [itemTest_ofBranch, itemTest_ofBranch]
  simpa [argTest_resolved] using hsplice

theorem itemTest_law {t u : Item} (h : Item.Law t u) : itemTest names t = itemTest names u := by
  have hnegations (t : Item) : itemTest names (.not [.resolved (.not [.resolved t])]) = itemTest names t := by
    rw [itemTest_not, argTest_resolved, itemTest_not, argTest_resolved, Predicate.negate_negate]
  cases h with
  | distribute hb args => exact (itemTest_negations names hb args).symm
  | collect hb args => exact itemTest_negations names hb args
  | addNegations => exact (hnegations t).symm
  | dropNegations => exact hnegations u
  | splice hb before inner after => exact itemTest_splice names hb before inner after
  | group hb before inner after => exact (itemTest_splice names hb before inner after).symm

theorem itemTest_rewritten {t u : Item} (h : t.Rewritten u) : itemTest names t = itemTest names u := by
  induction h with
  | refl => rfl
  | trans _ _ ih ih' => exact ih.trans ih'
  | here h => exact itemTest_law names h
  | inside b before after _ ih =>
    rw [itemTest_ofBranch, itemTest_ofBranch, List.map_append, List.map_append, List.map_cons,
      List.map_cons, argTest_resolved, argTest_resolved, ih]

/-- What a tree that compiles is rewritten to compiles, and its predicate ends in the same way on every
datum. So do the predicates of the laws themselves, which call their members in the same order. -/
theorem item_rewritten (names : FieldNames) :
    (∀ (t u : Item) (p : Predicate), t.Rewritten u → item names t = .ok p →
      ∃ q, item names u = .ok q ∧ ∀ datum, q datum = p datum) ∧
    (∀ ps : List Predicate, Predicate.negate (.all ps) = .any (ps.map .negate) ∧
      Predicate.negate (.any ps) = .all (ps.map .negate)) ∧
    (∀ p : Predicate, Predicate.negate (.negate p) = p) ∧
    ∀ before inner after : List Predicate,
      Predicate.all (before ++ .all inner :: after) = .all (before ++ inner ++ after) ∧
      Predicate.any (before ++ .any inner :: after) = .any (before ++ inner ++ after) := by
  refine ⟨fun t u p h hp => ?_, fun ps => ⟨Predicate.negate_all ps, Predicate.negate_any ps⟩,
    Predicate.negate_negate, fun before inner after =>
      ⟨Predicate.all_splice before inner after, Predicate.any_splice before inner after⟩⟩
  obtain ⟨hcompilable, hholds⟩ := (item_eq_ok_iff names t p).1 hp
  have hu := h.compilable hcompilable
  have htest := itemTest_rewritten names h
  refine ⟨itemTest names u, (item_eq_ok_iff names u _).2 ⟨hu, fun datum => rfl⟩, fun datum => ?_⟩
  rw [← htest, hholds]
  rfl

end

/-- The port is a text, which is an error before and after the rewriting, and the protocol is not read. -/
theorem item_rewritten_port :
    let host : Item := .field "host" (.string "web")
    let port : Item := .field "port" (.number (.integer 443))
    let protocol : Item := .field "protocol" (.string "tcp")
    let t : Item := .not [.resolved (.and [.resolved host,
      .resolved (.and [.resolved port, .resolved (.not [.resolved protocol])])])]
    let u : Item := .or [.resolved (.not [.resolved host]), .resolved (.not [.resolved port]), .resolved protocol]
    let datum : Datum :=
      ⟨.json, none, fun name => if name = "host" then some (.string "web") else some (.string "https")⟩
    t.Rewritten u ∧ ∃ p q, item .empty t = .ok p ∧ item .empty u = .ok q ∧ (∀ datum, q datum = p datum) ∧
      p datum = .fail ⟨"port", "integer"⟩ := by
  intro host port protocol t u datum
  have hsplice := Item.Law.splice (b := .and) (by decide) [.resolved host]
    [.resolved port, .resolved (.not [.resolved protocol])] []
  have hdistribute := Item.Law.distribute (b := .and) (by decide)
    [.resolved host, .resolved port, .resolved (.not [.resolved protocol])]
  have hdrop := Item.Law.dropNegations protocol
  have h : t.Rewritten u :=
    .trans (.inside .not [] [] (.here hsplice)) (.trans (.here hdistribute)
      (.inside .or [.resolved (.not [.resolved host]), .resolved (.not [.resolved port])] [] (.here hdrop)))
  have hp : item .empty t = .ok (itemTest .empty t) := by
    rw [item_eq]
    rfl
  obtain ⟨q, hq, hsame⟩ := (item_rewritten .empty).1 t u _ h hp
  exact ⟨h, _, q, hp, hq, hsame, rfl⟩

end Compile

end EventRules
