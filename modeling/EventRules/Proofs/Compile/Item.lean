import EventRules.Compile.Item
import EventRules.Proofs.Condition.Holds

/-!
# Compilation of a tree

A tree compiles to the predicate that evaluates it, unless one of its nodes is at fault; then the first
such node in the order of `Item.nodes` makes the error (`item_eq`). So it compiles exactly if every node
fits (`item_eq_ok_iff`). Alternatives of a literal compile as a disjunction of tests of the same field
(`item_expansion`).
-/

namespace EventRules.Compile

open Condition

theorem checkArgs_eq (branch : Branch) (declared : Nat) (ps : List Predicate) :
    checkArgs branch declared ps =
      settle ((Item.arityFault? branch declared ps.length).map .ofFault) ps := by
  unfold checkArgs Item.arityFault?
  by_cases hd : ps.length = declared
  · cases ps <;> simp_all
    simp [← hd]
  · simp [hd]

theorem comparison?_eq (op : String) :
    comparison? op = if op ∈ [">", "<", ">=", "<="] then some (compares op) else none := by
  unfold comparison?
  split
  · simp; rfl
  · simp; rfl
  · simp; rfl
  · simp; rfl
  · simp_all

variable [PatternEngine] (names : FieldNames)

/-- The predicate of a test of a field, once it is made. -/
def literalTest (field : String) (l : Literal) : Predicate :=
  .ofTest fun datum => l.holds names datum field

/-- The predicate of a tree, once it is made. -/
def itemTest (t : Item) : Predicate :=
  .ofTest fun datum => t.holds names datum

theorem leaf_eq (field : String) {l : Literal} (h : ∀ ls, l ≠ .expansion ls) :
    (leaf names field l).mapError (fun fault => RuleError.ofFault (.leaf fault)) =
      settle (l.error? field) (literalTest names field l) := by
  cases l with
  | expansion ls => exact absurd rfl (h ls)
  | number n => cases n <;> rfl
  | regex text =>
    simp only [leaf, Literal.error?, Literal.fault?, literalTest, Literal.holds]
    cases PatternEngine.read text <;> rfl
  | cidr text =>
    simp only [leaf, Literal.error?, Literal.fault?, literalTest, Literal.holds]
    cases AddressBlock.read? text.toList <;> rfl
  | compare op n =>
    simp only [leaf, Literal.error?, Literal.fault?, literalTest, Literal.holds, comparison?_eq]
    by_cases hop : op ∈ [">", "<", ">=", "<="]
    · rw [if_pos hop, if_pos hop]; rfl
    · rw [if_neg hop, if_neg hop]; rfl
  | _ => rfl

/-- Apart from expansions a literal is compiled as a leaf. -/
theorem literal_scalar (field : String) {l : Literal} (h : ∀ ls, l ≠ .expansion ls) :
    literal names field l =
      (leaf names field l).mapError fun fault => RuleError.ofFault (.leaf fault) := by
  cases l with
  | expansion ls => exact absurd rfl (h ls)
  | _ => rfl

theorem literals_eq (field : String) (ls : List Literal) :
    literals names field ls = ls.mapM (literal names field) := by
  induction ls with
  | nil => rfl
  | cons l ls ih => rw [literals, ih, List.mapM_cons]

theorem error?_expansion (field : String) (ls : List Literal) :
    (Literal.expansion ls).error? field =
      (Item.arityFault? .or ls.length ls.length).map .ofFault := by
  cases ls <;> simp [Literal.error?, Literal.fault?, Item.arityFault?]

theorem literalTest_expansion (field : String) (ls : List Literal) :
    literalTest names field (.expansion ls) = Predicate.any (ls.map (literalTest names field)) := by
  unfold literalTest
  rw [Predicate.any_ofTest]
  simp only [Literal.holds_expansion]

/-- A test of a field fails to compile at the first of its parts that is at fault. -/
theorem literal_eq (field : String) (l : Literal) :
    literal names field l =
      settle (l.parts.findSome? (Literal.error? field)) (literalTest names field l) := by
  induction l using Literal.induct with
  | scalar l h =>
    rw [literal_scalar names field h, leaf_eq names field h, Literal.parts_scalar h,
      List.findSome?_singleton]
  | expansion ls ih =>
    rw [literal, literals_eq, mapM_settle ih]
    simp only [checkArgs_eq, settle_bind_pure]
    rw [settle_bind, Literal.parts_expansion, List.findSome?_append, List.findSome?_singleton,
      error?_expansion, literalTest_expansion, List.length_map]

theorem args_eq (as : List Arg) : args names as = (children as).mapM (item names) := by
  induction as with
  | nil => rfl
  | cons a as ih =>
    cases a with
    | unresolved name => rw [args, ih, children_unresolved]
    | resolved t => rw [args, ih, children_resolved, List.mapM_cons]

/-- The children that a branch is made of, once their number is known to be right. -/
theorem args_checked (branch : Branch) (as : List Arg)
    (h : ∀ t, .resolved t ∈ as →
      item names t = settle (t.nodes.findSome? Item.error?) (itemTest names t)) :
    (args names as >>= checkArgs branch as.length) =
      settle ((((children as).flatMap Item.nodes).findSome? Item.error?).or
          ((Item.arityFault? branch as.length (children as).length).map .ofFault))
        ((children as).map (itemTest names)) := by
  have hargs := mapM_settle fun t ht => h t (mem_children.1 ht)
  rw [args_eq, hargs, funext (checkArgs_eq branch as.length), settle_bind, List.length_map]

/-- If all arguments are items, their tests say what the arguments do. -/
theorem map_holds_children {as : List Arg} (h : AllResolved as) (datum : Datum) :
    (children as).map (Item.holds names datum) = as.map (Arg.holds names datum) := by
  conv_rhs => rw [h.eq_map]
  rw [List.map_map]; rfl

theorem all_itemTest {as : List Arg} (h : AllResolved as) :
    Predicate.all ((children as).map (itemTest names)) = itemTest names (.and as) := by
  unfold itemTest
  rw [Predicate.all_ofTest]
  simp only [Item.holds_and, ← map_holds_children names h]

theorem any_itemTest {as : List Arg} (h : AllResolved as) :
    Predicate.any ((children as).map (itemTest names)) = itemTest names (.or as) := by
  unfold itemTest
  rw [Predicate.any_ofTest]
  simp only [Item.holds_or, ← map_holds_children names h]

theorem negate_itemTest (t : Item) :
    Predicate.negate (itemTest names t) = itemTest names (.not [.resolved t]) := by
  unfold itemTest
  rw [Predicate.negate_ofTest]
  simp only [Item.holds_not]
  rfl

/-- A branch fails at the first error among its children, else for their number. -/
theorem branch_eq (branch : Branch) (as : List Arg) {t : Item} (value : List Predicate → Predicate)
    (hnodes : t.nodes = (children as).flatMap Item.nodes ++ [t])
    (herror : t.error? = (Item.arityFault? branch as.length (children as).length).map .ofFault)
    (htest : AllResolved as → value ((children as).map (itemTest names)) = itemTest names t)
    (h : ∀ t, .resolved t ∈ as →
      item names t = settle (t.nodes.findSome? Item.error?) (itemTest names t)) :
    (do return value (← checkArgs branch as.length (← args names as))) =
      settle (t.nodes.findSome? Item.error?) (itemTest names t) := by
  have hfault : t.nodes.findSome? Item.error? =
      (((children as).flatMap Item.nodes).findSome? Item.error?).or
        ((Item.arityFault? branch as.length (children as).length).map .ofFault) := by
    rw [hnodes, List.findSome?_append, List.findSome?_singleton, herror]
  rw [← bind_assoc, args_checked names branch as h, settle_bind_pure, hfault]
  refine settle_congr fun hnone => htest ?_
  have harity := (Option.or_eq_none_iff.1 hnone).2
  rw [Option.map_eq_none_iff, Item.arityFault?_eq_none_iff] at harity
  exact harity.2

/-- A negation is a branch whose children have to be one besides. -/
theorem not_eq (as : List Arg)
    (h : ∀ t, .resolved t ∈ as →
      item names t = settle (t.nodes.findSome? Item.error?) (itemTest names t)) :
    item names (.not as) =
      settle ((Item.not as).nodes.findSome? Item.error?) (itemTest names (.not as)) := by
  have herror : (Item.not as).error? =
      ((Item.arityFault? .not as.length (children as).length).map RuleError.ofFault).or
        (if as.length = 1 then none else some (.ofFault (.arity .not 1 as.length))) := by
    by_cases h1 : as.length = 1 <;> simp [Item.error?, Item.fault?, h1]
  rw [item, ← bind_assoc, args_checked names .not as h, Item.nodes_not, List.findSome?_append,
    List.findSome?_singleton, herror, ← Option.or_assoc]
  cases hfault : (((children as).flatMap Item.nodes).findSome? Item.error?).or
      ((Item.arityFault? .not as.length (children as).length).map .ofFault) with
  | some e => rfl
  | none =>
    have harity := (Option.or_eq_none_iff.1 hfault).2
    rw [Option.map_eq_none_iff, Item.arityFault?_eq_none_iff] at harity
    have hlength := length_children_eq_iff.2 harity.2
    rw [settle_none, Except.ok_bind, Option.none_or, ← hlength]
    -- All children are there and there are some: what is left is whether there is only one.
    rcases hchildren : children as with _ | ⟨t, _ | ⟨u, rest⟩⟩
    · exact absurd (List.eq_nil_of_length_eq_zero (hlength ▸ by rw [hchildren]; rfl)) harity.1
    · have has : as = [.resolved t] := by rw [harity.2.eq_map, hchildren]; rfl
      subst has
      exact congrArg Except.ok (negate_itemTest names t)
    · simp [settle]

/-- A tree compiles to its test, unless a node is at fault: then the first one decides. -/
theorem item_eq (t : Item) :
    item names t = settle (t.nodes.findSome? Item.error?) (itemTest names t) := by
  induction t using Item.induct with
  | and as ih =>
    rw [item, branch_eq names .and as .all (Item.nodes_and as) rfl (all_itemTest names) ih]
  | or as ih =>
    rw [item, branch_eq names .or as .any (Item.nodes_or as) rfl (any_itemTest names) ih]
  | not as ih => exact not_eq names as ih
  | field name value =>
    have herror : (Item.field name value).error? =
        value.parts.findSome? (Literal.error? name) := List.map_findSome?
    rw [item, literal_eq, Item.nodes_field, List.findSome?_singleton, herror]
    rfl
  | keyword value => rfl
  | identifier name => rfl

theorem args_map_field (field : String) (ls : List Literal) :
    args names (ls.map fun l => .resolved (.field field l)) = literals names field ls := by
  induction ls with
  | nil => rfl
  | cons l ls ih => rw [List.map_cons, args, ih, item, literals]

/-- A test of a field against alternatives is the disjunction of the tests against each of them. -/
theorem item_expansion (field : String) (ls : List Literal) :
    item names (.field field (.expansion ls)) =
      item names (.or (ls.map fun l => .resolved (.field field l))) := by
  rw [item, item, literal, args_map_field, List.length_map]

/-- A tree compiles exactly if all of its nodes fit, and then to the predicate that evaluates it. -/
theorem item_eq_ok_iff (t : Item) (p : Predicate) :
    item names t = .ok p ↔ t.Compilable ∧ ∀ datum, p datum = .ofExcept (t.holds names datum) := by
  rw [item_eq, settle_eq_ok_iff, ← Item.compilable_iff_error?]
  refine and_congr_right fun _ => ?_
  exact ⟨fun h datum => by rw [← h]; rfl, fun h => funext fun datum => (h datum).symm⟩

/-- Conditions compile one after the other to the test whether any of them holds. -/
theorem items_outcome (ts : List Item) :
    (items names ts).outcome =
      settle ((ts.flatMap Item.nodes).findSome? Item.error?)
        (.ofTest fun datum => Verdict.any (ts.map (Item.holds names datum))) := by
  have hone (t : Item) : itemTest names t =
      .ofTest fun datum => Verdict.any [t.holds names datum] := by
    simp only [Verdict.any_singleton]; rfl
  have hitems := mapM_settle fun t (_ : t ∈ ts) => item_eq names t
  simp only [items, Run.bind_outcome, Run.ofExcept_outcome, Run.log_outcome, hitems]
  cases (ts.flatMap Item.nodes).findSome? Item.error? with
  | some e => rfl
  | none =>
    match ts with
    | [] => rfl
    | [t] => exact congrArg Except.ok (hone t)
    | t :: u :: rest => exact congrArg Except.ok (Predicate.any_ofTest _ (t :: u :: rest))

theorem findSome?_error?_eq_none_iff {ts : List Item} :
    (ts.flatMap Item.nodes).findSome? Item.error? = none ↔ ∀ t ∈ ts, t.Compilable := by
  simp only [List.findSome?_eq_none_iff, List.mem_flatMap, Item.error?_eq_none_iff]
  exact ⟨fun h t ht node hnode => h node ⟨t, ht, hnode⟩,
    fun h node ⟨t, ht, hnode⟩ => h t ht node hnode⟩

variable {names} {ts : List Item}

theorem items_eq_ok_iff {p : Predicate} : (items names ts).outcome = .ok p ↔
    (∀ t ∈ ts, t.Compilable) ∧
      .ofTest (fun datum => Verdict.any (ts.map (Item.holds names datum))) = p := by
  rw [items_outcome, settle_eq_ok_iff, findSome?_error?_eq_none_iff]

theorem exists_items_iff : (∃ p, (items names ts).outcome = .ok p) ↔ ∀ t ∈ ts, t.Compilable := by
  simp only [items_eq_ok_iff]
  exact ⟨fun ⟨_, hts, _⟩ => hts, fun hts => ⟨_, hts, rfl⟩⟩

end EventRules.Compile
