import EventRules.Condition.Tree
import EventRules.Network.Block
import EventRules.PatternEngine
import EventRules.Rule.Error

/-!
# The nodes of a condition tree

`Item.nodes` lists the items of a tree and `Literal.parts` the literals of an expansion, both with the
parts before the whole. `Item.Fits` says of one node, whatever is below it, that it can be compiled; a
tree is `Item.Compilable` if all of its nodes fit. `Item.fault?` is the other side: what is wrong with
a node whose children are fine (`Item.fault?_eq_none_iff`).
-/

namespace EventRules.Condition

namespace Literal

/-- Induction over literals, with all alternatives of an expansion at once. -/
@[elab_as_elim]
theorem induct {P : Literal → Prop} (scalar : ∀ l, (∀ ls, l ≠ .expansion ls) → P l)
    (expansion : ∀ ls, (∀ l ∈ ls, P l) → P (.expansion ls)) : ∀ l, P l
  | .expansion ls => expansion ls fun l hl =>
    have := List.sizeOf_lt_of_mem hl
    induct scalar expansion l
  | .string _ | .boolean _ | .number _ | .null | .regex _ | .cidr _ | .compare _ _ =>
    scalar _ (by simp)
  termination_by l => sizeOf l
  decreasing_by simp; omega

mutual

/-- The literals that a literal is made of, alternatives before the expansion that holds them. -/
def parts : Literal → List Literal
  | expansion alternatives => partsOf alternatives ++ [expansion alternatives]
  | l => [l]

def partsOf : List Literal → List Literal
  | [] => []
  | l :: rest => l.parts ++ partsOf rest

end

theorem partsOf_eq (ls : List Literal) : partsOf ls = ls.flatMap parts := by
  induction ls with
  | nil => rfl
  | cons l ls ih => rw [partsOf, ih, List.flatMap_cons]

@[simp] theorem parts_expansion (ls : List Literal) :
    (expansion ls).parts = ls.flatMap parts ++ [expansion ls] := by
  rw [parts, partsOf_eq]

theorem parts_scalar {l : Literal} (h : ∀ ls, l ≠ expansion ls) : l.parts = [l] := by
  cases l with
  | expansion ls => exact absurd rfl (h ls)
  | _ => rfl

section
variable [PatternEngine]

/-- The literal can be tested, if all of its alternatives can. -/
def Fits : Literal → Prop
  | regex pattern => (PatternEngine.read pattern).isOk
  | cidr block => (AddressBlock.read? block.toList).isSome
  | compare op _ => op ∈ [">", "<", ">=", "<="]
  | expansion alternatives => alternatives ≠ []
  | _ => True

/-- What is wrong with a literal by itself, as a test of a field. -/
def fault? (field : String) : Literal → Option RuleFault
  | regex pattern =>
    match PatternEngine.read pattern with
    | .ok _ => none
    | .error reason => some (.leaf (.invalidPattern pattern field reason))
  | cidr block =>
    if (AddressBlock.read? block.toList).isSome then none else some (.leaf (.invalidBlock block))
  | compare op _ =>
    if op ∈ [">", "<", ">=", "<="] then none else some (.leaf (.unknownOperator op field))
  | expansion [] => some (.noPredicates .or)
  | _ => none

theorem fault?_eq_none_iff (field : String) (l : Literal) : l.fault? field = none ↔ l.Fits := by
  cases l with
  | expansion ls => cases ls <;> simp [fault?, Fits]
  | regex _ | cidr _ | compare _ _ => rw [fault?, Fits]; split <;> simp_all [Except.isOk, Except.toBool]
  | _ => simp [fault?, Fits]

/-- The error that a literal makes by itself, as a test of a field. -/
def error? (field : String) (l : Literal) : Option RuleError :=
  (l.fault? field).map .ofFault

end

end Literal

/-- The argument is an item. -/
def Arg.item? : Arg → Option Item
  | .resolved item => some item
  | .unresolved _ => none

/-- The children that stand for something. -/
def children (args : List Arg) : List Item :=
  args.filterMap Arg.item?

@[simp] theorem children_nil : children [] = [] := rfl

@[simp] theorem children_resolved (t : Item) (args : List Arg) :
    children (.resolved t :: args) = t :: children args := rfl

@[simp] theorem children_unresolved (name : String) (args : List Arg) :
    children (.unresolved name :: args) = children args := rfl

theorem mem_children {t : Item} {args : List Arg} : t ∈ children args ↔ .resolved t ∈ args := by
  simp only [children, List.mem_filterMap]
  constructor
  · rintro ⟨_ | _, h, ht⟩ <;> simp_all [Arg.item?]
  · exact fun h => ⟨_, h, rfl⟩

/-- Every argument is an item. -/
def AllResolved (args : List Arg) : Prop :=
  ∀ a ∈ args, ∃ t, a = .resolved t

theorem allResolved_map (items : List Item) : AllResolved (items.map .resolved) := by
  intro a ha
  obtain ⟨t, -, rfl⟩ := List.mem_map.1 ha
  exact ⟨t, rfl⟩

theorem AllResolved.eq_map {args : List Arg} (h : AllResolved args) :
    args = (children args).map .resolved := by
  induction args with
  | nil => rfl
  | cons a args ih =>
    obtain ⟨t, rfl⟩ := h a (by simp)
    rw [children_resolved, List.map_cons, ← ih fun b hb => h b (by simp [hb])]

theorem AllResolved.and_forall_iff {args : List Arg} {P : Item → Prop} :
    AllResolved args ∧ (∀ t, .resolved t ∈ args → P t) ↔ ∀ a ∈ args, ∃ t, a = .resolved t ∧ P t := by
  constructor
  · rintro ⟨hr, h⟩ a ha
    obtain ⟨t, rfl⟩ := hr a ha
    exact ⟨t, rfl, h t ha⟩
  · intro h
    refine ⟨fun a ha => ?_, fun t ht => ?_⟩
    · obtain ⟨t, rfl, -⟩ := h a ha
      exact ⟨t, rfl⟩
    · obtain ⟨u, hu, hP⟩ := h _ ht
      obtain rfl := Arg.resolved.inj hu
      exact hP

theorem length_children_le (args : List Arg) : (children args).length ≤ args.length :=
  List.length_filterMap_le _ _

theorem length_children_eq_iff {args : List Arg} :
    (children args).length = args.length ↔ AllResolved args := by
  constructor
  · intro h
    induction args with
    | nil => simp [AllResolved]
    | cons a args ih =>
      cases a with
      | resolved t =>
        have hrest := ih (by simpa using h)
        simpa [AllResolved] using hrest
      | unresolved name =>
        have := length_children_le args
        simp at h; omega
  · intro h
    have := congrArg List.length h.eq_map
    simpa using this.symm

namespace Item

/-- Induction over trees, with all children of a branch at once. -/
@[elab_as_elim]
theorem induct {P : Item → Prop} (and : ∀ args, (∀ t, .resolved t ∈ args → P t) → P (.and args))
    (or : ∀ args, (∀ t, .resolved t ∈ args → P t) → P (.or args))
    (not : ∀ args, (∀ t, .resolved t ∈ args → P t) → P (.not args))
    (field : ∀ name value, P (.field name value)) (keyword : ∀ value, P (.keyword value))
    (identifier : ∀ name, P (.identifier name)) : ∀ t, P t
  | .and args => and args fun t ht =>
    have := List.sizeOf_lt_of_mem ht
    induct and or not field keyword identifier t
  | .or args => or args fun t ht =>
    have := List.sizeOf_lt_of_mem ht
    induct and or not field keyword identifier t
  | .not args => not args fun t ht =>
    have := List.sizeOf_lt_of_mem ht
    induct and or not field keyword identifier t
  | .field name value => field name value
  | .keyword value => keyword value
  | .identifier name => identifier name
  termination_by t => sizeOf t
  decreasing_by all_goals simp_all; omega

mutual

/-- The items of a tree: the children of a branch from left to right, then the branch. A child that
stands for nothing has none. -/
def nodes : Item → List Item
  | .and args => nodesOf args ++ [.and args]
  | .or args => nodesOf args ++ [.or args]
  | .not args => nodesOf args ++ [.not args]
  | leaf => [leaf]

def nodesOf : List Arg → List Item
  | [] => []
  | .resolved t :: rest => t.nodes ++ nodesOf rest
  | .unresolved _ :: rest => nodesOf rest

end

theorem nodesOf_eq (args : List Arg) : nodesOf args = (children args).flatMap nodes := by
  induction args with
  | nil => rfl
  | cons a args ih => cases a <;> simp [nodesOf, ih]

@[simp] theorem nodes_and (args : List Arg) :
    (Item.and args).nodes = (children args).flatMap nodes ++ [.and args] := by
  rw [nodes, nodesOf_eq]

@[simp] theorem nodes_or (args : List Arg) :
    (Item.or args).nodes = (children args).flatMap nodes ++ [.or args] := by
  rw [nodes, nodesOf_eq]

@[simp] theorem nodes_not (args : List Arg) :
    (Item.not args).nodes = (children args).flatMap nodes ++ [.not args] := by
  rw [nodes, nodesOf_eq]

@[simp] theorem nodes_field (name : String) (value : Literal) :
    (field name value).nodes = [field name value] := rfl

@[simp] theorem nodes_keyword (value : Literal) : (keyword value).nodes = [keyword value] := rfl

@[simp] theorem nodes_identifier (name : String) : (identifier name).nodes = [identifier name] := rfl

/-- A leaf of the tree tests the field against the literal, alone or among alternatives. -/
def Tests (t : Item) (field : String) (l : Literal) : Prop :=
  ∃ value, .field field value ∈ t.nodes ∧ l ∈ value.parts ∧ ∀ ls, l ≠ .expansion ls

section
variable {P : Item → Prop}

/-- What holds of all nodes of a branch holds of those of its children and of the branch itself. -/
theorem forall_nodes_iff {t : Item} {args : List Arg}
    (hnodes : t.nodes = (children args).flatMap nodes ++ [t]) :
    (∀ node ∈ t.nodes, P node) ↔ (∀ c, .resolved c ∈ args → ∀ node ∈ c.nodes, P node) ∧ P t := by
  rw [hnodes]
  constructor
  · intro h
    refine ⟨fun c hc node hnode => h node ?_, h t (by simp)⟩
    exact List.mem_append_left _ (List.mem_flatMap.2 ⟨c, mem_children.2 hc, hnode⟩)
  · rintro ⟨hchildren, ht⟩ node hnode
    rcases List.mem_append.1 hnode with hnode | hnode
    · obtain ⟨c, hc, hnode⟩ := List.mem_flatMap.1 hnode
      exact hchildren c (mem_children.1 hc) node hnode
    · obtain rfl := List.mem_singleton.1 hnode
      exact ht

theorem mem_nodes_of_child {t c node : Item} {args : List Arg}
    (hnodes : t.nodes = (children args).flatMap nodes ++ [t]) (hc : .resolved c ∈ args)
    (hnode : node ∈ c.nodes) : node ∈ t.nodes := by
  rw [hnodes]
  exact List.mem_append_left _ (List.mem_flatMap.2 ⟨c, mem_children.2 hc, hnode⟩)

/-- What holds of a branch of several children that are all there holds of joined items if it does of
each. -/
theorem forall_nodes_join_iff {wrap : List Arg → Item} {items : List Item}
    (hnodes : ∀ args, (wrap args).nodes = (children args).flatMap nodes ++ [wrap args])
    (hwrap : ∀ args, 2 ≤ args.length → AllResolved args → P (wrap args)) (hne : items ≠ []) :
    (∀ node ∈ (join wrap items).nodes, P node) ↔ ∀ t ∈ items, ∀ node ∈ t.nodes, P node := by
  match items, hne with
  | [t], _ => simp [join]
  | t :: u :: rest, _ =>
    have hself := hwrap ((t :: u :: rest).map .resolved) (by simp) (allResolved_map _)
    have hjoin : join wrap (t :: u :: rest) = wrap ((t :: u :: rest).map .resolved) := by
      simp [join]
    rw [hjoin, forall_nodes_iff (hnodes _), and_iff_left hself]
    simp only [List.mem_map, Arg.resolved.injEq, exists_eq_right]

end

/-- What is wrong with the number of children of a branch, of which `found` stand for something. -/
def arityFault? (branch : Branch) (declared found : Nat) : Option RuleFault :=
  if found ≠ declared then some (.arity branch declared found)
  else if declared = 0 then some (.noPredicates branch)
  else none

theorem arityFault?_eq_none_iff {branch : Branch} {args : List Arg} :
    arityFault? branch args.length (children args).length = none ↔ args ≠ [] ∧ AllResolved args := by
  rw [← length_children_eq_iff, ne_eq, ← List.length_eq_zero_iff]
  unfold arityFault?
  by_cases hf : (children args).length = args.length
  · by_cases hd : args.length = 0 <;> simp [hf, hd]
  · simp [hf]

variable [PatternEngine]

/-- The node can be compiled, if its children can. -/
def Fits : Item → Prop
  | and args => args ≠ [] ∧ AllResolved args
  | or args => args ≠ [] ∧ AllResolved args
  | not args => ∃ t, args = [.resolved t]
  | field _ value => ∀ part ∈ value.parts, part.Fits
  | keyword _ => False
  | identifier _ => False

/-- Every node of the tree fits. -/
def Compilable (t : Item) : Prop :=
  ∀ node ∈ t.nodes, node.Fits

/-- What is wrong with a node by itself. A keyword is not wrong but unsupported. -/
def fault? : Item → Option RuleFault
  | and args => arityFault? .and args.length (children args).length
  | or args => arityFault? .or args.length (children args).length
  | not args =>
    (arityFault? .not args.length (children args).length).or
      (if args.length = 1 then none else some (.arity .not 1 args.length))
  | field name value => value.parts.findSome? (Literal.fault? name)
  | keyword _ => none
  | identifier name => some (.reference name)

/-- The error that a node makes by itself. -/
def error? : Item → Option RuleError
  | keyword _ => some (.unsupported .keyword)
  | node => node.fault?.map .ofFault

theorem error?_eq_none_iff (node : Item) : node.error? = none ↔ node.Fits := by
  cases node with
  | and args => simp [error?, fault?, Fits, arityFault?_eq_none_iff]
  | or args => simp [error?, fault?, Fits, arityFault?_eq_none_iff]
  | not args =>
    have hone : (args ≠ [] ∧ AllResolved args) ∧ args.length = 1 ↔ ∃ t, args = [.resolved t] := by
      constructor
      · rintro ⟨⟨-, hr⟩, h⟩
        obtain ⟨a, rfl⟩ := List.length_eq_one_iff.1 h
        obtain ⟨t, rfl⟩ := hr a (by simp)
        exact ⟨t, rfl⟩
      · rintro ⟨t, rfl⟩
        exact ⟨⟨by simp, allResolved_map [t]⟩, rfl⟩
    simp [error?, fault?, Fits, arityFault?_eq_none_iff, ← hone]
  | field name value => simp [error?, fault?, Fits, Literal.fault?_eq_none_iff]
  | keyword value => simp [error?, Fits]
  | identifier name => simp [error?, fault?, Fits]

/-- A branch can be compiled if it has children, all of them stand for something and can be. -/
theorem compilable_branch {t : Item} {args : List Arg}
    (hnodes : t.nodes = (children args).flatMap nodes ++ [t])
    (hfits : t.Fits ↔ args ≠ [] ∧ AllResolved args) :
    t.Compilable ↔ args ≠ [] ∧ ∀ a ∈ args, ∃ t, a = .resolved t ∧ t.Compilable := by
  unfold Compilable
  rw [forall_nodes_iff hnodes, hfits, and_comm, and_assoc]
  exact and_congr_right fun _ => AllResolved.and_forall_iff

theorem compilable_and {args : List Arg} :
    (Item.and args).Compilable ↔ args ≠ [] ∧ ∀ a ∈ args, ∃ t, a = .resolved t ∧ t.Compilable :=
  compilable_branch (nodes_and args) Iff.rfl

theorem compilable_or {args : List Arg} :
    (Item.or args).Compilable ↔ args ≠ [] ∧ ∀ a ∈ args, ∃ t, a = .resolved t ∧ t.Compilable :=
  compilable_branch (nodes_or args) Iff.rfl

theorem compilable_not {a : Arg} :
    (Item.not [a]).Compilable ↔ ∃ t, a = .resolved t ∧ t.Compilable := by
  unfold Compilable
  rw [forall_nodes_iff (nodes_not [a]), Fits]
  simp only [List.mem_singleton, List.cons.injEq, and_true]
  constructor
  · rintro ⟨h, t, rfl⟩
    exact ⟨t, rfl, h t rfl⟩
  · rintro ⟨t, rfl, h⟩
    exact ⟨by rintro _ ⟨⟩; exact h, t, rfl⟩

theorem compilable_join_or {items : List Item} (hne : items ≠ []) :
    (join .or items).Compilable ↔ ∀ t ∈ items, t.Compilable :=
  forall_nodes_join_iff nodes_or (fun _ h2 hr => ⟨List.ne_nil_of_length_pos (by omega), hr⟩) hne

theorem compilable_join_and {items : List Item} (hne : items ≠ []) :
    (join .and items).Compilable ↔ ∀ t ∈ items, t.Compilable :=
  forall_nodes_join_iff nodes_and (fun _ h2 hr => ⟨List.ne_nil_of_length_pos (by omega), hr⟩) hne

theorem compilable_iff_error? (t : Item) : t.Compilable ↔ t.nodes.findSome? error? = none := by
  simp [Compilable, List.findSome?_eq_none_iff, error?_eq_none_iff]

end Item

end EventRules.Condition
