import EventRules.Pattern
import EventRules.Proofs.Compile.Item
import EventRules.Proofs.Condition.Reordered
import EventRules.Proofs.Condition.Resolve

/-!
# Compilation of what is resolved

The tree of a condition is tidy (`resolveArg_tidy`), unless the condition is nothing but a name that is
not declared (`resolveArg_unresolved`). What is missing in it are the names among the operands that are
not declared, in their order (`resolveArg_dangling`). So compilation has few errors to make: that of a
missing name, of a keyword, or of a pattern or an address block that is not valid (`node_rejected`).
-/

namespace EventRules

namespace Condition

/-! ### Missing children -/

def Arg.missing : Arg → List String
  | .resolved _ => []
  | .unresolved name => [name]

namespace Item

def args : Item → List Arg
  | and args => args
  | or args => args
  | not args => args
  | _ => []

/-- The names that stand for nothing among the children of branches. -/
def dangling (t : Item) : List String :=
  t.nodes.flatMap fun node => node.args.flatMap Arg.missing

variable {t : Item} {args : List Arg} {name : String}

theorem args_ofBranch (b : Branch) (args : List Arg) : (ofBranch b args).args = args := by
  cases b <;> rfl

theorem dangling_ofBranch (b : Branch) (args : List Arg) :
    (ofBranch b args).dangling = (children args).flatMap dangling ++ args.flatMap Arg.missing := by
  unfold dangling
  rw [nodes_ofBranch, List.flatMap_append, List.flatMap_assoc, List.flatMap_singleton, args_ofBranch]

theorem mem_dangling {b : Branch} (hnode : ofBranch b args ∈ t.nodes) (hname : .unresolved name ∈ args) :
    name ∈ t.dangling := by
  refine List.mem_flatMap.2 ⟨_, hnode, ?_⟩
  rw [args_ofBranch]
  exact List.mem_flatMap.2 ⟨_, hname, List.mem_singleton_self name⟩

theorem flatMap_missing_of_allResolved (h : AllResolved args) : args.flatMap Arg.missing = [] := by
  refine List.flatMap_eq_nil_iff.2 fun a ha => ?_
  obtain ⟨t, rfl⟩ := h a ha
  rfl

theorem Formed.dangling_eq_nil (h : t.Formed) : t.dangling = [] := by
  refine List.flatMap_eq_nil_iff.2 fun node hnode => ?_
  have hshape := h node hnode
  cases node with
  | and args => exact flatMap_missing_of_allResolved hshape.2
  | or args => exact flatMap_missing_of_allResolved hshape.2
  | not args =>
    obtain ⟨t, rfl⟩ := hshape
    rfl
  | _ => rfl

end Item

namespace Expr

def operands : Expr → List Expr
  | and es => es
  | or es => es
  | not e => [e]
  | _ => []

def names : Expr → List String
  | identifier name => [name]
  | _ => []

/-- The names that are operands. -/
def references (e : Expr) : List String :=
  e.nodes.flatMap fun node => node.operands.flatMap names

theorem nodes_operands (e : Expr) : e.nodes = e.operands.flatMap nodes ++ [e] := by
  cases e <;> simp [operands]

theorem references_operands (e : Expr) :
    e.references = e.operands.flatMap references ++ e.operands.flatMap names := by
  unfold references
  conv_lhs => rw [nodes_operands]
  rw [List.flatMap_append, List.flatMap_assoc, List.flatMap_singleton]

/-- Induction over expressions, with all operands at once. -/
theorem induct_operands {P : Expr → Prop} (h : ∀ e, (∀ operand ∈ e.operands, P operand) → P e) :
    ∀ e, P e := by
  intro e
  induction e using Expr.induct with
  | and es ih => exact h _ ih
  | or es ih => exact h _ ih
  | not e ih => exact h _ (by simpa [operands] using ih)
  | identifier | oneOf | allOf => exact h _ (by simp [operands])

theorem Formed.operands {e : Expr} (h : e.Formed) : e.WellShaped ∧ ∀ operand ∈ e.operands, operand.Formed := by
  obtain ⟨hoperands, he⟩ := (forall_nodes_iff (nodes_operands e)).1 h
  exact ⟨he, hoperands⟩

end Expr

variable {detections : DetectionSet}

theorem resolveName_missing {name : String} {a : Arg} (h : resolveName detections name = .ok a) :
    a.missing = [name].filter (· ∉ detections.names) := by
  unfold resolveName at h
  cases hname : detections.resolve? name with
  | none =>
    have hmem : name ∉ detections.names := by
      rw [DetectionSet.mem_names_iff, Option.map_eq_none_iff.1 hname]
      exact Bool.false_ne_true
    obtain rfl : .unresolved name = a := by simpa [hname] using h
    simp [Arg.missing, hmem]
  | some item =>
    have hmem : name ∈ detections.names := by
      obtain ⟨body, hbody, -⟩ := Option.map_eq_some_iff.1 hname
      rw [DetectionSet.mem_names_iff, hbody]
      rfl
    rw [hname] at h
    obtain ⟨t, -, rfl⟩ := Except.map_eq_ok_iff.1 h
    simp [Arg.missing, hmem]

/-- What is missing in the place of an operand is the operand, if that is a name that is not declared. -/
theorem resolveArg_missing {e : Expr} {a : Arg} (h : resolveArg detections e = .ok a) :
    a.missing = e.names.filter (· ∉ detections.names) := by
  cases e with
  | identifier name => exact resolveName_missing h
  | _ =>
    obtain ⟨_, -, h⟩ := Except.bind_eq_ok_iff.1 h
    obtain rfl := Except.ok.inj h
    rfl

theorem resolveArg_unresolved {e : Expr} {name : String}
    (h : resolveArg detections e = .ok (.unresolved name)) :
    e = .identifier name ∧ name ∉ detections.names := by
  have hmissing : [name] = e.names.filter (· ∉ detections.names) := resolveArg_missing h
  have hmem : name ∈ e.names.filter (· ∉ detections.names) := by
    rw [← hmissing]
    exact List.mem_singleton_self name
  obtain ⟨hname, hundeclared⟩ := List.mem_filter.1 hmem
  refine ⟨?_, of_decide_eq_true hundeclared⟩
  cases e with
  | identifier other => rw [List.mem_singleton.1 hname]
  | _ => cases hname

theorem resolveName_whole {name : String} {t : Item} (h : resolveName detections name = .ok (.resolved t)) :
    t.Whole :=
  DetectionSet.resolve?_whole (resolveName_resolved_iff.1 h)

/-- A quantifier only selects names that are declared. -/
theorem quantify_whole {s : Selector} {wrap : List Arg → Item} {t : Item}
    (hwrap : ∀ {items : List Item}, items ≠ [] → (∀ t ∈ items, t.Whole) → (Item.join wrap items).Whole)
    (h : quantify detections s wrap = .ok t) : t.Whole := by
  obtain ⟨hne, as, has, rfl⟩ := quantify_eq_ok_iff.1 h
  have hnames := Except.mapM_eq_ok_iff.1 has
  refine hwrap (by simpa using hnames.ne_nil hne) fun t ht => ?_
  obtain ⟨a, ha, rfl⟩ := List.mem_map.1 ht
  obtain ⟨name, hname, hresolve⟩ := hnames.exists_of_mem_right ha
  cases a with
  | resolved t => exact resolveName_whole hresolve
  | unresolved missing =>
    have hmem : name ∈ detections.names := by
      cases s <;> exact List.mem_of_mem_filter hname
    have hmissing := resolveName_missing hresolve
    simp [Arg.missing, hmem] at hmissing

/-- A name is resolved by itself, a quantifier to detections that are there, and any other expression to
a branch with what its operands are resolved to. -/
theorem resolveArg_cases {e : Expr} {a : Arg} (h : resolveArg detections e = .ok a) :
    (∃ name, e = .identifier name ∧ resolveName detections name = .ok a) ∨
    (e.operands = [] ∧ ∃ t, a = .resolved t ∧ t.Whole) ∨
    ∃ b as, a = .resolved (Item.ofBranch b as) ∧ (e.WellShaped → (Item.ofBranch b as).Tidy) ∧
      List.Forall₂ (fun e a => resolveArg detections e = .ok a) e.operands as := by
  cases e with
  | identifier name => exact .inl ⟨name, rfl, h⟩
  | and es =>
    obtain ⟨as, has, h⟩ := Except.bind_eq_ok_iff.1 h
    rw [resolveArgs_eq, Except.mapM_eq_ok_iff] at has
    have htidy : 2 ≤ es.length → 2 ≤ as.length := fun h2 => has.length_eq ▸ h2
    exact .inr (.inr ⟨.and, as, (Except.ok.inj h).symm, htidy, has⟩)
  | or es =>
    obtain ⟨as, has, h⟩ := Except.bind_eq_ok_iff.1 h
    rw [resolveArgs_eq, Except.mapM_eq_ok_iff] at has
    have htidy : 2 ≤ es.length → 2 ≤ as.length := fun h2 => has.length_eq ▸ h2
    exact .inr (.inr ⟨.or, as, (Except.ok.inj h).symm, htidy, has⟩)
  | not e =>
    obtain ⟨b, hb, h⟩ := Except.bind_eq_ok_iff.1 h
    exact .inr (.inr ⟨.not, [b], (Except.ok.inj h).symm, fun _ => rfl, .cons hb .nil⟩)
  | oneOf s =>
    obtain ⟨t, ht, h⟩ := Except.bind_eq_ok_iff.1 h
    exact .inr (.inl ⟨rfl, t, (Except.ok.inj h).symm, quantify_whole Item.whole_join_or ht⟩)
  | allOf s =>
    obtain ⟨t, ht, h⟩ := Except.bind_eq_ok_iff.1 h
    exact .inr (.inl ⟨rfl, t, (Except.ok.inj h).symm, quantify_whole Item.whole_join_and ht⟩)

theorem resolveArg_tidy {e : Expr} {t : Item} (he : e.Formed)
    (h : resolveArg detections e = .ok (.resolved t)) : ∀ node ∈ t.nodes, node.Tidy := by
  induction e using Expr.induct_operands generalizing t with
  | h e ih =>
    rcases resolveArg_cases h with ⟨name, rfl, hname⟩ | ⟨-, u, hu, hwhole⟩ | ⟨b, as, ha, htidy, has⟩
    · exact fun node hnode => (resolveName_whole hname node hnode).1
    · obtain rfl := Arg.resolved.inj hu
      exact fun node hnode => (hwhole node hnode).1
    · obtain rfl := Arg.resolved.inj ha
      obtain ⟨hshape, hoperands⟩ := he.operands
      rw [Item.forall_nodes_iff (Item.nodes_ofBranch b as)]
      refine ⟨fun c hc => ?_, htidy hshape⟩
      obtain ⟨operand, hmem, hc⟩ := has.exists_of_mem_right hc
      exact ih operand hmem (hoperands operand hmem) hc

theorem flatMap_dangling_children (as : List Arg) :
    (children as).flatMap Item.dangling = as.flatMap (·.item.dangling) := by
  induction as with
  | nil => rfl
  | cons a as ih =>
    cases a with
    | resolved t => rw [children_resolved, List.flatMap_cons, List.flatMap_cons, ih]; rfl
    | unresolved name => rw [children_unresolved, List.flatMap_cons, ih]; rfl

/-- The names that are missing in a tree are those among the operands that are not declared. -/
theorem resolveArg_dangling {e : Expr} {a : Arg} (h : resolveArg detections e = .ok a) :
    a.item.dangling = e.references.filter (· ∉ detections.names) := by
  induction e using Expr.induct_operands generalizing a with
  | h e ih =>
    rcases resolveArg_cases h with ⟨name, rfl, hname⟩ | ⟨hnone, t, rfl, hwhole⟩ | ⟨b, as, rfl, -, has⟩
    · cases a with
      | resolved t => exact (resolveName_whole hname).formed.dangling_eq_nil
      | unresolved name => rfl
    · rw [Expr.references_operands, hnone]
      exact hwhole.formed.dangling_eq_nil
    · -- Branches and their expressions give first what is below, then the names among the operands.
      have hbelow := has.flatMap_eq_flatMap fun operand hmem a ha => (ih operand hmem ha).symm
      have hhere := has.flatMap_eq_flatMap fun operand _ a ha => (resolveArg_missing ha).symm
      rw [Arg.item, Item.dangling_ofBranch, flatMap_dangling_children, ← hbelow, ← hhere,
        Expr.references_operands, List.filter_append, List.filter_flatMap, List.filter_flatMap]

/-! ### Errors -/

section
variable [PatternEngine]

namespace Item

variable {t : Item} {e : RuleError}

/-- What is wrong with a branch that is tidy is that a child is missing. -/
theorem error?_ofBranch {b : Branch} {args : List Arg} (htidy : (ofBranch b args).Tidy)
    (h : (ofBranch b args).error? = some e) :
    (∃ name, .unresolved name ∈ args) ∧
      e = .ofFault (.arity b args.length (children args).length) := by
  have hmissing : ¬ AllResolved args := by
    intro hr
    have hfits : (ofBranch b args).Fits := by
      cases b with
      | and => exact ⟨List.ne_nil_of_length_pos (by have : 2 ≤ args.length := htidy; omega), hr⟩
      | or => exact ⟨List.ne_nil_of_length_pos (by have : 2 ≤ args.length := htidy; omega), hr⟩
      | not =>
        obtain ⟨a, rfl⟩ := List.length_eq_one_iff.1 htidy
        obtain ⟨t, rfl⟩ := hr a (by simp)
        exact ⟨t, rfl⟩
    rw [(error?_eq_none_iff _).2 hfits] at h
    cases h
  constructor
  · simp only [AllResolved, not_forall] at hmissing
    obtain ⟨a, ha, hnot⟩ := hmissing
    cases a with
    | resolved t => exact absurd ⟨t, rfl⟩ hnot
    | unresolved name => exact ⟨name, ha⟩
  · have hfound : (children args).length ≠ args.length := fun heq => hmissing (length_children_eq_iff.1 heq)
    cases b <;> simpa [ofBranch, error?, fault?, arityFault?, hfound, eq_comm] using h

end Item

/-- A single value that cannot be tested is a pattern or an address block. -/
theorem Literal.Simple.fault {l : Literal} {field : String} {fault : RuleFault} (h : l.Simple)
    (hfault : l.fault? field = some fault) :
    (∃ text reason, l = .regex text ∧ PatternEngine.read text = .error reason ∧
      fault = .leaf (.invalidPattern text field reason)) ∨
    ∃ text, l = .cidr text ∧ AddressBlock.read? text.toList = none ∧ fault = .leaf (.invalidBlock text) := by
  cases l with
  | regex text =>
    rw [Literal.fault?] at hfault
    split at hfault
    case h_1 => cases hfault
    case h_2 reason hread => exact .inl ⟨text, reason, rfl, hread, (Option.some.inj hfault).symm⟩
  | cidr text =>
    rw [Literal.fault?] at hfault
    split_ifs at hfault with hread
    exact .inr ⟨text, rfl, by simpa using hread, (Option.some.inj hfault).symm⟩
  | compare op n =>
    have hop : op ∈ [">", "<", ">=", "<="] := h
    rw [Literal.fault?, if_pos hop] at hfault
    cases hfault
  | expansion ls => exact absurd h id
  | _ => cases hfault

end

end Condition

namespace Compile

open Condition

section
variable [PatternEngine]

/-- How a tree fails to compile: for a name that is not declared, be it all of the tree or the child of a
branch, for a keyword, for a pattern that the engine refuses, or for an address block that is not valid. -/
inductive Rejected (declared : List String) (t : Item) : RuleError → Prop
  | reference {name : String} (hname : name ∉ declared) (ht : t = .identifier name) :
    Rejected declared t (.ofFault (.reference name))
  | missing {b : Branch} {args : List Arg} {name : String} (hnode : Item.ofBranch b args ∈ t.nodes)
    (hchild : .unresolved name ∈ args) (hname : name ∉ declared) :
    Rejected declared t (.ofFault (.arity b args.length (children args).length))
  | keyword {value : Literal} (hnode : .keyword value ∈ t.nodes) :
    Rejected declared t (.unsupported .keyword)
  | pattern {field text reason : String} (htest : t.Tests field (.regex text))
    (hread : PatternEngine.read text = .error reason) :
    Rejected declared t (.ofFault (.leaf (.invalidPattern text field reason)))
  | block {field text : String} (htest : t.Tests field (.cidr text))
    (hread : AddressBlock.read? text.toList = none) :
    Rejected declared t (.ofFault (.leaf (.invalidBlock text)))

theorem node_rejected {declared : List String} {t node : Item} {error : RuleError}
    (hdeclared : ∀ name ∈ t.dangling, name ∉ declared) (hnode : node ∈ t.nodes) (htidy : node.Tidy)
    (herror : node.error? = some error) : Rejected declared t error := by
  have branch (b : Branch) {args : List Arg} (hnode : Item.ofBranch b args ∈ t.nodes)
      (htidy : (Item.ofBranch b args).Tidy) (herror : (Item.ofBranch b args).error? = some error) :
      Rejected declared t error := by
    obtain ⟨⟨name, hchild⟩, rfl⟩ := Item.error?_ofBranch htidy herror
    exact .missing hnode hchild (hdeclared name (Item.mem_dangling hnode hchild))
  cases node with
  | and args => exact branch .and hnode htidy herror
  | or args => exact branch .or hnode htidy herror
  | not args => exact branch .not hnode htidy herror
  | field name value =>
    obtain ⟨fault, hfault, rfl⟩ := Option.map_eq_some_iff.1 herror
    obtain ⟨part, hpart, hfault⟩ := List.exists_of_findSome?_eq_some hfault
    rcases htidy.2.2.parts part hpart with hsimple | ⟨ls, hne, rfl⟩
    · rcases hsimple.fault hfault with ⟨text, reason, rfl, hread, rfl⟩ | ⟨text, rfl, hread, rfl⟩
      · exact .pattern ⟨value, hnode, hpart, hsimple.ne_expansion⟩ hread
      · exact .block ⟨value, hnode, hpart, hsimple.ne_expansion⟩ hread
    · -- Alternatives have no fault of their own, as there are some.
      cases ls with
      | nil => exact absurd rfl hne
      | cons l ls => cases hfault
  | keyword value =>
    obtain rfl := Option.some.inj herror
    exact .keyword hnode
  | identifier name => exact absurd htidy id

/-- What a condition is resolved to is tidy, or an undeclared name that is all of the condition; missing
in it are the undeclared names among the operands, and nothing else but these, keywords and invalid
literals keeps it from being compiled. -/
theorem resolved_rejected {text : String} {e : Expr} {detections : DetectionSet} {t : Item}
    (he : parse text = .ok e) (ht : resolve detections e = .ok t) :
    ((∀ node ∈ t.nodes, node.Tidy) ∨
      ∃ name, e = .identifier name ∧ name ∉ detections.names ∧ t = .identifier name) ∧
    t.dangling = e.references.filter (· ∉ detections.names) ∧
    ∀ names error, item names t = .error error → Rejected detections.names t error := by
  obtain ⟨a, ha, rfl⟩ := Except.map_eq_ok_iff.1 ht
  have hdangling := resolveArg_dangling ha
  have hshape : (∀ node ∈ a.item.nodes, node.Tidy) ∨
      ∃ name, e = .identifier name ∧ name ∉ detections.names ∧ a.item = .identifier name := by
    cases a with
    | resolved t => exact .inl (resolveArg_tidy (parse_formed he) ha)
    | unresolved name =>
      obtain ⟨he, hname⟩ := resolveArg_unresolved ha
      exact .inr ⟨name, he, hname, rfl⟩
  refine ⟨hshape, hdangling, fun names error herror => ?_⟩
  rw [item_eq, settle_eq_error_iff] at herror
  obtain ⟨node, hnode, herror⟩ := List.exists_of_findSome?_eq_some herror
  rcases hshape with htidy | ⟨name, -, hname, hroot⟩
  · have hdeclared : ∀ name ∈ a.item.dangling, name ∉ detections.names := by
      intro name hmem
      rw [hdangling] at hmem
      simpa using (List.mem_filter.1 hmem).2
    exact node_rejected hdeclared hnode (htidy node hnode) herror
  · rw [hroot] at hnode ⊢
    obtain rfl := List.mem_singleton.1 hnode
    obtain rfl := Option.some.inj herror
    exact .reference hname rfl

end

/-- The name below the negation is not declared. -/
theorem resolved_rejected_gone :
    let detections : DetectionSet :=
      ⟨[("sel", .mapping [(.string "user", .sequence [.string "root", .string "admin"])])]⟩
    let e : Expr := .and [.identifier "sel", .not (.identifier "gone")]
    let t : Item := .and [.resolved (.field "user" (.expansion [.string "root", .string "admin"])),
      .resolved (.not [.unresolved "gone"])]
    parse "sel and not gone" = .ok e ∧ resolve detections e = .ok t ∧ (∀ node ∈ t.nodes, node.Tidy) ∧
      t.dangling = ["gone"] ∧ item .empty t = .error (.ofFault (.arity .not 1 0)) ∧
      Rejected detections.names t (.ofFault (.arity .not 1 0)) := by
  intro detections e t
  have he : parse "sel and not gone" = .ok e := rfl
  have ht : resolve detections e = .ok t := rfl
  have herror : item .empty t = .error (.ofFault (.arity .not 1 0)) := rfl
  obtain ⟨hshape, hdangling, hrejected⟩ := resolved_rejected he ht
  have htidy : ∀ node ∈ t.nodes, node.Tidy := by
    rcases hshape with htidy | ⟨name, hname, -⟩
    · exact htidy
    · exact absurd hname (by simp [e])
  exact ⟨he, ht, htidy, hdangling, herror, hrejected .empty _ herror⟩

end Compile

end EventRules
