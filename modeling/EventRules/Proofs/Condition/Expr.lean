import EventRules.Condition.Resolve
import EventRules.Proofs.Condition.Grammar

/-!
# The nodes of an expression

`Expr.nodes` lists the expressions that an expression is made of. What the parser makes is
`Expr.Formed`: a chain of one operator has at least two operands, since the grammar has no chain of one
(`Derives.formed`).
-/

namespace EventRules.Condition

namespace Expr

/-- Induction over expressions, with all operands of a chain at once. -/
@[elab_as_elim]
theorem induct {P : Expr → Prop} (identifier : ∀ name, P (.identifier name))
    (and : ∀ es, (∀ e ∈ es, P e) → P (.and es)) (or : ∀ es, (∀ e ∈ es, P e) → P (.or es))
    (not : ∀ e, P e → P (.not e)) (oneOf : ∀ s, P (.oneOf s)) (allOf : ∀ s, P (.allOf s)) :
    ∀ e, P e
  | .identifier name => identifier name
  | .and es => and es fun e he =>
    have := List.sizeOf_lt_of_mem he
    induct identifier and or not oneOf allOf e
  | .or es => or es fun e he =>
    have := List.sizeOf_lt_of_mem he
    induct identifier and or not oneOf allOf e
  | .not e => not e (induct identifier and or not oneOf allOf e)
  | .oneOf s => oneOf s
  | .allOf s => allOf s
  termination_by e => sizeOf e
  decreasing_by
    · simp; omega
    · simp; omega
    · simp

mutual

/-- The expressions that an expression is made of, operands before what they are operands of. -/
def nodes : Expr → List Expr
  | .and operands => nodesOf operands ++ [.and operands]
  | .or operands => nodesOf operands ++ [.or operands]
  | .not operand => operand.nodes ++ [.not operand]
  | leaf => [leaf]

def nodesOf : List Expr → List Expr
  | [] => []
  | e :: rest => e.nodes ++ nodesOf rest

end

theorem nodesOf_eq (es : List Expr) : nodesOf es = es.flatMap nodes := by
  induction es with
  | nil => rfl
  | cons e es ih => rw [nodesOf, ih, List.flatMap_cons]

@[simp] theorem nodes_and (es : List Expr) : (Expr.and es).nodes = es.flatMap nodes ++ [.and es] := by
  rw [nodes, nodesOf_eq]

@[simp] theorem nodes_or (es : List Expr) : (Expr.or es).nodes = es.flatMap nodes ++ [.or es] := by
  rw [nodes, nodesOf_eq]

@[simp] theorem nodes_not (e : Expr) : (Expr.not e).nodes = e.nodes ++ [.not e] := rfl

@[simp] theorem nodes_identifier (name : String) : (identifier name).nodes = [identifier name] := rfl

@[simp] theorem nodes_oneOf (s : Selector) : (oneOf s).nodes = [oneOf s] := rfl

@[simp] theorem nodes_allOf (s : Selector) : (allOf s).nodes = [allOf s] := rfl

/-- What holds of all nodes of an expression holds of those of its operands and of itself. -/
theorem forall_nodes_iff {P : Expr → Prop} {e : Expr} {operands : List Expr}
    (hnodes : e.nodes = operands.flatMap nodes ++ [e]) :
    (∀ node ∈ e.nodes, P node) ↔ (∀ operand ∈ operands, ∀ node ∈ operand.nodes, P node) ∧ P e := by
  rw [hnodes]
  constructor
  · intro h
    refine ⟨fun operand hmem node hnode => h node ?_, h e (by simp)⟩
    exact List.mem_append_left _ (List.mem_flatMap.2 ⟨operand, hmem, hnode⟩)
  · rintro ⟨hoperands, he⟩ node hnode
    rcases List.mem_append.1 hnode with hnode | hnode
    · obtain ⟨operand, hmem, hnode⟩ := List.mem_flatMap.1 hnode
      exact hoperands operand hmem node hnode
    · obtain rfl := List.mem_singleton.1 hnode
      exact he

theorem nodes_not_flatMap (e : Expr) : (Expr.not e).nodes = [e].flatMap nodes ++ [.not e] := by
  simp

/-- A chain has at least two operands. -/
def WellShaped : Expr → Prop
  | .and operands => 2 ≤ operands.length
  | .or operands => 2 ≤ operands.length
  | _ => True

/-- Every chain has at least two operands. -/
def Formed (e : Expr) : Prop :=
  ∀ node ∈ e.nodes, node.WellShaped

theorem formed_and_iff {es : List Expr} :
    (Expr.and es).Formed ↔ (∀ e ∈ es, e.Formed) ∧ 2 ≤ es.length :=
  forall_nodes_iff (nodes_and es)

theorem formed_or_iff {es : List Expr} :
    (Expr.or es).Formed ↔ (∀ e ∈ es, e.Formed) ∧ 2 ≤ es.length :=
  forall_nodes_iff (nodes_or es)

theorem formed_not_iff {e : Expr} : (Expr.not e).Formed ↔ e.Formed := by
  unfold Formed
  rw [forall_nodes_iff (nodes_not_flatMap e)]
  simp [WellShaped]

theorem formed_identifier (name : String) : (identifier name).Formed := by
  simp [Formed, WellShaped]

theorem formed_oneOf (s : Selector) : (oneOf s).Formed := by
  simp [Formed, WellShaped]

theorem formed_allOf (s : Selector) : (allOf s).Formed := by
  simp [Formed, WellShaped]

end Expr

/-- The first operand of a chain and the others are formed, and there are at least two of them. -/
theorem formed_operands {e : Expr} {others : List Spelled} (hfirst : e.Formed)
    (hrest : ∀ o ∈ others, o.expr.Formed) (hne : others ≠ []) :
    (∀ operand ∈ e :: others.map (·.expr), operand.Formed) ∧
      2 ≤ (e :: others.map (·.expr)).length := by
  constructor
  · rintro operand (_ | ⟨_, hmem⟩)
    · exact hfirst
    · obtain ⟨o, ho, rfl⟩ := List.mem_map.1 hmem
      exact hrest o ho
  · have hpos := List.length_pos_iff.2 hne
    simp only [List.length_cons, List.length_map]
    omega

theorem Derives.formed {phrase : Phrase} {ts : List Token} {e : Expr} (h : Derives phrase ts e) :
    e.Formed := by
  induction h with
  | identifier name => exact Expr.formed_identifier name
  | oneOf => exact Expr.formed_oneOf _
  | allOf => exact Expr.formed_allOf _
  | not _ ih => exact Expr.formed_not_iff.2 ih
  | and _ _ hne ihfirst ihrest => exact Expr.formed_and_iff.2 (formed_operands ihfirst ihrest hne)
  | or _ _ hne ihfirst ihrest => exact Expr.formed_or_iff.2 (formed_operands ihfirst ihrest hne)
  | parentheses _ ih | primary _ ih | negation _ ih | conjunction _ ih => exact ih

/-- Every expression that is parsed is formed. -/
theorem parse_formed {text : String} {e : Expr} (h : parse text = .ok e) : e.Formed := by
  unfold parse at h
  split at h
  case h_3 tokens _ _ => exact (derives_of_parseTokens (Except.mapError_eq_ok_iff.1 h)).formed
  all_goals simp at h

end EventRules.Condition
