import EventRules.Proofs.Condition.Holds

/-!
# Formed trees

The trees that detections and conditions make are `Item.Formed`: branches have children and all of them
stand for something, lists of alternatives are not empty, operators are known. What is left to ask of
such a tree before it can be compiled is `Item.Testable`: no keywords, and only valid patterns and
address blocks (`Item.Formed.compilable_iff`). The trees of detections are also `Item.Tidy` in each node:
no branch has a single child, and no alternatives are nested.
-/

namespace EventRules.Condition

namespace Literal

/-- The literal has the shape of a test. -/
def Formed : Literal → Prop
  | compare op _ => op ∈ [">", "<", ">=", "<="]
  | expansion alternatives => alternatives ≠ []
  | _ => True

/-- A pattern is one to the engine, an address block is valid. -/
def Valid [PatternEngine] : Literal → Prop
  | regex pattern => (PatternEngine.read pattern).isOk
  | cidr block => (AddressBlock.read? block.toList).isSome
  | _ => True

theorem fits_iff [PatternEngine] (l : Literal) : l.Fits ↔ l.Formed ∧ l.Valid := by
  cases l <;> simp [Fits, Formed, Valid]

end Literal

namespace Item

/-- The node has the shape of a test. -/
def WellShaped : Item → Prop
  | and args => args ≠ [] ∧ AllResolved args
  | or args => args ≠ [] ∧ AllResolved args
  | not args => ∃ t, args = [.resolved t]
  | field _ value => ∀ part ∈ value.parts, part.Formed
  | keyword _ => True
  | identifier _ => False

/-- The node is no keyword, and patterns and address blocks in it are valid. -/
def Valid [PatternEngine] : Item → Prop
  | keyword _ => False
  | field _ value => ∀ part ∈ value.parts, part.Valid
  | _ => True

theorem fits_iff [PatternEngine] (node : Item) : node.Fits ↔ node.WellShaped ∧ node.Valid := by
  cases node with
  | field name value => simp [Fits, WellShaped, Valid, Literal.fits_iff, forall_and]
  | _ => simp [Fits, WellShaped, Valid]

/-- Every node has the shape of a test. -/
def Formed (t : Item) : Prop :=
  ∀ node ∈ t.nodes, node.WellShaped

/-- No node is a keyword, and all patterns and address blocks are valid. -/
def Testable [PatternEngine] (t : Item) : Prop :=
  ∀ node ∈ t.nodes, node.Valid

theorem Formed.compilable_iff [PatternEngine] {t : Item} (h : t.Formed) : t.Compilable ↔ t.Testable := by
  constructor
  · exact fun hc node hnode => ((fits_iff node).1 (hc node hnode)).2
  · exact fun ht node hnode => (fits_iff node).2 ⟨h node hnode, ht node hnode⟩

/-! ### Tidy trees -/

end Item

namespace Literal

/-- One value; if it is compared, by a known operator. -/
def Simple : Literal → Prop
  | compare op _ => op ∈ [">", "<", ">=", "<="]
  | expansion _ => False
  | _ => True

/-- One value, or some alternatives each of which is one. -/
def Tidy : Literal → Prop
  | expansion alternatives => alternatives ≠ [] ∧ ∀ l ∈ alternatives, l.Simple
  | l => l.Simple

theorem Simple.ne_expansion {l : Literal} (h : l.Simple) : ∀ ls, l ≠ .expansion ls := by
  rintro ls rfl
  exact h

theorem Simple.tidy {l : Literal} (h : l.Simple) : l.Tidy := by
  cases l with
  | expansion ls => exact absurd h id
  | _ => exact h

theorem Simple.formed {l : Literal} (h : l.Simple) : l.Formed := by
  cases l with
  | compare op n => exact h
  | expansion ls => exact absurd h id
  | _ => trivial

/-- The parts of a tidy literal are single values, and the literal itself. -/
theorem Tidy.parts {l : Literal} (h : l.Tidy) :
    ∀ part ∈ l.parts, part.Simple ∨ ∃ ls, ls ≠ [] ∧ part = .expansion ls := by
  intro part hpart
  cases l with
  | expansion ls =>
    obtain ⟨hne, hsimple⟩ := h
    rw [parts_expansion] at hpart
    rcases List.mem_append.1 hpart with hpart | hpart
    · obtain ⟨l, hl, hpart⟩ := List.mem_flatMap.1 hpart
      rw [parts_scalar (hsimple l hl).ne_expansion] at hpart
      obtain rfl := List.mem_singleton.1 hpart
      exact .inl (hsimple part hl)
    · exact .inr ⟨ls, hne, List.mem_singleton.1 hpart⟩
  | _ =>
    obtain rfl := List.mem_singleton.1 hpart
    exact .inl h

end Literal

namespace Item

/-- A branch is there because it has several children, or one to negate; a field has a name, which ends
before the first bar; what it is tested against is tidy. -/
def Tidy : Item → Prop
  | and args => 2 ≤ args.length
  | or args => 2 ≤ args.length
  | not args => args.length = 1
  | field name value => name ≠ "" ∧ '|' ∉ name.toList ∧ value.Tidy
  | keyword value => value.Simple
  | identifier _ => False

/-- Every node is tidy, and no child is missing. -/
def Whole (t : Item) : Prop :=
  ∀ node ∈ t.nodes, node.Tidy ∧ node.WellShaped

theorem Whole.formed {t : Item} (h : t.Whole) : t.Formed :=
  fun node hnode => (h node hnode).2

theorem whole_keyword {value : Literal} (h : value.Simple) : (keyword value).Whole := by
  simpa [Whole, Tidy, WellShaped] using h

theorem whole_field {name : String} {value : Literal} (hname : name ≠ "") (hbar : '|' ∉ name.toList)
    (h : value.Tidy) : (field name value).Whole := by
  intro node hnode
  obtain rfl := List.mem_singleton.1 hnode
  refine ⟨⟨hname, hbar, h⟩, fun part hpart => ?_⟩
  rcases h.parts part hpart with hsimple | ⟨ls, hne, rfl⟩
  · exact hsimple.formed
  · exact hne

theorem whole_join_or {items : List Item} (hne : items ≠ []) (h : ∀ t ∈ items, t.Whole) :
    (join .or items).Whole :=
  (forall_nodes_join_iff nodes_or
    (fun _ h2 hr => ⟨h2, List.ne_nil_of_length_pos (by omega), hr⟩) hne).2 h

theorem whole_join_and {items : List Item} (hne : items ≠ []) (h : ∀ t ∈ items, t.Whole) :
    (join .and items).Whole :=
  (forall_nodes_join_iff nodes_and
    (fun _ h2 hr => ⟨h2, List.ne_nil_of_length_pos (by omega), hr⟩) hne).2 h

end Item

end EventRules.Condition
