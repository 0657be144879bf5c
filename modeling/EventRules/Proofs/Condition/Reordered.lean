import EventRules.Proofs.Decision
import EventRules.Proofs.Condition.Holds

/-!
# Trees in another order

`Item.Reordered` relates trees that differ in the order of the children of conjunctions and disjunctions
and of the alternatives of literals, at any depth. What is wrong with a tree may come to light elsewhere,
but not whether something is (`Item.Reordered.compilable_iff`). Nor does the order matter for
`Item.decision`, which is what a tree says of a datum if it says anything (`Item.decision_agrees`).
-/

namespace EventRules.Condition

namespace Literal

/-- The same literal, with the alternatives of expansions in another order. -/
inductive Reordered : Literal → Literal → Prop
  | refl (l : Literal) : Reordered l l
  | trans {l m n : Literal} (h : Reordered l m) (h' : Reordered m n) : Reordered l n
  | perm {ls ls' : List Literal} (h : ls.Perm ls') : Reordered (.expansion ls) (.expansion ls')
  | inside {l l' : Literal} (before after : List Literal) (h : Reordered l l') :
    Reordered (.expansion (before ++ l :: after)) (.expansion (before ++ l' :: after))

theorem forall_parts_expansion_iff {P : Literal → Prop} {ls : List Literal} :
    (∀ part ∈ (expansion ls).parts, P part) ↔
      (∀ l ∈ ls, ∀ part ∈ l.parts, P part) ∧ P (.expansion ls) := by
  rw [parts_expansion]
  constructor
  · intro h
    refine ⟨fun l hl part hpart => h part ?_, h _ (by simp)⟩
    exact List.mem_append_left _ (List.mem_flatMap.2 ⟨l, hl, hpart⟩)
  · rintro ⟨hparts, hself⟩ part hpart
    rcases List.mem_append.1 hpart with hpart | hpart
    · obtain ⟨l, hl, hpart⟩ := List.mem_flatMap.1 hpart
      exact hparts l hl part hpart
    · obtain rfl := List.mem_singleton.1 hpart
      exact hself

/-- What all parts of a literal have does not depend on the order, if an expansion has it or not by the
number of its alternatives. -/
theorem Reordered.forall_parts_iff {P : Literal → Prop}
    (hP : ∀ ls ls', ls.length = ls'.length → (P (.expansion ls) ↔ P (.expansion ls')))
    {l l' : Literal} (h : l.Reordered l') : (∀ part ∈ l.parts, P part) ↔ ∀ part ∈ l'.parts, P part := by
  induction h with
  | refl => rfl
  | trans _ _ ih ih' => exact ih.trans ih'
  | perm h =>
    rw [forall_parts_expansion_iff, forall_parts_expansion_iff, hP _ _ h.length_eq]
    simp only [h.mem_iff]
  | @inside l l' before after _ ih =>
    have hlength : (before ++ l :: after).length = (before ++ l' :: after).length := by simp
    rw [forall_parts_expansion_iff, forall_parts_expansion_iff, hP _ _ hlength]
    simp only [List.forall_mem_append, List.forall_mem_cons, ih]

section
variable [PatternEngine] (names : FieldNames) (datum : Datum) (field : String)

mutual

/-- What a datum says about a field and a literal, unless there may be an error in some order. -/
def decision : Literal → Decision
  | .expansion alternatives => .any (decisions alternatives)
  | l => (l.holds names datum field).toOption

def decisions : List Literal → List Decision
  | [] => []
  | l :: rest => l.decision :: decisions rest

end

theorem decisions_eq (ls : List Literal) :
    decisions names datum field ls = ls.map (decision names datum field) := by
  induction ls with
  | nil => rfl
  | cons l ls ih => rw [decisions, ih, List.map_cons]

theorem decision_expansion (ls : List Literal) : (expansion ls).decision names datum field =
    .branch .or (ls.map (decision names datum field)) := by
  rw [decision, decisions_eq]; rfl

end

variable {names : FieldNames} {datum : Datum} {field : String}

theorem Reordered.decision_eq [PatternEngine] {l l' : Literal} (h : l.Reordered l') :
    l.decision names datum field = l'.decision names datum field := by
  induction h with
  | refl => rfl
  | trans _ _ ih ih' => exact ih.trans ih'
  | perm h => rw [decision_expansion, decision_expansion, Decision.branch_perm (by decide) (h.map _)]
  | inside before after _ ih =>
    rw [decision_expansion, decision_expansion, List.map_append, List.map_append, List.map_cons,
      List.map_cons, ih]

theorem decision_agrees [PatternEngine] (l : Literal) :
    (l.decision names datum field).Agrees (l.holds names datum field) := by
  induction l using Literal.induct with
  | scalar l h =>
    intro b hb
    have hdecision : l.decision names datum field = (l.holds names datum field).toOption := by
      cases l with
      | expansion ls => exact absurd rfl (h ls)
      | _ => rfl
    rw [hdecision, hb]; rfl
  | expansion ls ih =>
    rw [decision_expansion, holds_expansion]
    exact Decision.branch_map_agrees .or ih

/-- The type that a field is read as; null is looked for in fields of any type. -/
def fieldType? : Literal → Option FieldType
  | string _ | regex _ | cidr _ => some .string
  | boolean _ => some .boolean
  | number (.integer _) => some .integer
  | number (.float _) | compare .. => some .float
  | null | expansion _ => none

/-- The field is absent or holds a value of the type that it is read as. -/
def Suits (names : FieldNames) (datum : Datum) (field : String) (l : Literal) : Prop :=
  ∀ value, names.readValue datum field = some value →
    ∀ type, l.fieldType? = some type → value.typeName = type.name

theorem exists_read {α : Type} {type : FieldType} {select : FieldValue → Option α}
    (hselect : ∀ value : FieldValue, value.typeName = type.name → (select value).isSome)
    (h : ∀ value, names.readValue datum field = some value → value.typeName = type.name) :
    ∃ a, names.read datum field type select = .ok a := by
  unfold FieldNames.read
  cases hvalue : datum.value? (names.storedName field) with
  | none => exact ⟨none, rfl⟩
  | some value =>
    obtain ⟨a, ha⟩ := Option.isSome_iff_exists.1 (hselect value (h value hvalue))
    exact ⟨some a, by simp [ha]⟩

theorem exists_ofRead {α : Type} {read : Except CastError (Option α)} (h : ∃ a, read = .ok a)
    (accepts : α → Bool) : ∃ b, Verdict.ofRead read accepts = .ok b := by
  obtain ⟨a, rfl⟩ := h
  exact ⟨_, rfl⟩

theorem Suits.exists_holds [PatternEngine] {l : Literal} (hscalar : ∀ ls, l ≠ .expansion ls)
    (h : l.Suits names datum field) : ∃ b, l.holds names datum field = .ok b := by
  have hvalue (type : FieldType) (htype : l.fieldType? = some type) :
      ∀ value, names.readValue datum field = some value → value.typeName = type.name :=
    fun value hvalue => h value hvalue type htype
  have hstring (htype : l.fieldType? = some .string) : ∃ a, names.readString datum field = .ok a := by
    refine exists_read ?_ (hvalue _ htype)
    rintro (_ | _ | _ | _ | _) <;> simp [FieldValue.typeName, FieldType.name]
  have hboolean (htype : l.fieldType? = some .boolean) :
      ∃ a, names.readBoolean datum field = .ok a := by
    refine exists_read ?_ (hvalue _ htype)
    rintro (_ | _ | _ | _ | _) <;> simp [FieldValue.typeName, FieldType.name]
  have hinteger (htype : l.fieldType? = some .integer) :
      ∃ a, names.readInteger datum field = .ok a := by
    refine exists_read ?_ (hvalue _ htype)
    rintro (_ | _ | _ | _ | _) <;> simp [FieldValue.typeName, FieldType.name]
  have hfloat (htype : l.fieldType? = some .float) : ∃ a, names.readFloat datum field = .ok a := by
    refine exists_read ?_ (hvalue _ htype)
    rintro (_ | _ | _ | _ | _) <;> simp [FieldValue.typeName, FieldType.name]
  cases l with
  | string text => exact exists_ofRead (hstring rfl) _
  | boolean value => exact exists_ofRead (hboolean rfl) _
  | number n =>
    cases n with
    | integer value => exact exists_ofRead (hinteger rfl) _
    | float value => exact exists_ofRead (hfloat rfl) _
  | null => exact ⟨_, rfl⟩
  | regex text =>
    rw [holds]
    split
    · exact exists_ofRead (hstring rfl) _
    · exact ⟨false, rfl⟩
  | cidr text =>
    rw [holds]
    split
    · exact exists_ofRead (hstring rfl) _
    · exact ⟨false, rfl⟩
  | compare op n => exact exists_ofRead (hfloat rfl) _
  | expansion ls => exact absurd rfl (hscalar ls)

theorem exists_holds [PatternEngine] {l : Literal} (h : ∀ part ∈ l.parts, part.Suits names datum field) :
    ∃ b, l.holds names datum field = .ok b := by
  induction l using Literal.induct with
  | scalar l hscalar =>
    rw [parts_scalar hscalar] at h
    exact (h l (by simp)).exists_holds hscalar
  | expansion ls ih =>
    have hls := (forall_parts_expansion_iff.1 h).1
    rw [holds_expansion]
    refine Verdict.exists_any fun v hv => ?_
    obtain ⟨l, hl, rfl⟩ := List.mem_map.1 hv
    exact ih l hl (hls l hl)

end Literal

namespace Item

def ofBranch : Branch → List Arg → Item
  | .and => .and
  | .or => .or
  | .not => .not

/-- The same tree, with the children of conjunctions and disjunctions and the alternatives of literals
in another order. -/
inductive Reordered : Item → Item → Prop
  | refl (t : Item) : Reordered t t
  | trans {t u v : Item} (h : Reordered t u) (h' : Reordered u v) : Reordered t v
  | perm {b : Branch} {args args' : List Arg} (hb : b ≠ .not) (h : args.Perm args') :
    Reordered (ofBranch b args) (ofBranch b args')
  | inside {t t' : Item} (b : Branch) (before after : List Arg) (h : Reordered t t') :
    Reordered (ofBranch b (before ++ .resolved t :: after))
      (ofBranch b (before ++ .resolved t' :: after))
  | field {l l' : Literal} (name : String) (h : l.Reordered l') :
    Reordered (.field name l) (.field name l')
  | keyword {l l' : Literal} (h : l.Reordered l') : Reordered (.keyword l) (.keyword l')

theorem nodes_ofBranch (b : Branch) (args : List Arg) :
    (ofBranch b args).nodes = (children args).flatMap nodes ++ [ofBranch b args] := by
  cases b with
  | and => exact nodes_and args
  | or => exact nodes_or args
  | not => exact nodes_not args

theorem children_append (args more : List Arg) :
    children (args ++ more) = children args ++ children more :=
  List.filterMap_append

/-- What all nodes of a tree have does not depend on the order, if a branch has it or not by the numbers
of its arguments and of its children. -/
theorem Reordered.forall_nodes_iff {P : Item → Prop}
    (hbranch : ∀ b args args', args.length = args'.length →
      (children args).length = (children args').length → (P (ofBranch b args) ↔ P (ofBranch b args')))
    (hfield : ∀ name l l', l.Reordered l' → (P (.field name l) ↔ P (.field name l')))
    (hkeyword : ∀ l l', P (.keyword l) ↔ P (.keyword l')) {t t' : Item} (h : t.Reordered t') :
    (∀ node ∈ t.nodes, P node) ↔ ∀ node ∈ t'.nodes, P node := by
  induction h with
  | refl => rfl
  | trans _ _ ih ih' => exact ih.trans ih'
  | @perm b args args' _ h =>
    have hchildren : (children args).length = (children args').length :=
      (h.filterMap _).length_eq
    rw [Item.forall_nodes_iff (nodes_ofBranch _ _), Item.forall_nodes_iff (nodes_ofBranch _ _),
      hbranch b args args' h.length_eq hchildren]
    simp only [h.mem_iff]
  | @inside t t' b before after _ ih =>
    have hself := hbranch b (before ++ .resolved t :: after) (before ++ .resolved t' :: after)
      (by simp) (by simp [children_append])
    rw [Item.forall_nodes_iff (nodes_ofBranch _ _), Item.forall_nodes_iff (nodes_ofBranch _ _), hself]
    simp only [← mem_children, children_append, children_resolved, List.forall_mem_append,
      List.forall_mem_cons, ih]
  | field name h => simpa using hfield name _ _ h
  | keyword h => simpa using hkeyword _ _

/-- Whether a branch fits is a matter of the numbers of its arguments and of its children. -/
theorem fits_ofBranch_congr [PatternEngine] (b : Branch) {args args' : List Arg} (hlength : args.length = args'.length)
    (hchildren : (children args).length = (children args').length) :
    (ofBranch b args).Fits ↔ (ofBranch b args').Fits := by
  rw [← error?_eq_none_iff, ← error?_eq_none_iff]
  cases b <;> simp only [ofBranch, error?, fault?, hlength, hchildren]

theorem Reordered.compilable_iff [PatternEngine] {t t' : Item} (h : t.Reordered t') : t.Compilable ↔ t'.Compilable := by
  refine h.forall_nodes_iff (fun b _ _ => fits_ofBranch_congr b) ?_ fun l l' => Iff.rfl
  intro name l l' hl
  refine hl.forall_parts_iff fun ls ls' hlength => ?_
  rw [Literal.Fits, Literal.Fits, ← List.length_pos_iff, ← List.length_pos_iff, hlength]

section
variable (names : FieldNames) (datum : Datum)

def FieldSuits : Item → Prop
  | .field name value => ∀ part ∈ value.parts, part.Suits names datum name
  | _ => True

/-- Every field of the tree is absent or holds a value of the type that it is read as. -/
def Suits (t : Item) : Prop :=
  ∀ node ∈ t.nodes, node.FieldSuits names datum

variable [PatternEngine]

mutual

/-- What a datum says about a tree, unless there may be an error in some order. -/
def decision : Item → Decision
  | .and args => .branch .and (decisions args)
  | .or args => .branch .or (decisions args)
  | .not args => .branch .not (decisions args)
  | .field name value => value.decision names datum name
  | .keyword _ => some false
  | .identifier _ => some false

def decisions : List Arg → List Decision
  | [] => []
  | .resolved t :: rest => t.decision :: decisions rest
  | .unresolved _ :: rest => some false :: decisions rest

end

end

end Item

def Arg.decision [PatternEngine] (names : FieldNames) (datum : Datum) : Arg → Decision
  | .resolved t => t.decision names datum
  | .unresolved _ => some false

namespace Item

variable {names : FieldNames} {datum : Datum}

theorem Reordered.suits_iff {t t' : Item} (h : t.Reordered t') :
    t.Suits names datum ↔ t'.Suits names datum := by
  refine h.forall_nodes_iff ?_ ?_ fun l l' => Iff.rfl
  · intro b args args' _ _
    cases b <;> rfl
  · exact fun name l l' hl => hl.forall_parts_iff fun ls ls' _ => by simp [Literal.Suits, Literal.fieldType?]

variable [PatternEngine]

theorem decisions_eq (args : List Arg) :
    decisions names datum args = args.map (Arg.decision names datum) := by
  induction args with
  | nil => rfl
  | cons a args ih => cases a <;> simp [decisions, ih, Arg.decision]

theorem decision_ofBranch (b : Branch) (args : List Arg) :
    (ofBranch b args).decision names datum = .branch b (args.map (Arg.decision names datum)) := by
  rw [← decisions_eq]
  cases b <;> rw [ofBranch, decision]

theorem holds_ofBranch (b : Branch) (args : List Arg) :
    (ofBranch b args).holds names datum = .branch b (args.map (Arg.holds names datum)) := by
  rw [← verdicts_eq]
  cases b with
  | and | or => rw [ofBranch, holds]; rfl
  | not =>
    rw [ofBranch, holds]
    rcases verdicts names datum args with _ | ⟨v, _ | ⟨u, rest⟩⟩ <;> rfl

theorem Reordered.decision_eq {t t' : Item} (h : t.Reordered t') :
    t.decision names datum = t'.decision names datum := by
  induction h with
  | refl => rfl
  | trans _ _ ih ih' => exact ih.trans ih'
  | perm hb h => rw [decision_ofBranch, decision_ofBranch, Decision.branch_perm hb (h.map _)]
  | inside b before after _ ih =>
    rw [decision_ofBranch, decision_ofBranch, List.map_append, List.map_append, List.map_cons,
      List.map_cons, Arg.decision, Arg.decision, ih]
  | field name h => exact h.decision_eq
  | keyword h => rfl

/-- What a tree says of a datum is what is decided in any order, unless there is an error first. -/
theorem decision_agrees (t : Item) : (t.decision names datum).Agrees (t.holds names datum) := by
  have branch (b : Branch) {args : List Arg} (ih : ∀ t, .resolved t ∈ args →
      (t.decision names datum).Agrees (t.holds names datum)) :
      ((ofBranch b args).decision names datum).Agrees ((ofBranch b args).holds names datum) := by
    rw [decision_ofBranch, holds_ofBranch]
    refine Decision.branch_map_agrees b ?_
    rintro (t | name) ha
    · exact ih t ha
    · rintro b ⟨⟩; rfl
  induction t using Item.induct with
  | and args ih => exact branch .and ih
  | or args ih => exact branch .or ih
  | not args ih => exact branch .not ih
  | field name value => exact value.decision_agrees
  | keyword value => rintro b ⟨⟩; rfl
  | identifier name => rintro b ⟨⟩; rfl

theorem exists_holds {t : Item} (h : t.Suits names datum) : ∃ b, t.holds names datum = .ok b := by
  have branch (b : Branch) {args : List Arg} (ih : ∀ t, .resolved t ∈ args →
      t.Suits names datum → ∃ b, t.holds names datum = .ok b)
      (h : (ofBranch b args).Suits names datum) :
      ∃ c, (ofBranch b args).holds names datum = .ok c := by
    rw [holds_ofBranch]
    refine Verdict.exists_branch fun v hv => ?_
    obtain ⟨a, ha, rfl⟩ := List.mem_map.1 hv
    cases a with
    | unresolved name => exact ⟨false, rfl⟩
    | resolved t => exact ih t ha (((Item.forall_nodes_iff (nodes_ofBranch b args)).1 h).1 t ha)
  induction t using Item.induct with
  | and args ih => exact branch .and ih h
  | or args ih => exact branch .or ih h
  | not args ih => exact branch .not ih h
  | field name value => exact Literal.exists_holds (h (.field name value) (by simp))
  | keyword value => exact ⟨false, rfl⟩
  | identifier name => exact ⟨false, rfl⟩

end Item

end EventRules.Condition
