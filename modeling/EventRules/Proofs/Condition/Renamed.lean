import EventRules.Proofs.Condition.Holds

/-!
# Renamed fields

What a tree says of a datum depends on nothing but what is read for the fields that its tests name. If
these are renamed and the data and stored names change with them, so that each test reads what it read
before, the tree says the same (`Item.holds_rename`). Whether it compiles does not depend on the names
of its fields at all (`Item.compilable_rename`).
-/

namespace EventRules

/-- Values that every test takes for one another: no test looks into a structured one. -/
inductive FieldValue.Alike : Option FieldValue → Option FieldValue → Prop
  | same (v : Option FieldValue) : Alike v v
  | structured (place : List Json.Step) (content : Json) (place' : List Json.Step) (content' : Json) :
    Alike (some (.structured place content)) (some (.structured place' content'))

/-- Two fields are stored under one name, and there the data hold values that are alike. -/
structure SameRead (names : FieldNames) (datum : Datum) (field : String)
    (names' : FieldNames) (datum' : Datum) (field' : String) : Prop where
  name : names.storedName field = names'.storedName field'
  value : FieldValue.Alike (datum.value? (names.storedName field)) (datum'.value? (names.storedName field))

namespace SameRead

variable {names names' : FieldNames} {datum datum' : Datum} {field field' : String}

/-- A read of one type ends in the same way, errors included. -/
theorem read {α : Type} (h : SameRead names datum field names' datum' field') (type : FieldType)
    {select : FieldValue → Option α} (hselect : ∀ place content, select (.structured place content) = none) :
    names.read datum field type select = names'.read datum' field' type select := by
  have hvalue := h.value
  unfold FieldNames.read
  rw [← h.name]
  generalize datum.value? (names.storedName field) = v at hvalue ⊢
  generalize datum'.value? (names.storedName field) = v' at hvalue ⊢
  cases hvalue with
  | same => rfl
  | structured => simp only [hselect]

theorem readString (h : SameRead names datum field names' datum' field') :
    names.readString datum field = names'.readString datum' field' :=
  h.read .string fun _ _ => rfl

theorem readBoolean (h : SameRead names datum field names' datum' field') :
    names.readBoolean datum field = names'.readBoolean datum' field' :=
  h.read .boolean fun _ _ => rfl

theorem readInteger (h : SameRead names datum field names' datum' field') :
    names.readInteger datum field = names'.readInteger datum' field' :=
  h.read .integer fun _ _ => rfl

theorem readFloat (h : SameRead names datum field names' datum' field') :
    names.readFloat datum field = names'.readFloat datum' field' :=
  h.read .float fun _ _ => rfl

theorem isNone_readValue (h : SameRead names datum field names' datum' field') :
    (names.readValue datum field).isNone = (names'.readValue datum' field').isNone := by
  have hvalue := h.value
  unfold FieldNames.readValue
  rw [← h.name]
  generalize datum.value? (names.storedName field) = v at hvalue ⊢
  generalize datum'.value? (names.storedName field) = v' at hvalue ⊢
  cases hvalue <;> rfl

end SameRead

namespace Condition

variable {names names' : FieldNames} {datum datum' : Datum}

theorem Literal.holds_congr [PatternEngine] {field field' : String} (h : SameRead names datum field names' datum' field')
    (l : Literal) : l.holds names datum field = l.holds names' datum' field' := by
  induction l using Literal.induct with
  | scalar l hscalar =>
    cases l with
    | expansion ls => exact absurd rfl (hscalar ls)
    | number n => cases n <;> simp only [holds, h.readInteger, h.readFloat]
    | _ => simp only [holds, h.readString, h.readBoolean, h.readFloat, h.isNone_readValue]
  | expansion ls ih =>
    rw [holds_expansion, holds_expansion, List.map_congr_left ih]

namespace Item

mutual

/-- The tree with other names for its fields. -/
def rename (f : String → String) : Item → Item
  | .and args => .and (renameArgs f args)
  | .or args => .or (renameArgs f args)
  | .not args => .not (renameArgs f args)
  | .field name value => .field (f name) value
  | .keyword value => .keyword value
  | .identifier name => .identifier name

def renameArgs (f : String → String) : List Arg → List Arg
  | [] => []
  | .resolved t :: rest => .resolved (t.rename f) :: renameArgs f rest
  | .unresolved name :: rest => .unresolved name :: renameArgs f rest

end

end Item

def Arg.rename (f : String → String) : Arg → Arg
  | .resolved t => .resolved (t.rename f)
  | .unresolved name => .unresolved name

namespace Item

variable {f : String → String}

theorem renameArgs_eq (args : List Arg) : renameArgs f args = args.map (Arg.rename f) := by
  induction args with
  | nil => rfl
  | cons a args ih => cases a <;> simp [renameArgs, ih, Arg.rename]

theorem rename_id (t : Item) : t.rename id = t := by
  have hargs (args : List Arg) (ih : ∀ t, .resolved t ∈ args → t.rename id = t) :
      renameArgs id args = args := by
    have hid : ∀ a ∈ args, Arg.rename id a = a := by
      rintro (t | name) ha
      · rw [Arg.rename, ih t ha]
      · rfl
    rw [renameArgs_eq, List.map_congr_left hid, List.map_id']
  induction t using Item.induct with
  | and args ih | or args ih | not args ih => rw [rename, hargs args ih]
  | field | keyword | identifier => rfl

/-! ### What a tree says -/

section
variable [PatternEngine]

theorem verdicts_rename {args : List Arg}
    (h : ∀ t, .resolved t ∈ args → t.holds names datum = (t.rename f).holds names' datum') :
    verdicts names datum args = verdicts names' datum' (renameArgs f args) := by
  rw [verdicts_eq, verdicts_eq, renameArgs_eq, List.map_map]
  refine List.map_congr_left ?_
  rintro (t | name) ha
  · exact h t ha
  · rfl

/-- A tree whose tests say after the renaming what they said before says the same. -/
theorem holds_rename_of_tests (t : Item) (h : ∀ name value, .field name value ∈ t.nodes →
      value.holds names datum name = value.holds names' datum' (f name)) :
    t.holds names datum = (t.rename f).holds names' datum' := by
  induction t using Item.induct with
  | and args ih =>
    have hverdicts := verdicts_rename fun c hc =>
      ih c hc fun name value hmem => h name value (mem_nodes_of_child (nodes_and args) hc hmem)
    rw [rename, holds, holds, hverdicts]
  | or args ih =>
    have hverdicts := verdicts_rename fun c hc =>
      ih c hc fun name value hmem => h name value (mem_nodes_of_child (nodes_or args) hc hmem)
    rw [rename, holds, holds, hverdicts]
  | not args ih =>
    have hverdicts := verdicts_rename fun c hc =>
      ih c hc fun name value hmem => h name value (mem_nodes_of_child (nodes_not args) hc hmem)
    rw [rename, holds, holds, hverdicts]
  | field name value => exact h name value (by simp)
  | keyword | identifier => rfl

/-- A tree whose tests read after the renaming what they read before says the same. -/
theorem holds_rename (t : Item) (h : ∀ name value, .field name value ∈ t.nodes →
      SameRead names datum name names' datum' (f name)) :
    t.holds names datum = (t.rename f).holds names' datum' :=
  t.holds_rename_of_tests fun name value hmem => Literal.holds_congr (h name value hmem) value

/-- Data of which the tests of a tree say the same are the same to it. -/
theorem holds_congr_of_tests (t : Item) (h : ∀ name value, .field name value ∈ t.nodes →
      value.holds names datum name = value.holds names' datum' name) :
    t.holds names datum = t.holds names' datum' := by
  have hrename := t.holds_rename_of_tests (f := id) h
  rwa [rename_id] at hrename

end

/-! ### Which trees compile -/

theorem children_renameArgs (args : List Arg) :
    children (renameArgs f args) = (children args).map (rename f) := by
  induction args with
  | nil => rfl
  | cons a args ih => cases a <;> simp [renameArgs, ih]

theorem nodes_rename (t : Item) : (t.rename f).nodes = t.nodes.map (rename f) := by
  have hargs (args : List Arg) (ih : ∀ t, .resolved t ∈ args → (t.rename f).nodes = t.nodes.map (rename f)) :
      (children (renameArgs f args)).flatMap nodes = ((children args).flatMap nodes).map (rename f) := by
    rw [children_renameArgs, List.flatMap_map, List.map_flatMap]
    exact List.flatMap_congr fun c hc => ih c (mem_children.1 hc)
  induction t using Item.induct with
  | and args ih => rw [rename, nodes_and, nodes_and, hargs args ih, List.map_append, List.map_singleton, rename]
  | or args ih => rw [rename, nodes_or, nodes_or, hargs args ih, List.map_append, List.map_singleton, rename]
  | not args ih => rw [rename, nodes_not, nodes_not, hargs args ih, List.map_append, List.map_singleton, rename]
  | field | keyword | identifier => rfl

theorem allResolved_renameArgs {args : List Arg} : AllResolved (renameArgs f args) ↔ AllResolved args := by
  rw [← length_children_eq_iff, ← length_children_eq_iff, children_renameArgs, List.length_map,
    renameArgs_eq, List.length_map]

theorem renameArgs_eq_nil_iff {args : List Arg} : renameArgs f args = [] ↔ args = [] := by
  rw [renameArgs_eq, List.map_eq_nil_iff]

theorem fits_rename [PatternEngine] (t : Item) : (t.rename f).Fits ↔ t.Fits := by
  cases t with
  | and args | or args =>
    simp only [rename, Fits, ne_eq, renameArgs_eq_nil_iff, allResolved_renameArgs]
  | not args =>
    rw [rename, Fits, Fits]
    constructor
    · rintro ⟨t, ht⟩
      rw [renameArgs_eq, List.map_eq_singleton_iff] at ht
      obtain ⟨u | name, rfl, hu⟩ := ht
      · exact ⟨u, rfl⟩
      · cases hu
    · rintro ⟨t, rfl⟩
      exact ⟨t.rename f, rfl⟩
  | field | keyword | identifier => rfl

theorem compilable_rename [PatternEngine] (t : Item) : (t.rename f).Compilable ↔ t.Compilable := by
  unfold Compilable
  rw [nodes_rename]
  simp only [List.forall_mem_map, fits_rename]

end Item

end Condition

end EventRules
