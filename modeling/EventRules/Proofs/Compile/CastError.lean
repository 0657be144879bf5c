import EventRules.Event.CloudTrail
import EventRules.Pattern
import EventRules.Proofs.Compile.Item
import EventRules.Proofs.Condition.Reordered

/-!
# Where cast errors come from

Unless it looks for null, a leaf reads its field as one type (`Compile.leaf_reads`), and so it fails on a
datum exactly if the field holds a value of another type (`Literal.Mismatch`). Branches make no errors of
their own: the error of a tree is that of one of its leaves (`Item.exists_test_of_error`), and a tree
none of whose leaves mismatches has an answer (`Compile.cast_errors`).
-/

namespace EventRules

namespace Condition

variable {names : FieldNames} {datum : Datum} {e : CastError}

namespace Literal

def isNull : Literal → Bool
  | null => true
  | _ => false

/-- The field holds a value of another type than it is read as; this is the error of the read. -/
def Mismatch (names : FieldNames) (datum : Datum) (field : String) (l : Literal) (e : CastError) : Prop :=
  ∃ value type, datum.value? (names.storedName field) = some value ∧ l.fieldType? = some type ∧
    value.typeName ≠ type.name ∧ e = ⟨names.storedName field, type.name⟩

variable {field : String} {l : Literal}

/-- Alternatives fail as one of them does. -/
theorem exists_part_of_error [PatternEngine] (h : l.holds names datum field = .error e) :
    ∃ part ∈ l.parts, (∀ ls, part ≠ .expansion ls) ∧ part.holds names datum field = .error e := by
  induction l using Literal.induct with
  | scalar l hscalar =>
    have hself : l ∈ l.parts := by simp [parts_scalar hscalar]
    exact ⟨l, hself, hscalar, h⟩
  | expansion ls ih =>
    rw [holds_expansion] at h
    have hbranch : Verdict.branch .or (ls.map (holds names datum field)) = .error e := h
    obtain ⟨l, hl, he⟩ := List.mem_map.1 (Verdict.mem_of_branch_eq_error hbranch)
    obtain ⟨part, hpart, hscalar, he⟩ := ih l hl he
    refine ⟨part, ?_, hscalar, he⟩
    rw [parts_expansion]
    exact List.mem_append_left _ (List.mem_flatMap.2 ⟨l, hl, hpart⟩)

end Literal

namespace Item

theorem exists_test_of_error [PatternEngine] {t : Item} (h : t.holds names datum = .error e) :
    ∃ field l, t.Tests field l ∧ l.holds names datum field = .error e := by
  have branch (b : Branch) {args : List Arg} (ih : ∀ t, .resolved t ∈ args →
      t.holds names datum = .error e → ∃ field l, t.Tests field l ∧ l.holds names datum field = .error e)
      (h : (ofBranch b args).holds names datum = .error e) :
      ∃ field l, (ofBranch b args).Tests field l ∧ l.holds names datum field = .error e := by
    rw [holds_ofBranch] at h
    obtain ⟨a, ha, he⟩ := List.mem_map.1 (Verdict.mem_of_branch_eq_error h)
    cases a with
    | unresolved name => cases he
    | resolved t =>
      obtain ⟨field, l, ⟨value, hnode, hpart⟩, hl⟩ := ih t ha he
      have hnode' := mem_nodes_of_child (nodes_ofBranch b args) ha hnode
      exact ⟨field, l, ⟨value, hnode', hpart⟩, hl⟩
  induction t using Item.induct with
  | and args ih => exact branch .and ih h
  | or args ih => exact branch .or ih h
  | not args ih => exact branch .not ih h
  | field name value =>
    obtain ⟨part, hpart, hscalar, he⟩ := Literal.exists_part_of_error h
    exact ⟨name, part, ⟨value, by simp, hpart, hscalar⟩, he⟩
  | keyword value => cases h
  | identifier name => cases h

end Item

end Condition

namespace Compile

open Condition

variable {names : FieldNames} {datum : Datum} {field : String} {l : Literal} {p : Predicate}

/-- The predicate reads a field as one type. -/
inductive Reads (names : FieldNames) (field : String) (type : FieldType) : Predicate → Prop
  | intro {α : Type} (select : FieldValue → Option α) (accepts : α → Bool)
    (hselect : ∀ value, (select value).isSome ↔ value.typeName = type.name) :
    Reads names field type (test (names.read · field type select) accepts)

namespace Reads

theorem string (accepts : String → Bool) :
    Reads names field .string (test (names.readString · field) accepts) :=
  .intro _ accepts (by rintro (_ | _ | _ | _ | _) <;> simp [FieldValue.typeName, FieldType.name])

theorem boolean (accepts : Bool → Bool) :
    Reads names field .boolean (test (names.readBoolean · field) accepts) :=
  .intro _ accepts (by rintro (_ | _ | _ | _ | _) <;> simp [FieldValue.typeName, FieldType.name])

theorem integer (accepts : Int64 → Bool) :
    Reads names field .integer (test (names.readInteger · field) accepts) :=
  .intro _ accepts (by rintro (_ | _ | _ | _ | _) <;> simp [FieldValue.typeName, FieldType.name])

theorem float (accepts : Binary.Single → Bool) :
    Reads names field .float (test (names.readFloat · field) accepts) :=
  .intro _ accepts (by rintro (_ | _ | _ | _ | _) <;> simp [FieldValue.typeName, FieldType.name])

variable {type : FieldType} {value : FieldValue}

theorem of_absent (h : Reads names field type p) (hvalue : datum.value? (names.storedName field) = none) :
    p datum = pure false := by
  obtain ⟨select, accepts, -⟩ := h
  simp only [test, Predicate.ofTest, FieldNames.read, hvalue]
  rfl

theorem of_type (h : Reads names field type p) (hvalue : datum.value? (names.storedName field) = some value)
    (htype : value.typeName = type.name) : ∃ b, p datum = pure b := by
  obtain ⟨select, accepts, hselect⟩ := h
  obtain ⟨a, ha⟩ := Option.isSome_iff_exists.1 ((hselect value).2 htype)
  refine ⟨accepts a, ?_⟩
  simp only [test, Predicate.ofTest, FieldNames.read, hvalue, ha]
  rfl

theorem of_other_type (h : Reads names field type p)
    (hvalue : datum.value? (names.storedName field) = some value) (htype : value.typeName ≠ type.name) :
    p datum = .fail ⟨names.storedName field, type.name⟩ := by
  obtain ⟨select, accepts, hselect⟩ := h
  have hnone : select value = none := by
    rw [← Option.not_isSome_iff_eq_none, hselect]
    exact htype
  simp only [test, Predicate.ofTest, FieldNames.read, hvalue, hnone]
  rfl

end Reads

section
variable [PatternEngine]

theorem leaf_reads (h : leaf names field l = .ok p) (hl : l ≠ .null) :
    ∃ type, l.fieldType? = some type ∧ Reads names field type p := by
  cases l with
  | string text =>
    obtain rfl := Except.ok.inj h
    exact ⟨.string, rfl, .string _⟩
  | boolean value =>
    obtain rfl := Except.ok.inj h
    exact ⟨.boolean, rfl, .boolean _⟩
  | number n =>
    cases n with
    | integer value =>
      obtain rfl := Except.ok.inj h
      exact ⟨.integer, rfl, .integer _⟩
    | float value =>
      obtain rfl := Except.ok.inj h
      exact ⟨.float, rfl, .float _⟩
  | null => exact absurd rfl hl
  | regex text =>
    rw [leaf] at h
    split at h
    · obtain rfl := Except.ok.inj h
      exact ⟨.string, rfl, .string _⟩
    · cases h
  | cidr text =>
    rw [leaf] at h
    split at h
    · obtain rfl := Except.ok.inj h
      exact ⟨.string, rfl, .string _⟩
    · cases h
  | compare op n =>
    rw [leaf] at h
    split at h
    · obtain rfl := Except.ok.inj h
      exact ⟨.float, rfl, .float _⟩
    · cases h
  | expansion ls => cases h

theorem leaf_null (h : leaf names field .null = .ok p) :
    p datum = pure (datum.value? (names.storedName field)).isNone := by
  obtain rfl := Except.ok.inj h
  rfl

theorem leaf_of_absent (h : leaf names field l = .ok p)
    (hvalue : datum.value? (names.storedName field) = none) : p datum = pure l.isNull := by
  by_cases hl : l = .null
  · subst hl
    rw [leaf_null h, hvalue]
    rfl
  · obtain ⟨type, -, hreads⟩ := leaf_reads h hl
    have hnull : l.isNull = false := by cases l <;> first | rfl | exact absurd rfl hl
    rw [hreads.of_absent hvalue, hnull]

/-- A leaf that fails has a field of another type than it reads. -/
theorem leaf_mismatch {e : CastError} (h : leaf names field l = .ok p) (he : p datum = .fail e) :
    l.Mismatch names datum field e := by
  have hpure (b : Bool) : p datum ≠ pure b := by
    intro hb
    rw [he] at hb
    cases congrArg Run.outcome hb
  cases hvalue : datum.value? (names.storedName field) with
  | none => exact absurd (leaf_of_absent h hvalue) (hpure _)
  | some value =>
    by_cases hl : l = .null
    · subst hl
      exact absurd (leaf_null h) (hpure _)
    obtain ⟨type, htype, hreads⟩ := leaf_reads h hl
    by_cases hname : value.typeName = type.name
    · obtain ⟨b, hb⟩ := hreads.of_type hvalue hname
      exact absurd hb (hpure b)
    · have hfail := hreads.of_other_type hvalue hname
      rw [he] at hfail
      obtain rfl := Except.error.inj (congrArg Run.outcome hfail)
      exact ⟨value, type, hvalue, htype, hname, rfl⟩

theorem leaf_of_fits (hscalar : ∀ ls, l ≠ .expansion ls) (h : l.Fits) :
    leaf names field l = .ok (literalTest names field l) := by
  have hnone : l.error? field = none := by
    rw [Literal.error?, (l.fault?_eq_none_iff field).2 h]
    rfl
  have heq := leaf_eq names field hscalar
  rw [hnone, settle_none, Except.mapError_eq_ok_iff] at heq
  exact heq

/-- The error of a tree is that of one of its leaves. -/
theorem exists_leaf_of_error {t : Item} {e : CastError} (h : item names t = .ok p)
    (he : (p datum).outcome = .error e) :
    ∃ field l q, t.Tests field l ∧ leaf names field l = .ok q ∧ q datum = .fail e := by
  obtain ⟨hcompilable, hholds⟩ := (item_eq_ok_iff names t p).1 h
  rw [hholds, Run.ofExcept_outcome] at he
  obtain ⟨field, l, htests, hl⟩ := Item.exists_test_of_error he
  obtain ⟨value, hnode, hpart, hscalar⟩ := htests
  have hfits : l.Fits := hcompilable _ hnode l hpart
  refine ⟨field, l, _, ⟨value, hnode, hpart, hscalar⟩, leaf_of_fits hscalar hfits, ?_⟩
  rw [literalTest, Predicate.ofTest, hl]
  rfl

/-- A leaf fails exactly on a field of another type than it reads, with the stored name of the field and
that type. A tree fails only as one of its leaves does. -/
theorem cast_errors (names : FieldNames) (datum : Datum) :
    (∀ (field : String) (l : Literal) (p : Predicate), leaf names field l = .ok p →
      (datum.value? (names.storedName field) = none → p datum = pure l.isNull) ∧
      ∀ value, datum.value? (names.storedName field) = some value →
        (l = .null → p datum = pure false) ∧
        (l ≠ .null → ∃ type, l.fieldType? = some type ∧
          (value.typeName = type.name → ∃ b, p datum = pure b) ∧
          (value.typeName ≠ type.name → p datum = .fail ⟨names.storedName field, type.name⟩))) ∧
    ∀ (t : Item) (p : Predicate), item names t = .ok p →
      (∀ e, (p datum).outcome = .error e → ∃ field l q, t.Tests field l ∧
        leaf names field l = .ok q ∧ q datum = .fail e ∧ l.Mismatch names datum field e) ∧
      ((∀ field l, t.Tests field l → ∀ e, ¬ l.Mismatch names datum field e) →
        ∃ b, p datum = pure b) := by
  refine ⟨fun field l p hp => ⟨leaf_of_absent hp, fun value hvalue => ⟨?_, fun hl => ?_⟩⟩,
    fun t p hp => ?_⟩
  · rintro rfl
    rw [leaf_null hp, hvalue]
    rfl
  · obtain ⟨type, htype, hreads⟩ := leaf_reads hp hl
    exact ⟨type, htype, hreads.of_type hvalue, hreads.of_other_type hvalue⟩
  · have hfails : ∀ e, (p datum).outcome = .error e → ∃ field l q, t.Tests field l ∧
        leaf names field l = .ok q ∧ q datum = .fail e ∧ l.Mismatch names datum field e := by
      intro e he
      obtain ⟨field, l, q, htests, hq, hfail⟩ := exists_leaf_of_error hp he
      exact ⟨field, l, q, htests, hq, hfail, leaf_mismatch hq hfail⟩
    refine ⟨hfails, fun hnone => ?_⟩
    have hholds := ((item_eq_ok_iff names t p).1 hp).2 datum
    cases hverdict : t.holds names datum with
    | ok b =>
      rw [hholds, hverdict]
      exact ⟨b, rfl⟩
    | error e =>
      have he : (p datum).outcome = .error e := by rw [hholds, hverdict]; rfl
      obtain ⟨field, l, -, htests, -, -, hmismatch⟩ := hfails e he
      exact absurd hmismatch (hnone field l htests e)

end

/-- A name is no float under the second alternative of a negated test; without one the test for null
comes first and passes. -/
theorem cast_errors_renamed :
    let names : FieldNames := ⟨[("Event", "eventName")]⟩
    let t : Item := .not [.resolved (.field "Event" (.expansion [.null, .compare ">" (.integer 5)]))]
    let created : CloudTrailEvent := ⟨some "Create", 5⟩
    let unnamed : CloudTrailEvent := ⟨none, 5⟩
    ∃ p q, item names t = .ok p ∧ leaf names "Event" .null = .ok q ∧
      (p created.datum).outcome = .error ⟨"eventName", "float"⟩ ∧
      (∃ field l, t.Tests field l ∧ l.Mismatch names created.datum field ⟨"eventName", "float"⟩) ∧
      q created.datum = pure false ∧ q unnamed.datum = pure true ∧ ∃ b, p unnamed.datum = pure b := by
  intro names t created unnamed
  have hp : item names t = .ok (itemTest names t) := by
    rw [item_eq]
    rfl
  obtain ⟨hleafCreated, htreeCreated⟩ := cast_errors names created.datum
  obtain ⟨hleafUnnamed, htreeUnnamed⟩ := cast_errors names unnamed.datum
  obtain ⟨field, l, -, htests, -, -, hmismatch⟩ := (htreeCreated t _ hp).1 ⟨"eventName", "float"⟩ rfl
  have hcreated := ((hleafCreated "Event" .null _ rfl).2 _ rfl).1 rfl
  have hunnamed := (hleafUnnamed "Event" .null _ rfl).1 rfl
  have habsent : ∀ field l, t.Tests field l → ∀ e, ¬ l.Mismatch names unnamed.datum field e := by
    rintro field l ⟨value, hnode, -⟩ e ⟨stored, type, hvalue, -⟩
    obtain ⟨rfl, -⟩ : field = "Event" ∧ _ := by simpa [t] using hnode
    cases hvalue
  exact ⟨_, _, hp, rfl, rfl, ⟨field, l, htests, hmismatch⟩, hcreated, hunnamed,
    (htreeUnnamed t _ hp).2 habsent⟩

end Compile

end EventRules
