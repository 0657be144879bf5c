import EventRules.Proofs.Binary.Equal
import EventRules.Proofs.Condition.Renamed

/-!
# The fields that a tree names

A tree says the same of two data that give the same answer for every field that its tests name
(`Item.holds_of_fields`). The same answer is no value, equal scalars or something structured, and floats are
equal as numbers.
-/

namespace EventRules

open Binary

namespace FieldValue

/-- The same answer for a field. -/
inductive SameAnswer : Option FieldValue → Option FieldValue → Prop
  | alike {v w : Option FieldValue} (h : Alike v w) : SameAnswer v w
  | same {v w : FieldValue} (h : v.same w = true) : SameAnswer (some v) (some w)

/-- Values that are the same are alike, unless they are floats with two patterns. -/
theorem alike_of_same {v w : FieldValue} (h : v.same w = true) :
    Alike (some v) (some w) ∨ ∃ x y, v = .float x ∧ w = .float y ∧ x.equal y = true := by
  cases v <;> cases w <;> simp only [same, beq_iff_eq, Bool.false_eq_true] at h
  case float.float x y => exact .inr ⟨x, y, rfl, rfl, h⟩
  case structured.structured => exact .inl (.structured _ _ _ _)
  all_goals
    subst h
    exact .inl (.same _)

end FieldValue

namespace Condition

theorem compares_congr {x y : Double} (h : x.equal y = true) (op : String) (threshold : Single) :
    compares op x.toSingle threshold = compares op y.toSingle threshold := by
  have hless := Single.less_congr (Double.rank_toSingle h) threshold
  have hequal := Single.equal_congr (Double.rank_toSingle h) threshold
  unfold compares
  split
  · exact hless.1
  · exact hless.2
  · rw [Single.lessEqual, Single.lessEqual, hless.1, hequal.1]
  · rw [Single.lessEqual, Single.lessEqual, hless.2, hequal.2]
  · rfl

section

variable {names : FieldNames} {datum datum' : Datum} {field : String} {x y : Double}
  (hx : datum.value? (names.storedName field) = some (.float x))
  (hy : datum'.value? (names.storedName field) = some (.float y))

include hx hy

theorem read_of_floats {α : Type} {select : FieldValue → Option α}
    (hselect : select (.float x) = select (.float y)) (type : FieldType) :
    names.read datum field type select = names.read datum' field type select := by
  rw [FieldNames.read, FieldNames.read, hx, hy]
  simp only [hselect]

theorem ofRead_readFloat {accepts : Single → Bool} (h : accepts x.toSingle = accepts y.toSingle) :
    Verdict.ofRead (names.readFloat datum field) accepts =
      Verdict.ofRead (names.readFloat datum' field) accepts := by
  rw [FieldNames.readFloat, FieldNames.readFloat, FieldNames.read, FieldNames.read, hx, hy]
  exact congrArg Except.ok h

/-- No literal tells equal floats apart. -/
theorem Literal.holds_of_floats [PatternEngine] (h : x.equal y = true) (l : Literal) :
    l.holds names datum field = l.holds names datum' field := by
  -- Reads of the other types fail at both; only what reads a float sees the numbers.
  have hstring : names.readString datum field = names.readString datum' field := read_of_floats hx hy rfl _
  have hboolean : names.readBoolean datum field = names.readBoolean datum' field := read_of_floats hx hy rfl _
  have hinteger : names.readInteger datum field = names.readInteger datum' field := read_of_floats hx hy rfl _
  induction l using Literal.induct with
  | scalar l hscalar =>
    cases l with
    | number n =>
      cases n with
      | integer value => simp only [holds, hinteger]
      | float value => exact ofRead_readFloat hx hy (Single.equal_congr (Double.rank_toSingle h) _).1
    | compare op n => exact ofRead_readFloat hx hy (compares_congr h op _)
    | null => simp only [holds, FieldNames.readValue, hx, hy]; rfl
    | expansion ls => exact absurd rfl (hscalar ls)
    | _ => simp only [holds, hstring, hboolean]
  | expansion ls ih => rw [holds_expansion, holds_expansion, List.map_congr_left ih]

end

theorem Literal.holds_of_sameAnswer [PatternEngine] {names : FieldNames} {datum datum' : Datum} {field : String}
    (h : FieldValue.SameAnswer (datum.value? (names.storedName field))
      (datum'.value? (names.storedName field))) (l : Literal) :
    l.holds names datum field = l.holds names datum' field := by
  generalize hv : datum.value? (names.storedName field) = v at h
  generalize hw : datum'.value? (names.storedName field) = w at h
  cases h with
  | alike h =>
    subst hv hw
    exact l.holds_congr ⟨rfl, h⟩
  | same h =>
    rcases FieldValue.alike_of_same h with h | ⟨x, y, rfl, rfl, h⟩
    · rw [← hv, ← hw] at h
      exact l.holds_congr ⟨rfl, h⟩
    · exact l.holds_of_floats hv hw h

/-! ### Trees -/

namespace Item

/-- The fields that the tests of a tree name. -/
def fields (t : Item) : List String :=
  t.nodes.filterMap fun
    | .field name _ => some name
    | _ => none

theorem mem_fields {t : Item} {name : String} : name ∈ t.fields ↔ ∃ value, .field name value ∈ t.nodes := by
  rw [fields, List.mem_filterMap]
  constructor
  · rintro ⟨node, hnode, hname⟩
    cases node <;> cases hname
    exact ⟨_, hnode⟩
  · rintro ⟨value, hnode⟩
    exact ⟨_, hnode, rfl⟩

/-- A tree says the same of two data with the same answer for every field that it names. -/
theorem holds_of_fields [PatternEngine] {names : FieldNames} {datum datum' : Datum} (t : Item)
    (h : ∀ field ∈ t.fields, FieldValue.SameAnswer (datum.value? (names.storedName field))
      (datum'.value? (names.storedName field))) :
    t.holds names datum = t.holds names datum' :=
  t.holds_congr_of_tests fun name value hnode =>
    value.holds_of_sameAnswer (h name (mem_fields.2 ⟨value, hnode⟩))

end Item

end Condition

end EventRules
