import EventRules.Pattern
import EventRules.Proofs.Condition.Reordered
import EventRules.Proofs.Compile.Item
import EventRules.Proofs.Event.Path

/-!
# Stored integers read as floats

An integer that an event stores is no float to those who read it as one, as long as it fits into a signed
word. One that only fits into an unsigned word is stored as a float, and reads as the nearest one
(`FieldNames.readFloat_integer`).
-/

namespace EventRules

open Binary Condition

namespace Compile

variable [PatternEngine] {names : FieldNames} {field : String} {l : Literal} {p : Predicate}

/-- A leaf that is made tests what its literal says of a datum. -/
theorem leaf_eq_ok (h : leaf names field l = .ok p) : p = literalTest names field l := by
  have hscalar : ∀ ls, l ≠ .expansion ls := by
    rintro ls rfl
    cases h
  have heq := leaf_eq names field hscalar
  rw [h] at heq
  exact (settle_eq_ok_iff.1 heq.symm).2.symm

/-- What is read as a float decides the tests against floats and the comparisons. -/
theorem leaf_readFloat (hl : l.fieldType? = some .float) (h : leaf names field l = .ok p) (datum : Datum) :
    ∃ accepts, p datum = .ofExcept (Verdict.ofRead (names.readFloat datum field) accepts) := by
  rw [leaf_eq_ok h]
  cases l with
  | number n =>
    cases n with
    | integer => cases hl
    | float value => exact ⟨_, rfl⟩
  | compare op n => exact ⟨_, rfl⟩
  | _ => cases hl

end Compile

namespace FieldNames

variable {names : FieldNames} {e : JsonEvent} {field : String} {place : List Json.Step} {n : Int}

theorem value?_integer (h : e.root.lookup? (names.storedName field) = some (place, .number (.integer n))) :
    e.datum.value? (names.storedName field) =
      some (if Digits.inInt64 n then .integer (.ofInt n) else .float (.ofInt n)) := by
  show (e.root.lookup? _).bind Json.fieldValue? = _
  rw [h, Option.bind_some, Json.fieldValue?]
  split <;> rfl

section

variable (h : e.root.lookup? (names.storedName field) = some (place, .number (.integer n)))

include h

theorem readFloat_word (hn : Digits.inInt64 n = true) :
    names.readFloat e.datum field = .error ⟨names.storedName field, "float"⟩ := by
  rw [readFloat, read, value?_integer h, if_pos hn]; rfl

theorem readDouble_word (hn : Digits.inInt64 n = true) :
    names.readDouble e.datum field = .error ⟨names.storedName field, "double"⟩ := by
  rw [readDouble, read, value?_integer h, if_pos hn]; rfl

theorem readFloat_wide (hn : ¬ Digits.inInt64 n = true) :
    names.readFloat e.datum field = .ok (some (Double.ofInt n).toSingle) := by
  rw [readFloat, read, value?_integer h, if_neg hn]

theorem readDouble_wide (hn : ¬ Digits.inInt64 n = true) :
    names.readDouble e.datum field = .ok (some (.ofInt n)) := by
  rw [readDouble, read, value?_integer h, if_neg hn]

end

/-- An integer is no float to a read, a comparison or a test against a float exactly if it fits into a
signed word; otherwise it reads as the nearest one. -/
theorem readFloat_integer [PatternEngine] (hroot : e.root.Formed)
    (h : e.root.lookup? (names.storedName field) = some (place, .number (.integer n))) :
    (n < 2 ^ 63 →
      names.readFloat e.datum field = .error ⟨names.storedName field, "float"⟩ ∧
      names.readDouble e.datum field = .error ⟨names.storedName field, "double"⟩ ∧
      ∀ l p, l.fieldType? = some .float → Compile.leaf names field l = .ok p →
        p e.datum = .fail ⟨names.storedName field, "float"⟩) ∧
    (2 ^ 63 ≤ n →
      names.readFloat e.datum field = .ok (some (Double.ofInt n).toSingle) ∧
      names.readDouble e.datum field = .ok (some (.ofInt n)) ∧
      ∀ l p, l.fieldType? = some .float → Compile.leaf names field l = .ok p →
        ∃ b, p e.datum = pure b) := by
  obtain _ | _ | hword := Json.formed_lookup? hroot h
  constructor
  · intro hlt
    have hn := hword.inInt64_iff.2 hlt
    refine ⟨readFloat_word h hn, readDouble_word h hn, fun l p hl hp => ?_⟩
    obtain ⟨accepts, haccepts⟩ := Compile.leaf_readFloat hl hp e.datum
    rw [haccepts, readFloat_word h hn]; rfl
  · intro hle
    have hn := hword.inInt64_iff.not.2 (not_lt.2 hle)
    refine ⟨readFloat_wide h hn, readDouble_wide h hn, fun l p hl hp => ?_⟩
    obtain ⟨accepts, haccepts⟩ := Compile.leaf_readFloat hl hp e.datum
    rw [haccepts, readFloat_wide h hn]
    exact ⟨_, rfl⟩

/-- An event that counts to the greatest signed word and to the number after it. -/
def counts : JsonEvent where
  root := .object [("bytes", .number (.integer (2 ^ 63))), ("calls", .number (.integer (2 ^ 63 - 1)))]
  timeField := none

theorem formed_counts : counts.root.Formed :=
  Json.formed_pair (by decide +kernel) (.integer (by decide)) (.integer (by decide))

/-- More than five. -/
def aboveFive : Literal :=
  .compare ">" (.integer 5)

/-- The greater number is no error to a read as a float or to a comparison. -/
theorem readFloat_integer_fails :
    counts.root.lookup? "bytes" = some ([.key "bytes"], .number (.integer (2 ^ 63))) ∧
    empty.readFloat counts.datum "bytes" = .ok (some ⟨0x5F000000⟩) ∧
    empty.readDouble counts.datum "bytes" = .ok (some ⟨0x43E0000000000000⟩) ∧
    ∃ p, Compile.leaf .empty "bytes" aboveFive = .ok p ∧ p counts.datum = pure true := by
  have hdouble : Double.ofInt (2 ^ 63) = ⟨0x43E0000000000000⟩ := by decide +kernel
  have hsingle : (Double.ofInt (2 ^ 63)).toSingle = ⟨0x5F000000⟩ := by decide +kernel
  have hless : (Number.integer 5).toSingle.less ⟨0x5F000000⟩ = true := by decide +kernel
  have hread : empty.readFloat counts.datum "bytes" = .ok (some ⟨0x5F000000⟩) := by
    rw [readFloat_wide rfl (by decide), hsingle]
  refine ⟨rfl, hread, by rw [readDouble_wide rfl (by decide), hdouble], _, rfl, ?_⟩
  rw [Compile.test, Predicate.ofTest, hread]
  exact congrArg pure hless

/-- The lesser number is no float, the greater one is. -/
theorem readFloat_integer_counts : ∃ p q, Compile.leaf .empty "calls" aboveFive = .ok p ∧
    Compile.leaf .empty "bytes" aboveFive = .ok q ∧ counts.root.Formed ∧
    p counts.datum = .fail ⟨"calls", "float"⟩ ∧ ∃ b, q counts.datum = pure b := by
  have hcalls := (@readFloat_integer .empty _ "calls" _ _ _ formed_counts rfl).1 (by decide)
  have hbytes := (@readFloat_integer .empty _ "bytes" _ _ _ formed_counts rfl).2 (by decide)
  exact ⟨_, _, rfl, rfl, formed_counts, hcalls.2.2 aboveFive _ rfl rfl, hbytes.2.2 aboveFive _ rfl rfl⟩

end FieldNames

end EventRules
