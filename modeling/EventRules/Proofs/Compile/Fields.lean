import EventRules.Event.CloudTrail
import EventRules.Event.Json
import EventRules.Pattern
import EventRules.Proofs.Compile.Item
import EventRules.Proofs.Condition.Fields

/-!
# The fields that a predicate reads

A predicate that is compiled from a tree, or from the conditions of a rule, reads nothing but the stored
names of the fields that the tree names: on data of any kind with the same answer for these it ends in the
same way, cast errors included (`Compile.reads_fields`).
-/

namespace EventRules.Compile

open Condition FieldValue

section
variable [PatternEngine] {names : FieldNames} {p : Predicate} {datum datum' : Datum}

theorem item_congr {t : Item} (hp : item names t = .ok p)
    (h : ∀ field ∈ t.fields,
      SameAnswer (datum.value? (names.storedName field)) (datum'.value? (names.storedName field))) :
    p datum = p datum' := by
  have hholds := ((item_eq_ok_iff names t p).1 hp).2
  rw [hholds, hholds, t.holds_of_fields h]

theorem items_congr {ts : List Item} (hp : (items names ts).outcome = .ok p)
    (h : ∀ t ∈ ts, ∀ field ∈ t.fields,
      SameAnswer (datum.value? (names.storedName field)) (datum'.value? (names.storedName field))) :
    p datum = p datum' := by
  obtain ⟨-, rfl⟩ := items_eq_ok_iff.1 hp
  simp only [Predicate.ofTest, List.map_congr_left fun t ht => Item.holds_of_fields t (h t ht)]

/-- Data with the same answer for the stored names of the fields that a tree names are the same to its
predicate, and so are those to the predicate of several conditions. -/
theorem reads_fields (names : FieldNames) (datum datum' : Datum) :
    (∀ (t : Item) (p : Predicate), item names t = .ok p →
      (∀ field ∈ t.fields,
        SameAnswer (datum.value? (names.storedName field)) (datum'.value? (names.storedName field))) →
      p datum = p datum') ∧
    ∀ (ts : List Item) (p : Predicate), (items names ts).outcome = .ok p →
      (∀ t ∈ ts, ∀ field ∈ t.fields,
        SameAnswer (datum.value? (names.storedName field)) (datum'.value? (names.storedName field))) →
      p datum = p datum' :=
  ⟨fun _ _ hp h => item_congr hp h, fun _ _ hp h => items_congr hp h⟩

end

/-- A field that is renamed, and stored alike in records of two kinds that differ in all else. -/
theorem reads_fields_created :
    let names : FieldNames := ⟨[("Event", "eventName"), ("eventName", "time")]⟩
    let t : Item := .and [.resolved (.field "Event" (.string "Create")),
      .resolved (.field "Event" (.compare ">" (.integer 5)))]
    let e : CloudTrailEvent := ⟨some "Create", 5⟩
    let j : JsonEvent := ⟨.object [("eventName", .string "Create"), ("time", .string "now")], none⟩
    ∃ p, item names t = .ok p ∧ p e.datum = .fail ⟨"eventName", "float"⟩ ∧ p j.datum = p e.datum := by
  intro names t e j
  have hp : item names t = .ok (itemTest names t) := by
    rw [item_eq]; rfl
  have hanswers : ∀ field ∈ t.fields,
      SameAnswer (j.datum.value? (names.storedName field)) (e.datum.value? (names.storedName field)) := by
    intro field hfield
    obtain rfl : field = "Event" := by simpa [t, Item.fields] using hfield
    exact .alike (.same _)
  exact ⟨_, hp, rfl, (reads_fields names j.datum e.datum).1 t _ hp hanswers⟩

end EventRules.Compile
