import EventRules.Config
import EventRules.Proofs.Compile.Renamed
import EventRules.Proofs.Rule.Parse

/-!
# Stored names and renamed rules

To compile under stored names is to compile, as they are, the conditions whose fields are renamed to
their stored names, each of them once (`RuleParser.parse_renamed`).
-/

namespace EventRules

open Condition

variable [PatternEngine] (names : FieldNames)

namespace Compile

/-- A test under a stored name reads what a test of the stored name reads. -/
theorem holds_storedName (t : Item) (datum : Datum) :
    t.holds names datum = (t.rename names.storedName).holds .empty datum :=
  t.holds_rename fun _ _ _ => ⟨rfl, .same _⟩

theorem itemTest_storedName (t : Item) :
    itemTest names t = itemTest .empty (t.rename names.storedName) := by
  unfold itemTest
  simp only [← holds_storedName]

theorem item_storedName (t : Item) (p : Predicate) :
    item names t = .ok p ↔ item .empty (t.rename names.storedName) = .ok p := by
  simp only [item_eq, settle_eq_ok_iff, ← Item.compilable_iff_error?, Item.compilable_rename,
    ← itemTest_storedName]

theorem items_storedName (ts : List Item) (p : Predicate) :
    (items names ts).outcome = .ok p ↔
      (items .empty (ts.map (Item.rename names.storedName))).outcome = .ok p := by
  have hcompilable : (∀ t ∈ ts.map (Item.rename names.storedName), t.Compilable) ↔ ∀ t ∈ ts, t.Compilable := by
    simp only [List.forall_mem_map, Item.compilable_rename]
  have hverdicts (datum : Datum) : (ts.map (Item.rename names.storedName)).map (Item.holds .empty datum) =
      ts.map (Item.holds names datum) := by
    rw [List.map_map]
    exact List.map_congr_left fun t _ => (holds_storedName names t datum).symm
  simp only [items_eq_ok_iff, hcompilable, hverdicts]

end Compile

/-- What compiles under stored names, and to what, is what compiles without them once every field is
renamed: a tree, the conditions of a rule, and a rule under any configuration. -/
theorem RuleParser.parse_renamed :
    (∀ (names : FieldNames) (t : Item) (p : Predicate),
      Compile.item names t = .ok p ↔ Compile.item .empty (t.rename names.storedName) = .ok p) ∧
    (∀ (names : FieldNames) (ts : List Item) (p : Predicate),
      (Compile.items names ts).outcome = .ok p ↔
        (Compile.items .empty (ts.map (Item.rename names.storedName))).outcome = .ok p) ∧
    ∀ (c : Config) (data : RuleData) (parsed : ParsedRules),
      (c.ruleParser.parse data).outcome = .ok parsed ↔
        ∃ r ts p, Rule.read data.text = .ok r ∧ readBlocks r = .ok ts ∧
          (Compile.items .empty (ts.map (Item.rename c.fieldNames.storedName))).outcome = .ok p ∧
          parsed = ⟨[{
            id := r.id
            evaluationCondition := data.evaluationCondition
            ruleCondition := p
            routing := .ofMetadata data.metadata
            description := describe r }], []⟩ := by
  refine ⟨Compile.item_storedName, Compile.items_storedName, fun c data parsed => ?_⟩
  rw [parse_eq_ok_iff]
  constructor
  · rintro ⟨r, hr, ts, hblocks, hts, rfl⟩
    have hitems := (Compile.items_storedName c.fieldNames ts _).1 (Compile.items_eq_ok_iff.2 ⟨hts, rfl⟩)
    exact ⟨r, ts, _, hr, readBlocks_eq_ok_iff.2 hblocks, hitems, rfl⟩
  · rintro ⟨r, ts, p, hr, hblocks, hitems, rfl⟩
    obtain ⟨hts, rfl⟩ := Compile.items_eq_ok_iff.1 ((Compile.items_storedName c.fieldNames ts p).2 hitems)
    exact ⟨r, hr, ts, readBlocks_eq_ok_iff.1 hblocks, hts, rfl⟩

/-- A name is looked up once, though what it is stored as is listed again. -/
example : (Item.field "a" .null).rename (FieldNames.storedName ⟨[("a", "b"), ("b", "a")]⟩) =
    .field "b" .null := rfl

end EventRules
