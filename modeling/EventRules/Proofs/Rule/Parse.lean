import EventRules.Compile.Rule
import EventRules.Pattern
import EventRules.Proofs.Compile.Item
import EventRules.Proofs.Rule.Condition

/-!
# Which rules compile, and to what

A document compiles if its grammar reads a rule from it all of whose conditions are acceptable
(`RuleParser.parse_accepts_iff`), and then to one rule without state whose condition says of each datum
what the rule says (`RuleParser.parse_refines`). `RuleParser.parse_outcome` takes the steps apart.
-/

namespace EventRules

open Condition

namespace RuleParser

/-! ### Conditions without aggregations -/

/-- What is wrong with a number of aggregations. -/
def aggregationError? (id : String) : Nat → Option RuleError
  | 0 => none
  | 1 => some (.unsupported .aggregation)
  | n + 2 => some (.parse ⟨.aggregations (n + 2), some id⟩)

theorem checkAggregations_eq (id : String) (count : Nat) :
    checkAggregations id count = settle (aggregationError? id count) () := by
  match count with
  | 0 | 1 | n + 2 => rfl

theorem readBlocks_eq (r : Rule) :
    readBlocks r =
      (r.blocks.mapError (fun error => RuleError.parse ⟨.block r.id error, some r.id⟩) >>=
        fun blocks => settle (aggregationError? r.id (blocks.filterMap (·.aggregation)).length)
          (blocks.map (·.item))) := by
  simp only [readBlocks, checkAggregations_eq]
  refine congrArg _ (funext fun blocks => ?_)
  exact settle_bind_pure _ () fun _ => blocks.map (·.item)

theorem aggregationError?_eq_none_iff {blocks : List Block} {id : String} :
    aggregationError? id (blocks.filterMap (·.aggregation)).length = none ↔
      ∀ b ∈ blocks, b.aggregation = none := by
  have hzero (n : Nat) : aggregationError? id n = none ↔ n = 0 := by
    match n with
    | 0 | 1 | n + 2 => simp [aggregationError?]
  rw [hzero, List.length_eq_zero_iff, List.filterMap_eq_nil_iff]

/-- Blocks without aggregations are no more than their trees. -/
theorem blocks_eq_map {blocks : List Block} (h : ∀ b ∈ blocks, b.aggregation = none) :
    blocks = (blocks.map (·.item)).map (⟨·, none⟩) := by
  rw [List.map_map, List.map_congr_left (g := fun b => b), List.map_id']
  rintro ⟨item, aggregation⟩ hb
  obtain rfl : aggregation = none := h _ hb
  rfl

/-- Conditions without aggregations are read as their trees. -/
theorem readBlocks_eq_ok_iff {r : Rule} {ts : List Item} :
    readBlocks r = .ok ts ↔ r.blocks = .ok (ts.map (⟨·, none⟩)) := by
  rw [readBlocks_eq, Except.bind_eq_ok_iff]
  simp only [Except.mapError_eq_ok_iff, settle_eq_ok_iff, aggregationError?_eq_none_iff]
  constructor
  · rintro ⟨blocks, hblocks, hnone, rfl⟩
    rw [← blocks_eq_map hnone, hblocks]
  · intro h
    exact ⟨_, h, by simp, by simp [Function.comp_def]⟩

/-! ### Rules -/

section

variable [PatternEngine] (p : RuleParser) (data : RuleData)

/-- The rule that condition trees make. -/
def compiled (r : Rule) (ts : List Item) : StatelessRule where
  id := r.id
  evaluationCondition := data.evaluationCondition
  ruleCondition := .ofTest fun datum => Verdict.any (ts.map (Item.holds p.fieldNames datum))
  routing := .ofMetadata data.metadata
  description := describe r

/-- The rule is read, then its conditions, and then their nodes are looked at in order. -/
theorem parse_outcome :
    (p.parse data).outcome =
      ((p.grammar data.text).mapError (fun error => RuleError.ofFault (.grammar error)) >>= fun r =>
        readBlocks r >>= fun ts =>
          settle (((ts.flatMap Item.nodes).findSome? Item.error?).map (.withRuleId r.id))
            ⟨[p.compiled data r ts], []⟩) := by
  unfold parse
  simp only [Run.bind_outcome, Run.ofExcept_outcome, Run.log_outcome, Run.mapError_outcome,
    Compile.items_outcome, settle_mapError, Except.ok_bind]
  refine congrArg _ (funext fun r => congrArg _ (funext fun ts => ?_))
  cases (ts.flatMap Item.nodes).findSome? Item.error? <;> rfl

variable {p data}

theorem parse_eq_ok_iff {parsed : ParsedRules} :
    (p.parse data).outcome = .ok parsed ↔ ∃ r, p.grammar data.text = .ok r ∧
      ∃ ts, r.blocks = .ok (ts.map (⟨·, none⟩)) ∧ (∀ t ∈ ts, t.Compilable) ∧
        ⟨[p.compiled data r ts], []⟩ = parsed := by
  rw [parse_outcome]
  simp only [Except.bind_eq_ok_iff, Except.mapError_eq_ok_iff, settle_eq_ok_iff,
    Option.map_eq_none_iff, readBlocks_eq_ok_iff, Compile.findSome?_error?_eq_none_iff]

/-- A rule compiles to one that says of each datum what the rule says. -/
theorem parse_refines {p : RuleParser} {data : RuleData} {parsed : ParsedRules}
    (h : (p.parse data).outcome = .ok parsed) :
    ∃ r rule, p.grammar data.text = .ok r ∧ parsed = ⟨[rule], []⟩ ∧
      ∀ datum, rule.ruleCondition datum = .ofExcept (r.holds p.fieldNames datum) := by
  obtain ⟨r, hr, ts, hblocks, -, rfl⟩ := parse_eq_ok_iff.1 h
  refine ⟨r, p.compiled data r ts, hr, rfl, fun datum => ?_⟩
  rw [Rule.blocks, Except.mapM_eq_ok_iff, List.forall₂_map_right_iff] at hblocks
  have hverdicts := hblocks.map_eq_map
    fun c _ t hc => (RuleCondition.read_holds hc p.fieldNames datum).symm
  rw [Rule.holds, hverdicts]; rfl

end

/-- Detections of a login: a list of values, a list of mappings, and a mapping to leave out. -/
def loginDetections : DetectionSet :=
  ⟨[("by_user", .mapping [(.string "user", .sequence [.string "root", .string "admin"])]),
    ("by_host", .sequence [.mapping [(.string "host", .string "web")]]),
    ("internal", .mapping [(.string "internal", .bool true)])]⟩

def loginRule : Rule :=
  ⟨"login", "Login", .default, .none, [], loginDetections,
    [⟨"1 of by_* and not internal", loginDetections⟩]⟩

/-- The tree of the only condition of `loginRule`. -/
def loginTree : Item :=
  .and [
    .resolved (.or [
      .resolved (.field "user" (.expansion [.string "root", .string "admin"])),
      .resolved (.field "host" (.string "web"))]),
    .resolved (.not [.resolved (.field "internal" (.boolean true))])]

theorem parse_refines_login :
    let p : RuleParser := ⟨fun _ => .ok loginRule, .empty⟩
    let data : RuleData := ⟨"", .constant true, []⟩
    (p.parse data).outcome = .ok ⟨[p.compiled data loginRule [loginTree]], []⟩ ∧
      ∃ r rule, p.grammar data.text = .ok r ∧
        ParsedRules.mk [p.compiled data loginRule [loginTree]] [] = ⟨[rule], []⟩ ∧
        ∀ datum, rule.ruleCondition datum = .ofExcept (r.holds p.fieldNames datum) := by
  intro p data
  have hblocks : loginRule.blocks = .ok [⟨loginTree, none⟩] := rfl
  have hcompilable : ∀ t ∈ [loginTree], t.Compilable := by
    simp only [List.mem_singleton, forall_eq, Item.compilable_iff_error?]
    rfl
  have h : (p.parse data).outcome = .ok ⟨[p.compiled data loginRule [loginTree]], []⟩ :=
    parse_eq_ok_iff.2 ⟨loginRule, rfl, [loginTree], hblocks, hcompilable, rfl⟩
  exact ⟨h, parse_refines h⟩

/-- A document compiles exactly if it holds a rule all of whose conditions are acceptable. -/
theorem parse_accepts_iff [PatternEngine] (p : RuleParser) (data : RuleData) :
    (∃ parsed, (p.parse data).outcome = .ok parsed) ↔
      ∃ r, p.grammar data.text = .ok r ∧ ∀ c ∈ r.conditions, c.Acceptable := by
  simp only [parse_eq_ok_iff, RuleCondition.acceptable_iff]
  constructor
  · rintro ⟨_, r, hr, ts, hblocks, hts, -⟩
    refine ⟨r, hr, fun c hc => ?_⟩
    rw [Rule.blocks, Except.mapM_eq_ok_iff, List.forall₂_map_right_iff] at hblocks
    obtain ⟨t, ht, hread⟩ := hblocks.exists_of_mem_left hc
    exact ⟨t, hread, hts t ht⟩
  · rintro ⟨r, hr, h⟩
    have hread : ∀ c ∈ r.conditions, ∃ b : Block, c.read = .ok b ∧
        b.aggregation = none ∧ b.item.Compilable := by
      intro c hc
      obtain ⟨t, ht, hcomp⟩ := h c hc
      exact ⟨⟨t, none⟩, ht, rfl, hcomp⟩
    obtain ⟨blocks, hblocks, hb⟩ := Except.exists_mapM_iff.2 hread
    refine ⟨_, r, hr, blocks.map (·.item), ?_, ?_, rfl⟩
    · rw [← blocks_eq_map fun b hmem => (hb b hmem).1]
      exact hblocks
    · intro t ht
      obtain ⟨b, hmem, rfl⟩ := List.mem_map.1 ht
      exact (hb b hmem).2

end RuleParser

end EventRules
