import EventRules.Compile.Item
import EventRules.Rule.Compiled
import EventRules.Rule.Document

/-!
# Compilation of rules

A parser turns rule documents into compiled rules. All the rules of one parser read fields under
the same stored names. A rule with an aggregation is not supported; one with several is malformed.
-/

namespace EventRules

structure RuleParser where
  grammar : Grammar
  fieldNames : FieldNames

namespace RuleParser

def ofFieldNames (fieldNames : FieldNames) : RuleParser :=
  ⟨Rule.read, fieldNames⟩

/-- What describes a rule: first its level and the service of its log source, then its tags. -/
def describe (r : Rule) : Description :=
  ⟨r.title, r.level.name :: r.logSource.service.getD "" :: r.tags.map Tag.render⟩

def checkAggregations (ruleId : String) (count : Nat) : Except RuleError Unit :=
  match count with
  | 0 => .ok ()
  | 1 => .error (.unsupported .aggregation)
  | n => .error (.parse ⟨.aggregations n, some ruleId⟩)

/-- The blocks of a rule, none of which has an aggregation. -/
def readBlocks (r : Rule) : Except RuleError (List Condition.Item) := do
  let blocks ← r.blocks.mapError fun error => .parse ⟨.block r.id error, some r.id⟩
  checkAggregations r.id (blocks.filterMap (·.aggregation)).length
  return blocks.map (·.item)

variable [PatternEngine]

/-- The compiled rules of a document: one that is stateless. -/
def parse (p : RuleParser) (data : RuleData) : Run RuleError ParsedRules := do
  let r ← .ofExcept ((p.grammar data.text).mapError fun error => .ofFault (.grammar error))
  Run.log .info s!"Parsing rule with ID {r.id}"
  let items ← .ofExcept (readBlocks r)
  let ruleCondition ← (Compile.items p.fieldNames items).mapError (.withRuleId r.id)
  Run.log .debug s!"Compiled rule {r.id} from {items.length} condition block(s)"
  let rule : StatelessRule :=
    { id := r.id
      evaluationCondition := data.evaluationCondition
      ruleCondition
      routing := .ofMetadata data.metadata
      description := describe r }
  return ⟨[rule], []⟩

end RuleParser

end EventRules
