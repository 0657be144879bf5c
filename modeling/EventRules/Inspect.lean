import EventRules.Compile.Rule
import EventRules.Evaluate
import EventRules.Store
import EventRules.Text.Quoted

/-!
# Texts for diagnostics

How the larger values are shown in diagnostics: the name of the type with its fields in braces. Two dots
stand for parts, such as predicates, that cannot be shown.
-/

namespace EventRules.Inspect

def bracketed (parts : List String) : String :=
  "[" ++ ", ".intercalate parts ++ "]"

def strings (texts : List String) : String :=
  bracketed (texts.map Text.quote)

/-- A name with fields in braces. -/
def record (name : String) (fields : List (String × String)) (hidden : Bool) : String :=
  let shown := fields.map fun (field, value) => field ++ ": " ++ value
  name ++ " \x7b " ++ ", ".intercalate (if hidden then shown ++ [".."] else shown) ++ " \x7d"

def optional : Option String → String
  | none => "None"
  | some text => "Some(" ++ Text.quote text ++ ")"

def dictionary (entries : List (String × String)) : String :=
  let shown := entries.map fun (key, value) => Text.quote key ++ ": " ++ Text.quote value
  "\x7b" ++ ", ".intercalate shown ++ "\x7d"

def ruleData (data : RuleData) : String :=
  record "RuleData"
    [("rule_text", Text.quote data.text), ("metadata", dictionary data.metadata)] true

def fieldNames (names : FieldNames) : String :=
  record "FieldAccessor" [("translations", dictionary names.entries)] false

def parser (p : RuleParser) : String :=
  let leaves := record "LeafCompiler" [("accessor", fieldNames p.fieldNames)] false
  record "RuleParser" [("conditions", record "ConditionCompiler" [("leaves", leaves)] false)] true

def routing (r : Routing) : String :=
  record "RoutingMetadata"
    [("monitor_id", optional r.monitorId), ("detector_name", optional r.detectorName),
      ("findings_index", optional r.findingsIndex)] false

def description (d : Description) : String :=
  record "SigmaRuleMetadata" [("title", Text.quote d.title), ("tags", strings d.tags)] false

def statelessRule (r : StatelessRule) : String :=
  record "StatelessRule"
    [("id", Text.quote r.id), ("is_stateful_condition", "false"),
      ("routing_metadata", routing r.routing), ("rule_metadata", description r.description)] true

def statefulRule (r : StatefulRule) : String :=
  record "StatefulRule" [("id", Text.quote r.id)] true

def parsedRules (r : ParsedRules) : String :=
  record "ParsedRules"
    [("stateless_rules", bracketed (r.stateless.map statelessRule)),
      ("stateful_rules", bracketed (r.stateful.map statefulRule))] false

def evaluator (s : Store) : String :=
  record "StatelessRuleEvaluator" [("stateless_rules", toString s.stateless.length)] false

def foundMatch (m : Match) : String :=
  record "Match"
    [("stateless_rules", strings m.ruleIds),
      ("stateful_rules", bracketed (m.stateful.map statefulRule))] true

end EventRules.Inspect
