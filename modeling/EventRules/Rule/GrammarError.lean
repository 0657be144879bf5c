import EventRules.Condition.Aggregation
import EventRules.Condition.Expr
import EventRules.Yaml.Inspect

/-!
# Errors in rules

Why a text is no rule, or a part of a rule is malformed, and how this is said. A grammar of its own
may find faults that it says in its own words.
-/

namespace EventRules

open Condition (ClauseFault ParseFault ScanFault Selector)

inductive DocumentFault where
  | notLoadable
  | notMapping
  | unknownLevel (name : String)
  | invalidLevel (value : Yaml)
  | invalidLogSource
  | invalidTag (value : Yaml)
  | invalidTags (value : Yaml)
  | invalidDetectionName (key : Yaml)
  | other (text : String)

inductive ConditionFault where
  | notText
  | scan (fault : ScanFault)
  | empty
  | parse (fault : ParseFault)
  | emptySelection (selector : Selector)
  | other (text : String)

inductive AggregationFault where
  | clause (fault : ClauseFault) (text : String)
  | other (text : String)

inductive DetectionFault where
  | emptyList
  | nestedKeyword
  | unsupportedBody (body : Yaml)
  | emptyMapping
  | invalidFieldName (key : Yaml)
  | missingFieldName (key : String)
  | conflictingModifiers (field : String)
  | unsuitedValue (field : String) (value : Yaml)
  | emptyValueList (field : String)
  | other (text : String)

inductive GrammarError where
  | document (fault : DocumentFault)
  | missingField (name : String)
  | condition (fault : ConditionFault)
  | aggregation (fault : AggregationFault)
  | detection (name : String) (fault : DetectionFault)
  | unsupportedModifier (field modifier : String)

def DocumentFault.message : DocumentFault → String
  | notLoadable => "<yaml>"
  | notMapping => "Rule document must be a mapping"
  | unknownLevel name => s!"Unknown rule level '{name}'"
  | invalidLevel value => s!"Invalid rule level {value.inspect}"
  | invalidLogSource => "Invalid logsource: <serde>"
  | invalidTag value => s!"Invalid tag {value.inspect}"
  | invalidTags value => s!"Invalid tags {value.inspect}"
  | invalidDetectionName key => s!"Invalid detection name {key.inspect}"
  | other text => text

def ConditionFault.message : ConditionFault → String
  | notText => "condition must be a string or a list of strings"
  | scan fault => fault.message
  | empty => "Empty condition"
  | parse fault => fault.message
  | emptySelection selector => s!"Quantifier {selector.inspect} matches no detection"
  | other text => text

def AggregationFault.message : AggregationFault → String
  | clause fault text => s!"{fault.message} in '{text}'"
  | other text => text

def DetectionFault.message : DetectionFault → String
  | emptyList => "Detection list is empty"
  | nestedKeyword => "Keyword lists may only contain scalar values"
  | unsupportedBody body => s!"Unsupported detection body: {body.inspect}"
  | emptyMapping => "Detection mapping is empty"
  | invalidFieldName key => s!"Field names must be strings, found {key.inspect}"
  | missingFieldName key => s!"Missing field name in '{key}'"
  | conflictingModifiers field => s!"Conflicting modifiers on field '{field}'"
  | unsuitedValue field value =>
    s!"Value {value.inspect} of field '{field}' does not suit its modifiers"
  | emptyValueList field => s!"Field '{field}' has an empty value list"
  | other text => text

def GrammarError.message : GrammarError → String
  | document fault => s!"YAML parsing error: {fault.message}"
  | missingField name => s!"Missing required field: {name}"
  | condition fault => s!"Invalid condition: {fault.message}"
  | aggregation fault => s!"Invalid aggregation: {fault.message}"
  | detection name fault => s!"Invalid detection '{name}': {fault.message}"
  | unsupportedModifier field modifier =>
    s!"Unsupported field modifier '{modifier}' on field '{field}'"

end EventRules
