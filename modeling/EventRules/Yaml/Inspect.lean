import EventRules.Decimal.Layout
import EventRules.Text.Quoted
import EventRules.Yaml.Value

/-!
# The text of YAML values in diagnostics

A value is shown with the name of its kind, scalars in parentheses and collections in brackets.
-/

namespace EventRules

/-- The text of a number in a document. -/
def Numeral.render : Numeral → String
  | .integer value => .ofList (Decimal.Layout.integer value)
  | .float value => .ofList (Decimal.Layout.document.render value)

namespace Yaml

mutual

def inspect : Yaml → String
  | null => "Null"
  | bool value => "Bool(" ++ toString value ++ ")"
  | number value => "Number(" ++ value.render ++ ")"
  | string text => "String(" ++ Text.quote text ++ ")"
  | sequence items => "Sequence [" ++ ", ".intercalate (inspectItems items) ++ "]"
  | mapping entries => "Mapping \x7b" ++ ", ".intercalate (inspectEntries entries) ++ "\x7d"
  | tagged tag value =>
    "TaggedValue \x7b tag: !" ++ tag ++ ", value: " ++ inspect value ++ " \x7d"

def inspectItems : List Yaml → List String
  | [] => []
  | item :: rest => inspect item :: inspectItems rest

def inspectEntries : List (Yaml × Yaml) → List String
  | [] => []
  | (key, value) :: rest => (inspectKey key ++ ": " ++ inspect value) :: inspectEntries rest

/-- A key; scalars stand without the name of their kind. -/
def inspectKey : Yaml → String
  | bool value => toString value
  | number value => value.render
  | string text => Text.quote text
  | null => "Null"
  | sequence items => "Sequence [" ++ ", ".intercalate (inspectItems items) ++ "]"
  | mapping entries => "Mapping \x7b" ++ ", ".intercalate (inspectEntries entries) ++ "\x7d"
  | tagged tag value =>
    "TaggedValue \x7b tag: !" ++ tag ++ ", value: " ++ inspect value ++ " \x7d"

end

end Yaml

end EventRules
