import EventRules.Condition.Resolve
import EventRules.Rule.Level
import EventRules.Yaml.Document

/-!
# Rule documents

A rule as its document states it: what describes it, the detections and the conditions over them.
Only the shape of the document is checked when it is read; detections and conditions are checked
when a condition is resolved.
-/

namespace EventRules

/-- The kind of log that a rule is about. -/
structure LogSource where
  product : Option String
  category : Option String
  service : Option String
  deriving DecidableEq, Repr, Inhabited

/-- A tag such as `attack.t1059.001`: what stands before its first dot, and the rest. -/
structure Tag where
  namespacePart : String
  name : String
  deriving DecidableEq, Repr

namespace Tag

/-- A tag without a dot has an empty namespace. -/
def read (text : String) : Tag :=
  match Text.cut? '.' text.toList with
  | some (namespacePart, name) => ⟨.ofList namespacePart, .ofList name⟩
  | none => ⟨"", text⟩

def render (t : Tag) : String :=
  t.namespacePart ++ "." ++ t.name

end Tag

/-- A condition as it is written, bound to the detections that its names stand for. -/
structure RuleCondition where
  expression : String
  detections : DetectionSet

namespace RuleCondition

/-- The condition tree that a condition stands for, and its aggregation. -/
def read (c : RuleCondition) : Except GrammarError Condition.Block :=
  Condition.readBlock c.detections c.expression

end RuleCondition

structure Rule where
  id : String
  title : String
  level : Severity
  logSource : LogSource
  tags : List Tag
  detections : DetectionSet
  /-- In a document all of them are bound to the detections of the rule. -/
  conditions : List RuleCondition

/-- A grammar reads a rule from a text. -/
abbrev Grammar := String → Except GrammarError Rule

namespace LogSource

def none : LogSource := ⟨.none, .none, .none⟩

/-- The text of a part, or nothing for null. -/
def part? : Yaml → Option (Option String)
  | .null => some .none
  | value => value.string?.map some

/-- Sets a part that is not set yet; what is no part is passed over. -/
def setPart? (source : LogSource) (seen : List String) (key : String) (value : Yaml) :
    Option LogSource :=
  if seen.contains key then .none
  else
    match key with
    | "product" => (part? value).map fun text => { source with product := text }
    | "category" => (part? value).map fun text => { source with category := text }
    | "service" => (part? value).map fun text => { source with service := text }
    | _ => some source

/-- The parts in the entries of a mapping; `seen` holds the parts that have come. -/
def ofEntries? (source : LogSource) (seen : List String) : List (Yaml × Yaml) → Option LogSource
  | [] => some source
  | (key, value) :: rest =>
    match key.string? with
    | .none => .none
    | some key =>
      match setPart? source seen key value with
      | .none => .none
      | some source =>
        let isPart := ["product", "category", "service"].contains key
        ofEntries? source (if isPart then key :: seen else seen) rest

/-- A source is a mapping; null stands for an empty one. -/
def ofValue? (value : Yaml) : Option LogSource :=
  match value.untagged with
  | .null => some none
  | .mapping entries => ofEntries? none [] entries
  | _ => .none

end LogSource

namespace Rule

def readId : Option Yaml → Except GrammarError String
  | some (.string id) => .ok id
  | some (.number id) => .ok id.render
  | _ => .error (.missingField "id")

def readLevel : Option Yaml → Except GrammarError Severity
  | none | some .null => .ok .default
  | some (.string level) => Severity.read level
  | some other => .error (.document (.invalidLevel other))

def readLogSource : Option Yaml → Except GrammarError LogSource
  | none | some .null => .ok .none
  | some value =>
    match LogSource.ofValue? value with
    | some source => .ok source
    | none => .error (.document .invalidLogSource)

def readTag (value : Yaml) : Except GrammarError Tag :=
  match value.string? with
  | some text => .ok (.read text)
  | none => .error (.document (.invalidTag value))

def readTags : Option Yaml → Except GrammarError (List Tag)
  | none | some .null => .ok []
  | some (.sequence tags) => tags.mapM readTag
  | some other => .error (.document (.invalidTags other))

/-- One condition, or a list of them. -/
def readConditions (value : Yaml) : Except GrammarError (List String) :=
  match value with
  | .string text => .ok [text]
  | .sequence items => items.mapM fun item =>
    match item.string? with
    | some text => .ok text
    | none => .error (.condition .notText)
  | _ => .error (.condition .notText)

/-- The detections of a mapping and its conditions: an entry `condition` replaces the conditions so
far, `timeframe` is passed over and every other entry is a detection. -/
def readDetections (conditions : List String) :
    List (Yaml × Yaml) → Except GrammarError (List (String × Yaml) × List String)
  | [] => .ok ([], conditions)
  | (key, value) :: rest => do
    match key.string? with
    | none => .error (.document (.invalidDetectionName key))
    | some "condition" => readDetections (← readConditions value) rest
    | some "timeframe" => readDetections conditions rest
    | some name =>
      let (detections, conditions) ← readDetections conditions rest
      return ((name, value) :: detections, conditions)

/-- The rule of a loaded document. -/
def ofValue (value : Yaml) : Except GrammarError Rule :=
  if !value.isMapping then .error (.document .notMapping)
  else do
    let id ← readId (value.get? "id")
    let title := ((value.get? "title").bind Yaml.string?).getD ""
    let level ← readLevel (value.get? "level")
    let logSource ← readLogSource (value.get? "logsource")
    let tags ← readTags (value.get? "tags")
    match (value.get? "detection").bind Yaml.mapping? with
    | none => .error (.missingField "detection")
    | some entries =>
      let (detections, conditions) ← readDetections [] entries
      if conditions.isEmpty then .error (.missingField "detection.condition")
      else return ⟨id, title, level, logSource, tags, ⟨detections⟩, conditions.map (⟨·, ⟨detections⟩⟩)⟩

def read : Grammar := fun text =>
  match Yaml.read? text with
  | some value => ofValue value
  | none => .error (.document .notLoadable)

/-- The conditions resolved, in order; the first that fails ends it. -/
def blocks (r : Rule) : Except GrammarError (List Condition.Block) :=
  r.conditions.mapM RuleCondition.read

end Rule

end EventRules
