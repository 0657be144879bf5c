import EventRules.Import
import EventRules.Json.Record
import EventRules.Pattern
import EventRules.Yaml.Document

/-!
# Configuration

A configuration holds the stored names of fields and the import policy; patterns are those of `Pattern`.
It is written in YAML or JSON; what is left out has its default, and what is unknown is passed over.
-/

namespace EventRules

structure Config where
  fieldNames : FieldNames
  policy : ImportPolicy
  deriving DecidableEq, Repr

inductive ConfigError where
  | missingFile
  | isDirectory
  | yaml
  | json
  deriving DecidableEq, Repr

namespace Config

def default : Config := ⟨.empty, .lenient⟩

/-- Every rule that cannot be compiled is fatal. -/
def strict : Config := ⟨.empty, .strict⟩

/-- The parser of rules that reads fields under the configured names. -/
def ruleParser (c : Config) : RuleParser :=
  .ofFieldNames c.fieldNames

/-! ## JSON -/

section
open Json

def jsonStrings? : List (Option String × Tree) → Option (List (String × String))
  | [] => some []
  | (key, value) :: rest =>
    match key, value.string?, jsonStrings? rest with
    | some key, some value, some entries => some ((key, value) :: entries)
    | _, _, _ => none

def jsonFieldNames? : Tree → Option FieldNames
  | .object members => (jsonStrings? members).map .ofList
  | _ => none

def jsonPolicy? (t : Tree) : Option ImportPolicy :=
  match Record.fields? ["skip_unsupported", "fail_fast"] t with
  | some [skip, fast] =>
    match skip.elim (some ImportPolicy.lenient.skipUnsupported) Tree.bool?,
      fast.elim (some ImportPolicy.lenient.failFast) Tree.bool? with
    | some skip, some fast => some ⟨skip, fast⟩
    | _, _ => none
  | _ => none

def ofJsonTree? (t : Tree) : Option Config :=
  match Record.fields? ["field_translations", "import"] t with
  | some [fieldNames, policy] =>
    match fieldNames.elim (some .empty) jsonFieldNames?,
      policy.elim (some .lenient) jsonPolicy? with
    | some fieldNames, some policy => some ⟨fieldNames, policy⟩
    | _, _ => none
  | _ => none

def readJson (text : String) : Except ConfigError Config :=
  match (Tree.read? text).bind ofJsonTree? with
  | some c => .ok c
  | none => .error .json

end

/-! ## YAML -/

section
open Yaml

/-- The node itself, or the one that an alias stands for. -/
def target? (d : Document) : Linked → Option Linked
  | .alias n => (d.links.targets.lookup n).bind (d.nodes[·]?)
  | node => some node

/-- The text of any scalar, whatever its type. -/
def text? (d : Document) (node : Linked) : Option String :=
  match target? d node with
  | some (.scalar _ text _) => some (.ofList text)
  | _ => none

def bool? (d : Document) (node : Linked) : Option Bool :=
  match target? d node with
  | some (.scalar tag text style) =>
    if style = .plain || (style = .literal && tag = some (standardTag "bool")) then readBool? text
    else none
  | _ => none

/-- The entries of a mapping; an empty plain scalar has none. -/
def entries? (d : Document) (node : Linked) : Option (List (Linked × Linked)) :=
  match target? d node with
  | some (.mapping _ entries) => some entries
  | some (.scalar _ [] .plain) => some []
  | _ => none

/-- Gives the field `key` its node, if it has none yet; other keys are passed over. -/
def setNode? (key : String) (node : Linked) :
    List String → List (Option Linked) → Option (List (Option Linked))
  | field :: fields, value :: values =>
    if field = key then
      match value with
      | none => some (some node :: values)
      | some _ => none
    else (setNode? key node fields values).map (value :: ·)
  | _, values => some values

/-- Sets the fields of a record from the entries of a mapping, whose keys are all scalars. -/
def nodes? (d : Document) (names : List String) :
    List (Linked × Linked) → List (Option Linked) → Option (List (Option Linked))
  | [], values => some values
  | (key, value) :: rest, values =>
    match text? d key with
    | none => none
    | some key => (setNode? key value names values).bind (nodes? d names rest)

def fieldNodes? (d : Document) (names : List String) (node : Linked) :
    Option (List (Option Linked)) :=
  (entries? d node).bind fun entries => nodes? d names entries (names.map fun _ => none)

def yamlStrings? (d : Document) : List (Linked × Linked) → Option (List (String × String))
  | [] => some []
  | (key, value) :: rest =>
    match text? d key, text? d value, yamlStrings? d rest with
    | some key, some value, some entries => some ((key, value) :: entries)
    | _, _, _ => none

def yamlFieldNames? (d : Document) (node : Linked) : Option FieldNames :=
  ((entries? d node).bind (yamlStrings? d)).map .ofList

def yamlPolicy? (d : Document) (node : Linked) : Option ImportPolicy :=
  match fieldNodes? d ["skip_unsupported", "fail_fast"] node with
  | some [skip, fast] =>
    match skip.elim (some ImportPolicy.lenient.skipUnsupported) (bool? d),
      fast.elim (some ImportPolicy.lenient.failFast) (bool? d) with
    | some skip, some fast => some ⟨skip, fast⟩
    | _, _ => none
  | _ => none

def ofYamlDocument? (d : Document) : Option Config :=
  match fieldNodes? d ["field_translations", "import"] d.root with
  | some [fieldNames, policy] =>
    match fieldNames.elim (some .empty) (yamlFieldNames? d),
      policy.elim (some .lenient) (yamlPolicy? d) with
    | some fieldNames, some policy => some ⟨fieldNames, policy⟩
    | _, _ => none
  | _ => none

def readYaml (text : String) : Except ConfigError Config :=
  match Document.read? text with
  | none => .error .yaml
  | some none => .ok default
  | some (some d) =>
    match ofYamlDocument? d with
    | some c => .ok c
    | none => .error .yaml

end

/-! ## Files -/

/-- What a file name ends with after its last dot; a dot in front does not count. -/
def extension? (name : String) : Option String :=
  match name.toList.reverse.span (· != '.') with
  | (_, []) | (_, ['.']) => none
  | (ending, _) => some (.ofList ending.reverse)

/-- Whether a file is read as JSON, by its name. -/
def isJsonName (name : String) : Bool :=
  (extension? name).any fun ending => ending.map Char.toLower == "json"

/-- What is found under a name. -/
inductive File where
  | missing
  | directory
  | contents (text : String)

def ofFile (name : String) : File → Except ConfigError Config
  | .missing => .error .missingFile
  | .directory => .error .isDirectory
  | .contents text => if isJsonName name then readJson text else readYaml text

end Config

namespace ConfigError

def message : ConfigError → String
  | missingFile => "IO error: No such file or directory (os error 2)"
  | isDirectory => "IO error: Is a directory (os error 21)"
  | yaml => "YAML parsing error: <yaml>"
  | json => "JSON parsing error: <serde>"

end ConfigError

end EventRules
