import EventRules.Yaml.Core
import EventRules.Yaml.Node

/-!
# YAML documents

The nodes of a document with their anchors and aliases linked, and the value that they denote. An
alias stands for the node that its number was last given to; an anchor gets the number of names
known before it. Collections lie at most 128 deep inside one another, aliases followed, and aliases
are followed at most a hundred times as often as the document has parts.
-/

namespace EventRules.Yaml

/-- A node whose alias is a number. -/
inductive Linked where
  | alias (number : Nat)
  | scalar (tag : Option (List Char)) (text : List Char) (style : ScalarStyle)
  | sequence (tag : Option (List Char)) (items : List Linked)
  | mapping (tag : Option (List Char)) (entries : List (Linked × Linked))
  deriving Repr

/-- What is known of a document up to some place. -/
structure Links where
  /-- The numbers of the anchors by name. -/
  numbers : List (List Char × Nat)
  /-- Which node of the document, counted in order, a number stands for; latest first. -/
  targets : List (Nat × Nat)
  nodes : Nat
  /-- The number of parts: nodes, with the ends of collections. -/
  parts : Nat

namespace Links

def none : Links := ⟨[], [], 0, 0⟩

/-- A node, with the anchor it has. -/
def enter (links : Links) (anchor : Option (List Char)) (parts : Nat) : Links :=
  let links := match anchor with
    | some name =>
      { links with
        numbers := (name, links.numbers.length) :: links.numbers.filter (·.1 != name)
        targets := (links.numbers.length, links.nodes) :: links.targets }
    | Option.none => links
  { links with nodes := links.nodes + 1, parts := links.parts + parts }

end Links

mutual

/-- Links a node; an alias without an anchor before it is an error. -/
def link (links : Links) : Node → Option (Linked × Links)
  | .alias name =>
    (links.numbers.lookup name).map fun number => (.alias number, links.enter none 1)
  | .scalar p text style => some (.scalar p.tag text style, links.enter p.anchor 1)
  | .sequence p items =>
    (linkItems (links.enter p.anchor 2) items).map fun (items, links) =>
      (.sequence p.tag items, links)
  | .mapping p entries =>
    (linkEntries (links.enter p.anchor 2) entries).map fun (entries, links) =>
      (.mapping p.tag entries, links)

def linkItems (links : Links) : List Node → Option (List Linked × Links)
  | [] => some ([], links)
  | node :: rest => do
    let (item, links) ← link links node
    let (items, links) ← linkItems links rest
    some (item :: items, links)

def linkEntries (links : Links) : List (Node × Node) → Option (List (Linked × Linked) × Links)
  | [] => some ([], links)
  | (key, value) :: rest => do
    let (key, links) ← link links key
    let (value, links) ← link links value
    let (entries, links) ← linkEntries links rest
    some ((key, value) :: entries, links)

end

mutual

/-- The nodes of a tree in the order of the document. -/
def Linked.flatten : Linked → List Linked
  | .sequence tag items => .sequence tag items :: flattenItems items
  | .mapping tag entries => .mapping tag entries :: flattenEntries entries
  | node => [node]

def flattenItems : List Linked → List Linked
  | [] => []
  | node :: rest => node.flatten ++ flattenItems rest

def flattenEntries : List (Linked × Linked) → List Linked
  | [] => []
  | (key, value) :: rest => key.flatten ++ (value.flatten ++ flattenEntries rest)

end

structure Document where
  root : Linked
  /-- The nodes in order. -/
  nodes : Array Linked
  links : Links

namespace Document

/-- The document of a text, if it has just one or none; without any, nothing. -/
def read? (text : String) : Option (Option Document) :=
  match Node.read? text.toList with
  | none => none
  | some none => some none
  | some (some node) =>
    (link .none node).map fun (root, links) => some ⟨root, root.flatten.toArray, links⟩

/-- A computation that counts how many aliases have been followed. -/
abbrev Counted (α : Type) := StateT Nat Option α

/-- The node itself, or the one that an alias stands for. -/
def follow (d : Document) : Linked → Counted Linked
  | .alias target => fun followed =>
    if followed + 1 > 100 * d.links.parts then none
    else
      match (d.links.targets.lookup target).bind (d.nodes[·]?) with
      | some node => some (node, followed + 1)
      | none => none
  | node => pure node

/-- The name of a tag that values keep: one that starts with an exclamation mark, without it. -/
def tagName? : Option (List Char) → Option String
  | some ['!'] => some "!"
  | some ('!' :: name) => some (.ofList name)
  | _ => none

/-- A value with the tag that it keeps. -/
def withTag (tag : Option (List Char)) (v : Yaml) : Yaml :=
  match tagName? tag with
  | some name => .tagged name v
  | none => v

def scalar? (tag : Option (List Char)) (text : List Char) (style : ScalarStyle) : Option Yaml :=
  let untagged := if style = .plain then ofPlain? text else some (.string (.ofList text))
  match tag with
  | none => untagged
  | some t =>
    if (tagName? tag).isSome then untagged.map (withTag tag) else ofTagged? t text

/-- The entries of a mapping, unless one key comes twice. -/
def distinct? : List (Yaml × Yaml) → Option (List (Yaml × Yaml))
  | [] => some []
  | (key, value) :: rest =>
    if rest.any fun entry => entry.1.same key then none
    else (distinct? rest).map ((key, value) :: ·)

/-- The value of a node that has at most `depth` collections inside one another. -/
def denote (d : Document) : Nat → Linked → Counted Yaml
  | depth, node => do
    match ← d.follow node with
    | .alias _ => failure
    | .scalar tag text style => fun followed => (scalar? tag text style).map (·, followed)
    | .sequence tag items =>
      match depth with
      | 0 => failure
      | depth + 1 => return withTag tag (.sequence (← items.mapM (denote d depth)))
    | .mapping tag entries =>
      match depth with
      | 0 => failure
      | depth + 1 =>
        let entries ← entries.mapM fun (key, value) => do
          return (← denote d depth key, ← denote d depth value)
        fun followed => (distinct? entries).map fun entries => (withTag tag (.mapping entries), followed)

/-- The most collections that lie inside one another. -/
def depthLimit : Nat := 128

end Document

def read? (text : String) : Option Yaml :=
  match Document.read? text with
  | none => none
  | some none => some .null
  | some (some d) => ((d.denote Document.depthLimit d.root).run 0).map (·.1)

end EventRules.Yaml
