import EventRules.Pattern
import EventRules.Proofs.Condition.Unused
import EventRules.Proofs.Rule.Parse
import Mathlib

/-!
# Detections that a rule does not use

Detections that none of its conditions uses do not matter for a rule: they may come and go, and their
bodies may be anything. A parser makes the same of the document, with the same notes
(`RuleParser.parse_unused`).
-/

namespace EventRules

open Condition

/-- The same error, or values that are related. -/
inductive OutcomesAgree {ε α : Type} (R : α → α → Prop) : Except ε α → Except ε α → Prop
  | ok {a b : α} (h : R a b) : OutcomesAgree R (.ok a) (.ok b)
  | error (e : ε) : OutcomesAgree R (.error e) (.error e)

namespace OutcomesAgree

variable {ε α β : Type} {Q : α → α → Prop} {R : β → β → Prop}

theorem same (hQ : ∀ a, Q a a) (x : Except ε α) : OutcomesAgree Q x x := by
  cases x with
  | error e => exact .error e
  | ok a => exact .ok (hQ a)

theorem bind {x x' : Except ε α} (hx : OutcomesAgree Q x x') {f g : α → Except ε β}
    (hfg : ∀ a a', Q a a' → OutcomesAgree R (f a) (g a')) :
    OutcomesAgree R (x >>= f) (x' >>= g) := by
  cases hx with
  | error e => exact .error e
  | ok h => exact hfg _ _ h

theorem after (x : Except ε α) {f g : α → Except ε β} (hfg : ∀ a, OutcomesAgree R (f a) (g a)) :
    OutcomesAgree R (x >>= f) (x >>= g) :=
  bind (same (fun _ => rfl) x) fun a _ heq => heq ▸ hfg a

end OutcomesAgree

namespace Rule

variable {names : List String}

/-- One of the conditions uses the detection. -/
def Uses (r : Rule) (name : String) : Prop :=
  ∃ c ∈ r.conditions, c.Uses name

/-- The same rule, with other detections of some names. -/
structure AgreeExcept (names : List String) (r r' : Rule) : Prop where
  id : r.id = r'.id
  title : r.title = r'.title
  level : r.level = r'.level
  logSource : r.logSource = r'.logSource
  tags : r.tags = r'.tags
  detections : r.detections.AgreeExcept names r'.detections
  conditions : List.Forall₂ (RuleCondition.AgreeExcept names) r.conditions r'.conditions

variable {r r' : Rule}

theorem AgreeExcept.blocks (h : r.AgreeExcept names r') (hunused : ∀ name ∈ names, ¬ r.Uses name) :
    r.blocks = r'.blocks := by
  refine h.conditions.mapM_eq_mapM fun c hc c' hagree => ?_
  exact hagree.read fun name hmem huses => hunused name hmem ⟨c, hc, huses⟩

theorem AgreeExcept.describe (h : r.AgreeExcept names r') :
    RuleParser.describe r = RuleParser.describe r' := by
  rw [RuleParser.describe, RuleParser.describe, h.title, h.level, h.logSource, h.tags]

/-- The entries of a mapping that are not the detections of some names. -/
def entriesExcept (names : List String) (entries : List (Yaml × Yaml)) : List (Yaml × Yaml) :=
  entries.filter fun entry => entry.1.string?.all (· ∉ names)

def detectionEntries? (document : Yaml) : Option (List (Yaml × Yaml)) :=
  (document.get? "detection").bind Yaml.mapping?

/-- The same document, with other detections of some names. -/
structure DocumentsAgreeExcept (names : List String) (document document' : Yaml) : Prop where
  isMapping : document.isMapping = document'.isMapping
  get? : ∀ key, key ≠ "detection" → document.get? key = document'.get? key
  detections : (detectionEntries? document).map (entriesExcept names) =
    (detectionEntries? document').map (entriesExcept names)

theorem entriesExcept_cons_of_mem {key value : Yaml} {name : String} (hkey : key.string? = some name)
    (hname : name ∈ names) (entries : List (Yaml × Yaml)) :
    entriesExcept names ((key, value) :: entries) = entriesExcept names entries :=
  List.filter_cons_of_neg (by simpa [hkey] using hname)

theorem entriesExcept_cons_of_not_mem {key value : Yaml} (hkey : ∀ name ∈ key.string?, name ∉ names)
    (entries : List (Yaml × Yaml)) :
    entriesExcept names ((key, value) :: entries) = (key, value) :: entriesExcept names entries :=
  List.filter_cons_of_pos (by simpa [Option.all_eq_true] using hkey)

theorem readDetections_cons_detection {key : Yaml} {name : String} (hkey : key.string? = some name)
    (hcondition : name ≠ "condition") (htimeframe : name ≠ "timeframe") (value : Yaml)
    (conditions : List String) (entries : List (Yaml × Yaml)) :
    readDetections conditions ((key, value) :: entries) =
      (readDetections conditions entries).map fun (detections, conditions) =>
        ((name, value) :: detections, conditions) := by
  rw [readDetections, hkey]
  split
  case h_1 h => simp at h
  case h_2 h => exact absurd (Option.some.inj h) hcondition
  case h_3 h => exact absurd (Option.some.inj h) htimeframe
  case h_4 h =>
    obtain rfl := Option.some.inj h
    rfl

theorem readDetections_except (hcondition : "condition" ∉ names) (htimeframe : "timeframe" ∉ names)
    (conditions : List String) (entries : List (Yaml × Yaml)) :
    readDetections conditions (entriesExcept names entries) =
      (readDetections conditions entries).map fun (detections, conditions) =>
        (detections.filter (·.1 ∉ names), conditions) := by
  -- The conditions so far change at an entry `condition`, so they are general in the induction.
  induction entries generalizing conditions with
  | nil => rfl
  | cons entry entries ih =>
    obtain ⟨key, value⟩ := entry
    cases hkey : key.string? with
    | none =>
      rw [entriesExcept_cons_of_not_mem (by simp [hkey]), readDetections, readDetections, hkey]
      rfl
    | some name =>
      by_cases hname : name ∈ names
      · have hne : name ≠ "condition" ∧ name ≠ "timeframe" :=
          ⟨fun h => hcondition (h ▸ hname), fun h => htimeframe (h ▸ hname)⟩
        rw [entriesExcept_cons_of_mem hkey hname, ih,
          readDetections_cons_detection hkey hne.1 hne.2]
        cases readDetections conditions entries with
        | error e => rfl
        | ok parts => simp [Except.map, hname]
      · rw [entriesExcept_cons_of_not_mem (by simpa [hkey] using hname)]
        by_cases hc : name = "condition"
        · subst hc
          rw [readDetections, readDetections, hkey]
          cases readConditions value with
          | error e => rfl
          | ok read => exact ih read
        · by_cases ht : name = "timeframe"
          · subst ht
            rw [readDetections, readDetections, hkey]
            exact ih conditions
          · rw [readDetections_cons_detection hkey hc ht, readDetections_cons_detection hkey hc ht, ih]
            cases readDetections conditions entries with
            | error e => rfl
            | ok parts => simp [Except.map, hname]

theorem readDetections_agree (hcondition : "condition" ∉ names) (htimeframe : "timeframe" ∉ names)
    {entries entries' : List (Yaml × Yaml)}
    (h : entriesExcept names entries = entriesExcept names entries') (conditions : List String) :
    OutcomesAgree
      (fun parts parts' => DetectionSet.AgreeExcept names ⟨parts.1⟩ ⟨parts'.1⟩ ∧ parts.2 = parts'.2)
      (readDetections conditions entries) (readDetections conditions entries') := by
  have hread := readDetections_except hcondition htimeframe conditions entries
  rw [h, readDetections_except hcondition htimeframe conditions entries'] at hread
  cases hx : readDetections conditions entries with
  | error e =>
    rw [hx] at hread
    rw [Except.map_eq_error_iff.1 hread]
    exact .error e
  | ok parts =>
    rw [hx] at hread
    obtain ⟨parts', hparts', heq⟩ := Except.map_eq_ok_iff.1 hread
    obtain ⟨hdetections, hconditions⟩ := Prod.mk.inj heq
    rw [hparts']
    exact .ok ⟨hdetections.symm, hconditions.symm⟩

/-- Detections of some names do not decide whether a document holds a rule, nor what else it says. -/
theorem ofValue_agree (hcondition : "condition" ∉ names) (htimeframe : "timeframe" ∉ names)
    {document document' : Yaml} (h : DocumentsAgreeExcept names document document') :
    OutcomesAgree (AgreeExcept names) (ofValue document) (ofValue document') := by
  have hdetections := h.detections
  unfold detectionEntries? at hdetections
  unfold ofValue
  rw [← h.isMapping, ← h.get? "id" (by decide), ← h.get? "title" (by decide),
    ← h.get? "level" (by decide), ← h.get? "logsource" (by decide), ← h.get? "tags" (by decide)]
  split
  case isTrue => exact .error _
  case isFalse =>
    refine .after _ fun id => .after _ fun level => .after _ fun logSource => .after _ fun tags => ?_
    cases hentries : (document.get? "detection").bind Yaml.mapping? with
    | none =>
      rw [hentries] at hdetections
      rw [Option.map_eq_none_iff.1 hdetections.symm]
      exact .error _
    | some entries =>
      rw [hentries] at hdetections
      obtain ⟨entries', hentries', hsame⟩ := Option.map_eq_some_iff.1 hdetections.symm
      rw [hentries']
      refine (readDetections_agree hcondition htimeframe hsame.symm []).bind ?_
      rintro ⟨detections, conditions⟩ ⟨detections', _⟩ ⟨hagree, rfl⟩
      show OutcomesAgree _ (if conditions.isEmpty then _ else _) (if conditions.isEmpty then _ else _)
      split
      case isTrue => exact .error _
      case isFalse =>
        have hconditions : List.Forall₂ (RuleCondition.AgreeExcept names)
            (conditions.map (⟨·, ⟨detections⟩⟩)) (conditions.map (⟨·, ⟨detections'⟩⟩)) := by
          rw [List.forall₂_map_left_iff, List.forall₂_map_right_iff, List.forall₂_same]
          exact fun text _ => ⟨rfl, hagree⟩
        exact .ok ⟨rfl, rfl, rfl, rfl, rfl, hagree, hconditions⟩

end Rule

namespace RuleParser

variable {names : List String}

/-- Rules that differ in detections that they do not use are compiled alike, with the same notes. -/
theorem parse_agree [PatternEngine] {p : RuleParser} {data : RuleData} {text : String}
    (hgrammar : OutcomesAgree (Rule.AgreeExcept names) (p.grammar data.text) (p.grammar text))
    (hunused : ∀ r, p.grammar data.text = .ok r → ∀ name ∈ names, ¬ r.Uses name) :
    p.parse { data with text } = p.parse data := by
  unfold parse
  dsimp only
  generalize p.grammar data.text = x at hgrammar hunused ⊢
  generalize p.grammar text = x' at hgrammar ⊢
  cases hgrammar with
  | error e => rfl
  | @ok r r' hagree =>
    have hblocks : readBlocks r = readBlocks r' := by
      rw [readBlocks, readBlocks, hagree.blocks (hunused r rfl), hagree.id]
    have hread (r : Rule) : (Run.ofExcept (.ok r) : Run RuleError Rule) = pure r := rfl
    simp only [Except.mapError, hread, pure_bind, hblocks, hagree.id, hagree.describe]

/-- Detections that no condition uses may come and go and have any bodies: the documents compile to the
same, with the same notes. This goes for any grammar and for documents in YAML. If nothing but `them`
could refer to a detection with an underscore, it is one of those. -/
theorem parse_unused [PatternEngine] (names : List String) (data : RuleData) (text : String) :
    (∀ p : RuleParser,
      OutcomesAgree (Rule.AgreeExcept names) (p.grammar data.text) (p.grammar text) →
      (∀ r, p.grammar data.text = .ok r → ∀ name ∈ names, ¬ r.Uses name) →
      p.parse { data with text } = p.parse data) ∧
    ("condition" ∉ names → "timeframe" ∉ names → ∀ fieldNames document document',
      Yaml.read? data.text = some document → Yaml.read? text = some document' →
      Rule.DocumentsAgreeExcept names document document' →
      (∀ r, Rule.ofValue document = .ok r → ∀ name ∈ names, ¬ r.Uses name) →
      (ofFieldNames fieldNames).parse { data with text } = (ofFieldNames fieldNames).parse data) ∧
    ∀ (r : Rule) (name : String), name.startsWith "_" = true →
      (∀ c ∈ r.conditions, ∀ e, Condition.parse c.search = .ok e → ∀ node ∈ e.nodes, node.RefersTo name →
        node = .oneOf .them ∨ node = .allOf .them) →
      ¬ r.Uses name := by
  refine ⟨fun p => parse_agree, ?_, ?_⟩
  · intro hcondition htimeframe fieldNames document document' hread hread' hagree hunused
    have hrule : Rule.read data.text = Rule.ofValue document := by rw [Rule.read, hread]
    have hrule' : Rule.read text = Rule.ofValue document' := by rw [Rule.read, hread']
    have hgrammar : OutcomesAgree (Rule.AgreeExcept names) (Rule.read data.text) (Rule.read text) := by
      rw [hrule, hrule']
      exact Rule.ofValue_agree hcondition htimeframe hagree
    exact parse_agree hgrammar fun r hr => hunused r (hrule ▸ hr)
  · rintro r name hname hthem ⟨c, hc, e, he, node, hnode, hrefers⟩
    have hpicks : Selector.them.picks name = false := by rw [Selector.picks, hname]; rfl
    rcases hthem c hc e he node hnode hrefers with rfl | rfl
    · exact absurd hrefers (by simp [Expr.RefersTo, hpicks])
    · exact absurd hrefers (by simp [Expr.RefersTo, hpicks])

/-- A rule with a detection that its condition names, and one with no items. -/
def namedDetections : DetectionSet :=
  ⟨[("a", .mapping [(.string "x", .string "y")]), ("b", .sequence [])]⟩

def namedRule : Rule :=
  ⟨"r", "", .default, .none, [], namedDetections, [⟨"a", namedDetections⟩]⟩

def namedDocument (others : List (Yaml × Yaml)) : Yaml :=
  .mapping [(.string "id", .string "r"),
    (.string "detection", .mapping ((.string "condition", .string "a") ::
      (.string "a", .mapping [(.string "x", .string "y")]) :: others))]

def namedText : String := "id: r\ndetection:\n condition: a\n a:\n  x: y\n"

/-- A list without items is no body of a detection, but the rule does not use it. -/
theorem parse_unused_malformed :
    let data : RuleData := ⟨namedText ++ " b: []\n", .constant true, []⟩
    let p := ofFieldNames .empty
    p.parse { data with text := namedText } = p.parse data ∧
      ∃ parsed, (p.parse data).outcome = .ok parsed := by
  intro data p
  have hread : Yaml.read? data.text = some (namedDocument [(.string "b", .sequence [])]) := by cbv
  have hread' : Yaml.read? namedText = some (namedDocument []) := by cbv
  have hrule : Rule.ofValue (namedDocument [(.string "b", .sequence [])]) = .ok namedRule := rfl
  have hagree : Rule.DocumentsAgreeExcept ["b"] (namedDocument [(.string "b", .sequence [])])
      (namedDocument []) := by
    refine ⟨rfl, fun key hkey => ?_, rfl⟩
    simp [namedDocument, Yaml.get?, Yaml.mapping?, Yaml.untagged, Yaml.lookup?, Ne.symm hkey]
  have hunused : ∀ r, Rule.ofValue (namedDocument [(.string "b", .sequence [])]) = .ok r →
      ∀ name ∈ ["b"], ¬ r.Uses name := by
    rintro _ h name hname ⟨c, hc, e, he, node, hnode, hrefers⟩
    obtain rfl := Except.ok.inj (hrule.symm.trans h)
    obtain rfl := List.mem_singleton.1 hname
    obtain rfl := List.mem_singleton.1 hc
    have hparse : Condition.parse (RuleCondition.mk "a" namedDetections).search =
        .ok (.identifier "a") := rfl
    obtain rfl := Except.ok.inj (hparse.symm.trans he)
    obtain rfl := List.mem_singleton.1 hnode
    exact absurd hrefers (by simp [Expr.RefersTo])
  have hsame := (parse_unused ["b"] data namedText).2.1 (by decide) (by decide) .empty _ _
    hread hread' hagree hunused
  have hgrammar : Rule.read data.text = .ok namedRule := by
    rw [Rule.read, hread]
    exact hrule
  have hblocks : namedRule.blocks = .ok [⟨.field "x" (.string "y"), none⟩] := rfl
  have hcompilable : ∀ t ∈ [Item.field "x" (.string "y")], t.Compilable := by
    simp only [List.mem_singleton, forall_eq, Item.compilable_iff_error?]
    rfl
  exact ⟨hsame, _, parse_eq_ok_iff.2
    ⟨namedRule, hgrammar, [.field "x" (.string "y")], hblocks, hcompilable, rfl⟩⟩

end RuleParser

end EventRules
