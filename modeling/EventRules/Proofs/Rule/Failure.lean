import EventRules.Proofs.Rule.Parse

/-!
# How a document fails

`RuleParser.Fails` lists the ways in which a document makes no rule, each with the error that it makes.
An earlier way comes first: a rule that is not read has no conditions, conditions that are not all read
have no aggregations to count, and nodes only matter where there are no aggregations. No other error is
made (`RuleParser.parse_eq_error_iff`).
-/

namespace EventRules

open Condition

namespace RuleParser

theorem aggregationError?_eq_some_iff {id : String} {n : Nat} {e : RuleError} :
    aggregationError? id n = some e ↔
      n = 1 ∧ .unsupported .aggregation = e ∨ 2 ≤ n ∧ .parse ⟨.aggregations n, some id⟩ = e := by
  match n with
  | 0 | 1 | n + 2 => simp [aggregationError?]

theorem readBlocks_eq_error_iff {r : Rule} {e : RuleError} :
    readBlocks r = .error e ↔
      (∃ error, r.blocks = .error error ∧ .parse ⟨.block r.id error, some r.id⟩ = e) ∨
      ∃ blocks, r.blocks = .ok blocks ∧
        aggregationError? r.id (blocks.filterMap (·.aggregation)).length = some e := by
  rw [readBlocks_eq, Except.bind_eq_error_iff]
  simp only [Except.mapError_eq_error_iff, Except.mapError_eq_ok_iff, settle_eq_error_iff]

variable [PatternEngine]

/-- A document fails with an error. -/
inductive Fails (p : RuleParser) (text : String) : RuleError → Prop
  /-- The grammar reads no rule. -/
  | rejected {e : GrammarError} (hgrammar : p.grammar text = .error e) :
    Fails p text (.parse ⟨.grammar e, none⟩)
  /-- The first condition that stands for nothing. -/
  | unread {r : Rule} {before after : List RuleCondition} {c : RuleCondition} {e : GrammarError}
    (hgrammar : p.grammar text = .ok r) (hsplit : r.conditions = before ++ c :: after)
    (hbefore : ∀ b ∈ before, ∃ block, b.read = .ok block) (hread : c.read = .error e) :
    Fails p text (.parse ⟨.block r.id e, some r.id⟩)
  /-- All conditions are read, and one of them has an aggregation. -/
  | aggregation {r : Rule} {blocks : List Block} (hgrammar : p.grammar text = .ok r)
    (hblocks : r.blocks = .ok blocks) (hcount : (blocks.filterMap (·.aggregation)).length = 1) :
    Fails p text (.unsupported .aggregation)
  /-- All conditions are read, and several of them have aggregations. -/
  | aggregations {r : Rule} {blocks : List Block} {n : Nat} (hgrammar : p.grammar text = .ok r)
    (hblocks : r.blocks = .ok blocks) (hcount : (blocks.filterMap (·.aggregation)).length = n)
    (hn : 2 ≤ n) : Fails p text (.parse ⟨.aggregations n, some r.id⟩)
  /-- There are no aggregations, and the first node that does not fit is a keyword. -/
  | keyword {r : Rule} {ts before after : List Item} {value : Literal}
    (hgrammar : p.grammar text = .ok r) (hblocks : r.blocks = .ok (ts.map (⟨·, none⟩)))
    (hsplit : ts.flatMap Item.nodes = before ++ .keyword value :: after)
    (hbefore : ∀ node ∈ before, node.Fits) : Fails p text (.unsupported .keyword)
  /-- There are no aggregations, and the first node that does not fit has a fault. -/
  | misfit {r : Rule} {ts before after : List Item} {node : Item} {fault : RuleFault}
    (hgrammar : p.grammar text = .ok r) (hblocks : r.blocks = .ok (ts.map (⟨·, none⟩)))
    (hsplit : ts.flatMap Item.nodes = before ++ node :: after)
    (hbefore : ∀ node ∈ before, node.Fits) (hfault : node.fault? = some fault) :
    Fails p text (.parse ⟨fault, some r.id⟩)

variable {p : RuleParser} {data : RuleData}

/-- The error of a node in a rule with an id: only a keyword makes one of the other kind. -/
theorem nodeError_eq_some_iff {id : String} {node : Item} {e : RuleError} :
    node.error?.map (.withRuleId id) = some e ↔
      (∃ value, node = .keyword value) ∧ .unsupported .keyword = e ∨
        ∃ fault, node.fault? = some fault ∧ .parse ⟨fault, some id⟩ = e := by
  cases node with
  | keyword value => simp [Item.error?, Item.fault?, RuleError.withRuleId]
  | _ => simp [Item.error?, RuleError.ofFault, RuleError.withRuleId]

/-- The first node that does not fit makes the error of a rule whose conditions are all read. -/
theorem firstNodeError_eq_some_iff {id : String} {nodes : List Item} {e : RuleError} :
    (nodes.findSome? Item.error?).map (.withRuleId id) = some e ↔
      ∃ before node after, nodes = before ++ node :: after ∧
        (∀ node ∈ before, node.Fits) ∧ node.error?.map (.withRuleId id) = some e := by
  simp only [Option.map_eq_some_iff, List.findSome?_eq_some_iff, Item.error?_eq_none_iff]
  constructor
  · rintro ⟨e', ⟨before, node, after, hnodes, he', hbefore⟩, rfl⟩
    exact ⟨before, node, after, hnodes, hbefore, e', he', rfl⟩
  · rintro ⟨before, node, after, hnodes, hbefore, e', he', rfl⟩
    exact ⟨e', ⟨before, node, after, hnodes, he', hbefore⟩, rfl⟩

/-- A document fails as `Fails` says and in no other way. -/
theorem parse_eq_error_iff {e : RuleError} :
    (p.parse data).outcome = .error e ↔ p.Fails data.text e := by
  rw [parse_outcome]
  simp only [Except.bind_eq_error_iff, Except.mapError_eq_error_iff, Except.mapError_eq_ok_iff,
    settle_eq_error_iff, readBlocks_eq_error_iff, readBlocks_eq_ok_iff, firstNodeError_eq_some_iff,
    nodeError_eq_some_iff, aggregationError?_eq_some_iff]
  constructor
  · rintro (⟨g, hg, rfl⟩ | ⟨r, hr, (⟨g, hg, rfl⟩ | ⟨blocks, hblocks, ⟨hcount, rfl⟩ | ⟨hn, rfl⟩⟩) |
      ⟨ts, hts, before, node, after, hsplit, hbefore,
        ⟨⟨value, rfl⟩, rfl⟩ | ⟨fault, hfault, rfl⟩⟩⟩)
    · exact .rejected hg
    · obtain ⟨before, c, after, hsplit, hbefore, hread⟩ := Except.mapM_eq_error_iff.1 hg
      exact .unread hr hsplit hbefore hread
    · exact .aggregation hr hblocks hcount
    · exact .aggregations hr hblocks rfl hn
    · exact .keyword hr hts hsplit hbefore
    · exact .misfit hr hts hsplit hbefore hfault
  · rintro (⟨hg⟩ | ⟨hr, hsplit, hbefore, hread⟩ | ⟨hr, hblocks, hcount⟩ | ⟨hr, hblocks, rfl, hn⟩ |
      ⟨hr, hts, hsplit, hbefore⟩ | ⟨hr, hts, hsplit, hbefore, hfault⟩)
    · exact .inl ⟨_, hg, rfl⟩
    · have hblocks := Except.mapM_eq_error_iff.2 ⟨_, _, _, hsplit, hbefore, hread⟩
      exact .inr ⟨_, hr, .inl (.inl ⟨_, hblocks, rfl⟩)⟩
    · exact .inr ⟨_, hr, .inl (.inr ⟨_, hblocks, .inl ⟨hcount, rfl⟩⟩)⟩
    · exact .inr ⟨_, hr, .inl (.inr ⟨_, hblocks, .inr ⟨hn, rfl⟩⟩)⟩
    · exact .inr ⟨_, hr, .inr ⟨_, hts, _, _, _, hsplit, hbefore, .inl ⟨⟨_, rfl⟩, rfl⟩⟩⟩
    · exact .inr ⟨_, hr, .inr ⟨_, hts, _, _, _, hsplit, hbefore, .inr ⟨_, hfault, rfl⟩⟩⟩

end RuleParser

end EventRules
