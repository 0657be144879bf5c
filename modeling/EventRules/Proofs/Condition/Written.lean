import EventRules.Proofs.Condition.Expr
import EventRules.Proofs.Condition.Token

/-!
# Expressions as text

An expression is `Written` as tokens with parentheses around the operands that need them, and around any
others; its text is one of these tokens (`Expr.WrittenAs`). Whatever parentheses and blanks are chosen,
the text is read as the expression (`parse_written`).

A chain of operators needs parentheses as an operand of a closer operator. It also needs them as an
operand of its own operator, since it would be taken for a part of the longer chain otherwise.
-/

namespace EventRules.Condition

namespace Selector

def token : Selector → Token
  | them => .them
  | pattern p => if '*' ∈ p.toList then .wildcard p else .identifier p

/-- The pattern can stand in a condition. -/
def Spellable : Selector → Prop
  | them => True
  | pattern p => IsName p ∨ IsGlob p

theorem selects_token (s : Selector) : Selects s.token s := by
  cases s with
  | them => exact .them
  | pattern p =>
    rw [token]
    split_ifs
    · exact .wildcard p
    · exact .identifier p

theorem Spellable.proper_token {s : Selector} (h : s.Spellable) : s.token.Proper := by
  cases s with
  | them => trivial
  | pattern p =>
    rw [token]
    rcases h with hname | hglob
    · rw [if_neg hname.star_not_mem]
      exact hname
    · rw [if_pos hglob.star]
      exact hglob

end Selector

namespace Expr

/-- The name or the pattern of the expression can stand in a condition. -/
def Spellable : Expr → Prop
  | identifier name => IsName name
  | oneOf s | allOf s => s.Spellable
  | _ => True

def IsOr : Expr → Prop
  | or _ => True
  | _ => False

def IsChain : Expr → Prop
  | and _ | or _ => True
  | _ => False

/-- The closest phrase that the expression is by itself. -/
def phrase : Expr → Phrase
  | or _ => .disjunction
  | and _ => .conjunction
  | not _ => .negation
  | _ => .primary

end Expr

/-- An operand with its tokens, and the pairs of parentheses around it. -/
structure Operand extends Spelled where
  pairs : Nat

/-- Tokens that an expression can be written as, with some pairs of parentheses around it. -/
inductive Written : Expr → Nat → List Token → Prop
  | identifier (name : String) : Written (.identifier name) 0 [.identifier name]
  | oneOf (s : Selector) : Written (.oneOf s) 0 [.number 1, .of, s.token]
  | allOf (s : Selector) : Written (.allOf s) 0 [.all, .of, s.token]
  | not {e : Expr} {n : Nat} {ts : List Token} (h : Written e n ts) (hpairs : e.IsChain → 0 < n) :
    Written (.not e) 0 (.not :: ts)
  | and {operands : List Operand} (h : ∀ o ∈ operands, Written o.expr o.pairs o.tokens)
    (hpairs : ∀ o ∈ operands, o.expr.IsChain → 0 < o.pairs) :
    Written (.and (operands.map (·.expr))) 0 ([.and].intercalate (operands.map (·.tokens)))
  | or {operands : List Operand} (h : ∀ o ∈ operands, Written o.expr o.pairs o.tokens)
    (hpairs : ∀ o ∈ operands, o.expr.IsOr → 0 < o.pairs) :
    Written (.or (operands.map (·.expr))) 0 ([.or].intercalate (operands.map (·.tokens)))
  | parentheses {e : Expr} {n : Nat} {ts : List Token} (h : Written e n ts) :
    Written e (n + 1) (.leftParen :: ts ++ [.rightParen])

/-- The text is the expression with any parentheses and blanks that leave it unambiguous. -/
def Expr.WrittenAs (e : Expr) (text : String) : Prop :=
  ∃ n ts, Written e n ts ∧ Spaced ts text.toList

/-! ### The grammar derives what is written -/

theorem intercalate_cons (separator : Token) (ts : List Token) (tss : List (List Token)) :
    [separator].intercalate (ts :: tss) = ts ++ tss.flatMap (separator :: ·) := by
  induction tss generalizing ts with
  | nil => simp
  | cons us tss ih =>
    rw [List.intercalate_cons_cons, ih us]
    simp

namespace Derives

variable {phrase : Phrase} {ts : List Token} {e : Expr}

theorem conjunction_of_ne (h : Derives phrase ts e) (hne : phrase ≠ .disjunction) :
    Derives .conjunction ts e := by
  cases phrase with
  | disjunction => exact absurd rfl hne
  | conjunction => exact h
  | negation => exact .negation h
  | primary => exact .negation (.primary h)

theorem toDisjunction (h : Derives phrase ts e) : Derives .disjunction ts e := by
  by_cases hphrase : phrase = .disjunction
  · exact hphrase ▸ h
  · exact .conjunction (h.conjunction_of_ne hphrase)

end Derives

/-- The phrase that an expression inside some pairs of parentheses is. -/
def phraseInside (e : Expr) (pairs : Nat) : Phrase :=
  if pairs = 0 then e.phrase else .primary

theorem Derives.negation_of_inside {e : Expr} {n : Nat} {ts : List Token}
    (h : Derives (phraseInside e n) ts e) (hpairs : e.IsChain → 0 < n) : Derives .negation ts e := by
  cases n with
  | succ n => exact .primary h
  | zero =>
    cases e with
    | and es | or es => exact absurd (hpairs trivial) (by simp)
    | not e => exact h
    | identifier _ | oneOf _ | allOf _ => exact .primary h

theorem Derives.conjunction_of_inside {e : Expr} {n : Nat} {ts : List Token}
    (h : Derives (phraseInside e n) ts e) (hpairs : e.IsOr → 0 < n) :
    Derives .conjunction ts e := by
  refine h.conjunction_of_ne ?_
  cases n with
  | succ n => simp [phraseInside]
  | zero =>
    cases e with
    | or es => exact absurd (hpairs trivial) (by simp)
    | _ => simp [phraseInside, Expr.phrase]

/-- Two operands or more are a chain, provided that the grammar has a chain of them. -/
theorem derives_operands {lower upper : Phrase} {separator : Token} {wrap : List Expr → Expr}
    (hmany : ∀ {ts e others}, Derives lower ts e → (∀ o ∈ others, Derives lower o.tokens o.expr) →
      others ≠ [] →
        Derives upper (ts ++ preceded separator others) (wrap (e :: others.map (·.expr))))
    {operands : List Operand} (h : ∀ o ∈ operands, Derives lower o.tokens o.expr)
    (hlength : 2 ≤ (operands.map (·.expr)).length) :
    Derives upper ([separator].intercalate (operands.map (·.tokens)))
      (wrap (operands.map (·.expr))) := by
  match operands, hlength with
  | first :: second :: others, _ =>
    have hrest : ∀ o ∈ (second :: others).map (·.toSpelled), Derives lower o.tokens o.expr := by
      intro o ho
      obtain ⟨operand, hoperand, rfl⟩ := List.mem_map.1 ho
      exact h operand (List.mem_cons_of_mem first hoperand)
    have hchain := hmany (h first (by simp)) hrest (by simp)
    have htokens : preceded separator ((second :: others).map (·.toSpelled)) =
        ((second :: others).map (·.tokens)).flatMap (separator :: ·) := by
      rw [preceded, List.flatMap_map, List.flatMap_map]
    have hexprs : ((second :: others).map (·.toSpelled)).map (·.expr) =
        (second :: others).map (·.expr) := List.map_map
    rw [htokens, hexprs, ← intercalate_cons] at hchain
    exact hchain

theorem Written.derives {e : Expr} {n : Nat} {ts : List Token} (h : Written e n ts) (he : e.Formed) :
    Derives (phraseInside e n) ts e := by
  induction h with
  | identifier name => exact .identifier name
  | oneOf s => exact .oneOf s.selects_token
  | allOf s => exact .allOf s.selects_token
  | not _ hpairs ih => exact .not ((ih (Expr.formed_not_iff.1 he)).negation_of_inside hpairs)
  | parentheses _ ih => exact .parentheses (ih he).toDisjunction
  | and _ hpairs ih =>
    obtain ⟨hformed, hlength⟩ := Expr.formed_and_iff.1 he
    refine derives_operands Derives.and (fun o ho => ?_) hlength
    have hinside := ih o ho (hformed _ (List.mem_map_of_mem ho))
    exact hinside.negation_of_inside (hpairs o ho)
  | or _ hpairs ih =>
    obtain ⟨hformed, hlength⟩ := Expr.formed_or_iff.1 he
    refine derives_operands Derives.or (fun o ho => ?_) hlength
    have hinside := ih o ho (hformed _ (List.mem_map_of_mem ho))
    exact hinside.conjunction_of_inside (hpairs o ho)

/-! ### Tokens of an expression are read from their spelling -/

theorem mem_intercalate {separator t : Token} {tss : List (List Token)}
    (h : t ∈ [separator].intercalate tss) : t = separator ∨ ∃ ts ∈ tss, t ∈ ts := by
  cases tss with
  | nil => simp at h
  | cons ts tss =>
    rw [intercalate_cons, List.mem_append, List.mem_flatMap] at h
    rcases h with h | ⟨us, hus, h⟩
    · exact .inr ⟨ts, by simp, h⟩
    · rcases List.mem_cons.1 h with rfl | h
      · exact .inl rfl
      · exact .inr ⟨us, by simp [hus], h⟩

namespace Expr

/-- All names and patterns in the expression can stand in a condition. -/
def Writable (e : Expr) : Prop :=
  ∀ node ∈ e.nodes, node.Spellable

theorem writable_and_iff {es : List Expr} : (Expr.and es).Writable ↔ ∀ e ∈ es, e.Writable := by
  unfold Writable
  rw [forall_nodes_iff (nodes_and es)]
  exact and_iff_left trivial

theorem writable_or_iff {es : List Expr} : (Expr.or es).Writable ↔ ∀ e ∈ es, e.Writable := by
  unfold Writable
  rw [forall_nodes_iff (nodes_or es)]
  exact and_iff_left trivial

theorem writable_not_iff {e : Expr} : (Expr.not e).Writable ↔ e.Writable := by
  unfold Writable
  rw [forall_nodes_iff (nodes_not_flatMap e)]
  simp [Spellable]

end Expr

/-- The operands of a chain are of proper tokens, and so is the chain. -/
theorem proper_intercalate {separator : Token} {operands : List Operand} (hseparator : separator.Proper)
    (h : ∀ o ∈ operands, ∀ t ∈ o.tokens, t.Proper) :
    ∀ t ∈ [separator].intercalate (operands.map (·.tokens)), t.Proper := by
  intro t ht
  rcases mem_intercalate ht with rfl | ⟨ts, hts, ht⟩
  · exact hseparator
  · obtain ⟨o, ho, rfl⟩ := List.mem_map.1 hts
    exact h o ho t ht

theorem Written.proper {e : Expr} {n : Nat} {ts : List Token} (h : Written e n ts) (he : e.Writable) :
    ∀ t ∈ ts, t.Proper := by
  induction h with
  | identifier name =>
    have hname : IsName name := he (.identifier name) (by simp)
    simpa [Token.Proper] using hname
  | oneOf s =>
    have hs : s.Spellable := he (.oneOf s) (by simp)
    simpa [Token.Proper] using hs.proper_token
  | allOf s =>
    have hs : s.Spellable := he (.allOf s) (by simp)
    simpa [Token.Proper] using hs.proper_token
  | not _ _ ih =>
    rintro t (_ | ⟨_, ht⟩)
    · trivial
    · exact ih (Expr.writable_not_iff.1 he) t ht
  | and _ _ ih =>
    have hwritable := Expr.writable_and_iff.1 he
    exact proper_intercalate trivial fun o ho => ih o ho (hwritable _ (List.mem_map_of_mem ho))
  | or _ _ ih =>
    have hwritable := Expr.writable_or_iff.1 he
    exact proper_intercalate trivial fun o ho => ih o ho (hwritable _ (List.mem_map_of_mem ho))
  | parentheses _ ih =>
    intro t ht
    simp only [List.cons_append, List.mem_cons, List.mem_append, List.not_mem_nil, or_false] at ht
    rcases ht with rfl | ht | rfl
    · trivial
    · exact ih he t ht
    · trivial

/-! ### Every expression can be written -/

theorem exists_operand {e : Expr} (h : ∃ n ts, Written e n ts) :
    ∃ o : Operand, o.expr = e ∧ Written o.expr o.pairs o.tokens ∧ 0 < o.pairs := by
  obtain ⟨n, ts, h⟩ := h
  exact ⟨⟨⟨_, e⟩, n + 1⟩, rfl, .parentheses h, Nat.succ_pos n⟩

theorem exists_operands {es : List Expr} (h : ∀ e ∈ es, ∃ n ts, Written e n ts) :
    ∃ operands : List Operand, operands.map (·.expr) = es ∧
      ∀ o ∈ operands, Written o.expr o.pairs o.tokens ∧ 0 < o.pairs := by
  induction es with
  | nil => exact ⟨[], rfl, by simp⟩
  | cons e es ih =>
    obtain ⟨o, rfl, ho⟩ := exists_operand (h e (by simp))
    obtain ⟨operands, rfl, hoperands⟩ := ih fun e' he' => h e' (by simp [he'])
    exact ⟨o :: operands, rfl, List.forall_mem_cons.2 ⟨ho, hoperands⟩⟩

/-- Parentheses around every operand always do. -/
theorem exists_written (e : Expr) : ∃ n ts, Written e n ts := by
  induction e using Expr.induct with
  | identifier name => exact ⟨_, _, .identifier name⟩
  | oneOf s => exact ⟨_, _, .oneOf s⟩
  | allOf s => exact ⟨_, _, .allOf s⟩
  | not e ih =>
    obtain ⟨o, rfl, ho, hpos⟩ := exists_operand ih
    exact ⟨_, _, .not ho fun _ => hpos⟩
  | and es ih =>
    obtain ⟨operands, rfl, h⟩ := exists_operands ih
    exact ⟨_, _, .and (fun o ho => (h o ho).1) fun o ho _ => (h o ho).2⟩
  | or es ih =>
    obtain ⟨operands, rfl, h⟩ := exists_operands ih
    exact ⟨_, _, .or (fun o ho => (h o ho).1) fun o ho _ => (h o ho).2⟩

/-- A blank before every token keeps all of them apart. -/
theorem exists_spaced (ts : List Token) : ∃ text, Spaced ts text := by
  have hgaps : ∀ p ∈ ts.map ([' '], ·), p.1 ⊆ blanks := by
    intro p hp
    obtain ⟨t, -, rfl⟩ := List.mem_map.1 hp
    simp [blanks]
  have hapart : (ts.map ([' '], ·)).IsChain fun p q => p.2.RunsInto q.2 → q.1 ≠ [] := by
    rw [List.isChain_map]
    exact (List.pairwise_of_forall fun _ _ _ => by simp).isChain
  have hspaced := spaced_of_gaps hgaps hapart
  rw [List.map_map] at hspaced
  exact ⟨_, by simpa [Function.comp_def] using hspaced⟩

/-- An expression can be written, and whatever is written for it is read as the expression. -/
theorem parse_written {e : Expr} (he : e.Formed) (hwritable : e.Writable) :
    (∃ text, e.WrittenAs text) ∧ ∀ text, e.WrittenAs text → parse text = .ok e := by
  constructor
  · obtain ⟨n, ts, hts⟩ := exists_written e
    obtain ⟨text, htext⟩ := exists_spaced ts
    exact ⟨.ofList text, n, ts, hts, by rwa [String.toList_ofList]⟩
  · rintro text ⟨n, ts, hts, htext⟩
    have htokens := tokenize_spaced htext (hts.proper hwritable)
    have hparse := parseTokens_of_derives (hts.derives he).toDisjunction
    unfold parse
    rw [htokens]
    cases ts with
    | nil => cases hparse
    | cons t ts =>
      show (parseTokens (t :: ts)).mapError _ = _
      rw [hparse]; rfl

/-- A name may look like a keyword, and where a parenthesis stands no blank is needed. -/
theorem parse_written_order :
    let e : Expr := .and [.not (.identifier "order"), .oneOf (.pattern "*-s")]
    let text := "not\torder and(1of *-s)"
    e.Formed ∧ e.Writable ∧ e.WrittenAs text ∧ parse text = .ok e := by
  intro e text
  have he : e.Formed := by simp [e, Expr.Formed, Expr.WellShaped]
  have hwritable : e.Writable := by
    have hname : IsName "order" :=
      ⟨⟨'o', rfl, by decide⟩, List.all_iff_forall_prop.1 (by decide), by decide⟩
    have hglob : IsGlob "*-s" :=
      ⟨⟨'*', rfl, by decide⟩, List.all_iff_forall_prop.1 (by decide), by decide⟩
    simp [e, Expr.Writable, Expr.Spellable, Selector.Spellable, hname, hglob]
  have htext : e.WrittenAs text := by
    let operands : List Operand :=
      [⟨⟨[.not, .identifier "order"], .not (.identifier "order")⟩, 0⟩,
        ⟨⟨[.leftParen, .number 1, .of, .wildcard "*-s", .rightParen], .oneOf (.pattern "*-s")⟩, 1⟩]
    have hwritten : ∀ o ∈ operands, Written o.expr o.pairs o.tokens := by
      refine List.forall_mem_cons.2 ⟨.not (.identifier "order") False.elim, ?_⟩
      exact List.forall_mem_cons.2 ⟨.parentheses (.oneOf (.pattern "*-s")), by simp⟩
    let parts : List (List Char × Token) :=
      [([], .not), (['\t'], .identifier "order"), ([' '], .and), ([], .leftParen), ([], .number 1),
        ([], .of), ([' '], .wildcard "*-s"), ([], .rightParen)]
    have hspaced := @spaced_of_gaps parts (by decide) (by decide)
    have htoList : parts.flatMap (fun p => p.1 ++ p.2.spelling) = text.toList := by decide
    rw [htoList] at hspaced
    exact ⟨0, _, .and hwritten (by simp [operands, Expr.IsChain]), hspaced⟩
  exact ⟨he, hwritable, htext, (parse_written he hwritable).2 text htext⟩

end EventRules.Condition
