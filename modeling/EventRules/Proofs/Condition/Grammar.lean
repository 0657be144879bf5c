import EventRules.Condition.Expr
import EventRules.Proofs.FirstFault

/-!
# The grammar of conditions

`Derives` says which tokens are an expression, without regard to how they are read. The parser accepts
the tokens of the grammar and no others (`parseTokens_grammar`).

Whatever the grammar derives takes the parser from the start of an operand to its end
(`Derives.accepted`). For the other direction the invariant is `Parser.Holds`: the tokens read so far are
those of the levels that are open, each an incomplete phrase, and of what has been read since.
-/

namespace EventRules.Condition

/-- The phrases of the grammar, from the loosest to the closest. -/
inductive Phrase where
  | disjunction
  | conjunction
  | negation
  | primary

structure Spelled where
  tokens : List Token
  expr : Expr

/-- Operands with a token before each. -/
def preceded (separator : Token) (operands : List Spelled) : List Token :=
  operands.flatMap fun o => separator :: o.tokens

/-- Operands with a token after each. -/
def followed (separator : Token) (operands : List Spelled) : List Token :=
  operands.flatMap fun o => o.tokens ++ [separator]

inductive Selects : Token → Selector → Prop
  | them : Selects .them .them
  | wildcard (pattern : String) : Selects (.wildcard pattern) (.pattern pattern)
  | identifier (name : String) : Selects (.identifier name) (.pattern name)

/-- Tokens are a phrase that stands for an expression. A chain of operators is one node. -/
inductive Derives : Phrase → List Token → Expr → Prop
  | identifier (name : String) : Derives .primary [.identifier name] (.identifier name)
  | parentheses {ts : List Token} {e : Expr} (inner : Derives .disjunction ts e) :
    Derives .primary (.leftParen :: ts ++ [.rightParen]) e
  | oneOf {t : Token} {s : Selector} (h : Selects t s) :
    Derives .primary [.number 1, .of, t] (.oneOf s)
  | allOf {t : Token} {s : Selector} (h : Selects t s) : Derives .primary [.all, .of, t] (.allOf s)
  | primary {ts : List Token} {e : Expr} (h : Derives .primary ts e) : Derives .negation ts e
  | not {ts : List Token} {e : Expr} (h : Derives .negation ts e) :
    Derives .negation (.not :: ts) (.not e)
  | negation {ts : List Token} {e : Expr} (h : Derives .negation ts e) : Derives .conjunction ts e
  | and {ts : List Token} {e : Expr} {others : List Spelled} (first : Derives .negation ts e)
    (rest : ∀ o ∈ others, Derives .negation o.tokens o.expr) (hne : others ≠ []) :
    Derives .conjunction (ts ++ preceded .and others) (.and (e :: others.map (·.expr)))
  | conjunction {ts : List Token} {e : Expr} (h : Derives .conjunction ts e) :
    Derives .disjunction ts e
  | or {ts : List Token} {e : Expr} {others : List Spelled} (first : Derives .conjunction ts e)
    (rest : ∀ o ∈ others, Derives .conjunction o.tokens o.expr) (hne : others ≠ []) :
    Derives .disjunction (ts ++ preceded .or others) (.or (e :: others.map (·.expr)))

theorem chain_cons {wrap : List Expr → Expr} {e : Expr} {others : List Expr} (hne : others ≠ []) :
    chain wrap (e :: others) = wrap (e :: others) := by
  cases others with
  | nil => exact absurd rfl hne
  | cons f others => simp [chain]

theorem negated_not (n : Nat) (e : Expr) : negated n (.not e) = .not (negated n e) := by
  induction n with
  | zero => rfl
  | succ n ih => rw [negated, ih, negated]

def Parser.run (p : Parser) (ts : List Token) : Except ParseFault Parser :=
  ts.foldlM step p

/-- What the parser makes of the tokens of a phrase, wherever the phrase may stand. -/
def Accepted : Phrase → List Token → Expr → Prop
  | .primary, ts, e | .negation, ts, e => ∀ p : Parser, p.expected = .operand →
    p.run ts = .ok (p.complete e)
  | .conjunction, ts, e => ∀ outer alternatives, ∃ conjuncts last,
    Parser.run ⟨outer, ⟨alternatives, [], 0⟩, .operand⟩ ts =
      .ok ⟨outer, ⟨alternatives, conjuncts, 0⟩, .operator last⟩ ∧
      chain .and (last :: conjuncts).reverse = e
  | .disjunction, ts, e => ∀ outer, ∃ level last,
    Parser.run ⟨outer, .empty, .operand⟩ ts = .ok ⟨outer, level, .operator last⟩ ∧
      level.close last = e

/-! ### What the grammar derives is read -/

namespace Parser

variable {p q : Parser} {t : Token} {ts us : List Token}

theorem run_cons_of_ok (h : p.step t = .ok q) : p.run (t :: ts) = q.run ts := by
  rw [run, List.foldlM_cons, h]; rfl

theorem run_append_of_ok (h : p.run ts = .ok q) : p.run (ts ++ us) = q.run us := by
  rw [run] at h
  rw [run, List.foldlM_append, h]; rfl

theorem step_of_operand (h : p.expected = .operand) (t : Token) : p.step t = p.operand t := by
  rw [step, h]

theorem run_singleton : p.run [t] = p.step t := by
  rw [run, List.foldlM_cons]
  exact bind_pure _

theorem run_quantified {quantity : Quantity} {s : Selector} (hs : Selects t s) :
    run { p with expected := .of quantity } [.of, t] = p.quantified quantity s := by
  rw [run_cons_of_ok rfl, run_singleton]
  cases hs with
  | them => rfl
  | wildcard pattern => rfl
  | identifier name => rfl

theorem run_and {others : List Spelled} (h : ∀ o ∈ others, Accepted .negation o.tokens o.expr)
    (outer : List Level) (alternatives conjuncts : List Expr) (e : Expr) : ∃ conjuncts' last,
      run ⟨outer, ⟨alternatives, conjuncts, 0⟩, .operator e⟩ (preceded .and others) =
        .ok ⟨outer, ⟨alternatives, conjuncts', 0⟩, .operator last⟩ ∧
      (last :: conjuncts').reverse = (e :: conjuncts).reverse ++ others.map (·.expr) := by
  induction others generalizing conjuncts e with
  | nil => exact ⟨conjuncts, e, rfl, by simp⟩
  | cons o others ih =>
    obtain ⟨conjuncts', last, hrun, hlast⟩ :=
      ih (fun o' ho' => h o' (by simp [ho'])) (e :: conjuncts) o.expr
    have hoperand := h o (by simp) ⟨outer, ⟨alternatives, e :: conjuncts, 0⟩, .operand⟩ rfl
    refine ⟨conjuncts', last, ?_, by simp [hlast]⟩
    rw [preceded, List.flatMap_cons, List.cons_append, run_cons_of_ok rfl,
      run_append_of_ok hoperand]
    exact hrun

theorem run_or {others : List Spelled} (h : ∀ o ∈ others, Accepted .conjunction o.tokens o.expr)
    (outer : List Level) (level : Level) (e : Expr) : ∃ level' last,
      run ⟨outer, level, .operator e⟩ (preceded .or others) =
        .ok ⟨outer, level', .operator last⟩ ∧
      (level'.conjunction last :: level'.alternatives).reverse =
        (level.conjunction e :: level.alternatives).reverse ++ others.map (·.expr) := by
  induction others generalizing level e with
  | nil => exact ⟨level, e, rfl, by simp⟩
  | cons o others ih =>
    obtain ⟨conjuncts, middle, hoperand, hchain⟩ :=
      h o (by simp) outer (level.conjunction e :: level.alternatives)
    obtain ⟨level', last, hrun, hlast⟩ :=
      ih (fun o' ho' => h o' (by simp [ho']))
        ⟨level.conjunction e :: level.alternatives, conjuncts, 0⟩ middle
    refine ⟨level', last, ?_, ?_⟩
    · rw [preceded, List.flatMap_cons, List.cons_append, run_cons_of_ok rfl,
        run_append_of_ok hoperand]
      exact hrun
    · rw [hlast, Level.conjunction, hchain]
      simp

end Parser

open EventRules.Condition.Parser in
theorem Derives.accepted {phrase : Phrase} {ts : List Token} {e : Expr} (h : Derives phrase ts e) :
    Accepted phrase ts e := by
  -- By induction on the derivation; what a phrase needs of the parser before it is in `Accepted`.
  induction h with
  | identifier name =>
    intro p hp
    rw [run_cons_of_ok (step_of_operand hp _)]; rfl
  | parentheses _ ih =>
    intro p hp
    -- The level around the parentheses waits on the stack, and the right one completes an operand of it.
    obtain ⟨level, last, hrun, hclose⟩ := ih (p.level :: p.outer)
    rw [List.cons_append, run_cons_of_ok (step_of_operand hp _), run_append_of_ok hrun, ← hclose]
    rfl
  | oneOf hs =>
    intro p hp
    rw [run_cons_of_ok (step_of_operand hp _), run_quantified hs]; rfl
  | allOf hs =>
    intro p hp
    rw [run_cons_of_ok (step_of_operand hp _), run_quantified hs]; rfl
  | primary _ ih => exact ih
  | @not ts e _ ih =>
    intro p hp
    have hoperand := ih { p with level := { p.level with negations := p.level.negations + 1 } } hp
    rw [run_cons_of_ok (step_of_operand hp _), hoperand, complete, complete, negated_not]; rfl
  | @negation ts e _ ih =>
    intro outer alternatives
    exact ⟨[], e, ih ⟨outer, ⟨alternatives, [], 0⟩, .operand⟩ rfl, rfl⟩
  | @and ts e others _ _ hne ihfirst ihrest =>
    intro outer alternatives
    have hfirst := ihfirst ⟨outer, ⟨alternatives, [], 0⟩, .operand⟩ rfl
    obtain ⟨conjuncts, last, hrun, hlast⟩ := run_and ihrest outer alternatives [] e
    refine ⟨conjuncts, last, (run_append_of_ok hfirst).trans hrun, ?_⟩
    rw [hlast]
    exact chain_cons (by simpa using hne)
  | conjunction _ ih =>
    intro outer
    obtain ⟨conjuncts, last, hrun, hchain⟩ := ih outer []
    exact ⟨⟨[], conjuncts, 0⟩, last, hrun, hchain⟩
  | @or ts e others _ _ hne ihfirst ihrest =>
    intro outer
    obtain ⟨conjuncts, middle, hfirst, hchain⟩ := ihfirst outer []
    obtain ⟨level, last, hrun, hlast⟩ := run_or ihrest outer ⟨[], conjuncts, 0⟩ middle
    refine ⟨level, last, (run_append_of_ok hfirst).trans hrun, ?_⟩
    rw [Level.close, hlast, Level.conjunction, hchain]
    exact chain_cons (by simpa using hne)

theorem parseTokens_of_derives {ts : List Token} {e : Expr} (h : Derives .disjunction ts e) :
    parseTokens ts = .ok e := by
  obtain ⟨level, last, hrun, hclose⟩ := h.accepted []
  show Parser.run ⟨[], .empty, .operand⟩ ts >>= Parser.finish = _
  rw [hrun, ← hclose]; rfl

/-! ### What is read the grammar derives -/

/-- Operands that end with a last one are the first with the others before each of which the separator
stands. -/
theorem followed_append (separator : Token) (o : Spelled) (others : List Spelled) (last : Spelled) :
    followed separator (o :: others) ++ last.tokens =
      o.tokens ++ preceded separator (others ++ [last]) := by
  induction others generalizing o with
  | nil => simp [followed, preceded]
  | cons o' others ih =>
    have hrest := ih o'
    rw [followed, List.flatMap_cons, List.append_assoc]
    show _ ++ (followed separator (o' :: others) ++ last.tokens) = _
    rw [hrest]
    simp [preceded]

/-- Operands with a last one make a chain, provided that the grammar has a chain of them. -/
theorem derives_chain {lower upper : Phrase} {separator : Token} {wrap : List Expr → Expr}
    (hone : ∀ {ts e}, Derives lower ts e → Derives upper ts e)
    (hmany : ∀ {ts e others}, Derives lower ts e → (∀ o ∈ others, Derives lower o.tokens o.expr) →
      others ≠ [] →
        Derives upper (ts ++ preceded separator others) (wrap (e :: others.map (·.expr))))
    {operands : List Spelled} (h : ∀ o ∈ operands, Derives lower o.tokens o.expr) {ts : List Token}
    {e : Expr} (hlast : Derives lower ts e) :
    Derives upper (followed separator operands ++ ts) (chain wrap (operands.map (·.expr) ++ [e])) := by
  cases operands with
  | nil => exact hone hlast
  | cons o others =>
    have hrest : ∀ o' ∈ others ++ [⟨ts, e⟩], Derives lower o'.tokens o'.expr := by
      intro o' ho'
      rcases List.mem_append.1 ho' with ho' | ho'
      · exact h o' (by simp [ho'])
      · obtain rfl := List.mem_singleton.1 ho'
        exact hlast
    have hmore := hmany (h o (by simp)) hrest (by simp)
    rw [← followed_append] at hmore
    rw [List.map_cons, List.cons_append, chain_cons (by simp)]
    simpa using hmore

theorem derives_negated {ts : List Token} {e : Expr} (h : Derives .negation ts e) (n : Nat) :
    Derives .negation (List.replicate n .not ++ ts) (negated n e) := by
  induction n with
  | zero => exact h
  | succ n ih => exact .not ih

/-- The tokens of a level before the negations of its current operand: the alternatives that are
complete, and the operands of the conjunction that is not. -/
def Level.Holds (l : Level) (ts : List Token) : Prop :=
  ∃ alternatives conjuncts : List Spelled,
    (∀ o ∈ alternatives, Derives .conjunction o.tokens o.expr) ∧
    (∀ o ∈ conjuncts, Derives .negation o.tokens o.expr) ∧
    l.alternatives = (alternatives.map (·.expr)).reverse ∧
    l.conjuncts = (conjuncts.map (·.expr)).reverse ∧
    ts = followed .or alternatives ++ followed .and conjuncts

namespace Level

variable {l : Level} {ts us : List Token} {e : Expr}

def nots (l : Level) : List Token :=
  List.replicate l.negations .not

theorem empty_holds : empty.Holds [] :=
  ⟨[], [], by simp, by simp, rfl, rfl, rfl⟩

theorem Holds.and (h : l.Holds ts) (he : Derives .negation us e) :
    Level.Holds { l with conjuncts := e :: l.conjuncts } (ts ++ us ++ [.and]) := by
  obtain ⟨alternatives, conjuncts, halternatives, hconjuncts, ha, hc, rfl⟩ := h
  refine ⟨alternatives, conjuncts ++ [⟨us, e⟩], halternatives, ?_, ha, ?_, ?_⟩
  · intro o ho
    rcases List.mem_append.1 ho with ho | ho
    · exact hconjuncts o ho
    · obtain rfl := List.mem_singleton.1 ho
      exact he
  · simp [hc]
  · simp [followed]

theorem derives_conjunction {conjuncts : List Spelled}
    (hconjuncts : ∀ o ∈ conjuncts, Derives .negation o.tokens o.expr)
    (hc : l.conjuncts = (conjuncts.map (·.expr)).reverse) (he : Derives .negation us e) :
    Derives .conjunction (followed .and conjuncts ++ us) (l.conjunction e) := by
  have hchain := derives_chain .negation .and hconjuncts he
  rw [conjunction, hc]
  simpa using hchain

theorem Holds.or (h : l.Holds ts) (he : Derives .negation us e) :
    Level.Holds ⟨l.conjunction e :: l.alternatives, [], 0⟩ (ts ++ us ++ [.or]) := by
  obtain ⟨alternatives, conjuncts, halternatives, hconjuncts, ha, hc, rfl⟩ := h
  have hconjunction := derives_conjunction hconjuncts hc he
  refine ⟨alternatives ++ [⟨followed .and conjuncts ++ us, l.conjunction e⟩], [], ?_, by simp, ?_,
    rfl, ?_⟩
  · intro o ho
    rcases List.mem_append.1 ho with ho | ho
    · exact halternatives o ho
    · obtain rfl := List.mem_singleton.1 ho
      exact hconjunction
  · simp [ha]
  · simp [followed]

/-- A level that ends with an operand is a whole disjunction. -/
theorem Holds.close (h : l.Holds ts) (he : Derives .negation us e) :
    Derives .disjunction (ts ++ us) (l.close e) := by
  obtain ⟨alternatives, conjuncts, halternatives, hconjuncts, ha, hc, rfl⟩ := h
  have hconjunction := derives_conjunction hconjuncts hc he
  have hchain := derives_chain .conjunction .or halternatives hconjunction
  rw [Level.close, ha]
  simpa using hchain

end Level

def Quantity.token : Quantity → Token
  | .count n => .number n
  | .all => .all

/-- The tokens of the levels around the current one, each up to its open parenthesis. -/
def Opened : List Level → List Token → Prop
  | [], ts => ts = []
  | level :: outer, ts => ∃ before body, Opened outer before ∧ level.Holds body ∧
    ts = before ++ body ++ level.nots ++ [.leftParen]

/-- The tokens since the last operator or parenthesis. -/
inductive Expected.Holds : Level → Expected → List Token → Prop
  | operand {level : Level} : Holds level .operand level.nots
  | operator {level : Level} {ts : List Token} {e : Expr} (hnone : level.negations = 0)
    (h : Derives .negation ts e) : Holds level (.operator e) ts
  | of {level : Level} (quantity : Quantity) :
    Holds level (.of quantity) (level.nots ++ [quantity.token])
  | selector {level : Level} (quantity : Quantity) :
    Holds level (.selector quantity) (level.nots ++ [quantity.token, .of])

def Parser.Holds (p : Parser) (ts : List Token) : Prop :=
  ∃ before body current, Opened p.outer before ∧ p.level.Holds body ∧
    p.expected.Holds p.level current ∧ ts = before ++ body ++ current

namespace Parser

variable {p q : Parser} {t : Token} {ts us : List Token}

theorem start_holds : start.Holds [] :=
  ⟨[], [], [], rfl, Level.empty_holds, .operand, rfl⟩

section Step

variable {outer : List Level} {level : Level} {before body : List Token} (houter : Opened outer before)
  (hlevel : level.Holds body)

include houter hlevel

/-- With its negations an operand is complete. -/
theorem complete_holds (expected : Expected) {e : Expr} (he : Derives .primary us e) :
    (complete ⟨outer, level, expected⟩ e).Holds (before ++ body ++ (level.nots ++ us)) :=
  ⟨before, body, level.nots ++ us, houter, hlevel, .operator rfl (derives_negated (.primary he) _), rfl⟩

theorem operand_holds {expected : Expected}
    (hq : Parser.operand ⟨outer, level, expected⟩ t = .ok q) (hexpected : expected = .operand) :
    q.Holds (before ++ body ++ level.nots ++ [t]) := by
  subst hexpected
  cases t with
  | not =>
    obtain rfl := Except.ok.inj hq
    refine ⟨before, body, _, houter, hlevel, .operand, ?_⟩
    simp [Level.nots, List.replicate_succ']
  | leftParen =>
    obtain rfl := Except.ok.inj hq
    exact ⟨_, [], [], ⟨before, body, houter, hlevel, rfl⟩, Level.empty_holds, .operand, by simp⟩
  | identifier name =>
    obtain rfl := Except.ok.inj hq
    rw [List.append_assoc]
    exact complete_holds houter hlevel _ (.identifier name)
  | number n =>
    obtain rfl := Except.ok.inj hq
    exact ⟨before, body, _, houter, hlevel, .of (.count n), by simp [Quantity.token]⟩
  | all =>
    obtain rfl := Except.ok.inj hq
    exact ⟨before, body, _, houter, hlevel, .of .all, by simp [Quantity.token]⟩
  | _ => cases hq

theorem operator_holds {e : Expr} (he : Derives .negation us e)
    (hq : Parser.operator ⟨outer, level, .operator e⟩ e t = .ok q) (hnone : level.negations = 0) :
    q.Holds (before ++ body ++ us ++ [t]) := by
  have hnots : level.nots = [] := by rw [Level.nots, hnone]; rfl
  cases t with
  | and =>
    obtain rfl := Except.ok.inj hq
    refine ⟨before, body ++ us ++ [.and], _, houter, hlevel.and he, .operand, ?_⟩
    show _ = before ++ (body ++ us ++ [.and]) ++ level.nots
    simp [hnots]
  | or =>
    obtain rfl := Except.ok.inj hq
    exact ⟨before, body ++ us ++ [.or], _, houter, hlevel.or he, .operand, by simp [Level.nots]⟩
  | rightParen =>
    cases outer with
    | nil => cases hq
    | cons around outer =>
      obtain rfl := Except.ok.inj hq
      obtain ⟨before, around_body, houter, haround, rfl⟩ := houter
      have hinner := complete_holds houter haround .operand (.parentheses (hlevel.close he))
      simpa using hinner
  | _ => cases outer <;> cases hq

end Step

theorem quantified_ok {quantity : Quantity} {s : Selector} (hs : Selects t s)
    (hq : p.quantified quantity s = .ok q) :
    ∃ e, Derives .primary [quantity.token, .of, t] e ∧ p.complete e = q := by
  cases quantity with
  | all => exact ⟨.allOf s, .allOf hs, Except.ok.inj hq⟩
  | count n =>
    rw [Parser.quantified] at hq
    split_ifs at hq with hn
    subst hn
    exact ⟨.oneOf s, .oneOf hs, Except.ok.inj hq⟩

theorem selector_ok {quantity : Quantity} (hq : p.selector quantity t = .ok q) :
    ∃ s, Selects t s ∧ p.quantified quantity s = .ok q := by
  cases t with
  | them => exact ⟨_, .them, hq⟩
  | wildcard pattern => exact ⟨_, .wildcard pattern, hq⟩
  | identifier name => exact ⟨_, .identifier name, hq⟩
  | _ => cases hq

theorem Holds.step (h : p.Holds ts) (hq : p.step t = .ok q) : q.Holds (ts ++ [t]) := by
  obtain ⟨outer, level, expected⟩ := p
  obtain ⟨before, body, current, houter, hlevel, hcurrent, rfl⟩ := h
  cases hcurrent with
  | operand => exact operand_holds houter hlevel hq rfl
  | operator hnone he => exact operator_holds houter hlevel he hq hnone
  | of quantity =>
    rw [Parser.step] at hq
    split_ifs at hq with ht
    obtain rfl := Except.ok.inj hq
    exact ⟨before, body, _, houter, hlevel, .selector quantity, by simp [ht]⟩
  | selector quantity =>
    obtain ⟨s, hs, hquantified⟩ := selector_ok hq
    obtain ⟨e, he, rfl⟩ := quantified_ok hs hquantified
    have hcomplete := complete_holds houter hlevel (.selector quantity) he
    simpa using hcomplete

theorem Holds.run (h : p.Holds ts) (hq : p.run us = .ok q) : q.Holds (ts ++ us) := by
  induction us generalizing p ts with
  | nil =>
    obtain rfl := Except.ok.inj hq
    rwa [List.append_nil]
  | cons t us ih =>
    rw [Parser.run, List.foldlM_cons] at hq
    obtain ⟨r, hr, hrest⟩ := Except.bind_eq_ok_iff.1 hq
    have hall := ih (h.step hr) hrest
    simpa using hall

theorem Holds.finish {e : Expr} (h : p.Holds ts) (he : p.finish = .ok e) :
    Derives .disjunction ts e := by
  obtain ⟨outer, level, expected⟩ := p
  obtain ⟨before, body, current, houter, hlevel, hcurrent, rfl⟩ := h
  cases hcurrent with
  | operator hnone hoperand =>
    rw [Parser.finish] at he
    split_ifs at he with hempty
    obtain rfl := Except.ok.inj he
    obtain rfl := List.isEmpty_iff.1 hempty
    obtain rfl : before = [] := houter
    exact hlevel.close hoperand
  | _ => cases he

end Parser

theorem derives_of_parseTokens {ts : List Token} {e : Expr} (h : parseTokens ts = .ok e) :
    Derives .disjunction ts e := by
  obtain ⟨p, hp, he⟩ := Except.bind_eq_ok_iff.1 h
  have hread := Parser.start_holds.run hp
  exact hread.finish he

theorem parseTokens_eq_ok_iff {ts : List Token} {e : Expr} :
    parseTokens ts = .ok e ↔ Derives .disjunction ts e :=
  ⟨derives_of_parseTokens, parseTokens_of_derives⟩

/-- The parser accepts the tokens of the grammar and no others, and the grammar is unambiguous. -/
theorem parseTokens_grammar (ts : List Token) :
    (∀ e, parseTokens ts = .ok e ↔ Derives .disjunction ts e) ∧
      ((∃ fault, parseTokens ts = .error fault) ↔ ∀ e, ¬ Derives .disjunction ts e) ∧
      ∀ e e', Derives .disjunction ts e → Derives .disjunction ts e' → e = e' := by
  refine ⟨fun e => parseTokens_eq_ok_iff, ?_, fun e e' h h' => ?_⟩
  · simp only [← parseTokens_eq_ok_iff]
    cases parseTokens ts with
    | ok e => simp
    | error fault => simp
  · rw [← parseTokens_eq_ok_iff] at h h'
    exact Except.ok.inj (h.symm.trans h')

/-- The grammar binds `not a or 1 of b* and c` in one way only. -/
theorem parseTokens_grammar_precedence :
    let ts : List Token := [.not, .identifier "a", .or, .number 1, .of, .wildcard "b*", .and,
      .identifier "c"]
    let e : Expr := .or [.not (.identifier "a"), .and [.oneOf (.pattern "b*"), .identifier "c"]]
    let f : Expr := .and [.or [.not (.identifier "a"), .oneOf (.pattern "b*")], .identifier "c"]
    parseTokens ts = .ok e ∧ Derives .disjunction ts e ∧ ¬ Derives .disjunction ts f := by
  intro ts e f
  obtain ⟨haccepts, -, hunique⟩ := parseTokens_grammar ts
  have hparse : parseTokens ts = .ok e := rfl
  have hderives : Derives .disjunction ts e := (haccepts e).1 hparse
  refine ⟨hparse, hderives, fun h => ?_⟩
  have hsame : e = f := hunique e f hderives h
  simp [e, f] at hsame

end EventRules.Condition
