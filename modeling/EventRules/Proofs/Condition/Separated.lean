import EventRules.Proofs.Condition.Token

/-!
# Texts with separators

A blank or a parenthesis ends what is being read, and what comes after it is read as if nothing had been
before: a text is read in the parts that separators make of it (`Scanner.scan_separated`). Nothing of a
text is lost, and nothing is read twice. The tokens that have been read and what is being read spell the
text up to there, but for blanks and for zeros before numbers (`Scanner.reads_run`).
-/

namespace EventRules.Condition

/-- The tokens that a separator stands for by itself. -/
def separatorTokens : Char → List Token
  | '(' => [.leftParen]
  | ')' => [.rightParen]
  | _ => []

namespace Scanner

variable {s s' : Scanner} {c : Char} {text rest : List Char} {tokens earlier : List Token}

/-! ### Parts of a text -/

theorem fresh_separator (hc : c ∈ separators) (tokens : List Token) :
    fresh tokens c = .ok ⟨separatorTokens c ++ tokens, .nothing⟩ := by
  simp only [separators, blanks, List.mem_append, List.mem_cons, List.not_mem_nil, or_false] at hc
  rcases hc with (rfl | rfl | rfl | rfl) | (rfl | rfl) <;> rfl

theorem step_separator (hc : c ∈ separators) (s : Scanner) :
    s.step c = s.flush >>= fun tokens => .ok ⟨separatorTokens c ++ tokens, .nothing⟩ := by
  obtain ⟨-, hpart, hdigit⟩ := not_part_of_separator c hc
  have hends : extend? c s.reading = none := by
    cases s.reading with
    | nothing => rfl
    | digits text => rw [extend?, hdigit]; rfl
    | word text => rw [extend?, hpart]; rfl
  rw [step, hends]
  exact congrArg s.flush.bind (funext (fresh_separator hc))

/-- The scanner with tokens that have been read before. -/
def after (earlier : List Token) (s : Scanner) : Scanner :=
  ⟨s.tokens ++ earlier, s.reading⟩

theorem flush_after : (s.after earlier).flush = s.flush.map (· ++ earlier) := by
  obtain ⟨tokens, reading⟩ := s
  cases reading with
  | nothing => rfl
  | word text => rfl
  | digits text =>
    show (numberToken text.reverse).map (· :: (tokens ++ earlier)) =
      ((numberToken text.reverse).map (· :: tokens)).map (· ++ earlier)
    cases numberToken text.reverse <;> rfl

theorem fresh_append : fresh (tokens ++ earlier) c = (fresh tokens c).map (·.after earlier) := by
  unfold fresh
  split_ifs <;> rfl

/-- What has been read before does not matter to a step. -/
theorem step_after : (s.after earlier).step c = (s.step c).map (·.after earlier) := by
  have hreading : (s.after earlier).reading = s.reading := rfl
  rw [step, step, hreading, flush_after]
  cases extend? c s.reading with
  | some reading => rfl
  | none =>
    cases s.flush with
    | error fault => rfl
    | ok tokens => exact fresh_append

theorem scan_cons (s : Scanner) (c : Char) (text : List Char) :
    s.scan (c :: text) = s.step c >>= (·.scan text) := by
  rw [scan, List.foldlM_cons, bind_assoc]; rfl

theorem scan_append (s : Scanner) (text rest : List Char) :
    s.scan (text ++ rest) = text.foldlM step s >>= (·.scan rest) := by
  rw [scan, List.foldlM_append, bind_assoc]; rfl

theorem scan_after : (s.after earlier).scan text = (s.scan text).map (earlier.reverse ++ ·) := by
  induction text generalizing s with
  | nil =>
    show (s.after earlier).flush.map List.reverse = (s.flush.map List.reverse).map (earlier.reverse ++ ·)
    rw [flush_after]
    cases s.flush with
    | error fault => rfl
    | ok tokens => exact congrArg Except.ok List.reverse_append
  | cons c text ih =>
    rw [scan_cons, scan_cons, step_after]
    cases s.step c with
    | error fault => rfl
    | ok s' => exact ih

theorem scan_nothing : scan ⟨tokens, .nothing⟩ text = (tokenize text).map (tokens.reverse ++ ·) :=
  scan_after (s := start)

/-- The text before a separator is read first, and the text after it by itself. -/
theorem scan_separated (hc : c ∈ separators) (s : Scanner) (text rest : List Char) :
    s.scan (text ++ c :: rest) = do
      let ts ← s.scan text
      let us ← tokenize rest
      return ts ++ separatorTokens c ++ us := by
  rw [scan_append, scan, bind_assoc]
  refine congrArg (text.foldlM step s >>= ·) (funext fun s' => ?_)
  rw [scan_cons, step_separator hc]
  cases s'.flush with
  | error fault => rfl
  | ok tokens =>
    -- Nothing is being read any more, so that the rest is read as from the start.
    show scan ⟨separatorTokens c ++ tokens, .nothing⟩ rest = _
    have hsingle : (separatorTokens c).reverse = separatorTokens c := by
      unfold separatorTokens
      split <;> rfl
    rw [scan_nothing, List.reverse_append, hsingle]
    cases tokenize rest <;> rfl

end Scanner

/-! ### Spellings -/

/-- A token is read from its spelling, and a number also with zeros before it. -/
def Token.Spells (t : Token) (part : List Char) : Prop :=
  ∃ k, part = .replicate k '0' ++ t.spelling ∧ (k ≠ 0 → t.shape = .digits)

theorem Token.spells_spelling (t : Token) : t.Spells t.spelling :=
  ⟨0, rfl, fun h => absurd rfl h⟩

/-- Tokens, and what is still to become one, spell a text but for its blanks. -/
def Covered (ts : List Token) (pending text : List Char) : Prop :=
  ∃ parts, List.Forall₂ Token.Spells ts parts ∧ parts.flatten ++ pending = text.filter (· ∉ blanks)

namespace Covered

variable {ts : List Token} {t : Token} {pending text : List Char} {c : Char}

theorem blank (h : Covered ts pending text) (hc : c ∈ blanks) : Covered ts pending (text ++ [c]) := by
  obtain ⟨parts, hparts, hcovered⟩ := h
  refine ⟨parts, hparts, ?_⟩
  rw [hcovered, List.filter_append, List.filter_singleton]
  simp [hc]

theorem read (h : Covered ts pending text) (hc : c ∉ blanks) : Covered ts (pending ++ [c]) (text ++ [c]) := by
  obtain ⟨parts, hparts, hcovered⟩ := h
  refine ⟨parts, hparts, ?_⟩
  rw [← List.append_assoc, hcovered, List.filter_append, List.filter_singleton]
  simp [hc]

theorem token (h : Covered ts pending text) (ht : t.Spells pending) : Covered (ts ++ [t]) [] text := by
  obtain ⟨parts, hparts, hcovered⟩ := h
  refine ⟨parts ++ [pending], List.rel_append hparts (.cons ht .nil), ?_⟩
  simpa using hcovered

end Covered

def Reading.chars : Reading → List Char
  | nothing => []
  | digits text => text.reverse
  | word text => text.reverse

namespace Scanner

variable {s s' : Scanner} {c : Char} {text more : List Char} {tokens : List Token} {t : Token}

theorem spelling_wordToken (word : List Char) : (wordToken word).spelling = word := by
  have hword : word = (String.ofList word).toList := String.toList_ofList.symm
  unfold wordToken
  split
  case h_7 =>
    split_ifs <;> exact hword.symm
  all_goals
    rename_i heq
    rw [heq] at hword
    exact hword.symm

theorem spells_numberToken {digits : List Char} (hdigits : ∀ d ∈ digits, d.isDigit)
    (ht : numberToken digits = .ok t) : t.Spells digits := by
  unfold numberToken at ht
  split at ht
  case h_2 => cases ht
  case h_1 count hcount =>
    obtain rfl := Except.ok.inj ht
    obtain ⟨sign, rest, hsign, rfl, hne, hrest, hvalue, hle⟩ := Digits.readAtMost?_eq_some_iff.1 hcount
    obtain rfl : sign = [] := by
      rcases hsign with rfl | rfl
      · rfl
      · exact absurd (hdigits '+' (by simp)) (by decide)
    obtain ⟨k, hk⟩ := Digits.eq_zeros_append_toDigits_of_read? (Digits.read?_ten_eq_some_iff.2 ⟨hne, hrest, hvalue⟩)
    have hcount : (UInt32.ofNat count).toNat = count :=
      UInt32.toNat_ofNat_of_lt (by have : UInt32.size = 2 ^ 32 := rfl; omega)
    refine ⟨k, ?_, fun _ => rfl⟩
    rw [List.nil_append, hk, Token.spelling, hcount]

/-- The state after a text: the tokens and what is being read spell it, and digits are digits. -/
structure Reads (s : Scanner) (text : List Char) : Prop where
  covered : Covered s.tokens.reverse s.reading.chars text
  digits : ∀ digits, s.reading = .digits digits → ∀ c ∈ digits, c.isDigit

theorem reads_nothing : Reads ⟨tokens, .nothing⟩ text ↔ Covered tokens.reverse [] text :=
  ⟨Reads.covered, fun h => ⟨h, by simp⟩⟩

theorem reads_start : start.Reads [] :=
  reads_nothing.2 ⟨[], .nil, rfl⟩

theorem chars_of_extend? {reading next : Reading} (h : extend? c reading = some next) :
    next.chars = reading.chars ++ [c] ∧ c ∉ separators := by
  cases reading with
  | nothing => cases h
  | digits read =>
    rw [extend?] at h
    split_ifs at h with hc
    obtain rfl := Option.some.inj h
    exact ⟨List.reverse_cons, not_mem_separators (.inr (.inr hc))⟩
  | word read =>
    rw [extend?] at h
    split_ifs at h with hc
    obtain rfl := Option.some.inj h
    exact ⟨List.reverse_cons, not_mem_separators (.inr (.inl hc))⟩

theorem isDigit_of_extend? {reading : Reading} {read : List Char}
    (h : extend? c reading = some (.digits read)) :
    ∃ earlier, reading = .digits earlier ∧ read = c :: earlier ∧ c.isDigit := by
  cases reading with
  | nothing => cases h
  | digits earlier =>
    rw [extend?] at h
    split_ifs at h with hc
    exact ⟨earlier, rfl, (Reading.digits.inj (Option.some.inj h)).symm, hc⟩
  | word earlier =>
    rw [extend?] at h
    split_ifs at h
    cases h

theorem reads_extend {next : Reading} (h : s.Reads text) (hextend : extend? c s.reading = some next) :
    Reads ⟨s.tokens, next⟩ (text ++ [c]) := by
  obtain ⟨hchars, hseparator⟩ := chars_of_extend? hextend
  have hblank : c ∉ blanks := fun hmem => hseparator (List.mem_append_left _ hmem)
  constructor
  · show Covered s.tokens.reverse next.chars (text ++ [c])
    rw [hchars]
    exact h.covered.read hblank
  · rintro read rfl
    obtain ⟨earlier, hreading, rfl, hc⟩ := isDigit_of_extend? hextend
    exact List.forall_mem_cons.2 ⟨hc, h.digits earlier hreading⟩

/-- What is being read is the spelling of the token that it is. -/
theorem covered_flush (h : s.Reads text) (hflush : s.flush = .ok tokens) : Covered tokens.reverse [] text := by
  obtain ⟨earlier, reading⟩ := s
  cases reading with
  | nothing =>
    obtain rfl := Except.ok.inj hflush
    exact h.covered
  | digits read =>
    obtain ⟨t, ht, rfl⟩ := Except.map_eq_ok_iff.1 hflush
    have hdigits : ∀ d ∈ read.reverse, d.isDigit :=
      fun d hd => h.digits read rfl d (List.mem_reverse.1 hd)
    rw [List.reverse_cons]
    exact h.covered.token (spells_numberToken hdigits ht)
  | word read =>
    obtain rfl := Except.ok.inj hflush
    have hword := (wordToken read.reverse).spells_spelling
    rw [spelling_wordToken] at hword
    rw [List.reverse_cons]
    exact h.covered.token hword

theorem reads_fresh (h : Covered tokens.reverse [] text) (hfresh : fresh tokens c = .ok s) :
    s.Reads (text ++ [c]) := by
  unfold fresh at hfresh
  split_ifs at hfresh with hblank hleft hright hdigit hstart
  all_goals obtain rfl := Except.ok.inj hfresh
  · exact reads_nothing.2 (h.blank (isBlank_iff.1 hblank))
  -- Any other character than a blank is part of a token.
  all_goals have hread := h.read (isBlank_iff.not.1 hblank)
  · subst hleft
    rw [reads_nothing, List.reverse_cons]
    exact hread.token (Token.spells_spelling .leftParen)
  · subst hright
    rw [reads_nothing, List.reverse_cons]
    exact hread.token (Token.spells_spelling .rightParen)
  · refine ⟨hread, ?_⟩
    rintro _ ⟨⟩
    simpa using hdigit
  · exact ⟨hread, fun digits hdigits => by cases hdigits⟩

/-- A step reads one character more, which belongs to the token before it or begins the next one. -/
theorem reads_step (h : s.Reads text) (hstep : s.step c = .ok s') : s'.Reads (text ++ [c]) := by
  unfold step at hstep
  split at hstep
  case h_1 reading hextend =>
    obtain rfl := Except.ok.inj hstep
    exact reads_extend h hextend
  case h_2 =>
    obtain ⟨tokens, hflush, hfresh⟩ := Except.bind_eq_ok_iff.1 hstep
    exact reads_fresh (covered_flush h hflush) hfresh

theorem reads_run (h : s.Reads text) (hrun : more.foldlM step s = .ok s') : s'.Reads (text ++ more) := by
  induction more generalizing s text with
  | nil =>
    obtain rfl := Except.ok.inj hrun
    rwa [List.append_nil]
  | cons c more ih =>
    rw [List.foldlM_cons] at hrun
    obtain ⟨next, hstep, hrun⟩ := Except.bind_eq_ok_iff.1 hrun
    have hmore := ih (reads_step h hstep) hrun
    rwa [List.append_assoc] at hmore

end Scanner

theorem tokenize_covered {text : List Char} {ts : List Token} (h : tokenize text = .ok ts) :
    Covered ts [] text := by
  obtain ⟨s, hrun, hend⟩ := Except.bind_eq_ok_iff.1 h
  obtain ⟨tokens, hflush, rfl⟩ := Except.map_eq_ok_iff.1 hend
  exact Scanner.covered_flush (Scanner.reads_run Scanner.reads_start hrun) hflush

/-- A text with a separator in it is read as the text before it, the separator and the text after it,
each by itself; and the tokens of a text spell it but for its blanks, and zeros before numbers. -/
theorem tokenize_separated :
    (∀ (c : Char) (text rest : List Char), c ∈ Scanner.separators →
      tokenize (text ++ c :: rest) = do
        let ts ← tokenize text
        let us ← tokenize rest
        return ts ++ separatorTokens c ++ us) ∧
    ∀ text ts, tokenize text = .ok ts →
      ∃ parts, List.Forall₂ Token.Spells ts parts ∧ parts.flatten = text.filter (· ∉ blanks) := by
  refine ⟨fun c text rest hc => Scanner.scan_separated hc .start text rest, fun text ts h => ?_⟩
  obtain ⟨parts, hparts, hcovered⟩ := tokenize_covered h
  rw [List.append_nil] at hcovered
  exact ⟨parts, hparts, hcovered⟩

/-- The tab ends a number, of which two zeros are not kept. -/
theorem tokenize_separated_count :
    let text := "(00701".toList
    let rest := "of pre-*)\n".toList
    tokenize text = .ok [.leftParen, .number 701] ∧
      tokenize rest = .ok [.of, .wildcard "pre-*", .rightParen] ∧
      tokenize (text ++ '\t' :: rest) = .ok [.leftParen, .number 701, .of, .wildcard "pre-*", .rightParen] ∧
      ∃ parts, List.Forall₂ Token.Spells [.leftParen, .number 701, .of, .wildcard "pre-*", .rightParen] parts ∧
        parts.flatten = "(00701ofpre-*)".toList := by
  intro text rest
  have htext : tokenize text = .ok [.leftParen, .number 701] := rfl
  have hrest : tokenize rest = .ok [.of, .wildcard "pre-*", .rightParen] := rfl
  obtain ⟨hseparated, hspells⟩ := tokenize_separated
  have hboth : tokenize (text ++ '\t' :: rest) =
      .ok [.leftParen, .number 701, .of, .wildcard "pre-*", .rightParen] := by
    rw [hseparated '\t' text rest (by decide), htext, hrest]
    rfl
  exact ⟨htext, hrest, hboth, hspells _ _ hboth⟩

end EventRules.Condition
