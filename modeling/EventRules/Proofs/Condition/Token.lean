import EventRules.Condition.Token
import EventRules.Proofs.FirstFault
import EventRules.Proofs.Text.Digits
import Mathlib.Data.Bool.AllAny
import Mathlib.Data.List.Chain

/-!
# Tokens as text

A text of tokens is `Spaced` if blanks stand between its tokens, in any number, and at least one where
two words or two numbers would run into each other. It is read as the tokens that it is written from
(`tokenize_spaced`).

`Scanner.scan` reads from any state on. A token is read by itself: what has been read before it stays as
it is, and what follows only has to end it (`Scanner.scan_of_ends`).
-/

namespace EventRules.Condition

/-! ### How tokens are written -/

def keywords : List String :=
  ["and", "or", "not", "of", "them", "all"]

/-- The name of a detection as a condition can refer to it. -/
structure IsName (name : String) : Prop where
  first : ∃ c ∈ name.toList.head?, c.isAlpha ∨ c = '_'
  rest : ∀ c ∈ name.toList.tail, Text.isAlphanumeric c ∨ c = '_' ∨ c = '-'
  free : name ∉ keywords

/-- A pattern with a star, which may come first. -/
structure IsGlob (pattern : String) : Prop where
  first : ∃ c ∈ pattern.toList.head?, c.isAlpha ∨ c = '_' ∨ c = '*'
  rest : ∀ c ∈ pattern.toList.tail, Text.isAlphanumeric c ∨ c = '_' ∨ c = '-' ∨ c = '*'
  star : '*' ∈ pattern.toList

namespace Token

/-- The token is read from its spelling. -/
def Proper : Token → Prop
  | identifier name => IsName name
  | wildcard pattern => IsGlob pattern
  | _ => True

def spelling : Token → List Char
  | identifier name => name.toList
  | and => "and".toList
  | or => "or".toList
  | not => "not".toList
  | leftParen => ['(']
  | rightParen => [')']
  | of => "of".toList
  | them => "them".toList
  | all => "all".toList
  | number count => Nat.toDigits 10 count.toNat
  | wildcard pattern => pattern.toList

/-- What kind of characters a token is made of. -/
inductive Shape where
  | parenthesis
  | digits
  | word
  deriving DecidableEq

def shape : Token → Shape
  | leftParen | rightParen => .parenthesis
  | number _ => .digits
  | _ => .word

/-- Without a blank between them the second token would go on where the first one ends. -/
def RunsInto (t u : Token) : Prop :=
  match t.shape, u.shape with
  | .parenthesis, _ | _, .parenthesis | .digits, .word => False
  | _, _ => True

instance (t u : Token) : Decidable (t.RunsInto u) := by
  unfold RunsInto
  exact match t.shape, u.shape with
    | .parenthesis, _ | .digits, .parenthesis | .word, .parenthesis | .digits, .word =>
      inferInstanceAs (Decidable False)
    | .digits, .digits | .word, .digits | .word, .word => inferInstanceAs (Decidable True)

end Token

def blanks : List Char :=
  [' ', '\t', '\n', '\r']

/-- A text is written from tokens with blanks around them. -/
inductive Spaced : List Token → List Char → Prop
  | nil {gap : List Char} (hgap : gap ⊆ blanks) : Spaced [] gap
  | cons {t : Token} {ts : List Token} {gap rest : List Char} (hgap : gap ⊆ blanks)
    (hrest : Spaced ts rest)
    (hapart : ∀ u ∈ ts.head?, t.RunsInto u → ∃ c ∈ rest.head?, c ∈ blanks) :
    Spaced (t :: ts) (gap ++ t.spelling ++ rest)

/-- It is enough to have a gap before each token, which is not empty where tokens would run into each
other. -/
theorem spaced_of_gaps {parts : List (List Char × Token)} (hgaps : ∀ p ∈ parts, p.1 ⊆ blanks)
    (hapart : parts.IsChain fun p q => p.2.RunsInto q.2 → q.1 ≠ []) :
    Spaced (parts.map (·.2)) (parts.flatMap fun p => p.1 ++ p.2.spelling) := by
  induction parts with
  | nil => exact .nil (by simp)
  | cons p parts ih =>
    have hrest := ih (fun q hq => hgaps q (by simp [hq])) hapart.of_cons
    refine .cons (hgaps p (by simp)) hrest fun u hu hrun => ?_
    cases parts with
    | nil => simp at hu
    | cons q parts =>
      obtain rfl : q.2 = u := by simpa using hu
      have hne : q.1 ≠ [] := (List.isChain_cons_cons.1 hapart).1 hrun
      obtain ⟨c, gap, hgap⟩ := List.exists_cons_of_ne_nil hne
      exact ⟨c, by simp [hgap], hgaps q (by simp) (by simp [hgap])⟩

/-! ### Characters -/

namespace Scanner

/-- What may stand next to a word without being a part of it. -/
def separators : List Char :=
  blanks ++ ['(', ')']

theorem not_part_of_separator : ∀ c ∈ separators,
    isWordStart c = false ∧ isWordPart c = false ∧ c.isDigit = false :=
  List.all_iff_forall_prop.1 (by decide)

theorem isBlank_iff {c : Char} : isBlank c ↔ c ∈ blanks := by
  simp [isBlank, blanks, or_assoc]

theorem not_isDigit_of_isWordStart {c : Char} (h : isWordStart c) : c.isDigit = false := by
  rw [Bool.eq_false_iff]
  intro hd
  have hdigit : c.toNat ≤ 57 := (Char.isDigit_iff_toNat.1 hd).2
  have hstart : (c.isAlpha = true ∨ c = '_') ∨ c = '*' := by simpa [isWordStart] using h
  rcases hstart with (halpha | rfl) | rfl
  · rcases Bool.or_eq_true_iff.1 halpha with hupper | hlower
    · have hle : 65 ≤ c.toNat := (of_decide_eq_true hupper).1
      omega
    · have hle : 97 ≤ c.toNat := of_decide_eq_true (Bool.and_eq_true_iff.1 hlower).1
      omega
  · exact absurd hd (by decide)
  · exact absurd hd (by decide)

theorem not_mem_separators {c : Char} (h : isWordStart c ∨ isWordPart c ∨ c.isDigit) : c ∉ separators := by
  intro hmem
  obtain ⟨hstart, hpart, hdigit⟩ := not_part_of_separator c hmem
  simp [hstart, hpart, hdigit] at h

variable {tokens : List Token} {text rest : List Char} {c : Char}

theorem fresh_of_isBlank (h : isBlank c) : fresh tokens c = .ok ⟨tokens, .nothing⟩ := by
  rw [fresh, if_pos h]

theorem fresh_of_not_mem_separators (h : c ∉ separators) : fresh tokens c =
    if c.isDigit then .ok ⟨tokens, .digits [c]⟩
    else if isWordStart c then .ok ⟨tokens, .word [c]⟩ else .error (.unexpectedCharacter c) := by
  simp only [separators, List.mem_append, List.mem_cons, List.not_mem_nil, or_false, not_or] at h
  simp [fresh, isBlank_iff, h]

/-! ### Reading from a state on -/

/-- The tokens of what has been read and of the rest of a text. -/
def scan (s : Scanner) (text : List Char) : Except ScanFault (List Token) :=
  text.foldlM step s >>= fun s => s.flush.map List.reverse

theorem scan_cons_of_ok {s s' : Scanner} (h : s.step c = .ok s') :
    s.scan (c :: text) = s'.scan text := by
  rw [scan, List.foldlM_cons, h]; rfl

theorem scan_cons_of_fresh {s : Scanner} (h : fresh tokens c = .ok s) :
    scan ⟨tokens, .nothing⟩ (c :: text) = s.scan text :=
  scan_cons_of_ok h

/-- A token ends where a text ends, or a character comes that does not belong to it. Then it does not
matter any more how it was read. -/
theorem scan_of_ends {s : Scanner} (hflush : s.flush = .ok tokens)
    (hends : ∀ c ∈ rest.head?, extend? c s.reading = none) :
    s.scan rest = scan ⟨tokens, .nothing⟩ rest := by
  cases rest with
  | nil =>
    show s.flush.map List.reverse = _
    rw [hflush]; rfl
  | cons c rest =>
    have hstep : s.step c = step ⟨tokens, .nothing⟩ c := by
      rw [step, hends c rfl, hflush]; rfl
    rw [scan, List.foldlM_cons, hstep, ← List.foldlM_cons]; rfl

theorem scan_gap (tokens : List Token) {gap : List Char} (h : gap ⊆ blanks) :
    scan ⟨tokens, .nothing⟩ (gap ++ rest) = scan ⟨tokens, .nothing⟩ rest := by
  induction gap with
  | nil => rfl
  | cons c gap ih =>
    obtain ⟨hc, hgap⟩ := List.cons_subset.1 h
    rw [List.cons_append, scan_cons_of_fresh (fresh_of_isBlank (isBlank_iff.2 hc))]
    exact ih hgap

theorem scan_parts (read : List Char) {parts : List Char} (h : ∀ c ∈ parts, isWordPart c) :
    scan ⟨tokens, .word read⟩ (parts ++ rest) = scan ⟨tokens, .word (parts.reverse ++ read)⟩ rest := by
  induction parts generalizing read with
  | nil => rfl
  | cons c parts ih =>
    have hstep : step ⟨tokens, .word read⟩ c = .ok ⟨tokens, .word (c :: read)⟩ := by
      rw [step, extend?, if_pos (h c (by simp))]
    have hrest := ih (c :: read) fun d hd => h d (by simp [hd])
    rw [List.cons_append, scan_cons_of_ok hstep, hrest]
    simp

theorem scan_digits (read : List Char) {digits : List Char} (h : ∀ c ∈ digits, c.isDigit) :
    scan ⟨tokens, .digits read⟩ (digits ++ rest) =
      scan ⟨tokens, .digits (digits.reverse ++ read)⟩ rest := by
  induction digits generalizing read with
  | nil => rfl
  | cons c digits ih =>
    have hstep : step ⟨tokens, .digits read⟩ c = .ok ⟨tokens, .digits (c :: read)⟩ := by
      rw [step, extend?, if_pos (h c (by simp))]
    have hrest := ih (c :: read) fun d hd => h d (by simp [hd])
    rw [List.cons_append, scan_cons_of_ok hstep, hrest]
    simp

/-- A word that something ends is read as the token that it is. -/
theorem scan_word (tokens : List Token) {word : List Char} (hfirst : ∃ c ∈ word.head?, isWordStart c)
    (hparts : ∀ c ∈ word.tail, isWordPart c) (hends : ∀ c ∈ rest.head?, isWordPart c = false) :
    scan ⟨tokens, .nothing⟩ (word ++ rest) = scan ⟨wordToken word :: tokens, .nothing⟩ rest := by
  obtain ⟨c, hc, hstart⟩ := hfirst
  obtain ⟨parts, rfl⟩ := List.head?_eq_some_iff.1 hc
  have hfresh : fresh tokens c = .ok ⟨tokens, .word [c]⟩ := by
    rw [fresh_of_not_mem_separators (not_mem_separators (.inl hstart)),
      not_isDigit_of_isWordStart hstart, hstart]
    rfl
  rw [List.cons_append, scan_cons_of_fresh hfresh]
  refine (scan_parts [c] hparts).trans (scan_of_ends ?_ fun d hd => ?_)
  · simp [flush]
  · simp [extend?, hends d hd]

theorem scan_number (tokens : List Token) {digits : List Char} {t : Token} (hdigits : ∀ c ∈ digits, c.isDigit)
    (hne : digits ≠ []) (ht : numberToken digits = .ok t)
    (hends : ∀ c ∈ rest.head?, c.isDigit = false) :
    scan ⟨tokens, .nothing⟩ (digits ++ rest) = scan ⟨t :: tokens, .nothing⟩ rest := by
  obtain ⟨c, more, rfl⟩ := List.exists_cons_of_ne_nil hne
  have hc := hdigits c (by simp)
  have hfresh : fresh tokens c = .ok ⟨tokens, .digits [c]⟩ := by
    rw [fresh_of_not_mem_separators (not_mem_separators (.inr (.inr hc))), hc]
    rfl
  have hmore : ∀ d ∈ more, d.isDigit := fun d hd => hdigits d (by simp [hd])
  rw [List.cons_append, scan_cons_of_fresh hfresh]
  refine (scan_digits [c] hmore).trans (scan_of_ends ?_ fun d hd => ?_)
  · simp [flush, ht, Except.map]
  · simp [extend?, hends d hd]

end Scanner

/-! ### Tokens are read from their spelling -/

open Scanner

theorem IsName.star_not_mem {name : String} (h : IsName name) : '*' ∉ name.toList := by
  obtain ⟨c, hc, hfirst⟩ := h.first
  obtain ⟨rest, hname⟩ := List.head?_eq_some_iff.1 hc
  rw [hname]
  intro hmem
  rcases List.mem_cons.1 hmem with rfl | hmem
  · exact absurd hfirst (by decide)
  · exact absurd (h.rest '*' (by rw [hname]; exact hmem)) (by decide)

theorem wordToken_of_isName {name : String} (h : IsName name) :
    wordToken name.toList = .identifier name := by
  have hfree := h.free
  have hstar := h.star_not_mem
  unfold wordToken
  rw [String.ofList_toList]
  split
  case h_7 => simp [hstar]
  all_goals exact absurd hfree (by decide)

theorem wordToken_of_isGlob {pattern : String} (h : IsGlob pattern) :
    wordToken pattern.toList = .wildcard pattern := by
  have hstar := h.star
  unfold wordToken
  rw [String.ofList_toList]
  split
  case h_7 => simp [hstar]
  all_goals exact absurd hstar (by decide)

theorem numberToken_toDigits (n : UInt32) :
    numberToken (Nat.toDigits 10 n.toNat) = .ok (.number n) := by
  have hle : n.toNat ≤ UInt32.size - 1 := Nat.le_sub_one_of_lt n.toNat_lt_size
  rw [numberToken, Digits.readAtMost?_toDigits hle]
  simp

namespace Token

variable {t u : Token}

/-- A token that is a word is spelled as that word. -/
theorem Proper.word (ht : t.Proper) (hshape : t.shape = .word) :
    (∃ c ∈ t.spelling.head?, isWordStart c) ∧ (∀ c ∈ t.spelling.tail, isWordPart c) ∧
      wordToken t.spelling = t := by
  cases t with
  | identifier name =>
    refine ⟨?_, fun c hc => ?_, wordToken_of_isName ht⟩
    · obtain ⟨c, hc, hfirst⟩ := ht.first
      refine ⟨c, hc, ?_⟩
      simp only [isWordStart, Bool.or_eq_true, beq_iff_eq]
      tauto
    · have hpart := ht.rest c hc
      simp only [isWordPart, Bool.or_eq_true, beq_iff_eq]
      tauto
  | wildcard pattern =>
    refine ⟨?_, fun c hc => ?_, wordToken_of_isGlob ht⟩
    · obtain ⟨c, hc, hfirst⟩ := ht.first
      refine ⟨c, hc, ?_⟩
      simp only [isWordStart, Bool.or_eq_true, beq_iff_eq]
      tauto
    · have hpart := ht.rest c hc
      simp only [isWordPart, Bool.or_eq_true, beq_iff_eq]
      tauto
  | leftParen | rightParen | number n => cases hshape
  | _ => exact ⟨⟨_, rfl, by decide⟩, List.all_eq_true.1 (by decide), by decide⟩

namespace Shape

/-- A token of the shape goes on with the character. -/
def takes : Shape → Char → Bool
  | parenthesis, _ => false
  | digits, c => c.isDigit
  | word, c => isWordPart c

/-- A token of the shape begins with the character. -/
def begins : Shape → Char → Prop
  | parenthesis, c => c ∈ ['(', ')']
  | digits, c => c.isDigit
  | word, c => isWordStart c

theorem not_takes_of_mem_separators {c : Char} (hc : c ∈ separators) (shape : Shape) :
    shape.takes c = false := by
  obtain ⟨-, hpart, hdigit⟩ := not_part_of_separator c hc
  cases shape with
  | parenthesis => rfl
  | digits => exact hdigit
  | word => exact hpart

end Shape

theorem Proper.begins (ht : t.Proper) : ∃ c ∈ t.spelling.head?, t.shape.begins c := by
  cases hshape : t.shape with
  | word => exact (ht.word hshape).1
  | parenthesis =>
    cases t with
    | leftParen => exact ⟨'(', rfl, by simp [Shape.begins]⟩
    | rightParen => exact ⟨')', rfl, by simp [Shape.begins]⟩
    | _ => cases hshape
  | digits =>
    cases t with
    | number n =>
      have hne : Nat.toDigits 10 n.toNat ≠ [] := Nat.toDigits_ne_nil
      obtain ⟨c, digits, hdigits⟩ := List.exists_cons_of_ne_nil hne
      exact ⟨c, by simp [spelling, hdigits], Digits.isDigit_of_mem_toDigits c (hdigits ▸ List.mem_cons_self)⟩
    | _ => cases hshape

/-- What does not run into a token begins with a character that ends it. -/
theorem not_takes_of_begins {c : Char} (hapart : ¬ t.RunsInto u) (hc : u.shape.begins c) :
    t.shape.takes c = false := by
  unfold RunsInto at hapart
  cases ht : t.shape with
  | parenthesis => rfl
  | digits =>
    cases hu : u.shape with
    | parenthesis =>
      rw [hu] at hc
      exact Shape.not_takes_of_mem_separators (List.mem_append_right blanks hc) _
    | digits => simp [ht, hu] at hapart
    | word =>
      rw [hu] at hc
      exact not_isDigit_of_isWordStart hc
  | word =>
    cases hu : u.shape with
    | parenthesis =>
      rw [hu] at hc
      exact Shape.not_takes_of_mem_separators (List.mem_append_right blanks hc) _
    | digits | word => simp [ht, hu] at hapart

/-- A token that something ends is read from its spelling. -/
theorem Proper.scan (ht : t.Proper) (tokens : List Token) {rest : List Char}
    (hends : ∀ c ∈ rest.head?, t.shape.takes c = false) :
    scan ⟨tokens, .nothing⟩ (t.spelling ++ rest) = Scanner.scan ⟨t :: tokens, .nothing⟩ rest := by
  cases hshape : t.shape with
  | word =>
    obtain ⟨hfirst, hparts, htoken⟩ := ht.word hshape
    rw [hshape] at hends
    have hword := scan_word tokens hfirst hparts hends
    rwa [htoken] at hword
  | parenthesis =>
    cases t with
    | leftParen => rfl
    | rightParen => rfl
    | _ => cases hshape
  | digits =>
    cases t with
    | number n =>
      exact scan_number tokens Digits.isDigit_of_mem_toDigits Nat.toDigits_ne_nil (numberToken_toDigits n) hends
    | _ => cases hshape

end Token

/-- What follows a token in a text of tokens ends it. -/
theorem Spaced.not_takes {t : Token} {ts : List Token} {rest : List Char} (h : Spaced ts rest)
    (hts : ∀ u ∈ ts, u.Proper)
    (hapart : ∀ u ∈ ts.head?, t.RunsInto u → ∃ c ∈ rest.head?, c ∈ blanks) :
    ∀ c ∈ rest.head?, t.shape.takes c = false := by
  intro c hc
  by_cases hblank : c ∈ blanks
  · exact Token.Shape.not_takes_of_mem_separators (List.mem_append_left _ hblank) _
  -- Only a token can stand there, and then it does not run into the one before.
  cases h with
  | nil hgap => exact absurd (hgap (List.mem_of_head? hc)) hblank
  | @cons u us gap more hgap _ _ =>
    have hrun : ¬ t.RunsInto u := by
      intro hrun
      obtain ⟨d, hd, hd'⟩ := hapart u rfl hrun
      obtain rfl := Option.some.inj (hc.symm.trans hd)
      exact hblank hd'
    cases gap with
    | cons d gap =>
      obtain rfl : d = c := by simpa using hc
      exact absurd (hgap (by simp)) hblank
    | nil =>
      obtain ⟨d, hd, hbegins⟩ := (hts u (by simp)).begins
      obtain ⟨spelled, hspelled⟩ := List.head?_eq_some_iff.1 hd
      obtain rfl : d = c := by simpa [hspelled] using hc
      exact Token.not_takes_of_begins hrun hbegins

theorem Spaced.scan {ts : List Token} {text : List Char} (h : Spaced ts text)
    (hts : ∀ t ∈ ts, t.Proper) (tokens : List Token) :
    Scanner.scan ⟨tokens, .nothing⟩ text = .ok (tokens.reverse ++ ts) := by
  induction h generalizing tokens with
  | @nil gap hgap =>
    have hread : Scanner.scan ⟨tokens, .nothing⟩ (gap ++ []) = .ok tokens.reverse :=
      scan_gap tokens hgap
    rwa [List.append_nil] at hread ⊢
  | @cons t ts gap rest hgap hrest hapart ih =>
    have htail : ∀ u ∈ ts, u.Proper := fun u hu => hts u (by simp [hu])
    have hends := hrest.not_takes htail hapart
    have htoken := (hts t (by simp)).scan tokens hends
    rw [List.append_assoc, scan_gap tokens hgap, htoken, ih htail]
    simp

/-- A text of tokens is read as the tokens that it is written from. -/
theorem tokenize_spaced {ts : List Token} {text : List Char} (h : Spaced ts text)
    (hts : ∀ t ∈ ts, t.Proper) : tokenize text = .ok ts :=
  h.scan hts []

end EventRules.Condition
