import EventRules.Json.Record
import EventRules.Json.Text
import EventRules.Proofs.Text.Digits
import Mathlib.Data.List.TakeWhile

/-!
# Written JSON text is read back

A string, an integer and an object of such values are read as what they were written for
(`Tree.read?_renderObject`). A text that ends with a mark or a quote is scanned to the same tokens
whatever stands before it (`Scans`), so the tokens of a text follow from those of its parts; a number or
a word needs the mark behind it (`Token.Spells`).
-/

namespace EventRules.Json

/-! ### Folds -/

section
variable {α σ : Type} {step : σ → α → Option σ} {s s' : σ}

theorem foldlM_cons_of_some {a : α} (h : step s a = some s') (rest : List α) :
    (a :: rest).foldlM step s = rest.foldlM step s' := by
  rw [List.foldlM_cons, h]; rfl

theorem foldlM_append_of_some {front : List α} (h : front.foldlM step s = some s') (rest : List α) :
    (front ++ rest).foldlM step s = rest.foldlM step s' := by
  rw [List.foldlM_append, h]; rfl

end

/-! ### Strings -/

/-- The piece stands for the character, whatever follows. -/
def Piece.Denotes (piece : Piece) (c : Char) : Prop :=
  ∀ rest, Piece.decode? (piece :: rest) = (Piece.decode? rest).map (c :: ·)

theorem denotes_char (c : Char) : (Piece.char c).Denotes c :=
  fun _ => rfl

theorem denotes_unit {c : Char} (hc : c.toNat < 0x20) : (Piece.unit c.toNat).Denotes c := by
  intro rest
  have hhigh : Piece.isHighSurrogate c.toNat = false := by simp [Piece.isHighSurrogate]; omega
  have hlow : Piece.isLowSurrogate c.toNat = false := by simp [Piece.isLowSurrogate]; omega
  have hchar : Char.ofNat c.toNat = c := Char.ofNat_toNat c
  match rest with
  | [] | .char _ :: _ | .unit _ :: _ => simp [Piece.decode?, hhigh, hlow, hchar]

/-- Leading zeros do not count. -/
theorem read?_zero {base n : Nat} (hbase : 0 < base) {digits : List Char}
    (h : Digits.continue? base 0 digits = some n) : Digits.read? base ('0' :: digits) = some n := by
  have hzero : Digits.valueOf? base '0' = some 0 := if_pos hbase
  rw [Digits.read?, Digits.continue?, hzero]
  exact h

theorem continue?_zero {base n : Nat} (hbase : 0 < base) {digits : List Char}
    (h : Digits.continue? base 0 digits = some n) : Digits.continue? base 0 ('0' :: digits) = some n :=
  read?_zero hbase h

/-- Four digits are the code of an escape. -/
theorem scan_code {digits : List Char} {code : Nat} (hlength : digits.length = 4)
    (h : Digits.read? 16 digits = some code) (tokens : List Token) (pieces : List Piece) :
    ('\\' :: 'u' :: digits).foldlM Scanner.step? ⟨tokens, .string pieces⟩ =
      some ⟨tokens, .string (.unit code :: pieces)⟩ := by
  have hdigits := Digits.isSome_valueOf?_of_read? h
  match digits, hlength with
  | [a, b, c, d], _ =>
    have hsome : ∀ e ∈ [a, b, c, d], (Digits.valueOf? 16 e).isNone = false := fun e he => by
      rw [← Option.not_isSome, hdigits e he]; rfl
    have ha := hsome a (by simp)
    have hb := hsome b (by simp)
    have hc := hsome c (by simp)
    have hd := hsome d (by simp)
    simp [List.foldlM_cons, Scanner.step?, Scanner.code?, ha, hb, hc, hd, h]

theorem scan_escape (c : Char) : ∃ piece : Piece, piece.Denotes c ∧ ∀ tokens pieces,
    (escape c).foldlM Scanner.step? ⟨tokens, .string pieces⟩ =
      some ⟨tokens, .string (piece :: pieces)⟩ := by
  have hdigits : Digits.continue? 16 0 (Nat.toDigits 16 c.toNat) = some c.toNat :=
    Digits.continue?_toDigits (by decide) (by decide) _
  unfold escape
  split
  case h_8 hquote hslash _ _ _ _ _ =>
    split_ifs with hsmall hcontrol
    · have hlength : (Nat.toDigits 16 c.toNat).length = 1 := by
        rw [Nat.toDigits_of_lt_base hsmall]; rfl
      refine ⟨.unit c.toNat, denotes_unit (by omega), scan_code (by simp [hlength]) ?_⟩
      exact read?_zero (by decide) (continue?_zero (by decide) (continue?_zero (by decide) hdigits))
    · have hlength : (Nat.toDigits 16 c.toNat).length = 2 := by
        rw [Nat.toDigits_eq_if (by decide), if_neg hsmall, Nat.toDigits_of_lt_base (by omega)]; rfl
      refine ⟨.unit c.toNat, denotes_unit hcontrol, scan_code (by simp [hlength]) ?_⟩
      exact read?_zero (by decide) (continue?_zero (by decide) hdigits)
    · refine ⟨.char c, denotes_char c, fun tokens pieces => ?_⟩
      have hquote' : (c == '"') = false := by simpa using hquote
      have hslash' : (c == '\\') = false := by simpa using hslash
      simp [List.foldlM_cons, Scanner.step?, hquote', hslash', hcontrol]
  all_goals exact ⟨.char _, denotes_char _, fun _ _ => rfl⟩

theorem scan_escapes (text : List Char) : ∃ pieces, Piece.decode? pieces = some text ∧
    ∀ tokens read, (text.flatMap escape).foldlM Scanner.step? ⟨tokens, .string read⟩ =
      some ⟨tokens, .string (pieces.reverse ++ read)⟩ := by
  induction text with
  | nil => exact ⟨[], rfl, fun _ _ => rfl⟩
  | cons c text ih =>
    obtain ⟨piece, hdenotes, hpiece⟩ := scan_escape c
    obtain ⟨pieces, hdecode, hpieces⟩ := ih
    refine ⟨piece :: pieces, by rw [hdenotes, hdecode]; rfl, fun tokens read => ?_⟩
    rw [List.flatMap_cons, foldlM_append_of_some (hpiece tokens read), hpieces]
    simp

/-! ### Tokens -/

/-- Whatever stands before a text, it is scanned to these tokens and ends with the last of them. -/
def Scans (text : List Char) (tokens : List Token) : Prop :=
  ∀ before, text.foldlM Scanner.step? ⟨before, .nothing⟩ = some ⟨tokens.reverse ++ before, .nothing⟩

theorem Scans.append {text text' : List Char} {tokens tokens' : List Token} (h : Scans text tokens)
    (h' : Scans text' tokens') : Scans (text ++ text') (tokens ++ tokens') := by
  intro before
  rw [foldlM_append_of_some (h before), h', List.reverse_append, List.append_assoc]

theorem Scans.tokens? {text : List Char} {tokens : List Token} (h : Scans text tokens) :
    tokens? text = some tokens := by
  rw [Json.tokens?, Scanner.start, h []]
  simp [Scanner.finish?]

theorem scans_mark {c : Char} {m : Token} (h : Scanner.mark? c = some m) : Scans [c] [m] := by
  intro before
  simp [List.foldlM_cons, Scanner.step?, Scanner.fresh?, h]

/-- A string is one token, which denotes it. -/
theorem scans_renderString (text : List Char) : ∃ pieces, Piece.decode? pieces = some text ∧
    Scans (renderString text) [.string pieces] := by
  obtain ⟨pieces, hdecode, hpieces⟩ := scan_escapes text
  refine ⟨pieces, hdecode, fun before => ?_⟩
  have hopen : Scanner.step? ⟨before, .nothing⟩ '"' = some ⟨before, .string []⟩ := rfl
  rw [renderString, List.cons_append, foldlM_cons_of_some hopen, foldlM_append_of_some (hpieces before [])]
  simp [List.foldlM_cons, Scanner.step?]

/-- With a mark behind it the text is scanned to the token, and the mark to another one. -/
def Token.Spells (token : Token) (text : List Char) : Prop :=
  ∀ c m, Scanner.mark? c = some m → Scans (text ++ [c]) [token, m]

theorem Token.Spells.of_scans {token : Token} {text : List Char} (h : Scans text [token]) :
    token.Spells text :=
  fun _ _ hm => h.append (scans_mark hm)

/-- Marks are parts of no word and no number. -/
theorem apart_of_mark? {c : Char} {m : Token} (h : Scanner.mark? c = some m) :
    c.isLower = false ∧ Scanner.isNumberPart c = false := by
  unfold Scanner.mark? at h
  split at h
  case h_7 => simp at h
  all_goals exact ⟨rfl, rfl⟩

theorem scan_number {digits : List Char} (h : ∀ c ∈ digits, Scanner.isNumberPart c)
    (tokens : List Token) (read : List Char) :
    digits.foldlM Scanner.step? ⟨tokens, .number read⟩ =
      some ⟨tokens, .number (digits.reverse ++ read)⟩ := by
  induction digits generalizing read with
  | nil => rfl
  | cons c digits ih =>
    have hc : Scanner.step? ⟨tokens, .number read⟩ c = some ⟨tokens, .number (c :: read)⟩ :=
      if_pos (h c (by simp))
    rw [foldlM_cons_of_some hc, ih fun d hd => h d (by simp [hd])]
    simp

theorem fresh?_number {c : Char} (hc : c.isDigit ∨ c = '-') (before : List Token) :
    Scanner.fresh? before c = some ⟨before, .number [c]⟩ := by
  have hpart : Scanner.isNumberPart c = true := by
    rcases hc with hdigit | rfl
    · simp [Scanner.isNumberPart, hdigit]
    · rfl
  have hmark : Scanner.mark? c = none := by
    refine Option.eq_none_iff_forall_not_mem.2 fun m hm => ?_
    rw [(apart_of_mark? hm).2] at hpart
    exact absurd hpart (by decide)
  have hspace : Scanner.isSpace c = false := by
    refine Bool.eq_false_iff.2 fun hs => ?_
    simp only [Scanner.isSpace, Bool.or_eq_true, beq_iff_eq] at hs
    rcases hs with ((rfl | rfl) | rfl) | rfl <;> exact absurd hpart (by decide)
  have hquote : (c == '"') = false := by
    refine beq_false_of_ne fun h => ?_
    subst h
    exact absurd hpart (by decide)
  have hstart : (c.isDigit || c == '-') = true := by
    rcases hc with hdigit | rfl
    · simp [hdigit]
    · rfl
  simp [Scanner.fresh?, hmark, hspace, hquote, hstart]

theorem number_spells {c : Char} {rest : List Char} (hc : c.isDigit ∨ c = '-')
    (hrest : ∀ d ∈ rest, Scanner.isNumberPart d) : (Token.number (c :: rest)).Spells (c :: rest) := by
  intro d m hm before
  have hstart : Scanner.step? ⟨before, .nothing⟩ c = some ⟨before, .number [c]⟩ := fresh?_number hc before
  have hend : Scanner.step? ⟨before, .number (rest.reverse ++ [c])⟩ d =
      some ⟨m :: .number (c :: rest) :: before, .nothing⟩ := by
    simp [Scanner.step?, (apart_of_mark? hm).2, Scanner.fresh?, hm]
  rw [List.cons_append, foldlM_cons_of_some hstart, foldlM_append_of_some (scan_number hrest before [c]),
    foldlM_cons_of_some hend]
  rfl

theorem null_spells : (Token.word "null".toList).Spells "null".toList := by
  intro c m hm before
  have hend : Scanner.step? ⟨before, .word "llun".toList⟩ c =
      some ⟨m :: .word "null".toList :: before, .nothing⟩ := by
    simp [Scanner.step?, (apart_of_mark? hm).1, Scanner.fresh?, hm]
  have hword : "null".toList.foldlM Scanner.step? ⟨before, .nothing⟩ =
      some ⟨before, .word "llun".toList⟩ := rfl
  rw [foldlM_append_of_some hword, foldlM_cons_of_some hend]
  rfl

/-! ### Numbers -/

theorem isNumberPart_of_isDigit {c : Char} (h : c.isDigit) : Scanner.isNumberPart c := by
  simp [Scanner.isNumberPart, h]

/-- The text of an integer, taken apart. -/
def NumberText.ofInt (n : Int) : NumberText :=
  ⟨decide (n < 0), Nat.toDigits 10 n.natAbs, [], 0, true⟩

theorem renderInt_eq (n : Int) : renderInt n =
    (if n < 0 then ['-'] else []) ++ Nat.toDigits 10 n.natAbs := by
  unfold renderInt Decimal.Layout.integer
  split_ifs <;> rfl

theorem renderInt_spells (n : Int) : (Token.number (renderInt n)).Spells (renderInt n) := by
  obtain ⟨d, digits, hdigits⟩ := List.exists_cons_of_ne_nil (Nat.toDigits_ne_nil (b := 10) (n := n.natAbs))
  have hall : ∀ c ∈ d :: digits, c.isDigit := hdigits ▸ Digits.isDigit_of_mem_toDigits
  have hparts : ∀ c ∈ d :: digits, Scanner.isNumberPart c := fun c hc => isNumberPart_of_isDigit (hall c hc)
  rw [renderInt_eq, hdigits]
  split_ifs
  · exact number_spells (.inr rfl) hparts
  · exact number_spells (.inl (hall d (by simp))) fun c hc => hparts c (by simp [hc])

/-- The digits of a number have no leading zero. -/
theorem isWhole_toDigits (n : Nat) : NumberText.isWhole (Nat.toDigits 10 n) = true := by
  cases h : Nat.toDigits 10 n with
  | nil => exact absurd h Nat.toDigits_ne_nil
  | cons c rest =>
    by_cases hc : c = '0'
    · have hzero := Digits.toDigits_of_head?_zero (n := n) (by rw [h, hc]; rfl)
      rw [← h, hzero]; rfl
    · unfold NumberText.isWhole
      split <;> simp_all

theorem spanDigits_toDigits (n : Nat) :
    Decimal.spanDigits (Nat.toDigits 10 n) = (Nat.toDigits 10 n, []) := by
  have hall : ∀ c ∈ Nat.toDigits 10 n, c.isDigit = true := Digits.isDigit_of_mem_toDigits
  rw [Decimal.spanDigits, List.takeWhile_eq_self_iff.2 hall, List.dropWhile_eq_nil_iff.2 hall]

theorem read?_renderInt (n : Int) : NumberText.read? (renderInt n) = some (.ofInt n) := by
  have hminus : ∀ rest, Nat.toDigits 10 n.natAbs ≠ '-' :: rest := fun rest h => by
    have hdigit := Digits.isDigit_of_mem_toDigits '-' (n := n.natAbs) (by rw [h]; simp)
    exact absurd hdigit (by decide)
  by_cases hn : n < 0
  · rw [renderInt_eq, if_pos hn, List.singleton_append]
    simp [NumberText.read?, spanDigits_toDigits, isWhole_toDigits, NumberText.readExponent?,
      NumberText.ofInt, hn]
  · rw [renderInt_eq, if_neg hn, List.nil_append]
    unfold NumberText.read?
    split
    next negative unsigned hsplit =>
      split at hsplit
      next rest h => exact absurd h (hminus rest)
      next =>
        obtain ⟨rfl, rfl⟩ := Prod.mk.inj hsplit
        simp [spanDigits_toDigits, isWhole_toDigits, NumberText.readExponent?, NumberText.ofInt, hn]

/-- An integer of 64 bits is kept exactly. -/
theorem value?_ofInt {n : Int} (hn : Digits.inInt64 n) : (NumberText.ofInt n).value? = some (.integer n) := by
  have hmax : n ≤ 9223372036854775807 := of_decide_eq_true (Bool.and_eq_true_iff.1 hn).2
  have hread : Digits.read? 10 (Nat.toDigits 10 n.natAbs) = some n.natAbs :=
    Digits.read?_toDigits (by decide) (by decide) _
  unfold NumberText.value? NumberText.ofInt
  simp only [hread]
  by_cases hneg : n < 0
  · have hvalue : -(n.natAbs : Int) = n := by omega
    have hpos : 0 < n.natAbs := by omega
    simp only [hneg, decide_true, if_true, hvalue, hpos, hn, Bool.and_self]
  · have hvalue : (n.natAbs : Int) = n := by omega
    have hsize : UInt64.size = 18446744073709551616 := rfl
    have hfits : n.natAbs < UInt64.size := by omega
    simp [hneg, hvalue, hfits]

/-! ### Objects -/

/-- The text is scanned to a token that is read as the tree. -/
def Tree.WrittenAs (t : Tree) (text : List Char) : Prop :=
  ∃ token : Token, token.Spells text ∧ ∀ frames, Builder.value? frames token = Builder.put frames t

theorem null_written : Tree.WrittenAs .null "null".toList :=
  ⟨_, null_spells, fun _ => rfl⟩

theorem textOf_eq {pieces : List Piece} {text : String} (h : Piece.decode? pieces = some text.toList) :
    Builder.textOf pieces = some text := by
  rw [Builder.textOf, h, Option.map_some, String.ofList_toList]

theorem string_written (text : String) :
    Tree.WrittenAs (.string (some text)) (renderString text.toList) := by
  obtain ⟨pieces, hdecode, hscans⟩ := scans_renderString text.toList
  refine ⟨.string pieces, .of_scans hscans, fun frames => ?_⟩
  rw [Builder.value?, textOf_eq hdecode]

theorem integer_written (n : Int) : Tree.WrittenAs (.number (.ofInt n)) (renderInt n) := by
  refine ⟨.number (renderInt n), renderInt_spells n, fun frames => ?_⟩
  rw [Builder.value?, read?_renderInt]
  rfl

/-- A member of an object with the text of its value. -/
structure Member where
  key : String
  value : Tree
  text : List Char

namespace Member

def written (m : Member) : List Char × List Char :=
  (m.key.toList, m.text)

def tree (m : Member) : Option String × Tree :=
  (some m.key, m.value)

/-- Where a key may come, a member with a mark behind it is read as it is. -/
theorem read {m : Member} (h : m.value.WrittenAs m.text) : ∃ key token,
    (∀ c mark, Scanner.mark? c = some mark →
      Scans (renderString m.key.toList ++ ':' :: m.text ++ [c]) [.string key, .colon, token, mark]) ∧
    ∀ before frames expected, expected = .key ∨ expected = .keyOrClose →
      [.string key, .colon, token].foldlM Builder.step? ⟨.object before :: frames, none, expected⟩ =
        some ⟨.object (m.tree :: before) :: frames, none, .separator⟩ := by
  obtain ⟨key, hdecode, hkey⟩ := scans_renderString m.key.toList
  obtain ⟨token, hspells, hvalue⟩ := h
  refine ⟨key, token, fun c mark hmark => ?_, fun before frames expected hexpected => ?_⟩
  · have hcolon : Scans [':'] [.colon] := scans_mark rfl
    simpa using (hkey.append hcolon).append (hspells c mark hmark)
  · have hstart : Builder.step? ⟨.object before :: frames, none, expected⟩ (.string key) =
        some ⟨.member before (some m.key) :: frames, none, .colon⟩ := by
      rcases hexpected with rfl | rfl <;> simp [Builder.step?, Builder.key?, textOf_eq hdecode]
    have hcolon : Builder.step? ⟨.member before (some m.key) :: frames, none, .colon⟩ .colon =
        some ⟨.member before (some m.key) :: frames, none, .value⟩ := rfl
    have hend : Builder.step? ⟨.member before (some m.key) :: frames, none, .value⟩ token =
        some ⟨.object (m.tree :: before) :: frames, none, .separator⟩ := hvalue _
    rw [foldlM_cons_of_some hstart, foldlM_cons_of_some hcolon, foldlM_cons_of_some hend]
    rfl

/-- The members of an object, read up to its end. -/
theorem readAll (ms : List Member) (hne : ms ≠ []) (h : ∀ m ∈ ms, m.value.WrittenAs m.text) :
    ∃ tokens, Scans (renderMembers (ms.map written) ++ ['\x7d']) tokens ∧
      ∀ before frames expected, expected = .key ∨ expected = .keyOrClose →
        tokens.foldlM Builder.step? ⟨.object before :: frames, none, expected⟩ =
          Builder.put frames (.object (before.reverse ++ ms.map tree)) := by
  induction ms with
  | nil => exact absurd rfl hne
  | cons m ms ih =>
    obtain ⟨key, token, hscans, hread⟩ := read (h m (by simp))
    cases ms with
    | nil =>
      refine ⟨[.string key, .colon, token] ++ [.closeObject], ?_, fun before frames expected hexpected => ?_⟩
      · have hlast := hscans '\x7d' .closeObject rfl
        simpa [renderMembers, written] using hlast
      have hclose : Builder.step? ⟨.object (m.tree :: before) :: frames, none, .separator⟩ .closeObject =
          Builder.put frames (.object (m.tree :: before).reverse) := rfl
      rw [foldlM_append_of_some (hread before frames expected hexpected), List.foldlM_cons, hclose]
      simp
    | cons m' ms =>
      obtain ⟨tokens, htokens, hall⟩ := ih (by simp) fun m hm => h m (by simp [hm])
      refine ⟨[.string key, .colon, token] ++ .comma :: tokens, ?_,
        fun before frames expected hexpected => ?_⟩
      · have hcomma := hscans ',' .comma rfl
        simpa [renderMembers, written] using hcomma.append htokens
      · have hcomma : Builder.step? ⟨.object (m.tree :: before) :: frames, none, .separator⟩ .comma =
            some ⟨.object (m.tree :: before) :: frames, none, .key⟩ := rfl
        rw [foldlM_append_of_some (hread before frames expected hexpected), foldlM_cons_of_some hcomma,
          hall _ _ _ (.inl rfl)]
        simp

end Member

/-- A written object is read as its members. -/
theorem Tree.read?_renderObject (ms : List Member) (h : ∀ m ∈ ms, m.value.WrittenAs m.text) :
    Tree.read? (.ofList (renderObject (ms.map Member.written))) = some (.object (ms.map Member.tree)) := by
  have hopen : Scans ['\x7b'] [.openObject] := scans_mark rfl
  cases ms with
  | nil => rfl
  | cons m ms =>
    obtain ⟨tokens, hscans, hread⟩ := Member.readAll (m :: ms) (by simp) h
    have htokens := (hopen.append hscans).tokens?
    have hstart : Builder.step? .start .openObject = some ⟨[.object []], none, .keyOrClose⟩ := rfl
    rw [Tree.read?, String.toList_ofList, renderObject, List.cons_append]
    rw [List.singleton_append] at htokens
    rw [htokens, Option.bind_some, List.singleton_append, foldlM_cons_of_some hstart,
      hread [] [] .keyOrClose (.inr rfl)]
    rfl

end EventRules.Json
