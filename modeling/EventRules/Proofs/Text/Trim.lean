import EventRules.Text.Trim
import Mathlib.Data.List.TakeWhile

/-!
# Cutting and trimming

A text is cut at the first occurrence of a character (`cut?_eq_some_iff`), the parts between separators
have none of them (`not_mem_of_mem_splitOn`), and a trimmed text is what is left between the white space at
its two ends (`trim_eq`, `exists_trim`).
-/

namespace EventRules.Text

variable {c : Char} {text : List Char}

theorem cut?_eq_none_iff : cut? c text = none ↔ c ∉ text := by
  induction text with
  | nil => simp [cut?]
  | cons d text ih =>
    rw [cut?, List.mem_cons, not_or, ← ih]
    split
    case isTrue h => simp [h]
    case isFalse h => simp [Ne.symm h]

theorem cut?_eq_some_iff {before after : List Char} :
    cut? c text = some (before, after) ↔ text = before ++ c :: after ∧ c ∉ before := by
  induction text generalizing before with
  | nil => simp [cut?]
  | cons d text ih =>
    rw [cut?]
    split
    case isTrue h =>
      subst h
      constructor
      · intro h
        obtain ⟨rfl, rfl⟩ := Prod.mk.inj (Option.some.inj h)
        exact ⟨rfl, by simp⟩
      · rintro ⟨htext, hnot⟩
        cases before with
        | nil => simpa using htext
        | cons e before =>
          obtain ⟨rfl, -⟩ := List.cons.inj htext
          simp at hnot
    case isFalse h =>
      constructor
      · intro hcut
        obtain ⟨⟨front, rest⟩, hfront, hpair⟩ := Option.map_eq_some_iff.1 hcut
        obtain ⟨rfl, rfl⟩ := Prod.mk.inj hpair
        obtain ⟨rfl, hnot⟩ := ih.1 hfront
        exact ⟨rfl, by simp [hnot, Ne.symm h]⟩
      · rintro ⟨htext, hnot⟩
        cases before with
        | nil => exact absurd (List.cons.inj htext).1 h
        | cons e before =>
          obtain ⟨rfl, hrest⟩ := List.cons.inj htext
          have hnot' : c ∉ before := fun hmem => hnot (by simp [hmem])
          rw [ih.2 ⟨hrest, hnot'⟩]; rfl

/-! ### Parts between separators -/

theorem not_mem_of_mem_splitOn {part : List Char} (h : part ∈ text.splitOn c) :
    c ∉ part := by
  induction text generalizing part with
  | nil =>
    obtain rfl : part = [] := by simpa [List.splitOn] using h
    simp
  | cons d text ih =>
    rw [List.splitOn, List.splitOnP_cons_eq_if_modifyHead] at h
    split at h
    next hd =>
      rcases List.mem_cons.1 h with rfl | h
      · simp
      · exact ih h
    next hd =>
      obtain ⟨first, rest, hsplit⟩ := List.exists_cons_of_ne_nil (List.splitOn_ne_nil c text)
      rw [show List.splitOnP (fun x => x == c) text = first :: rest from hsplit, List.modifyHead_cons] at h
      rcases List.mem_cons.1 h with rfl | h
      · have hfirst : c ∉ first := ih (by rw [hsplit]; simp)
        have hne : c ≠ d := by rintro rfl; exact hd (beq_self_eq_true c)
        simp [hne, hfirst]
      · exact ih (by rw [hsplit]; simp [h])

/-! ### White space -/

/-- Between the space and the control characters of Latin-1 nothing is blank. -/
theorem not_isBlank (hlow : 32 < c.toNat) (hhigh : c.toNat < 0x85) : isBlank c = false := by
  have hranges : Unicode.Property.whiteSpace.ranges =
      [(9, 13), (32, 32), (0x85, 0x85), (0xA0, 0xA0), (0x1680, 0x1680), (0x2000, 0x200A),
        (0x2028, 0x2029), (0x202F, 0x202F), (0x205F, 0x205F), (0x3000, 0x3000)] := rfl
  simp [isBlank, CodeSet.contains, hranges]
  omega

theorem not_isBlank_of_isDigit (h : c.isDigit) : isBlank c = false := by
  obtain ⟨hlow, hhigh⟩ := Char.isDigit_iff_toNat.1 h
  exact not_isBlank (Nat.lt_of_lt_of_le (by decide) hlow) (Nat.lt_of_le_of_lt hhigh (by decide))

theorem not_isBlank_of_isAlpha (h : c.isAlpha) : isBlank c = false := by
  have hletter : 'A'.val ≤ c.val ∧ c.val ≤ 'z'.val := by
    rcases Bool.or_eq_true_iff.1 h with hupper | hlower
    · obtain ⟨hlow, hhigh⟩ := of_decide_eq_true hupper
      exact ⟨hlow, UInt32.le_trans hhigh (by decide)⟩
    · obtain ⟨hlow, hhigh⟩ := Bool.and_eq_true_iff.1 hlower
      exact ⟨UInt32.le_trans (by decide) (of_decide_eq_true hlow), of_decide_eq_true hhigh⟩
  exact not_isBlank (Nat.lt_of_lt_of_le (by decide) (UInt32.le_iff_toNat_le.1 hletter.1))
    (Nat.lt_of_le_of_lt (UInt32.le_iff_toNat_le.1 hletter.2) (by decide))

/-! ### Runs of characters -/

section
variable {p : Char → Bool} {run rest : List Char}

theorem takeWhile_run (hrun : ∀ c ∈ run, p c = true) (hrest : ∀ c ∈ rest.head?, p c = false) :
    (run ++ rest).takeWhile p = run := by
  rw [List.takeWhile_append_of_pos hrun]
  cases rest with
  | nil => simp
  | cons c rest => simp [hrest c rfl]

theorem dropWhile_run (hrun : ∀ c ∈ run, p c = true) (hrest : ∀ c ∈ rest.head?, p c = false) :
    (run ++ rest).dropWhile p = rest := by
  rw [List.dropWhile_append_of_pos hrun]
  cases rest with
  | nil => rfl
  | cons c rest => simp [hrest c rfl]

/-- The longest run off the front. -/
theorem exists_run (p : Char → Bool) (text : List Char) :
    ∃ run rest, text = run ++ rest ∧ (∀ c ∈ run, p c = true) ∧ ∀ c ∈ rest.head?, p c = false := by
  refine ⟨text.takeWhile p, text.dropWhile p, List.takeWhile_append_dropWhile.symm,
    fun c hc => List.mem_takeWhile_imp hc, fun c hc => ?_⟩
  have hhead := List.head?_dropWhile_not p text
  rw [hc] at hhead
  simpa using hhead

end

/-! ### Trimmed texts -/

def Blank (text : List Char) : Prop :=
  ∀ c ∈ text, isBlank c = true

instance (text : List Char) : Decidable (Blank text) :=
  decidable_of_iff (text.all isBlank = true) (by simp [Blank])

/-- The text does not begin with white space. -/
def Begins (text : List Char) : Prop :=
  ∀ c ∈ text.head?, isBlank c = false

/-- The text does not end with white space. -/
def Ends (text : List Char) : Prop :=
  ∀ c ∈ text.getLast?, isBlank c = false

variable {a b l r : List Char}

theorem Blank.append (ha : Blank a) (hb : Blank b) : Blank (a ++ b) := by
  intro c hc
  rcases List.mem_append.1 hc with hc | hc
  · exact ha c hc
  · exact hb c hc

theorem Blank.reverse (ha : Blank a) : Blank a.reverse :=
  fun c hc => ha c (List.mem_reverse.1 hc)

theorem begins_cons (hc : isBlank c = false) (text : List Char) : Begins (c :: text) := by
  intro d hd
  obtain rfl : c = d := by simpa using hd
  exact hc

theorem Begins.append (ha : Begins a) (hb : Begins b) : Begins (a ++ b) := by
  cases a with
  | nil => exact hb
  | cons c a => exact begins_cons (ha c rfl) (a ++ b)

theorem Begins.append_left (ha : Begins a) (hne : a ≠ []) (b : List Char) : Begins (a ++ b) := by
  cases a with
  | nil => exact absurd rfl hne
  | cons c a => exact begins_cons (ha c rfl) (a ++ b)

theorem ends_iff_reverse : Ends text ↔ Begins text.reverse := by
  rw [Ends, Begins, List.head?_reverse]

theorem Ends.append (ha : Ends a) (hb : Ends b) : Ends (a ++ b) := by
  rw [ends_iff_reverse] at ha hb ⊢
  rw [List.reverse_append]
  exact hb.append ha

theorem Ends.append_right (hb : Ends b) (hne : b ≠ []) (a : List Char) : Ends (a ++ b) := by
  rw [ends_iff_reverse] at hb ⊢
  rw [List.reverse_append]
  exact hb.append_left (by simpa using hne) a.reverse

/-- White space off the end. -/
theorem exists_end (text : List Char) : ∃ rest r, Blank r ∧ text = rest ++ r ∧ Ends rest := by
  obtain ⟨l, rest, htext, hl, hrest⟩ := exists_run isBlank text.reverse
  refine ⟨rest.reverse, l.reverse, Blank.reverse hl, ?_, ?_⟩
  · rw [← List.reverse_append, ← htext, List.reverse_reverse]
  · rwa [ends_iff_reverse, List.reverse_reverse]

theorem trim_blank (hl : Blank l) : trim l = [] := by
  rw [trim, List.dropWhile_eq_nil_iff.2 hl]; rfl

/-- Trimming takes the white space off both ends. -/
theorem trim_eq (hl : Blank l) (hr : Blank r) (hbegins : Begins a) (hends : Ends a) :
    trim (l ++ (a ++ r)) = a := by
  by_cases hne : a = []
  · subst hne
    exact trim_blank (hl.append hr)
  · rw [ends_iff_reverse] at hends
    rw [trim, dropWhile_run hl (hbegins.append_left hne r), List.reverse_append,
      dropWhile_run hr.reverse hends, List.reverse_reverse]

theorem trim_of_not_blank (h : ∀ c ∈ text, isBlank c = false) : trim text = text := by
  have hnone : Blank [] := by simp [Blank]
  have hbegins : Begins text := fun c hc => h c (List.mem_of_mem_head? hc)
  have hends : Ends text := fun c hc => h c (List.mem_of_mem_getLast? hc)
  have htrim := trim_eq hnone hnone hbegins hends
  rwa [List.append_nil] at htrim

theorem exists_trim (text : List Char) : ∃ l r, Blank l ∧ Blank r ∧ text = l ++ (trim text ++ r) ∧
    Begins (trim text) ∧ Ends (trim text) := by
  obtain ⟨l, rest, rfl, hl, hbegins⟩ := exists_run isBlank text
  obtain ⟨a, r, hr, rfl, hends⟩ := exists_end rest
  have hbegins' : Begins a := by
    cases a with
    | nil => simp [Begins]
    | cons c a => exact begins_cons (hbegins c rfl) a
  rw [trim_eq hl hr hbegins' hends]
  exact ⟨l, r, hl, hr, rfl, hbegins', hends⟩

/-- White space around a text makes no difference. -/
theorem trim_padded (hl : Blank l) (hr : Blank r) (text : List Char) :
    trim (l ++ (text ++ r)) = trim text := by
  obtain ⟨l', r', hl', hr', htext, hbegins, hends⟩ := exists_trim text
  have hpadded := calc l ++ (text ++ r)
    _ = l ++ ((l' ++ (trim text ++ r')) ++ r) := by rw [← htext]
    _ = (l ++ l') ++ (trim text ++ (r' ++ r)) := by simp
  rw [hpadded, trim_eq (hl.append hl') (hr'.append hr) hbegins hends]

theorem mem_of_mem_trim (h : c ∈ trim text) : c ∈ text := by
  obtain ⟨l, r, -, -, htext, -⟩ := exists_trim text
  rw [htext]
  simp [h]

/-- What is not blank and stands in the text is left when the text is trimmed. -/
theorem mem_trim_of_not_blank (hc : isBlank c = false) (h : c ∈ text) : c ∈ trim text := by
  obtain ⟨l, r, hl, hr, htext, -⟩ := exists_trim text
  have hblank {run : List Char} (hrun : Blank run) : c ∉ run := by
    intro hmem
    rw [hrun c hmem] at hc
    cases hc
  rw [htext] at h
  simpa [hblank hl, hblank hr] using h

theorem trim_front (hl : Blank l) (text : List Char) : trim (l ++ text) = trim text := by
  have htrim := trim_padded hl (r := []) (by simp [Blank]) text
  rwa [List.append_nil] at htrim

theorem trim_back (hr : Blank r) (text : List Char) : trim (text ++ r) = trim text :=
  trim_padded (l := []) (by simp [Blank]) hr text

/-- Around a text with nothing blank at its ends, white space goes from what stands on either side. -/
theorem exists_trim_around {middle : List Char} (hne : middle ≠ []) (hbegins : Begins middle)
    (hends : Ends middle) (front back : List Char) :
    ∃ l front' back' r, Blank l ∧ Blank r ∧ front = l ++ front' ∧ back = back' ++ r ∧
      trim (front ++ (middle ++ back)) = front' ++ (middle ++ back') := by
  obtain ⟨l, front', rfl, hl, hfront⟩ := exists_run isBlank front
  obtain ⟨back', r, hr, rfl, hback⟩ := exists_end back
  refine ⟨l, front', back', r, hl, hr, rfl, rfl, ?_⟩
  have hne' : middle ++ back' ≠ [] := by simp [hne]
  have htext : l ++ front' ++ (middle ++ (back' ++ r)) = l ++ ((front' ++ (middle ++ back')) ++ r) := by
    simp
  rw [htext]
  exact trim_eq hl hr (Begins.append hfront (hbegins.append_left hne back'))
    ((hends.append hback).append_right hne' front')

end EventRules.Text
