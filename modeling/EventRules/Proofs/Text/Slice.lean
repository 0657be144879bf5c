import EventRules.Proofs.Text.Trim
import Mathlib.Data.List.TakeWhile

/-!
# Texts cut by bytes

A place in a text is the number of bytes before it in UTF-8. A slice from one place to another is there
only if the first is not behind the second, neither is past the end and neither is inside a character
(`slice?`); what a search finds is a place between characters.
-/

namespace EventRules.Text

/-- The number of bytes of a text. -/
def size (text : List Char) : Nat :=
  (String.ofList text).utf8ByteSize

/-- What stands before and after the first `n` bytes, if these are whole characters. -/
def splitAt? : Nat → List Char → Option (List Char × List Char)
  | 0, text => some ([], text)
  | _ + 1, [] => none
  | n + 1, c :: text =>
    if c.utf8Size ≤ n + 1 then
      (splitAt? (n + 1 - c.utf8Size) text).map fun (before, after) => (c :: before, after)
    else none

/-- What stands between two places. -/
def slice? (start stop : Nat) (text : List Char) : Option (List Char) := do
  let (front, _) ← splitAt? stop text
  let (_, middle) ← splitAt? start front
  some middle

/-- The first place where `part` begins. -/
def find? (part : List Char) : List Char → Option Nat
  | [] => if part.isEmpty then some 0 else none
  | c :: text =>
    if part.isPrefixOf (c :: text) then some 0 else (find? part text).map (c.utf8Size + ·)

/-- The first place of a character with a property. -/
def findIf? (p : Char → Bool) : List Char → Option Nat
  | [] => none
  | c :: text => if p c then some 0 else (findIf? p text).map (c.utf8Size + ·)

@[simp] theorem size_nil : size [] = 0 := rfl

@[simp] theorem size_append (a b : List Char) : size (a ++ b) = size a + size b := by
  rw [size, String.ofList_append, String.utf8ByteSize_append]; rfl

theorem size_singleton (c : Char) : size [c] = c.utf8Size := by
  rw [size, ← String.singleton_eq_ofList, String.utf8ByteSize_singleton]

@[simp] theorem size_cons (c : Char) (text : List Char) : size (c :: text) = c.utf8Size + size text := by
  rw [← size_singleton, ← size_append, List.singleton_append]

theorem size_eq_zero_iff {text : List Char} : size text = 0 ↔ text = [] := by
  cases text with
  | nil => simp
  | cons c text =>
    have hpos := c.utf8Size_pos
    rw [size_cons]
    exact ⟨fun h => by omega, fun h => by simp at h⟩

/-- Of two beginnings of one text, the one with no more bytes begins the other. -/
theorem exists_append_of_size_le {a b a' b' : List Char} (h : a ++ b = a' ++ b') (hle : size a ≤ size a') :
    ∃ c, a' = a ++ c ∧ b = c ++ b' := by
  rcases List.append_eq_append_iff.1 h with ⟨c, ha, hb⟩ | ⟨c, rfl, rfl⟩
  · exact ⟨c, ha, hb⟩
  · have hc : size c = 0 := by
      rw [size_append] at hle; omega
    obtain rfl := size_eq_zero_iff.1 hc
    exact ⟨[], by simp, by simp⟩

theorem splitAt?_append (before after : List Char) :
    splitAt? (size before) (before ++ after) = some (before, after) := by
  induction before with
  | nil => simp [splitAt?]
  | cons c before ih =>
    obtain ⟨n, hn⟩ := Nat.exists_eq_add_one.2 c.utf8Size_pos
    have hsize : size (c :: before) = n + size before + 1 := by rw [size_cons]; omega
    have hrest : n + size before + 1 - c.utf8Size = size before := by omega
    rw [hsize, List.cons_append, splitAt?, if_pos (by omega), hrest, ih]; rfl

theorem splitAt?_eq_some_iff {n : Nat} {text before after : List Char} :
    splitAt? n text = some (before, after) ↔ text = before ++ after ∧ size before = n := by
  constructor
  · intro h
    fun_induction splitAt? n text generalizing before with
    | case1 text =>
      obtain ⟨rfl, rfl⟩ := Prod.mk.inj (Option.some.inj h)
      exact ⟨rfl, rfl⟩
    | case2 n => simp at h
    | case3 n c text hle ih =>
      obtain ⟨⟨front, rest⟩, hsplit, hpair⟩ := Option.map_eq_some_iff.1 h
      obtain ⟨rfl, rfl⟩ := Prod.mk.inj hpair
      obtain ⟨rfl, hsize⟩ := ih hsplit
      exact ⟨rfl, by rw [size_cons]; omega⟩
    | case4 n c text hle => simp at h
  · rintro ⟨rfl, rfl⟩
    exact splitAt?_append before after

/-- Exactly between whole characters of the text there is a slice. -/
theorem slice?_eq_some_iff {start stop : Nat} {text middle : List Char} :
    slice? start stop text = some middle ↔
      ∃ before after, text = before ++ (middle ++ after) ∧ size before = start ∧
        start + size middle = stop := by
  constructor
  · intro h
    obtain ⟨⟨front, after⟩, hstop, h⟩ := Option.bind_eq_some_iff.1 h
    obtain ⟨⟨before, middle'⟩, hstart, h⟩ := Option.bind_eq_some_iff.1 h
    obtain rfl := Option.some.inj h
    obtain ⟨rfl, rfl⟩ := splitAt?_eq_some_iff.1 hstop
    obtain ⟨rfl, rfl⟩ := splitAt?_eq_some_iff.1 hstart
    exact ⟨before, after, by simp, rfl, by simp⟩
  · rintro ⟨before, after, rfl, rfl, rfl⟩
    have hstop : splitAt? (size before + size middle) (before ++ (middle ++ after)) =
        some (before ++ middle, after) := splitAt?_eq_some_iff.2 ⟨by simp, by simp⟩
    simp [slice?, hstop, splitAt?_append]

theorem slice?_append (before middle after : List Char) :
    slice? (size before) (size before + size middle) (before ++ (middle ++ after)) = some middle :=
  slice?_eq_some_iff.2 ⟨before, after, rfl, rfl, rfl⟩

theorem slice?_front (front back : List Char) : slice? 0 (size front) (front ++ back) = some front :=
  slice?_eq_some_iff.2 ⟨[], back, rfl, rfl, by simp⟩

theorem slice?_back (front back : List Char) :
    slice? (size front) (size (front ++ back)) (front ++ back) = some back :=
  slice?_eq_some_iff.2 ⟨front, [], by simp, rfl, by simp⟩

/-! ### Searches -/

theorem find?_eq_none {part text : List Char} (h : find? part text = none) : ¬ part <:+: text := by
  induction text with
  | nil =>
    intro hinfix
    obtain rfl := List.infix_nil.1 hinfix
    simp [find?] at h
  | cons c text ih =>
    rw [find?] at h
    split_ifs at h with hbegins
    rw [List.isPrefixOf_iff_prefix] at hbegins
    rw [List.infix_cons_iff, not_or]
    exact ⟨hbegins, ih (Option.map_eq_none_iff.1 h)⟩

/-- What is found is an occurrence, and none begins before it. -/
theorem find?_eq_some {part text : List Char} {n : Nat} (h : find? part text = some n) :
    ∃ before after, text = before ++ (part ++ after) ∧ size before = n ∧
      ∀ before' after', text = before' ++ (part ++ after') → n ≤ size before' := by
  induction text generalizing n with
  | nil =>
    rw [find?] at h
    split_ifs at h with hempty
    obtain rfl := Option.some.inj h
    obtain rfl := List.isEmpty_iff.1 hempty
    exact ⟨[], [], rfl, rfl, fun _ _ _ => Nat.zero_le _⟩
  | cons c text ih =>
    rw [find?] at h
    split_ifs at h with hbegins
    · obtain rfl := Option.some.inj h
      obtain ⟨after, hafter⟩ := List.isPrefixOf_iff_prefix.1 hbegins
      exact ⟨[], after, hafter.symm, rfl, fun _ _ _ => Nat.zero_le _⟩
    · obtain ⟨m, hm, rfl⟩ := Option.map_eq_some_iff.1 h
      obtain ⟨before, after, rfl, rfl, hfirst⟩ := ih hm
      refine ⟨c :: before, after, rfl, size_cons c before, fun before' after' htext => ?_⟩
      cases before' with
      | nil =>
        rw [List.isPrefixOf_iff_prefix] at hbegins
        exact absurd ⟨after', htext.symm⟩ hbegins
      | cons d before' =>
        obtain ⟨rfl, hrest⟩ := List.cons.inj htext
        have hle : size before ≤ size before' := hfirst before' after' hrest
        rw [size_cons]; omega

theorem findIf?_eq_none {p : Char → Bool} {text : List Char} (h : ∀ c ∈ text, p c = false) :
    findIf? p text = none := by
  induction text with
  | nil => rfl
  | cons c text ih =>
    rw [findIf?, h c (by simp), ih fun d hd => h d (by simp [hd])]; rfl

theorem findIf?_append {p : Char → Bool} {before : List Char} {c : Char} (h : ∀ d ∈ before, p d = false)
    (hc : p c = true) (after : List Char) : findIf? p (before ++ c :: after) = some (size before) := by
  induction before with
  | nil => simp [findIf?, hc]
  | cons d before ih =>
    rw [List.cons_append, findIf?, h d (by simp), ih fun e he => h e (by simp [he])]
    simp

theorem findIf?_eq_cut? (c : Char) (text : List Char) :
    findIf? (· == c) text = (cut? c text).map fun (before, _) => size before := by
  have hother {part : List Char} (hmem : c ∉ part) : ∀ d ∈ part, (d == c) = false := by
    intro d hd
    exact beq_false_of_ne (by rintro rfl; exact hmem hd)
  cases h : cut? c text with
  | none => exact findIf?_eq_none (hother (cut?_eq_none_iff.1 h))
  | some parts =>
    obtain ⟨before, after⟩ := parts
    obtain ⟨rfl, hmem⟩ := cut?_eq_some_iff.1 h
    exact findIf?_append (hother hmem) (beq_self_eq_true c) after

end EventRules.Text
