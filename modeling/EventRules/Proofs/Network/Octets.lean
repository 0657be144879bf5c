import EventRules.Network.AddressText
import EventRules.Proofs.Text.Digits
import EventRules.Proofs.Text.Trim

/-!
# Octets

A version 4 address has one text, the one that it is shown as (`Address.readV4?_eq_some_iff`). A reader
looks one character past what it takes off the front of a text, so what it does is described by what it
takes and how the rest begins (`Address.Stops`).
-/

namespace EventRules.Address

open Digits

/-! ### Digits -/

/-- No digit comes next. -/
def Stops (base : Nat) (rest : List Char) : Prop :=
  ∀ c ∈ rest.head?, valueOf? base c = none

def marks : List Char :=
  ['.', ':', '/']

theorem stops_nil (base : Nat) : Stops base [] := by
  simp [Stops]

theorem valueOf?_mark {base : Nat} (hbase : base ≤ 16) {c : Char} (hc : c ∈ marks) :
    valueOf? base c = none := by
  have hnone : valueOf? 16 c = none := by
    simp only [marks, List.mem_cons, List.not_mem_nil, or_false] at hc
    rcases hc with rfl | rfl | rfl <;> rfl
  cases hvalue : valueOf? base c with
  | none => rfl
  | some n => exact absurd hnone (by rw [valueOf?_mono hvalue hbase]; simp)

theorem stops_mark {base : Nat} (hbase : base ≤ 16) {c : Char} (hc : c ∈ marks) (rest : List Char) :
    Stops base (c :: rest) := by
  intro d hd
  obtain rfl : c = d := by simpa using hd
  exact valueOf?_mark hbase hc

theorem Stops.mono {base base' : Nat} {rest : List Char} (h : Stops base' rest) (hle : base ≤ base') :
    Stops base rest := by
  intro c hc
  cases hvalue : valueOf? base c with
  | none => rfl
  | some n => exact absurd (h c hc) (by rw [valueOf?_mono hvalue hle]; simp)

theorem stops_iff {base : Nat} {rest : List Char} :
    Stops base rest ↔ ∀ c ∈ rest.head?, (valueOf? base c).isSome = false := by
  simp [Stops]

theorem takeWhile_append_of_stops {base : Nat} {digits rest : List Char}
    (hdigits : ∀ c ∈ digits, (valueOf? base c).isSome) (hrest : Stops base rest) :
    (digits ++ rest).takeWhile (fun c => (valueOf? base c).isSome) = digits :=
  Text.takeWhile_run hdigits (stops_iff.1 hrest)

theorem readDigits_eq_some_iff {base most : Nat} {text digits rest : List Char} :
    readDigits base most text = some (digits, rest) ↔
      text = digits ++ rest ∧ digits ≠ [] ∧ digits.length ≤ most ∧
        (∀ c ∈ digits, (valueOf? base c).isSome) ∧ Stops base rest := by
  constructor
  · intro h
    obtain ⟨run, rest', rfl, hrun, hstops⟩ := Text.exists_run (fun c => (valueOf? base c).isSome) text
    rw [← stops_iff] at hstops
    simp only [readDigits, takeWhile_append_of_stops hrun hstops, List.drop_left] at h
    split_ifs at h with hcond
    obtain ⟨rfl, rfl⟩ := Prod.mk.inj (Option.some.inj h)
    simp only [Bool.or_eq_true, not_or, List.isEmpty_iff, decide_eq_true_eq, not_lt] at hcond
    exact ⟨rfl, hcond.1, hcond.2, hrun, hstops⟩
  · rintro ⟨rfl, hne, hlength, hdigits, hrest⟩
    have htake := takeWhile_append_of_stops hdigits hrest
    have hlength' : ¬ most < digits.length := by omega
    simp [readDigits, htake, hne, hlength']

theorem readOctet_eq_some_iff {text rest : List Char} {octet : UInt8} :
    readOctet text = some (octet, rest) ↔
      text = Nat.toDigits 10 octet.toNat ++ rest ∧ Stops 10 rest := by
  constructor
  · intro h
    obtain ⟨⟨digits, rest'⟩, hdigits, h⟩ := Option.bind_eq_some_iff.1 h
    obtain ⟨value, hvalue, h⟩ := Option.bind_eq_some_iff.1 h
    split_ifs at h with hcond
    obtain ⟨rfl, rfl⟩ := Prod.mk.inj (Option.some.inj h)
    simp only [Bool.or_eq_true, Bool.and_eq_true, beq_iff_eq, decide_eq_true_eq, not_or, not_and,
      not_lt] at hcond
    obtain ⟨rfl, -, -, -, hstops⟩ := readDigits_eq_some_iff.1 hdigits
    have hcanonical := eq_toDigits_of_read? hvalue hcond.1
    have hvalue' : (UInt8.ofNat value).toNat = value := by
      rw [UInt8.toNat_ofNat']; omega
    rw [hvalue', ← hcanonical]
    exact ⟨rfl, hstops⟩
  · rintro ⟨rfl, hstops⟩
    have hlt : octet.toNat < 256 := octet.toNat_lt_size
    have hlength : (Nat.toDigits 10 octet.toNat).length ≤ 3 :=
      (Nat.length_toDigits_le_iff (by decide) (by decide)).2 (by omega)
    have hdigits : readDigits 10 3 (Nat.toDigits 10 octet.toNat ++ rest) =
        some (Nat.toDigits 10 octet.toNat, rest) :=
      readDigits_eq_some_iff.2 ⟨rfl, Nat.toDigits_ne_nil, hlength,
        isSome_valueOf?_of_mem_toDigits (by decide) (by decide), hstops⟩
    have hvalue : Digits.read? 10 (Nat.toDigits 10 octet.toNat) = some octet.toNat :=
      read?_toDigits (by decide) (by decide) octet.toNat
    have hzero : (Nat.toDigits 10 octet.toNat).head? = some '0' →
        (Nat.toDigits 10 octet.toNat).length ≤ 1 := by
      intro hhead
      rw [toDigits_of_head?_zero hhead]; rfl
    have hle : ¬ octet.toNat > 255 := by omega
    simp only [readOctet, hdigits, hvalue, Option.bind_eq_bind, Option.bind_some]
    rw [if_neg, UInt8.ofNat_toNat]
    simp only [Bool.or_eq_true, Bool.and_eq_true, beq_iff_eq, decide_eq_true_eq, not_or, not_and, not_lt]
    exact ⟨hzero, by omega⟩

/-! ### Octets -/

theorem readChar_eq_some_iff {c : Char} {text rest : List Char} {u : Unit} :
    readChar c text = some (u, rest) ↔ text = c :: rest := by
  cases text with
  | nil => simp [readChar]
  | cons d text =>
    rw [readChar]
    split_ifs with h
    · simp [h]
    · simp [h]

theorem joined_cons (separator : Char) (part : List Char) (parts : List (List Char)) :
    joined separator (part :: parts) = part ++ parts.flatMap (separator :: ·) := by
  induction parts generalizing part with
  | nil => simp [joined]
  | cons next parts ih =>
    rw [joined, ih, List.flatMap_cons, List.cons_append]
    simp

/-- The octets after the first one. -/
def renderMoreOctets (octets : List UInt8) : List Char :=
  octets.flatMap fun octet => '.' :: Nat.toDigits 10 octet.toNat

theorem renderOctets_cons (octet : UInt8) (octets : List UInt8) :
    renderOctets (octet :: octets) = Nat.toDigits 10 octet.toNat ++ renderMoreOctets octets := by
  rw [renderOctets, List.map_cons, joined_cons, List.flatMap_map]; rfl

theorem renderMoreOctets_cons (octet : UInt8) (octets : List UInt8) :
    renderMoreOctets (octet :: octets) =
      '.' :: (Nat.toDigits 10 octet.toNat ++ renderMoreOctets octets) := by
  simp [renderMoreOctets]

/-- After an octet comes a dot, or what follows the last one. -/
theorem stops_renderMoreOctets (octets : List UInt8) {rest : List Char} (h : Stops 10 rest) :
    Stops 10 (renderMoreOctets octets ++ rest) := by
  cases octets with
  | nil => exact h
  | cons octet octets =>
    rw [renderMoreOctets_cons]
    exact stops_mark (by decide) (by decide) _

theorem readMoreOctets_eq_some_iff {n : Nat} {text rest : List Char} {octets : List UInt8}
    (htext : Stops 10 text) : readMoreOctets n text = some (octets, rest) ↔
      octets.length = n ∧ text = renderMoreOctets octets ++ rest ∧ Stops 10 rest := by
  induction n generalizing text octets with
  | zero =>
    rw [readMoreOctets]
    constructor
    · intro h
      obtain ⟨rfl, rfl⟩ := Prod.mk.inj (Option.some.inj h)
      exact ⟨rfl, rfl, htext⟩
    · rintro ⟨hlength, rfl, -⟩
      obtain rfl := List.eq_nil_of_length_eq_zero hlength
      rfl
  | succ n ih =>
    rw [readMoreOctets]
    constructor
    · intro h
      obtain ⟨⟨_, more⟩, hdot, h⟩ := Option.bind_eq_some_iff.1 h
      obtain ⟨⟨octet, more'⟩, hoctet, h⟩ := Option.bind_eq_some_iff.1 h
      obtain ⟨⟨octets', rest'⟩, hoctets, h⟩ := Option.bind_eq_some_iff.1 h
      obtain ⟨rfl, rfl⟩ := Prod.mk.inj (Option.some.inj h)
      obtain rfl := readChar_eq_some_iff.1 hdot
      obtain ⟨rfl, hstops⟩ := readOctet_eq_some_iff.1 hoctet
      obtain ⟨rfl, rfl, hrest⟩ := (ih hstops).1 hoctets
      exact ⟨rfl, by simp [renderMoreOctets_cons], hrest⟩
    · rintro ⟨hlength, rfl, hrest⟩
      cases octets with
      | nil => simp at hlength
      | cons octet octets =>
        have hstops := stops_renderMoreOctets octets hrest
        have hoctet : readOctet (Nat.toDigits 10 octet.toNat ++ (renderMoreOctets octets ++ rest)) =
            some (octet, renderMoreOctets octets ++ rest) := readOctet_eq_some_iff.2 ⟨rfl, hstops⟩
        have hoctets := (ih hstops).2 ⟨by simpa using hlength, rfl, hrest⟩
        simp [renderMoreOctets_cons, readChar, hoctet, hoctets]

theorem readOctets_eq_some_iff {text rest : List Char} {octets : List UInt8} :
    readOctets text = some (octets, rest) ↔
      octets.length = 4 ∧ text = renderOctets octets ++ rest ∧ Stops 10 rest := by
  rw [readOctets]
  constructor
  · intro h
    obtain ⟨⟨octet, more⟩, hoctet, h⟩ := Option.bind_eq_some_iff.1 h
    obtain ⟨⟨octets', rest'⟩, hoctets, h⟩ := Option.bind_eq_some_iff.1 h
    obtain ⟨rfl, rfl⟩ := Prod.mk.inj (Option.some.inj h)
    obtain ⟨rfl, hstops⟩ := readOctet_eq_some_iff.1 hoctet
    obtain ⟨hlength, rfl, hrest⟩ := (readMoreOctets_eq_some_iff hstops).1 hoctets
    exact ⟨by simp [hlength], by simp [renderOctets_cons], hrest⟩
  · rintro ⟨hlength, rfl, hrest⟩
    cases octets with
    | nil => simp at hlength
    | cons octet octets =>
      have hstops := stops_renderMoreOctets octets hrest
      have hoctet : readOctet (Nat.toDigits 10 octet.toNat ++ (renderMoreOctets octets ++ rest)) =
          some (octet, renderMoreOctets octets ++ rest) := readOctet_eq_some_iff.2 ⟨rfl, hstops⟩
      have hoctets := (readMoreOctets_eq_some_iff hstops).2 ⟨by simpa using hlength, rfl, hrest⟩
      simp [renderOctets_cons, hoctet, hoctets]

theorem ofOctets?_eq_some_iff {octets : List UInt8} {a : Address} :
    ofOctets? octets = some a ↔ ∃ v : Vector UInt8 4, v.toList = octets ∧ .v4 v = a := by
  unfold ofOctets?
  constructor
  · intro h
    split_ifs at h with hlength
    exact ⟨_, rfl, Option.some.inj h⟩
  · rintro ⟨v, rfl, rfl⟩
    simp [Vector.toList]

theorem readV4?_eq_some_iff {text : List Char} {a : Address} :
    readV4? text = some a ↔ ∃ octets : Vector UInt8 4, text = renderOctets octets.toList ∧ a = .v4 octets := by
  unfold readV4?
  constructor
  · intro h
    split at h
    case h_1 octets hread =>
      obtain ⟨v, rfl, rfl⟩ := ofOctets?_eq_some_iff.1 h
      obtain ⟨-, rfl, -⟩ := readOctets_eq_some_iff.1 hread
      exact ⟨v, by simp, rfl⟩
    case h_2 => simp at h
  · rintro ⟨octets, rfl, rfl⟩
    have hread : readOctets (renderOctets octets.toList) = some (octets.toList, []) :=
      readOctets_eq_some_iff.2 ⟨by simp, by simp, stops_nil 10⟩
    rw [hread]
    exact ofOctets?_eq_some_iff.2 ⟨octets, rfl, rfl⟩

theorem mem_renderOctets {octets : List UInt8} {c : Char} (h : c ∈ renderOctets octets) :
    (valueOf? 10 c).isSome ∨ c = '.' := by
  have hdigit {n : Nat} (hc : c ∈ Nat.toDigits 10 n) : (valueOf? 10 c).isSome :=
    isSome_valueOf?_of_mem_toDigits (by decide) (by decide) c hc
  cases octets with
  | nil => simp [renderOctets, joined] at h
  | cons octet octets =>
    rw [renderOctets_cons] at h
    rcases List.mem_append.1 h with hc | hc
    · exact .inl (hdigit hc)
    · obtain ⟨next, -, hc⟩ := List.mem_flatMap.1 hc
      rcases List.mem_cons.1 hc with rfl | hc
      · exact .inr rfl
      · exact .inl (hdigit hc)

theorem colon_not_mem_renderOctets (octets : List UInt8) : ':' ∉ renderOctets octets := by
  intro h
  rcases mem_renderOctets h with hc | hc
  · rw [valueOf?_mark (by decide) (by decide)] at hc
    simp at hc
  · simp at hc

end EventRules.Address
