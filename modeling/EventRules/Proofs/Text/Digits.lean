import EventRules.Text.Digits
import Mathlib.Data.Nat.Digits.Defs

/-!
# Digits

Decimal digits are read as the number that they stand for, leading zeros or not (`read?_ten`), and the
digits of a number are read as the number, to any base up to sixteen (`read?_toDigits`). Decimal digits
without a leading zero are the digits of the number that they are read as (`eq_toDigits_of_read?`).
-/

namespace EventRules.Digits

theorem valueOf?_ten {c : Char} (h : c.isDigit) : valueOf? 10 c = some (c.toNat - '0'.toNat) := by
  have hrange : '0' ≤ c ∧ c ≤ '9' := by simpa [Char.isDigit, Char.le_def] using h
  have hle : c.toNat ≤ '9'.toNat := by
    have hval := hrange.2
    rwa [Char.le_def, UInt32.le_iff_toNat_le] at hval
  have hnine : '9'.toNat = 57 := rfl
  have hzero : '0'.toNat = 48 := rfl
  rw [valueOf?, if_pos hrange, if_pos (by omega)]

theorem continue?_ten {digits : List Char} (h : ∀ d ∈ digits, d.isDigit) (read : Nat) :
    continue? 10 read digits = some (Nat.ofDigitChars 10 digits read) := by
  induction digits generalizing read with
  | nil => rfl
  | cons d digits ih =>
    have hrest := ih (fun d' hd' => h d' (by simp [hd'])) (10 * read + (d.toNat - '0'.toNat))
    rw [continue?, valueOf?_ten (h d (by simp)), Nat.ofDigitChars_cons]
    exact hrest

theorem read?_ten {digits : List Char} (h : ∀ d ∈ digits, d.isDigit) (hne : digits ≠ []) :
    read? 10 digits = some (Nat.ofDigitChars 10 digits 0) := by
  cases digits with
  | nil => exact absurd rfl hne
  | cons d digits => exact continue?_ten h 0

theorem readAtMost?_digits {digits : List Char} (h : ∀ d ∈ digits, d.isDigit) (hne : digits ≠ [])
    (greatest : Nat) :
    readAtMost? greatest digits =
      if Nat.ofDigitChars 10 digits 0 ≤ greatest then some (Nat.ofDigitChars 10 digits 0) else none := by
  have hunsigned : ∀ rest, digits ≠ '+' :: rest := by
    rintro rest rfl
    exact absurd (h '+' (by simp)) (by decide)
  have hread := read?_ten h hne
  unfold readAtMost?
  split
  case h_1 rest => exact absurd rfl (hunsigned rest)
  case h_2 =>
    show (read? 10 digits).bind _ = _
    rw [hread]; rfl

theorem isDigit_of_mem_toDigits {n : Nat} : ∀ c ∈ Nat.toDigits 10 n, c.isDigit :=
  fun _ => Nat.isDigit_of_mem_toDigits (by decide) (by decide)

theorem readAtMost?_toDigits {n greatest : Nat} (h : n ≤ greatest) :
    readAtMost? greatest (Nat.toDigits 10 n) = some n := by
  rw [readAtMost?_digits isDigit_of_mem_toDigits Nat.toDigits_ne_nil, Nat.ofDigitChars_ten_toDigits,
    if_pos h]

/-! ### Any base -/

variable {base value : Nat} {c : Char} {text : List Char}

/-- A character has one value, which counts as a digit if the base is greater. -/
theorem exists_valueOf? (c : Char) : ∃ n, ∀ base, valueOf? base c = if n < base then some n else none :=
  ⟨_, fun _ => rfl⟩

theorem lt_of_valueOf? (h : valueOf? base c = some value) : value < base := by
  obtain ⟨n, hn⟩ := exists_valueOf? c
  rw [hn] at h
  split_ifs at h with hlt
  exact Option.some.inj h ▸ hlt

theorem valueOf?_mono {base' : Nat} (h : valueOf? base c = some value) (hle : base ≤ base') :
    valueOf? base' c = some value := by
  have hlt : value < base := lt_of_valueOf? h
  obtain ⟨n, hn⟩ := exists_valueOf? c
  rw [hn] at h ⊢
  split_ifs at h
  obtain rfl := Option.some.inj h
  exact if_pos (hlt.trans_le hle)

/-- Digits are numerals and letters. -/
theorem toNat_of_valueOf? (hbase : base ≤ 36) (h : (valueOf? base c).isSome) :
    48 ≤ c.toNat ∧ c.toNat ≤ 122 := by
  obtain ⟨n, hn⟩ := Option.isSome_iff_exists.1 h
  have hlt : n < base := lt_of_valueOf? hn
  simp only [valueOf?, Char.le_def, UInt32.le_iff_toNat_le] at hn
  split_ifs at hn with hdigit hdigit' hlower hlower' hupper hupper'
  · exact ⟨hdigit.1, hdigit.2.trans (by decide)⟩
  · exact ⟨Nat.le_trans (by decide) hlower.1, hlower.2⟩
  · exact ⟨Nat.le_trans (by decide) hupper.1, hupper.2.trans (by decide)⟩
  · obtain rfl := Option.some.inj hn
    omega

theorem isSome_valueOf?_ten : (valueOf? 10 c).isSome ↔ c.isDigit := by
  constructor
  · intro h
    obtain ⟨n, hn⟩ := Option.isSome_iff_exists.1 h
    have hlt : n < 10 := lt_of_valueOf? hn
    simp only [valueOf?] at hn
    split_ifs at hn with hdigit
    · simpa [Char.isDigit, Char.le_def] using hdigit
    all_goals
      obtain rfl := Option.some.inj hn
      omega
  · intro h
    rw [valueOf?_ten h]; rfl

theorem valueOf?_digitChar (hbase : base ≤ 16) {d : Nat} (hd : d < base) :
    valueOf? base d.digitChar = some d := by
  have hall : ∀ d < 16, valueOf? 16 d.digitChar = some d := by decide
  have hvalue := hall d (hd.trans_le hbase)
  obtain ⟨n, hn⟩ := exists_valueOf? d.digitChar
  rw [hn] at hvalue ⊢
  split_ifs at hvalue
  obtain rfl := Option.some.inj hvalue
  exact if_pos hd

theorem continue?_append (read : Nat) (text more : List Char) :
    continue? base read (text ++ more) = (continue? base read text).bind (continue? base · more) := by
  induction text generalizing read with
  | nil => rfl
  | cons c text ih =>
    rw [List.cons_append, continue?, continue?]
    cases valueOf? base c with
    | none => rfl
    | some digit => exact ih _

theorem continue?_toDigits (hbase : 1 < base) (hbase' : base ≤ 16) (n : Nat) :
    continue? base 0 (Nat.toDigits base n) = some n := by
  induction n using Nat.strong_induction_on with
  | _ n ih =>
    have hlast : n % base < base := Nat.mod_lt n (by omega)
    have hstep : base * (n / base) + n % base = n := Nat.div_add_mod n base
    rw [Nat.toDigits_eq_if hbase]
    split
    case isTrue hlt =>
      simp [continue?, valueOf?_digitChar hbase' hlt]
    case isFalse hle =>
      have hfront := ih (n / base) (Nat.div_lt_self (by omega) hbase)
      rw [continue?_append, hfront]
      simp [continue?, valueOf?_digitChar hbase' hlast, hstep]

theorem read?_toDigits (hbase : 1 < base) (hbase' : base ≤ 16) (n : Nat) :
    read? base (Nat.toDigits base n) = some n := by
  have hread := continue?_toDigits hbase hbase' n
  cases h : Nat.toDigits base n with
  | nil => exact absurd h Nat.toDigits_ne_nil
  | cons c rest => rwa [h] at hread

theorem isSome_valueOf?_of_continue? {read : Nat} (h : continue? base read text = some value) :
    ∀ c ∈ text, (valueOf? base c).isSome := by
  induction text generalizing read with
  | nil => simp
  | cons c text ih =>
    rw [continue?] at h
    cases hc : valueOf? base c with
    | none => simp [hc] at h
    | some digit =>
      rw [hc] at h
      exact List.forall_mem_cons.2 ⟨by rw [hc]; rfl, ih h⟩

theorem isSome_valueOf?_of_read? (h : read? base text = some value) :
    ∀ c ∈ text, (valueOf? base c).isSome := by
  cases text with
  | nil => simp
  | cons c text => exact isSome_valueOf?_of_continue? h

theorem ne_nil_of_read? (h : read? base text = some value) : text ≠ [] := by
  rintro rfl
  simp [read?] at h

theorem isSome_valueOf?_of_mem_toDigits (hbase : 1 < base) (hbase' : base ≤ 16) {n : Nat} :
    ∀ c ∈ Nat.toDigits base n, (valueOf? base c).isSome :=
  isSome_valueOf?_of_continue? (continue?_toDigits hbase hbase' n)

theorem continue?_lt {read : Nat} (h : continue? base read text = some value) :
    value < (read + 1) * base ^ text.length := by
  induction text generalizing read with
  | nil =>
    obtain rfl : read = value := by simpa [continue?] using h
    simp
  | cons c text ih =>
    rw [continue?] at h
    cases hc : valueOf? base c with
    | none => simp [hc] at h
    | some digit =>
      rw [hc] at h
      have hdigit : base * read + digit + 1 ≤ (read + 1) * base := by
        have := lt_of_valueOf? hc
        rw [Nat.add_mul, Nat.one_mul, Nat.mul_comm read]; omega
      calc value < (base * read + digit + 1) * base ^ text.length := ih h
        _ ≤ (read + 1) * base * base ^ text.length := Nat.mul_le_mul_right _ hdigit
        _ = (read + 1) * base ^ (c :: text).length := by
          rw [List.length_cons, Nat.pow_succ', Nat.mul_assoc]

theorem read?_lt (h : read? base text = some value) : value < base ^ text.length := by
  cases text with
  | nil => simp [read?] at h
  | cons c text =>
    have hlt := continue?_lt h
    rwa [Nat.zero_add, Nat.one_mul] at hlt

/-! ### Leading zeros -/

theorem digitChar_of_valueOf?_ten (h : valueOf? 10 c = some value) : value.digitChar = c := by
  have hc : c.isDigit := isSome_valueOf?_ten.1 (by rw [h]; rfl)
  have hlt : value < 10 := lt_of_valueOf? h
  have hrange := Char.isDigit_iff_toNat.1 hc
  rw [valueOf?_ten hc] at h
  obtain rfl := Option.some.inj h
  apply Char.toNat_inj.1
  have hzero : '0'.toNat = 48 := rfl
  rw [Nat.toNat_digitChar_of_lt_ten hlt]
  omega

theorem eq_toDigits_of_continue? {read : Nat} (hread : 0 < read) (h : continue? 10 read text = some value) :
    Nat.toDigits 10 read ++ text = Nat.toDigits 10 value := by
  induction text generalizing read with
  | nil =>
    obtain rfl : read = value := by simpa [continue?] using h
    simp
  | cons c text ih =>
    rw [continue?] at h
    cases hc : valueOf? 10 c with
    | none => simp [hc] at h
    | some digit =>
      rw [hc] at h
      have hlt : digit < 10 := lt_of_valueOf? hc
      have hdigits := Nat.toDigits_append_toDigits (b := 10) (by decide) hread hlt
      rw [Nat.toDigits_of_lt_base hlt, digitChar_of_valueOf?_ten hc] at hdigits
      rw [← ih (by omega) h, ← hdigits]
      simp

/-- Digits without a leading zero are those of the number that they are read as. -/
theorem eq_toDigits_of_read? (h : read? 10 text = some value)
    (hzero : text.head? = some '0' → text.length ≤ 1) : text = Nat.toDigits 10 value := by
  cases text with
  | nil => simp [read?] at h
  | cons c text =>
    rw [read?, continue?] at h
    cases hc : valueOf? 10 c with
    | none => simp [hc] at h
    | some digit =>
      rw [hc] at h
      have hlt : digit < 10 := lt_of_valueOf? hc
      have hchar := digitChar_of_valueOf?_ten hc
      have hone : Nat.toDigits 10 digit = [c] := by rw [Nat.toDigits_of_lt_base hlt, hchar]
      rcases Nat.eq_zero_or_pos digit with rfl | hpos
      · obtain rfl : c = '0' := hchar.symm
        obtain rfl : text = [] := List.eq_nil_of_length_eq_zero (by simpa using hzero rfl)
        obtain rfl : 0 = value := by simpa [continue?] using h
        rfl
      · have hdigits := eq_toDigits_of_continue? (by omega) h
        simpa [hone] using hdigits

/-- Before the digits of the number that is read only zeros can stand. -/
theorem eq_zeros_append_toDigits_of_read? (h : read? 10 text = some value) :
    ∃ k, text = .replicate k '0' ++ Nat.toDigits 10 value := by
  induction text with
  | nil => simp [read?] at h
  | cons c text ih =>
    by_cases hzero : c = '0' ∧ text ≠ []
    · obtain ⟨rfl, hne⟩ := hzero
      obtain ⟨d, rest, rfl⟩ := List.exists_cons_of_ne_nil hne
      have hrest : read? 10 (d :: rest) = some value := h
      obtain ⟨k, hk⟩ := ih hrest
      exact ⟨k + 1, by rw [hk, List.replicate_succ, List.cons_append]⟩
    · refine ⟨0, eq_toDigits_of_read? h fun hhead => ?_⟩
      have hnil : text = [] := by
        by_contra hne
        exact hzero ⟨Option.some.inj hhead, hne⟩
      simp [hnil]

theorem head?_toDigits_ne_zero {n : Nat} (hn : 0 < n) : (Nat.toDigits 10 n).head? ≠ some '0' := by
  induction n using Nat.strong_induction_on with
  | _ n ih =>
    rw [Nat.toDigits_eq_if (by decide)]
    split
    case isTrue hlt =>
      intro h
      have hzero : n = 0 := Nat.digitChar_eq_zero.1 (Option.some.inj h)
      omega
    case isFalse hle =>
      have hfront := ih (n / 10) (by omega) (by omega)
      rwa [List.head?_append, Option.or_of_isSome (by simp [Nat.toDigits_ne_nil])]

/-- Only the digits of zero begin with a zero. -/
theorem toDigits_of_head?_zero {n : Nat} (h : (Nat.toDigits 10 n).head? = some '0') :
    Nat.toDigits 10 n = ['0'] := by
  rcases Nat.eq_zero_or_pos n with rfl | hpos
  · rfl
  · exact absurd h (head?_toDigits_ne_zero hpos)

/-! ### Bounded numbers -/

theorem read?_ten_eq_some_iff : read? 10 text = some value ↔
    text ≠ [] ∧ (∀ d ∈ text, d.isDigit) ∧ Nat.ofDigitChars 10 text 0 = value := by
  constructor
  · intro h
    have hne := ne_nil_of_read? h
    have hdigits : ∀ d ∈ text, d.isDigit := fun d hd => isSome_valueOf?_ten.1 (isSome_valueOf?_of_read? h d hd)
    rw [read?_ten hdigits hne] at h
    exact ⟨hne, hdigits, Option.some.inj h⟩
  · rintro ⟨hne, hdigits, rfl⟩
    exact read?_ten hdigits hne

/-- At most a plus stands before the digits. -/
theorem readAtMost?_eq_some_iff {greatest : Nat} :
    readAtMost? greatest text = some value ↔
      ∃ sign digits, (sign = [] ∨ sign = ['+']) ∧ text = sign ++ digits ∧ digits ≠ [] ∧
        (∀ d ∈ digits, d.isDigit) ∧ Nat.ofDigitChars 10 digits 0 = value ∧ value ≤ greatest := by
  constructor
  · intro h
    have hunsigned : ∃ sign digits, (sign = [] ∨ sign = ['+']) ∧ text = sign ++ digits ∧
        (read? 10 digits).bind (fun n => if n ≤ greatest then some n else none) = some value := by
      unfold readAtMost? at h
      split at h
      case h_1 rest => exact ⟨['+'], rest, .inr rfl, rfl, h⟩
      case h_2 => exact ⟨[], text, .inl rfl, rfl, h⟩
    obtain ⟨sign, digits, hsign, rfl, hread⟩ := hunsigned
    obtain ⟨n, hn, hle⟩ := Option.bind_eq_some_iff.1 hread
    split_ifs at hle with hn'
    obtain rfl := Option.some.inj hle
    obtain ⟨hne, hdigits, hvalue⟩ := read?_ten_eq_some_iff.1 hn
    exact ⟨sign, digits, hsign, rfl, hne, hdigits, hvalue, hn'⟩
  · rintro ⟨sign, digits, hsign, rfl, hne, hdigits, rfl, hle⟩
    have hplain := readAtMost?_digits hdigits hne greatest
    rw [if_pos hle] at hplain
    rcases hsign with rfl | rfl
    · exact hplain
    · show (read? 10 digits).bind _ = _
      rw [read?_ten hdigits hne]
      exact if_pos hle

/-! ### Signs -/

theorem splitSign_digits (h : ∀ d ∈ text, d.isDigit) : splitSign text = (false, text) := by
  unfold splitSign
  split
  case h_1 => exact absurd (h '+' (by simp)) (by decide)
  case h_2 => exact absurd (h '-' (by simp)) (by decide)
  case h_3 => rfl

theorem inInt64_toInt (word : Int64) : inInt64 word.toInt = true :=
  Bool.and_eq_true_iff.2 ⟨decide_eq_true word.minValue_le_toInt, decide_eq_true word.toInt_le⟩

theorem inInt64_iff {n : Int} : inInt64 n = true ↔ -2 ^ 63 ≤ n ∧ n < 2 ^ 63 := by
  have hmin : Int64.minValue.toInt = -2 ^ 63 := rfl
  have hmax : Int64.maxValue.toInt = 2 ^ 63 - 1 := rfl
  rw [inInt64, hmin, hmax, Bool.and_eq_true, decide_eq_true_eq, decide_eq_true_eq, Int.le_sub_one_iff]

end EventRules.Digits
