import EventRules.Network.Address
import Mathlib.Data.List.Induction
import Mathlib.Tactic.Ring

/-!
# Addresses as numbers

The addresses of a family are the numbers below two to its width, each of them once
(`Address.toNat_lt`, `Address.toNat_inj`, `Address.exists_toNat`).
-/

namespace EventRules.Address

/-- The family: whether the address is of version 4. -/
def isV4 : Address → Bool
  | v4 _ => true
  | v6 _ => false

theorem width_eq (a : Address) : a.width = if a.isV4 then 32 else 128 := by
  cases a <;> rfl

/-! ### Digits of a number -/

variable {base : Nat} {parts parts' : List Nat}

theorem ofParts_concat (parts : List Nat) (part : Nat) :
    ofParts base (parts ++ [part]) = ofParts base parts * base + part := by
  simp [ofParts]

theorem ofParts_lt (h : ∀ part ∈ parts, part < base) : ofParts base parts < base ^ parts.length := by
  induction parts using List.reverseRecOn with
  | nil => simp [ofParts]
  | append_singleton parts part ih =>
    have hpart : part < base := h part (by simp)
    have hparts : ofParts base parts + 1 ≤ base ^ parts.length := ih fun p hp => h p (by simp [hp])
    rw [ofParts_concat, List.length_append, List.length_singleton, Nat.pow_succ]
    calc ofParts base parts * base + part < ofParts base parts * base + base := by omega
      _ = (ofParts base parts + 1) * base := by ring
      _ ≤ base ^ parts.length * base := Nat.mul_le_mul_right base hparts

theorem ofParts_inj (h : ∀ part ∈ parts, part < base) (h' : ∀ part ∈ parts', part < base)
    (hlength : parts.length = parts'.length) (heq : ofParts base parts = ofParts base parts') :
    parts = parts' := by
  induction parts using List.reverseRecOn generalizing parts' with
  | nil => exact (List.eq_nil_of_length_eq_zero hlength.symm).symm
  | append_singleton parts part ih =>
    cases parts' using List.reverseRecOn with
    | nil => simp at hlength
    | append_singleton front last _ =>
      have hpart : part < base := h part (by simp)
      have hlast : last < base := h' last (by simp)
      rw [ofParts_concat, ofParts_concat] at heq
      have hmod := congrArg (· % base) heq
      have hdiv := congrArg (· / base) heq
      have hpos : 0 < base := by omega
      simp only [Nat.mul_add_mod_self_right, Nat.mod_eq_of_lt hpart, Nat.mod_eq_of_lt hlast] at hmod
      simp only [Nat.mul_comm _ base, Nat.mul_add_div hpos, Nat.div_eq_of_lt hpart,
        Nat.div_eq_of_lt hlast, Nat.add_zero] at hdiv
      have hlength' : parts.length = front.length := by simpa using hlength
      rw [hmod, ih (fun p hp => h p (by simp [hp])) (fun p hp => h' p (by simp [hp])) hlength' hdiv]

theorem exists_ofParts (base length : Nat) {n : Nat} (h : n < base ^ length) :
    ∃ parts, parts.length = length ∧ (∀ part ∈ parts, part < base) ∧ ofParts base parts = n := by
  induction length generalizing n with
  | zero =>
    obtain rfl : n = 0 := by simpa using h
    exact ⟨[], rfl, by simp, rfl⟩
  | succ length ih =>
    have hpos : 0 < base := by
      rcases Nat.eq_zero_or_pos base with rfl | hpos
      · simp at h
      · exact hpos
    rw [Nat.pow_succ] at h
    obtain ⟨parts, rfl, hparts, hn⟩ := ih ((Nat.div_lt_iff_lt_mul hpos).2 h)
    refine ⟨parts ++ [n % base], by simp, fun part hpart => ?_, ?_⟩
    · rcases List.mem_append.1 hpart with hpart | hpart
      · exact hparts part hpart
      · rw [List.mem_singleton.1 hpart]; exact Nat.mod_lt n hpos
    · rw [ofParts_concat, hn]; exact Nat.div_add_mod' n base

/-! ### Addresses -/

theorem octet_lt (octets : List UInt8) : ∀ part ∈ octets.map UInt8.toNat, part < 256 := by
  intro part hpart
  obtain ⟨octet, -, rfl⟩ := List.mem_map.1 hpart
  exact octet.toNat_lt_size

theorem group_lt (groups : List UInt16) : ∀ part ∈ groups.map UInt16.toNat, part < 65536 := by
  intro part hpart
  obtain ⟨group, -, rfl⟩ := List.mem_map.1 hpart
  exact group.toNat_lt_size

theorem toNat_lt (a : Address) : a.toNat < 2 ^ a.width := by
  cases a with
  | v4 octets =>
    have hlt := ofParts_lt (octet_lt octets.toList)
    rw [List.length_map, Vector.length_toList] at hlt
    exact hlt
  | v6 groups =>
    have hlt := ofParts_lt (group_lt groups.toList)
    rw [List.length_map, Vector.length_toList] at hlt
    exact hlt

theorem toNat_inj {a b : Address} (hfamily : a.isV4 = b.isV4) (h : a.toNat = b.toNat) : a = b := by
  cases a with
  | v4 octets =>
    cases b with
    | v4 octets' =>
      have hparts := ofParts_inj (octet_lt _) (octet_lt _) (by simp) h
      rw [List.map_inj_right fun _ _ => UInt8.toNat_inj.1, Vector.toList_inj] at hparts
      rw [hparts]
    | v6 groups' => simp [isV4] at hfamily
  | v6 groups =>
    cases b with
    | v4 octets' => simp [isV4] at hfamily
    | v6 groups' =>
      have hparts := ofParts_inj (group_lt _) (group_lt _) (by simp) h
      rw [List.map_inj_right fun _ _ => UInt16.toNat_inj.1, Vector.toList_inj] at hparts
      rw [hparts]

/-- Every number below two to the width is that of an address. -/
theorem exists_toNat (a : Address) {n : Nat} (h : n < 2 ^ a.width) :
    ∃ b : Address, b.isV4 = a.isV4 ∧ b.toNat = n := by
  cases a with
  | v4 octets =>
    obtain ⟨parts, hlength, hparts, rfl⟩ := exists_ofParts 256 4 h
    refine ⟨v4 ⟨(parts.map UInt8.ofNat).toArray, by simpa using hlength⟩, rfl, ?_⟩
    have hmap : (parts.map UInt8.ofNat).map UInt8.toNat = parts := by
      rw [List.map_map]
      conv_rhs => rw [← List.map_id parts]
      exact List.map_congr_left fun part hpart => UInt8.toNat_ofNat_of_lt (hparts part hpart)
    exact congrArg (ofParts 256) hmap
  | v6 groups =>
    obtain ⟨parts, hlength, hparts, rfl⟩ := exists_ofParts 65536 8 h
    refine ⟨v6 ⟨(parts.map UInt16.ofNat).toArray, by simpa using hlength⟩, rfl, ?_⟩
    have hmap : (parts.map UInt16.ofNat).map UInt16.toNat = parts := by
      rw [List.map_map]
      conv_rhs => rw [← List.map_id parts]
      exact List.map_congr_left fun part hpart => UInt16.toNat_ofNat_of_lt (hparts part hpart)
    exact congrArg (ofParts 65536) hmap

end EventRules.Address
