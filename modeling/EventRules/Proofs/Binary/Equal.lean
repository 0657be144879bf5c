import EventRules.Binary.Double
import Mathlib.Algebra.Group.Nat.Defs
import Mathlib.Tactic.SplitIfs

/-!
# Equal numbers

Doubles that are equal as numbers have one pattern, or are the two zeros (`Double.eq_or_zero`). In single
precision they are numbers of one rank (`Double.rank_toSingle`), which no comparison tells apart.
-/

namespace EventRules.Binary

namespace Format

variable {f : Format} {a b : Nat} {r : Int}

theorem exists_rank_of_equal (h : f.equal a b = true) : ∃ r, f.rank a = some r ∧ f.rank b = some r := by
  rw [equal] at h
  split at h
  next x y hx hy => exact ⟨x, hx, by rw [hy, eq_of_beq h]⟩
  next => cases h

/-- The sign of a pattern and its magnitude, which is the rank but for the sign. -/
theorem sign_of_rank (ha : a < f.signWeight * 2) (h : f.rank a = some r) :
    (a = a % f.signWeight ∧ r = (a % f.signWeight : Nat)) ∨
      (a = f.signWeight + a % f.signWeight ∧ r = -(a % f.signWeight : Nat)) := by
  have hsum := Nat.div_add_mod a f.signWeight
  have hsign := Nat.lt_succ_iff.1 (Nat.div_lt_of_lt_mul ha)
  rw [rank] at h
  rcases Nat.le_one_iff_eq_zero_or_eq_one.1 hsign with hzero | hone
  · simp only [hzero, Nat.mul_zero, Nat.zero_add] at h hsum
    split_ifs at h with _ hnegative
    · cases hnegative
    · exact .inl ⟨hsum.symm, (Option.some.inj h).symm⟩
  · simp only [hone, Nat.mul_one] at h hsum
    split_ifs at h with _ hnegative
    · exact .inr ⟨hsum.symm, (Option.some.inj h).symm⟩
    · exact absurd rfl hnegative

/-- Patterns of one rank are one pattern or have no magnitude. -/
theorem eq_or_zero_of_rank (ha : a < f.signWeight * 2) (hb : b < f.signWeight * 2)
    (hra : f.rank a = some r) (hrb : f.rank b = some r) :
    a = b ∨ a % f.signWeight = 0 ∧ b % f.signWeight = 0 := by
  rcases sign_of_rank ha hra with ⟨_, _⟩ | ⟨_, _⟩ <;>
    rcases sign_of_rank hb hrb with ⟨_, _⟩ | ⟨_, _⟩ <;> omega

end Format

namespace Double

theorem eq_zero_of_mod {x : Double} (h : x.bits.toNat % 2 ^ 63 = 0) : ∃ negative, x = zero negative := by
  have hlt : x.bits.toNat < 2 ^ 64 := x.bits.toNat_lt
  have hbits : x.bits.toNat = 0 ∨ x.bits.toNat = 2 ^ 63 := by omega
  obtain ⟨bits⟩ := x
  rcases hbits with hbits | hbits
  · exact ⟨false, congrArg mk (UInt64.toNat_inj.1 hbits)⟩
  · exact ⟨true, congrArg mk (UInt64.toNat_inj.1 hbits)⟩

theorem eq_or_zero {x y : Double} (h : x.equal y = true) :
    x = y ∨ (∃ negative, x = zero negative) ∧ ∃ negative, y = zero negative := by
  obtain ⟨r, hx, hy⟩ := Format.exists_rank_of_equal h
  rcases Format.eq_or_zero_of_rank x.bits.toNat_lt y.bits.toNat_lt hx hy with heq | ⟨hzx, hzy⟩
  · obtain ⟨bits⟩ := x
    obtain ⟨bits'⟩ := y
    exact .inl (congrArg mk (UInt64.toNat_inj.1 heq))
  · exact .inr ⟨eq_zero_of_mod hzx, eq_zero_of_mod hzy⟩

theorem rank_toSingle_zero (negative : Bool) :
    Format.single.rank (zero negative).toSingle.bits.toNat = some 0 := by
  cases negative <;> decide +kernel

/-- Equal numbers have one rank in single precision. -/
theorem rank_toSingle {x y : Double} (h : x.equal y = true) :
    Format.single.rank x.toSingle.bits.toNat = Format.single.rank y.toSingle.bits.toNat := by
  rcases eq_or_zero h with rfl | ⟨⟨negative, rfl⟩, negative', rfl⟩
  · rfl
  · rw [rank_toSingle_zero, rank_toSingle_zero]

end Double

namespace Single

variable {a x y : Single}

theorem equal_congr (h : Format.single.rank x.bits.toNat = Format.single.rank y.bits.toNat) (a : Single) :
    a.equal x = a.equal y ∧ x.equal a = y.equal a := by
  simp only [equal, Format.equal, h, and_self]

theorem less_congr (h : Format.single.rank x.bits.toNat = Format.single.rank y.bits.toNat) (a : Single) :
    a.less x = a.less y ∧ x.less a = y.less a := by
  simp only [less, Format.less, h, and_self]

end Single

end EventRules.Binary
