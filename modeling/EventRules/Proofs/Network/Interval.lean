import EventRules.Proofs.Network.Block
import EventRules.Proofs.Network.Number

/-!
# Blocks as intervals

The bits past the prefix are the host bits of a block. Two addresses agree on the bits before them exactly
if their numbers give one quotient by two to the number of host bits, so a block is the interval of
addresses with the quotient of its network (`AddressBlock.contains_iff_quotient`). That it is an interval
whose ends are multiples of its size is why two blocks are nested or disjoint.
-/

namespace EventRules.AddressBlock

open Address

/-- The number of bits past the prefix. -/
def hostBits (block : AddressBlock) : Nat :=
  block.network.width - block.prefixLength

/-- The number of the network with its host bits cleared. -/
def start (block : AddressBlock) : Nat :=
  block.network.toNat >>> block.hostBits <<< block.hostBits

/-! ### Masks -/

variable {width length a b : Nat}

theorem getLsbD_mask (hle : length ≤ width) (i : Nat) :
    (mask width length).getLsbD i = decide (width - length ≤ i ∧ i < width) := by
  unfold mask
  split
  case isTrue hzero =>
    subst hzero
    simp
  case isFalse hpos =>
    rw [BitVec.getLsbD_shiftLeft, BitVec.getLsbD_allOnes, Bool.eq_iff_iff]
    simp only [Bool.and_eq_true, Bool.not_eq_true', decide_eq_true_eq, decide_eq_false_iff_not]
    omega

theorem agree_iff_testBit (hle : length ≤ width) : agree width length a b = true ↔
    ∀ i < length, a.testBit (width - 1 - i) = b.testBit (width - 1 - i) := by
  rw [agree, beq_iff_eq, BitVec.eq_of_getLsbD_eq_iff]
  simp only [BitVec.getLsbD_and, BitVec.getLsbD_ofNat, getLsbD_mask hle]
  constructor
  · intro h i hi
    have hbit := h (width - 1 - i) (by omega)
    have hin : width - 1 - i < width ∧ width - length ≤ width - 1 - i := by omega
    simpa [hin] using hbit
  · intro h i hi
    by_cases hhost : width - length ≤ i
    · have hbit := h (width - 1 - i) (by omega)
      rw [show width - 1 - (width - 1 - i) = i by omega] at hbit
      rw [hbit]
    · simp [hhost]

theorem testBit_iff_quotient (hle : length ≤ width) (ha : a < 2 ^ width) (hb : b < 2 ^ width) :
    (∀ i < length, a.testBit (width - 1 - i) = b.testBit (width - 1 - i)) ↔
      a / 2 ^ (width - length) = b / 2 ^ (width - length) := by
  -- The bits of the quotient are the first bits, counted from their other end.
  rw [← Nat.shiftRight_eq_div_pow, ← Nat.shiftRight_eq_div_pow]
  constructor
  · intro h
    refine Nat.eq_of_testBit_eq fun i => ?_
    rw [Nat.testBit_shiftRight, Nat.testBit_shiftRight]
    by_cases hi : i < length
    · have hbit := h (length - 1 - i) (by omega)
      rwa [show width - 1 - (length - 1 - i) = width - length + i by omega] at hbit
    · have hpow : 2 ^ width ≤ 2 ^ (width - length + i) := Nat.pow_le_pow_right (by decide) (by omega)
      rw [Nat.testBit_lt_two_pow (ha.trans_le hpow), Nat.testBit_lt_two_pow (hb.trans_le hpow)]
  · intro h i hi
    have hbit := congrArg (Nat.testBit · (length - 1 - i)) h
    simp only [Nat.testBit_shiftRight] at hbit
    rwa [show width - length + (length - 1 - i) = width - 1 - i by omega] at hbit

/-! ### Intervals -/

variable (block : AddressBlock) (address : Address)

theorem contains_eq : block.contains address = true ↔ address.isV4 = block.network.isV4 ∧
    agree block.network.width block.prefixLength address.toNat block.network.toNat = true := by
  unfold contains
  cases address <;> cases block.network <;> simp [isV4]

theorem contains_iff_quotient : block.contains address = true ↔ address.isV4 = block.network.isV4 ∧
    address.toNat / 2 ^ block.hostBits = block.network.toNat / 2 ^ block.hostBits := by
  rw [contains_eq]
  refine and_congr_right fun hfamily => ?_
  have hlt := toNat_lt address
  rw [width_eq, hfamily, ← width_eq] at hlt
  rw [agree_iff_testBit block.prefixLength_le, testBit_iff_quotient block.prefixLength_le hlt (toNat_lt _)]
  rfl

theorem start_eq : block.start = block.network.toNat / 2 ^ block.hostBits * 2 ^ block.hostBits := by
  rw [start, Nat.shiftLeft_eq, Nat.shiftRight_eq_div_pow]

theorem contains_iff_interval : block.contains address = true ↔ address.isV4 = block.network.isV4 ∧
    block.start ≤ address.toNat ∧ address.toNat < block.start + 2 ^ block.hostBits := by
  have hpos : 0 < 2 ^ block.hostBits := Nat.two_pow_pos _
  rw [contains_iff_quotient, Nat.div_eq_iff hpos, ← start_eq]
  refine and_congr_right fun _ => and_congr_right fun _ => ?_
  omega

/-- The interval does not reach past the last address. -/
theorem start_add_le : block.start + 2 ^ block.hostBits ≤ 2 ^ block.network.width := by
  have hwidth : block.network.width = block.prefixLength + block.hostBits := by
    have hle := block.prefixLength_le
    unfold hostBits; omega
  have hquotient : block.network.toNat / 2 ^ block.hostBits < 2 ^ block.prefixLength := by
    rw [Nat.div_lt_iff_lt_mul (Nat.two_pow_pos _), ← Nat.pow_add, ← hwidth]
    exact toNat_lt block.network
  calc block.start + 2 ^ block.hostBits
      = (block.network.toNat / 2 ^ block.hostBits + 1) * 2 ^ block.hostBits := by rw [start_eq]; ring
    _ ≤ 2 ^ block.prefixLength * 2 ^ block.hostBits := Nat.mul_le_mul_right _ hquotient
    _ = 2 ^ block.network.width := by rw [← Nat.pow_add, ← hwidth]

/-- Every number of the interval is that of one address of the family. -/
theorem exists_unique_address {n : Nat} (hlt : n < block.start + 2 ^ block.hostBits) :
    ∃! address : Address, address.isV4 = block.network.isV4 ∧ address.toNat = n := by
  obtain ⟨address, hfamily, hn⟩ := exists_toNat block.network (hlt.trans_le block.start_add_le)
  refine ⟨address, ⟨hfamily, hn⟩, fun other hother => ?_⟩
  exact toNat_inj (hother.1.trans hfamily.symm) (hother.2.trans hn.symm)

variable {block address}

/-- Of two blocks with an address in common, the one with the longer prefix lies within the other. -/
theorem contains_of_common {inner : AddressBlock} {common : Address}
    (hle : block.prefixLength ≤ inner.prefixLength) (hblock : block.contains common = true)
    (hinner : inner.contains common = true) (h : inner.contains address = true) :
    block.contains address = true := by
  obtain ⟨hfamily, hquotient⟩ := (contains_iff_quotient block common).1 hblock
  obtain ⟨hfamily', hquotient'⟩ := (contains_iff_quotient inner common).1 hinner
  obtain ⟨hfamily'', hquotient''⟩ := (contains_iff_quotient inner address).1 h
  have hwidth : block.network.width = inner.network.width := by
    rw [width_eq, width_eq, ← hfamily, ← hfamily']
  have hbits : block.hostBits = inner.hostBits + (inner.prefixLength - block.prefixLength) := by
    have := inner.prefixLength_le
    unfold hostBits; omega
  refine (contains_iff_quotient block address).2 ⟨by rw [hfamily'', ← hfamily', hfamily], ?_⟩
  rw [← hquotient, hbits, Nat.pow_add, ← Nat.div_div_eq_div_mul, ← Nat.div_div_eq_div_mul,
    hquotient'', hquotient']

/-- A block contains the addresses of its family that agree with the network on the bits of the prefix,
which are an interval; the mask is never shifted by the whole width. What the host bits of the network
are makes no difference, and blocks of one family are nested or disjoint. -/
theorem block_intervals :
    (∀ (block : AddressBlock) (address : Address),
      (block.contains address = true ↔ address.isV4 = block.network.isV4 ∧
        ∀ i < block.prefixLength, address.toNat.testBit (block.network.width - 1 - i) =
          block.network.toNat.testBit (block.network.width - 1 - i)) ∧
      (block.contains address = true ↔ address.isV4 = block.network.isV4 ∧
        block.start ≤ address.toNat ∧ address.toNat < block.start + 2 ^ block.hostBits)) ∧
    (∀ (block : AddressBlock) (n : Nat), block.start ≤ n → n < block.start + 2 ^ block.hostBits →
      ∃! address : Address, address.isV4 = block.network.isV4 ∧ address.toNat = n) ∧
    (∀ text block, read? text = some block → block.prefixLength ≤ block.network.width ∧
      (block.prefixLength ≠ 0 → block.network.width - block.prefixLength < block.network.width)) ∧
    (∀ block other : AddressBlock, block.network.isV4 = other.network.isV4 →
      block.prefixLength = other.prefixLength → block.start = other.start →
      ∀ address, block.contains address = other.contains address) ∧
    ∀ block other : AddressBlock, block.network.isV4 = other.network.isV4 →
      (∀ address, block.contains address = true → other.contains address = true) ∨
      (∀ address, other.contains address = true → block.contains address = true) ∨
      ∀ address, ¬ (block.contains address = true ∧ other.contains address = true) := by
  refine ⟨fun block address => ⟨?_, contains_iff_interval block address⟩,
    fun block n _ hlt => exists_unique_address block hlt, fun text block _ => ?_,
    fun block other hfamily hlength hstart address => ?_, fun block other hfamily => ?_⟩
  · rw [contains_eq, agree_iff_testBit block.prefixLength_le]
  · have hle := block.prefixLength_le
    exact ⟨hle, fun hpos => by omega⟩
  · have hbits : block.hostBits = other.hostBits := by
      rw [hostBits, hostBits, width_eq, width_eq, hfamily, hlength]
    rw [Bool.eq_iff_iff, contains_iff_interval, contains_iff_interval, hfamily, hstart, hbits]
  · by_cases hcommon : ∃ address, block.contains address = true ∧ other.contains address = true
    · obtain ⟨common, hblock, hother⟩ := hcommon
      rcases Nat.le_total block.prefixLength other.prefixLength with hle | hle
      · exact .inr (.inl fun _ h => contains_of_common hle hblock hother h)
      · exact .inl fun _ h => contains_of_common hle hother hblock h
    · exact .inr (.inr fun address h => hcommon ⟨address, h⟩)

/-- A block of the network 10.0.0.0/8, written with host bits. -/
def hostWritten : AddressBlock :=
  ⟨.v4 #v[10, 1, 2, 3], 8, by decide⟩

def hostCleared : AddressBlock :=
  ⟨.v4 #v[10, 0, 0, 0], 8, by decide⟩

theorem block_intervals_host :
    (read? "10.1.2.3/8".toList = some hostWritten ∧ hostWritten.prefixLength ≠ 0 ∧
      hostWritten.network.width - hostWritten.prefixLength < hostWritten.network.width) ∧
    (hostWritten.start = 10 * 2 ^ 24 ∧ ∃! address : Address, address.isV4 = true ∧ address.toNat = 10 * 2 ^ 24) ∧
    (∀ address, hostWritten.contains address = hostCleared.contains address) ∧
    ((∀ address, hostWritten.contains address = true → hostCleared.contains address = true) ∨
      (∀ address, hostCleared.contains address = true → hostWritten.contains address = true) ∨
      ∀ address, ¬ (hostWritten.contains address = true ∧ hostCleared.contains address = true)) := by
  obtain ⟨-, hunique, hshift, hhost, hnested⟩ := block_intervals
  have hread : read? "10.1.2.3/8".toList = some hostWritten := rfl
  have hstart : hostWritten.start = 10 * 2 ^ 24 := rfl
  refine ⟨⟨hread, by decide, (hshift _ _ hread).2 (by decide)⟩, ⟨hstart, ?_⟩,
    hhost hostWritten hostCleared rfl rfl rfl, hnested hostWritten hostCleared rfl⟩
  exact hunique hostWritten (10 * 2 ^ 24) hstart.le (by decide)

end EventRules.AddressBlock
