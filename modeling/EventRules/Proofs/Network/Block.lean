import EventRules.Network.Block
import EventRules.Proofs.Network.AddressText
import EventRules.Proofs.Text.Trim

/-!
# The grammar of address blocks

A block is written as an address, or as an address, a slash and the number of bits that count, with or
without a plus and leading zeros. The network is the address as it is written, and without a number all
bits count. What is read, white space around it aside, is what is written so, and a block is read from
the text that it is shown as (`AddressBlock.read?_grammar`).
-/

namespace EventRules.AddressBlock

/-- The text denotes the block. -/
inductive Spells : List Char → AddressBlock → Prop
  | address {text : List Char} {network : Address} (h : network.Spells text) :
    Spells text ⟨network, network.width, le_rfl⟩
  | withLength {text sign digits : List Char} {network : Address} {length : Nat}
    (h : network.Spells text) (hsign : sign = [] ∨ sign = ['+']) (hne : digits ≠ [])
    (hdigits : ∀ d ∈ digits, d.isDigit) (hlength : Nat.ofDigitChars 10 digits 0 = length)
    (hle : length ≤ network.width) :
    Spells (text ++ '/' :: (sign ++ digits)) ⟨network, length, hle⟩

theorem of?_eq_some_iff {network : Address} {length : Nat} {block : AddressBlock} :
    of? network length = some block ↔ ∃ h : length ≤ network.width, ⟨network, length, h⟩ = block := by
  unfold of?
  constructor
  · intro h
    split_ifs at h with hle
    exact ⟨hle, Option.some.inj h⟩
  · rintro ⟨hle, rfl⟩
    exact dif_pos hle

theorem width_le (a : Address) : a.width ≤ 128 := by
  cases a <;> simp [Address.width]

/-- An address ends before the first slash. -/
theorem slash_not_mem {text : List Char} {network : Address} (h : network.Spells text) : '/' ∉ text := by
  intro hmem
  rcases h.isAddressChar '/' hmem with hdigit | hmark | hmark
  · rw [Address.valueOf?_mark (by decide) (by decide)] at hdigit
    simp at hdigit
  · simp at hmark
  · simp at hmark

theorem read?_eq_some_iff {text : List Char} {block : AddressBlock} :
    read? text = some block ↔ Spells (Text.trim text) block := by
  unfold read?
  generalize Text.trim text = text
  constructor
  · intro h
    cases hcut : Text.cut? '/' text with
    | none =>
      rw [hcut] at h
      obtain ⟨network, hnetwork, hblock⟩ := Option.bind_eq_some_iff.1 h
      obtain ⟨-, rfl⟩ := of?_eq_some_iff.1 hblock
      exact .address (Address.read?_eq_some_iff.1 hnetwork)
    | some parts =>
      obtain ⟨address, length⟩ := parts
      rw [hcut] at h
      obtain ⟨rfl, -⟩ := Text.cut?_eq_some_iff.1 hcut
      obtain ⟨network, hnetwork, h⟩ := Option.bind_eq_some_iff.1 h
      obtain ⟨value, hvalue, hblock⟩ := Option.bind_eq_some_iff.1 h
      obtain ⟨hle, rfl⟩ := of?_eq_some_iff.1 hblock
      obtain ⟨sign, digits, hsign, rfl, hne, hdigits, hvalue, -⟩ := Digits.readAtMost?_eq_some_iff.1 hvalue
      exact .withLength (Address.read?_eq_some_iff.1 hnetwork) hsign hne hdigits hvalue hle
  · intro h
    cases h with
    | address h =>
      rw [Text.cut?_eq_none_iff.2 (slash_not_mem h)]
      simp only [Address.read?_eq_some_iff.2 h, Option.bind_some]
      exact of?_eq_some_iff.2 ⟨le_rfl, rfl⟩
    | @withLength address sign digits network length h hsign hne hdigits hlength hle =>
      have hcut : Text.cut? '/' (address ++ '/' :: (sign ++ digits)) = some (address, sign ++ digits) :=
        Text.cut?_eq_some_iff.2 ⟨rfl, slash_not_mem h⟩
      have hread : Digits.readAtMost? 255 (sign ++ digits) = some length :=
        Digits.readAtMost?_eq_some_iff.2 ⟨sign, digits, hsign, rfl, hne, hdigits, hlength,
          hle.trans ((width_le network).trans (by decide))⟩
      rw [hcut]
      simp only [Address.read?_eq_some_iff.2 h, Option.bind_some, hread]
      exact of?_eq_some_iff.2 ⟨hle, rfl⟩

theorem spells_render (block : AddressBlock) : Spells block.render block :=
  .withLength (Address.spells_render block.network) (.inl rfl) Nat.toDigits_ne_nil
    Digits.isDigit_of_mem_toDigits Nat.ofDigitChars_ten_toDigits block.prefixLength_le

theorem not_isBlank_of_isAddressChar {c : Char} (h : Address.IsAddressChar c) : Text.isBlank c = false := by
  rcases h with hdigit | rfl | rfl
  · have hrange := Digits.toNat_of_valueOf? (by decide) hdigit
    exact Text.not_isBlank (by omega) (by omega)
  · exact Text.not_isBlank (by decide) (by decide)
  · exact Text.not_isBlank (by decide) (by decide)

theorem Spells.not_isBlank {text : List Char} {block : AddressBlock} (h : Spells text block) :
    ∀ c ∈ text, Text.isBlank c = false := by
  cases h with
  | address h => exact fun c hc => not_isBlank_of_isAddressChar (h.isAddressChar c hc)
  | @withLength address sign digits network length h hsign hne hdigits hlength hle =>
    intro c hc
    rcases List.mem_append.1 hc with hc | hc
    · exact not_isBlank_of_isAddressChar (h.isAddressChar c hc)
    rcases List.mem_cons.1 hc with rfl | hc
    · exact Text.not_isBlank (by decide) (by decide)
    rcases List.mem_append.1 hc with hc | hc
    · have hplus : c = '+' := by
        rcases hsign with rfl | rfl
        · simp at hc
        · simpa using hc
      exact hplus ▸ Text.not_isBlank (by decide) (by decide)
    · exact Text.not_isBlank_of_isDigit (hdigits c hc)

/-- White space around it aside, what is read is what spells a block, and what a block is shown as is
read as the block. -/
theorem read?_grammar :
    (∀ text block, read? text = some block ↔ Spells (Text.trim text) block) ∧
      ∀ block : AddressBlock, read? block.render = some block := by
  refine ⟨fun text block => read?_eq_some_iff, fun block => ?_⟩
  have hspells := spells_render block
  rw [read?_eq_some_iff, Text.trim_of_not_blank hspells.not_isBlank]
  exact hspells

end EventRules.AddressBlock
