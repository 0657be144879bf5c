import EventRules.Proofs.Network.Octets

/-!
# The grammar of address texts

`Address.Spells` says which address a text spells: four octets, or eight groups, where one run of zero
groups may be left out and octets may stand for the last two. These are the texts that are read, each as
the address that it spells (`Address.read?_eq_some_iff`), and an address is shown as one of them
(`Address.spells_render`).
-/

namespace EventRules.Address

open Digits

/-- One to four hexadecimal digits. -/
structure SpellsGroup (text : List Char) (group : UInt16) : Prop where
  length_le : text.length ≤ 4
  read? : Digits.read? 16 text = some group.toNat

/-- Groups with a colon between any two; octets may stand for the last two. -/
inductive SpellsGroups : List Char → Groups → Prop
  | group {text : List Char} {group : UInt16} (h : SpellsGroup text group) :
    SpellsGroups text ⟨[group], false⟩
  | octets {octets : List UInt8} (h : octets.length = 4) :
    SpellsGroups (renderOctets octets) ⟨groupsOf octets, true⟩
  | cons {text rest : List Char} {group : UInt16} {more : Groups} (h : SpellsGroup text group)
    (hrest : SpellsGroups rest more) :
    SpellsGroups (text ++ ':' :: rest) ⟨group :: more.groups, more.endsInOctets⟩

/-- As `SpellsGroups`, or nothing at all. -/
def SpellsSome (text : List Char) (g : Groups) : Prop :=
  text = [] ∧ g = ⟨[], false⟩ ∨ SpellsGroups text g

/-- The text of a version 6 address, as its groups: all of them, or those before and after some zeros. -/
inductive SpellsV6 : List Char → List UInt16 → Prop
  | full {text : List Char} {g : Groups} (h : SpellsGroups text g) : SpellsV6 text g.groups
  | short {text text' : List Char} {front : List UInt16} {back : Groups} {zeros : Nat}
    (hfront : SpellsSome text ⟨front, false⟩) (hback : SpellsSome text' back) (hzeros : 0 < zeros) :
    SpellsV6 (text ++ ':' :: ':' :: text') (front ++ List.replicate zeros 0 ++ back.groups)

inductive Spells : List Char → Address → Prop
  | v4 (octets : Vector UInt8 4) : Spells (renderOctets octets.toList) (.v4 octets)
  | v6 {text : List Char} {groups : Vector UInt16 8} (h : SpellsV6 text groups.toList) :
    Spells text (.v6 groups)

/-! ### Groups -/

theorem readGroup_eq_some_iff {text rest : List Char} {group : UInt16} :
    readGroup text = some (group, rest) ↔
      ∃ used, text = used ++ rest ∧ SpellsGroup used group ∧ Stops 16 rest := by
  constructor
  · intro h
    obtain ⟨⟨digits, rest'⟩, hdigits, h⟩ := Option.bind_eq_some_iff.1 h
    obtain ⟨value, hvalue, h⟩ := Option.bind_eq_some_iff.1 h
    obtain ⟨rfl, rfl⟩ := Prod.mk.inj (Option.some.inj h)
    obtain ⟨rfl, -, hlength, -, hstops⟩ := readDigits_eq_some_iff.1 hdigits
    have hlt : value < 16 ^ 4 := (read?_lt hvalue).trans_le (Nat.pow_le_pow_right (by decide) hlength)
    have hvalue' : (UInt16.ofNat value).toNat = value := by
      rw [UInt16.toNat_ofNat']; omega
    exact ⟨digits, rfl, ⟨hlength, by rw [hvalue', hvalue]⟩, hstops⟩
  · rintro ⟨used, rfl, ⟨hlength, hvalue⟩, hstops⟩
    have hdigits : readDigits 16 4 (used ++ rest) = some (used, rest) :=
      readDigits_eq_some_iff.2 ⟨rfl, ne_nil_of_read? hvalue, hlength, isSome_valueOf?_of_read? hvalue,
        hstops⟩
    simp [readGroup, hdigits, hvalue]

/-- Octets begin with digits and a dot. -/
theorem readOctets_eq_none {digits rest : List Char} (hdigits : ∀ c ∈ digits, (valueOf? 16 c).isSome)
    (hrest : Stops 16 rest) (hdot : rest.head? ≠ some '.') : readOctets (digits ++ rest) = none := by
  cases h : readOctets (digits ++ rest) with
  | none => rfl
  | some p =>
    obtain ⟨octets, rest'⟩ := p
    obtain ⟨hlength, htext, -⟩ := readOctets_eq_some_iff.1 h
    obtain ⟨first, second, octets, rfl⟩ : ∃ a b os, octets = a :: b :: os := by
      match octets, hlength with
      | a :: b :: os, _ => exact ⟨a, b, os, rfl⟩
    rw [renderOctets_cons, renderMoreOctets_cons, List.append_assoc, List.cons_append] at htext
    have hfirst : ∀ c ∈ Nat.toDigits 10 first.toNat, (valueOf? 16 c).isSome := by
      intro c hc
      obtain ⟨n, hn⟩ := Option.isSome_iff_exists.1
        (isSome_valueOf?_of_mem_toDigits (by decide) (by decide) c hc)
      rw [valueOf?_mono hn (by decide)]; rfl
    have htake := congrArg (List.takeWhile fun c => (valueOf? 16 c).isSome) htext
    rw [takeWhile_append_of_stops hdigits hrest,
      takeWhile_append_of_stops hfirst (stops_mark (c := '.') (by decide) (by decide) _)] at htake
    rw [htake] at htext
    exact absurd (congrArg List.head? (List.append_cancel_left htext)) hdot

theorem readGroup_eq_none {rest : List Char} (h : Stops 16 rest) : readGroup rest = none := by
  cases hread : readGroup rest with
  | none => rfl
  | some p =>
    obtain ⟨group, rest'⟩ := p
    obtain ⟨used, rfl, hused, -⟩ := readGroup_eq_some_iff.1 hread
    obtain ⟨c, used, rfl⟩ := List.exists_cons_of_ne_nil (ne_nil_of_read? hused.read?)
    have hdigit := isSome_valueOf?_of_read? hused.read? c (by simp)
    rw [h c rfl] at hdigit
    simp at hdigit

/-- What stands before a group. -/
def lead (first : Bool) : List Char :=
  if first then [] else [':']

/-- Octets are tried first, if two groups still fit. -/
theorem readGroups_lead (limit : Nat) (first : Bool) (start : List Char) :
    readGroups (limit + 1) first (lead first ++ start) =
      match if limit = 0 then none else readOctets start with
      | some (octets, rest) => (⟨groupsOf octets, true⟩, rest)
      | none =>
        match readGroup start with
        | none => (⟨[], false⟩, lead first ++ start)
        | some (group, rest) =>
          let (more, rest) := readGroups limit false rest
          (⟨group :: more.groups, more.endsInOctets⟩, rest) := by
  cases first <;> rfl

theorem readGroups_succ_of_not_lead {limit : Nat} {first : Bool} {text : List Char}
    (h : ∀ start, text ≠ lead first ++ start) : readGroups (limit + 1) first text = (⟨[], false⟩, text) := by
  cases first with
  | true => exact absurd rfl (h text)
  | false =>
    have hnone : readChar ':' text = none := by
      cases hread : readChar ':' text with
      | none => rfl
      | some p => exact absurd (readChar_eq_some_iff.1 hread) (h p.2)
    simp [readGroups, hnone]

/-- Nothing that could go on a run of groups. -/
def Ends (rest : List Char) : Prop :=
  rest = [] ∨ ∃ more, rest = ':' :: ':' :: more

theorem Ends.stops {rest : List Char} (h : Ends rest) : Stops 16 rest := by
  rcases h with rfl | ⟨more, rfl⟩
  · exact stops_nil 16
  · exact stops_mark (by decide) (by decide) _

theorem readGroups_eq_nil {rest : List Char} (h : Ends rest) (limit : Nat) (first : Bool) :
    readGroups limit first rest = (⟨[], false⟩, rest) := by
  cases limit with
  | zero => rfl
  | succ limit =>
    have hnone {start : List Char} (hstart : Stops 16 start) (hdot : start.head? ≠ some '.')
        (hlead : rest = lead first ++ start) : readGroups (limit + 1) first rest = (⟨[], false⟩, rest) := by
      have hoctets : readOctets ([] ++ start) = none := readOctets_eq_none (by simp) hstart hdot
      rw [List.nil_append] at hoctets
      rw [hlead, readGroups_lead, hoctets, readGroup_eq_none hstart]
      simp
    rcases h with rfl | ⟨more, rfl⟩
    · cases first with
      | true => exact hnone (stops_nil 16) (by simp) rfl
      | false => rfl
    · cases first with
      | true => exact hnone (stops_mark (by decide) (by decide) _) (by simp) rfl
      | false => exact hnone (stops_mark (by decide) (by decide) more) (by simp) rfl

theorem exists_groupsOf {octets : List UInt8} (h : octets.length = 4) :
    ∃ high low, groupsOf octets = [high, low] := by
  match octets, h with
  | [a, b, c, d], _ => exact ⟨_, _, rfl⟩

theorem readGroups_of_group {limit : Nat} {first : Bool} {start rest rest' : List Char} {group : UInt16}
    {more : Groups} (hoctets : readOctets start = none) (hgroup : readGroup start = some (group, rest))
    (hmore : readGroups limit false rest = (more, rest')) :
    readGroups (limit + 1) first (lead first ++ start) =
      (⟨group :: more.groups, more.endsInOctets⟩, rest') := by
  rw [readGroups_lead, hoctets, hgroup]
  simp [hmore]

theorem readGroups_of_spells {text rest : List Char} {g : Groups} (h : SpellsGroups text g)
    (hrest : Ends rest) {limit : Nat} (hlimit : g.groups.length ≤ limit) (first : Bool) :
    readGroups limit first (lead first ++ (text ++ rest)) = (g, rest) := by
  -- A group is read where octets could stand too: no dot follows it.
  have hnone {text next : List Char} {group : UInt16} (h : SpellsGroup text group) (hnext : Stops 16 next)
      (hdot : next.head? ≠ some '.') : readOctets (text ++ next) = none :=
    readOctets_eq_none (isSome_valueOf?_of_read? h.read?) hnext hdot
  induction h generalizing limit first with
  | @group text group h =>
    obtain ⟨limit, rfl⟩ : ∃ n, limit = n + 1 := Nat.exists_eq_add_one.2 hlimit
    have hdot : rest.head? ≠ some '.' := by
      rcases hrest with rfl | ⟨more, rfl⟩ <;> simp
    have hgroup := readGroup_eq_some_iff.2 ⟨text, rfl, h, hrest.stops⟩
    exact readGroups_of_group (hnone h hrest.stops hdot) hgroup (readGroups_eq_nil hrest limit false)
  | @octets octets hlength =>
    obtain ⟨high, low, hgroups⟩ := exists_groupsOf hlength
    have htwo : 2 ≤ limit := by simpa [hgroups] using hlimit
    obtain ⟨limit, rfl⟩ := Nat.exists_eq_add_of_le' htwo
    have hstops : Stops 10 rest := hrest.stops.mono (by decide)
    rw [readGroups_lead, if_neg (by omega), readOctets_eq_some_iff.2 ⟨hlength, rfl, hstops⟩]
  | @cons text used group more h hmore ih =>
    obtain ⟨limit, rfl⟩ : ∃ n, limit = n + 1 := Nat.exists_eq_add_one.2 (Nat.zero_lt_of_lt hlimit)
    have hle : more.groups.length ≤ limit := by simpa using hlimit
    have hnext := ih hle false
    have hstops : Stops 16 (':' :: (used ++ rest)) := stops_mark (by decide) (by decide) _
    have hgroup := readGroup_eq_some_iff.2 ⟨text, rfl, h, hstops⟩
    rw [List.append_assoc, List.cons_append]
    exact readGroups_of_group (hnone h hstops (by simp)) hgroup hnext

theorem spells_of_readGroups {limit : Nat} {first : Bool} {text rest : List Char} {g : Groups}
    (h : readGroups limit first text = (g, rest)) :
    g = ⟨[], false⟩ ∧ rest = text ∨
      ∃ used, SpellsGroups used g ∧ text = lead first ++ (used ++ rest) ∧ g.groups.length ≤ limit := by
  induction limit generalizing first text rest g with
  | zero =>
    obtain ⟨rfl, rfl⟩ := Prod.mk.inj h
    exact .inl ⟨rfl, rfl⟩
  | succ limit ih =>
    by_cases hlead : ∃ start, text = lead first ++ start
    · obtain ⟨start, rfl⟩ := hlead
      rw [readGroups_lead] at h
      split at h
      case h_1 octets rest' hoctets =>
        split_ifs at hoctets with hlimit
        obtain ⟨hlength, rfl, -⟩ := readOctets_eq_some_iff.1 hoctets
        obtain ⟨rfl, rfl⟩ := Prod.mk.inj h
        obtain ⟨high, low, hgroups⟩ := exists_groupsOf hlength
        exact .inr ⟨_, .octets hlength, rfl, by simp [hgroups]; omega⟩
      case h_2 hoctets =>
        split at h
        case h_1 hgroup =>
          obtain ⟨rfl, rfl⟩ := Prod.mk.inj h
          exact .inl ⟨rfl, rfl⟩
        case h_2 group rest' hgroup =>
          obtain ⟨used, rfl, hused, -⟩ := readGroup_eq_some_iff.1 hgroup
          rcases hread : readGroups limit false rest' with ⟨more, rest''⟩
          rw [hread] at h
          obtain ⟨rfl, rfl⟩ := Prod.mk.inj h
          rcases ih hread with ⟨rfl, rfl⟩ | ⟨more', hmore, rfl, hlength⟩
          · exact .inr ⟨used, .group hused, rfl, by simp⟩
          · exact .inr ⟨used ++ ':' :: more', .cons hused hmore, by simp [lead], by simpa using hlength⟩
    · rw [readGroups_succ_of_not_lead (not_exists.1 hlead)] at h
      obtain ⟨rfl, rfl⟩ := Prod.mk.inj h
      exact .inl ⟨rfl, rfl⟩

/-! ### Whole texts -/

theorem ofGroups?_eq_some_iff {groups : List UInt16} {a : Address} :
    ofGroups? groups = some a ↔ ∃ v : Vector UInt16 8, v.toList = groups ∧ .v6 v = a := by
  unfold ofGroups?
  constructor
  · intro h
    split_ifs at h with hlength
    exact ⟨_, rfl, Option.some.inj h⟩
  · rintro ⟨v, rfl, rfl⟩
    simp [Vector.toList]

theorem SpellsSome.readGroups {text rest : List Char} {g : Groups} (h : SpellsSome text g)
    (hrest : Ends rest) {limit : Nat} (hlimit : g.groups.length ≤ limit) :
    readGroups limit true (text ++ rest) = (g, rest) := by
  rcases h with ⟨rfl, rfl⟩ | h
  · exact readGroups_eq_nil hrest limit true
  · exact readGroups_of_spells h hrest hlimit true

theorem spellsSome_of_readGroups {limit : Nat} {text rest : List Char} {g : Groups}
    (h : Address.readGroups limit true text = (g, rest)) :
    ∃ used, SpellsSome used g ∧ text = used ++ rest ∧ g.groups.length ≤ limit := by
  rcases spells_of_readGroups h with ⟨rfl, rfl⟩ | ⟨used, hused, rfl, hlength⟩
  · exact ⟨[], .inl ⟨rfl, rfl⟩, rfl, by simp⟩
  · exact ⟨used, .inr hused, rfl, hlength⟩

theorem spellsV6_of_readV6? {text : List Char} {a : Address} (h : readV6? text = some a) :
    ∃ groups : Vector UInt16 8, SpellsV6 text groups.toList ∧ a = .v6 groups := by
  unfold readV6? at h
  rcases hfront : readGroups 8 true text with ⟨⟨front, endsInOctets⟩, rest⟩
  obtain ⟨used, hused, rfl, hlength⟩ := spellsSome_of_readGroups hfront
  rw [hfront] at h
  simp only at h
  split_ifs at h with height hempty hoctets
  · obtain ⟨v, hv, rfl⟩ := ofGroups?_eq_some_iff.1 h
    obtain rfl : rest = [] := by simpa using hempty
    have hfull : SpellsGroups used ⟨front, endsInOctets⟩ := by
      rcases hused with ⟨-, hnone⟩ | hused
      · obtain ⟨rfl, -⟩ := Groups.mk.inj hnone
        simp at height
      · exact hused
    exact ⟨v, by rw [hv, List.append_nil]; exact .full hfull, rfl⟩
  · obtain rfl : endsInOctets = false := by simpa using hoctets
    split at h
    case h_2 => simp at h
    case h_1 rest =>
      rcases hback : readGroups (7 - front.length) true rest with ⟨back, rest'⟩
      obtain ⟨used', hused', rfl, hlength'⟩ := spellsSome_of_readGroups hback
      rw [hback] at h
      cases rest' with
      | cons c rest' => simp at h
      | nil =>
        obtain ⟨v, hv, rfl⟩ := ofGroups?_eq_some_iff.1 h
        simp only at hlength height
        refine ⟨v, ?_, rfl⟩
        rw [hv, List.append_nil]
        exact .short hused hused' (by omega)

theorem readV6?_of_spellsV6 {text : List Char} {groups : Vector UInt16 8}
    (hspells : SpellsV6 text groups.toList) : readV6? text = some (.v6 groups) := by
  have height : groups.toList.length = 8 := by simp
  have hgroups : ofGroups? groups.toList = some (.v6 groups) := ofGroups?_eq_some_iff.2 ⟨groups, rfl, rfl⟩
  generalize groups.toList = gs at hspells height hgroups
  unfold readV6?
  cases hspells with
  | @full text g h =>
    have hle : g.groups.length ≤ 8 := by omega
    have hread := readGroups_of_spells h (.inl rfl) hle true
    rw [lead, if_pos rfl, List.nil_append, List.append_nil] at hread
    simp [hread, height, hgroups]
  | @short text text' front back zeros hfront hback hzeros =>
    have hsum : front.length + zeros + back.groups.length = 8 := by simpa [Nat.add_assoc] using height
    have hle : front.length ≤ 8 := by omega
    have hle' : back.groups.length ≤ 7 - front.length := by omega
    have hread := hfront.readGroups (.inr ⟨text', rfl⟩) hle
    have hread' := hback.readGroups (.inl rfl) hle'
    rw [List.append_nil] at hread'
    have hfront_ne : front.length ≠ 8 := by omega
    have hzeros' : 8 - front.length - back.groups.length = zeros := by omega
    rw [hread]
    simp [hfront_ne, hread', hzeros', ← hgroups]

theorem readV6?_eq_some_iff {text : List Char} {a : Address} :
    readV6? text = some a ↔ ∃ groups : Vector UInt16 8, SpellsV6 text groups.toList ∧ a = .v6 groups := by
  constructor
  · exact spellsV6_of_readV6?
  · rintro ⟨groups, hspells, rfl⟩
    exact readV6?_of_spellsV6 hspells

/-! ### The characters of addresses -/

def IsAddressChar (c : Char) : Prop :=
  (valueOf? 16 c).isSome ∨ c = '.' ∨ c = ':'

theorem isAddressChar_of_mem_renderOctets {octets : List UInt8} {c : Char} (h : c ∈ renderOctets octets) :
    IsAddressChar c := by
  rcases mem_renderOctets h with hc | rfl
  · obtain ⟨n, hn⟩ := Option.isSome_iff_exists.1 hc
    exact .inl (by rw [valueOf?_mono hn (by decide)]; rfl)
  · exact .inr (.inl rfl)

theorem SpellsGroup.isAddressChar {text : List Char} {group : UInt16} (h : SpellsGroup text group) :
    ∀ c ∈ text, IsAddressChar c :=
  fun c hc => .inl (isSome_valueOf?_of_read? h.read? c hc)

theorem SpellsGroups.isAddressChar {text : List Char} {g : Groups} (h : SpellsGroups text g) :
    ∀ c ∈ text, IsAddressChar c := by
  induction h with
  | group h => exact h.isAddressChar
  | octets h => exact fun c hc => isAddressChar_of_mem_renderOctets hc
  | cons h _ ih =>
    exact List.forall_mem_append.2 ⟨h.isAddressChar, List.forall_mem_cons.2 ⟨.inr (.inr rfl), ih⟩⟩

theorem SpellsSome.isAddressChar {text : List Char} {g : Groups} (h : SpellsSome text g) :
    ∀ c ∈ text, IsAddressChar c := by
  rcases h with ⟨rfl, -⟩ | h
  · simp
  · exact h.isAddressChar

theorem SpellsV6.isAddressChar {text : List Char} {groups : List UInt16} (h : SpellsV6 text groups) :
    ∀ c ∈ text, IsAddressChar c := by
  cases h with
  | full h => exact h.isAddressChar
  | short hfront hback _ =>
    have hcolon : IsAddressChar ':' := .inr (.inr rfl)
    exact List.forall_mem_append.2 ⟨hfront.isAddressChar,
      List.forall_mem_cons.2 ⟨hcolon, List.forall_mem_cons.2 ⟨hcolon, hback.isAddressChar⟩⟩⟩

theorem Spells.isAddressChar {text : List Char} {a : Address} (h : Spells text a) :
    ∀ c ∈ text, IsAddressChar c := by
  cases h with
  | v4 octets => exact fun c hc => isAddressChar_of_mem_renderOctets hc
  | v6 h => exact h.isAddressChar

theorem SpellsGroups.colon_mem {text : List Char} {g : Groups} (h : SpellsGroups text g)
    (hlength : 2 < g.groups.length) : ':' ∈ text := by
  cases h with
  | group h => simp at hlength
  | octets h =>
    obtain ⟨high, low, hgroups⟩ := exists_groupsOf h
    simp [hgroups] at hlength
  | cons h hrest => simp

theorem SpellsV6.colon_mem {text : List Char} {groups : List UInt16} (h : SpellsV6 text groups)
    (hlength : groups.length = 8) : ':' ∈ text := by
  cases h with
  | full h => exact h.colon_mem (by omega)
  | short hfront hback hzeros => simp

/-- The texts that are read are those of the grammar; each spells one address. -/
theorem read?_eq_some_iff {text : List Char} {a : Address} : read? text = some a ↔ Spells text a := by
  rw [read?, Option.or_eq_some_iff]
  constructor
  · rintro (h | ⟨-, h⟩)
    · obtain ⟨octets, rfl, rfl⟩ := readV4?_eq_some_iff.1 h
      exact .v4 octets
    · obtain ⟨groups, hspells, rfl⟩ := readV6?_eq_some_iff.1 h
      exact .v6 hspells
  · intro h
    cases h with
    | v4 octets => exact .inl (readV4?_eq_some_iff.2 ⟨octets, rfl, rfl⟩)
    | @v6 text groups h =>
      refine .inr ⟨?_, readV6?_eq_some_iff.2 ⟨groups, h, rfl⟩⟩
      cases hv4 : readV4? text with
      | none => rfl
      | some b =>
        obtain ⟨octets, rfl, -⟩ := readV4?_eq_some_iff.1 hv4
        exact absurd (h.colon_mem (by simp)) (colon_not_mem_renderOctets _)

/-! ### Shown addresses -/

theorem spellsGroup_toDigits (group : UInt16) : SpellsGroup (Nat.toDigits 16 group.toNat) group := by
  have hlt : group.toNat < 65536 := group.toNat_lt_size
  exact ⟨(Nat.length_toDigits_le_iff (by decide) (by decide)).2 (by omega),
    read?_toDigits (by decide) (by decide) _⟩

theorem spellsSome_renderGroups (groups : List UInt16) : SpellsSome (renderGroups groups) ⟨groups, false⟩ := by
  match groups with
  | [] => exact .inl ⟨rfl, rfl⟩
  | group :: groups =>
    refine .inr ?_
    induction groups generalizing group with
    | nil => exact .group (spellsGroup_toDigits group)
    | cons next groups ih =>
      exact SpellsGroups.cons (spellsGroup_toDigits group) (ih next)

/-- The run that is found consists of zeros. -/
theorem exists_longestZeros (groups : List UInt16) : ∃ front back,
    groups = front ++ List.replicate (longestZeros groups).2 0 ++ back ∧
      front.length = (longestZeros groups).1 := by
  induction groups with
  | nil => exact ⟨[], [], rfl, rfl⟩
  | cons group rest ih =>
    obtain ⟨front, back, hrest, hlength⟩ := ih
    simp only [longestZeros]
    split_ifs with hlonger
    · refine ⟨[], (group :: rest).dropWhile (· == 0), ?_, rfl⟩
      have hzeros : (group :: rest).takeWhile (· == 0) = List.replicate (leadingZeros (group :: rest)) 0 :=
        List.eq_replicate_iff.2 ⟨rfl, fun g hg => by simpa using List.mem_takeWhile_imp hg⟩
      rw [List.nil_append, ← hzeros, List.takeWhile_append_dropWhile]
    · exact ⟨group :: front, back, by rw [List.cons_append, List.cons_append, ← hrest], by simp [hlength]⟩

theorem groupsOf_octetsOf (g h : UInt16) : groupsOf (octetsOf g ++ octetsOf h) = [g, h] := by
  have hgroup (n : UInt16) : groupOf (.ofNat (n.toNat / 256)) (.ofNat (n.toNat % 256)) = n := by
    have hlt : n.toNat < 65536 := n.toNat_lt_size
    apply UInt16.toNat_inj.1
    rw [groupOf, UInt16.toNat_ofNat', UInt8.toNat_ofNat', UInt8.toNat_ofNat']
    omega
  show [groupOf _ _, groupOf _ _] = [g, h]
  rw [hgroup, hgroup]

theorem spellsV6_renderV6 {groups : List UInt16} (h : groups.length = 8) :
    SpellsV6 (renderV6 groups) groups := by
  unfold renderV6
  split
  case h_1 high low =>
    have hoctets : SpellsGroups (renderOctets (octetsOf high ++ octetsOf low))
        ⟨groupsOf (octetsOf high ++ octetsOf low), true⟩ := .octets rfl
    have hmapped : SpellsGroup "ffff".toList 0xFFFF := ⟨by decide, by decide⟩
    have hback := SpellsGroups.cons hmapped hoctets
    rw [groupsOf_octetsOf] at hback
    have hzeros : 0 < 5 := by decide
    exact .short (.inl ⟨rfl, rfl⟩) (.inr hback) hzeros
  case h_2 =>
    have hrun := exists_longestZeros groups
    generalize longestZeros groups = run at hrun ⊢
    obtain ⟨start, zeros⟩ := run
    simp only at hrun ⊢
    split_ifs with hlong
    · obtain ⟨front, back, rfl, rfl⟩ := hrun
      have hdrop : (front ++ List.replicate zeros 0 ++ back).drop (front.length + zeros) = back :=
        List.drop_left' (by simp)
      rw [hdrop, List.append_assoc, List.take_left, ← List.append_assoc]
      exact .short (spellsSome_renderGroups front) (spellsSome_renderGroups back) (by omega)
    · rcases spellsSome_renderGroups groups with ⟨-, hnone⟩ | hfull
      · obtain ⟨rfl, -⟩ := Groups.mk.inj hnone
        simp at h
      · exact .full hfull

theorem spells_render (a : Address) : Spells a.render a := by
  cases a with
  | v4 octets => exact .v4 octets
  | v6 groups => exact .v6 (spellsV6_renderV6 (by simp))

end EventRules.Address
