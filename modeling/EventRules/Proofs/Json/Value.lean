import EventRules.Json.Value
import EventRules.Proofs.Text.Digits
import Mathlib.Data.List.Induction
import Mathlib.Data.String.Basic

/-!
# The values of JSON texts

A text denotes a value whose objects have their members sorted by key, so that a key occurs once, and
whose integers fit into 64 bits, signed or not (`Json.formed_read?`). What is said of values below is
said of these.
-/

namespace EventRules.Json

/-- Every key is less than those after it. -/
def Sorted (members : List (String × Json)) : Prop :=
  members.Pairwise fun m m' => m.1 < m'.1

/-- An integer of 64 bits, signed or not. -/
def IsWord (n : Int) : Prop :=
  -2 ^ 63 ≤ n ∧ n < 2 ^ 64

instance (n : Int) : Decidable (IsWord n) :=
  inferInstanceAs (Decidable (_ ∧ _))

/-- A value as texts denote it. -/
inductive Formed : Json → Prop
  | null : Formed .null
  | bool (value : Bool) : Formed (.bool value)
  | integer {n : Int} (h : IsWord n) : Formed (.number (.integer n))
  | float (x : Binary.Double) : Formed (.number (.float x))
  | string (text : String) : Formed (.string text)
  | array {items : List Json} (h : ∀ item ∈ items, Formed item) : Formed (.array items)
  | object {members : List (String × Json)} (hsorted : Sorted members)
    (h : ∀ m ∈ members, Formed m.2) : Formed (.object members)

variable {members : List (String × Json)} {items : List Json} {key name : String} {value : Json}

theorem formed_array_iff : (Json.array items).Formed ↔ ∀ item ∈ items, item.Formed :=
  ⟨fun | .array h => h, .array⟩

theorem formed_object_iff : (Json.object members).Formed ↔ Sorted members ∧ ∀ m ∈ members, m.2.Formed :=
  ⟨fun | .object hsorted h => ⟨hsorted, h⟩, fun h => .object h.1 h.2⟩

theorem formed_singleton (h : value.Formed) : (Json.object [(key, value)]).Formed :=
  .object (List.pairwise_singleton _ _) (by simpa using h)

theorem formed_pair {key' : String} {value' : Json} (hlt : key < key') (h : value.Formed) (h' : value'.Formed) :
    (Json.object [(key, value), (key', value')]).Formed := by
  refine .object (List.pairwise_pair.2 hlt) fun m hm => ?_
  rcases List.mem_pair.1 hm with rfl | rfl
  · exact h
  · exact h'

/-! ### Members by key -/

theorem member?_cons (k : String) (v : Json) (members : List (String × Json)) :
    member? name ((k, v) :: members) = if name = k then some v else member? name members := by
  rw [member?, List.lookup_cons]
  by_cases hname : name = k
  · simp [hname]
  · simp [beq_false_of_ne hname, hname, member?]

/-- With sorted keys a key has the value of the one member that has it. -/
theorem member?_eq_some_iff (h : Sorted members) :
    member? key members = some value ↔ (key, value) ∈ members := by
  induction members with
  | nil => simp [member?]
  | cons m members ih =>
    obtain ⟨k, v⟩ := m
    obtain ⟨hlt, hrest⟩ := List.pairwise_cons.1 h
    rw [member?_cons, List.mem_cons, ← ih hrest]
    by_cases hk : key = k
    · subst hk
      have hnot : member? key members ≠ some value :=
        fun hmember => lt_irrefl key (hlt _ ((ih hrest).1 hmember))
      simp [hnot, eq_comm]
    · simp [hk]

theorem Formed.member (hobject : (Json.object members).Formed) (h : member? key members = some value) :
    value.Formed := by
  obtain ⟨hsorted, hmembers⟩ := formed_object_iff.1 hobject
  exact hmembers _ ((member?_eq_some_iff hsorted).1 h)

theorem Formed.item (harray : (Json.array items).Formed) {position : Nat} (h : items[position]? = some value) :
    value.Formed :=
  formed_array_iff.1 harray value (List.mem_of_getElem? h)

theorem mem_insertMember {m : String × Json} (h : m ∈ insertMember key value members) :
    m = (key, value) ∨ m ∈ members := by
  induction members with
  | nil => exact .inl (List.mem_singleton.1 h)
  | cons first members ih =>
    obtain ⟨k, v⟩ := first
    rw [insertMember] at h
    split at h
    · exact List.mem_cons.1 h
    split at h
    · exact (List.mem_cons.1 h).imp_right (List.mem_cons_of_mem _)
    · rcases List.mem_cons.1 h with rfl | h
      · exact .inr (List.mem_cons_self ..)
      · exact (ih h).imp_right (List.mem_cons_of_mem _)

theorem sorted_insertMember (h : Sorted members) : Sorted (insertMember key value members) := by
  induction members with
  | nil => exact List.pairwise_singleton _ _
  | cons first members ih =>
    obtain ⟨k, v⟩ := first
    obtain ⟨hlt, hrest⟩ := List.pairwise_cons.1 h
    rw [insertMember]
    split
    next hkey =>
      refine List.pairwise_cons.2 ⟨fun m hm => ?_, h⟩
      rcases List.mem_cons.1 hm with rfl | hm
      · exact hkey
      · exact hkey.trans (hlt m hm)
    split
    next heq => exact List.pairwise_cons.2 ⟨fun m hm => heq ▸ hlt m hm, hrest⟩
    next hkey hne =>
      refine List.pairwise_cons.2 ⟨fun m hm => ?_, ih hrest⟩
      rcases mem_insertMember hm with rfl | hm
      · exact lt_of_le_of_ne (not_lt.1 hkey) (Ne.symm hne)
      · exact hlt m hm

theorem member?_insertMember : member? name (insertMember key value members) =
    if name = key then some value else member? name members := by
  induction members with
  | nil => rw [insertMember, member?_cons]
  | cons first members ih =>
    obtain ⟨k, v⟩ := first
    rw [insertMember]
    split
    · rw [member?_cons]
    split
    next heq =>
      rw [member?_cons, member?_cons, heq]
      by_cases hname : name = k <;> simp [hname]
    next hne =>
      rw [member?_cons, member?_cons, ih]
      by_cases hname : name = k
      · have hkey : name ≠ key := fun heq => hne (heq.symm.trans hname)
        simp [← hname, hkey]
      · simp [hname]

/-- The sorted members that some members come to, put in one after the other. -/
def insertMembers (members : List (String × Json)) : List (String × Json) :=
  members.foldl (fun sorted (key, value) => insertMember key value sorted) []

theorem ofMembers_eq (members : List (String × Json)) : ofMembers members = .object (insertMembers members) := rfl

theorem insertMembers_append (members : List (String × Json)) (m : String × Json) :
    insertMembers (members ++ [m]) = insertMember m.1 m.2 (insertMembers members) := by
  rw [insertMembers, List.foldl_append]; rfl

theorem sorted_insertMembers (members : List (String × Json)) : Sorted (insertMembers members) := by
  induction members using List.reverseRecOn with
  | nil => exact .nil
  | append_singleton members m ih =>
    rw [insertMembers_append]
    exact sorted_insertMember ih

theorem mem_of_mem_insertMembers {m : String × Json} (h : m ∈ insertMembers members) : m ∈ members := by
  induction members using List.reverseRecOn with
  | nil => exact h
  | append_singleton members last ih =>
    rw [insertMembers_append] at h
    rcases mem_insertMember h with rfl | h
    · simp
    · simp [ih h]

/-- All members are kept if no key comes with two values. -/
theorem member?_insertMembers
    (h : ∀ key value value', (key, value) ∈ members → (key, value') ∈ members → value = value') :
    member? name (insertMembers members) = some value ↔ (name, value) ∈ members := by
  induction members using List.reverseRecOn with
  | nil => simp [insertMembers, member?]
  | append_singleton members last ih =>
    obtain ⟨key, v⟩ := last
    have ih := ih fun key value value' hm hm' =>
      h key value value' (List.mem_append_left _ hm) (List.mem_append_left _ hm')
    rw [insertMembers_append, member?_insertMember]
    split
    next heq =>
      subst heq
      constructor
      · rintro ⟨⟩
        simp
      · intro hmem
        rw [h name value v hmem (by simp)]
    next hne => simp [ih, hne]

/-! ### Values of texts -/

/-- A word fits into a signed one exactly if it is below half of the range of the unsigned ones. -/
theorem IsWord.inInt64_iff {n : Int} (h : IsWord n) : Digits.inInt64 n = true ↔ n < 2 ^ 63 := by
  rw [Digits.inInt64_iff, and_iff_right h.1]

theorem isWord_of_value? {text : NumberText} {n : Int} (h : text.value? = some (.integer n)) : IsWord n := by
  rw [NumberText.value?] at h
  split at h
  · cases h
  -- What does not fit is read as a float, so that each sign leaves the one case with its bound.
  next magnitude _ =>
    cases hnegative : text.negative <;> simp only [hnegative, if_true, Bool.false_eq_true, if_false] at h
    · split at h
      next hexact =>
        obtain rfl := Numeral.integer.inj (Option.some.inj h)
        have hlt := of_decide_eq_true (Bool.and_eq_true_iff.1 hexact).2
        have hsize : UInt64.size = 2 ^ 64 := rfl
        simp only [IsWord]
        omega
      next => obtain ⟨x, -, ⟨⟩⟩ := Option.map_eq_some_iff.1 h
    · split at h
      next hexact =>
        obtain rfl := Numeral.integer.inj (Option.some.inj h)
        have hin := Digits.inInt64_iff.1 (Bool.and_eq_true_iff.1 (Bool.and_eq_true_iff.1 hexact).2).2
        exact ⟨hin.1, by omega⟩
      next => obtain ⟨x, -, ⟨⟩⟩ := Option.map_eq_some_iff.1 h

theorem formed_ofMembers (h : ∀ m ∈ members, m.2.Formed) : (ofMembers members).Formed :=
  .object (sorted_insertMembers members) fun m hm => h m (mem_of_mem_insertMembers hm)

/-- What a tree denotes is formed. -/
theorem formed_denote? (t : Tree) : ∀ v, t.denote? = some v → v.Formed := by
  refine Tree.denote?.induct (fun t => ∀ v, t.denote? = some v → v.Formed)
    (fun members => ∀ ms, Tree.membersDenote? members = some ms → ∀ m ∈ ms, m.2.Formed)
    (fun items => ∀ vs, Tree.itemsDenote? items = some vs → ∀ v ∈ vs, v.Formed)
    ?null ?bool ?number ?string ?array ?object ?noItem ?item ?noItems ?noMember ?member ?noMembers t
  case null =>
    rintro v ⟨⟩
    exact .null
  case bool =>
    rintro value v ⟨⟩
    exact .bool value
  case number =>
    intro text v h
    obtain ⟨n | x, hn, rfl⟩ := Option.map_eq_some_iff.1 h
    · exact .integer (isWord_of_value? hn)
    · exact .float x
  case string =>
    intro text v h
    obtain ⟨text, -, rfl⟩ := Option.map_eq_some_iff.1 h
    exact .string text
  case array =>
    intro items ih v h
    obtain ⟨vs, hvs, rfl⟩ := Option.map_eq_some_iff.1 h
    exact .array (ih vs hvs)
  case object =>
    intro members ih v h
    obtain ⟨ms, hms, rfl⟩ := Option.map_eq_some_iff.1 h
    exact formed_ofMembers (ih ms hms)
  case noItem | noMember =>
    rintro _ ⟨⟩
    simp
  case item =>
    intro t rest value values hrest ht iht ihrest vs h
    rw [Tree.itemsDenote?, ht, hrest] at h
    obtain rfl := Option.some.inj h
    exact List.forall_mem_cons.2 ⟨iht value ht, ihrest values hrest⟩
  case noItems =>
    intro t rest hnone _ _ vs h
    rw [Tree.itemsDenote?] at h
    split at h
    next ht hrest => exact (hnone _ _ ht hrest).elim
    next => cases h
  case member =>
    intro t rest key value members hrest ht iht ihrest ms h
    simp only [Tree.membersDenote?, ht, hrest, Option.some.injEq] at h
    subst h
    exact List.forall_mem_cons.2 ⟨iht value ht, ihrest members hrest⟩
  case noMembers =>
    intro t rest key hnone _ _ ms h
    rw [Tree.membersDenote?] at h
    · cases h
    · exact hnone

theorem formed_read? {text : String} {v : Json} (h : Json.read? text = some v) : v.Formed := by
  obtain ⟨t, -, ht⟩ := Option.bind_eq_some_iff.1 h
  split at ht
  · exact formed_denote? t v ht
  · cases ht

end EventRules.Json
