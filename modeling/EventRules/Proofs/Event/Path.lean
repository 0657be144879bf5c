import EventRules.Event.Json
import EventRules.Proofs.Json.Value
import EventRules.Proofs.Text.Trim
import Mathlib.Tactic.SplitIfs

/-!
# Paths into an event

The parts of a name lead from a value along a path: a part is a key where an object is met, and where an
array is met before the name ends any of its items may be chosen (`Json.Leads`). A field is the member of
the root with the whole name, or else what the first of the paths leads to, in the order of the positions
chosen (`Json.lookup_first`).
-/

namespace EventRules.Json

/-- The keys lead from a value along the path to another one. -/
inductive Leads : Json → List String → List Step → Json → Prop
  | here (value : Json) : Leads value [] [] value
  | key {members : List (String × Json)} {key : String} {value found : Json} {rest : List String}
    {path : List Step} (hmember : member? key members = some value) (h : Leads value rest path found) :
    Leads (.object members) (key :: rest) (.key key :: path) found
  | index {items : List Json} {position : Nat} {item found : Json} {key : String} {rest : List String}
    {path : List Step} (hitem : items[position]? = some item) (h : Leads item (key :: rest) path found) :
    Leads (.array items) (key :: rest) (.index position :: path) found

/-- What lies in a value is a value of the same kind. -/
theorem Leads.formed {value found : Json} {keys : List String} {path : List Step}
    (h : Leads value keys path found) (hvalue : value.Formed) : found.Formed := by
  induction h with
  | here => exact hvalue
  | key hmember _ ih => exact ih (hvalue.member hmember)
  | index hitem _ ih => exact ih (hvalue.item hitem)

/-- The positions that a path chooses in arrays. -/
def positions (path : List Step) : List Nat :=
  path.filterMap fun
    | .index position => some position
    | .key _ => none

/-- The answer is the first of the places in the order of their positions, or there is none. -/
def IsFirst (places : List Step → Json → Prop) : Option Found → Prop
  | none => ∀ path value, ¬ places path value
  | some (path, value) => places path value ∧ ∀ path' value', places path' value' →
      (path' = path ∧ value' = value) ∨ positions path < positions path'

variable {places places' : List Step → Json → Prop} {answer : Option Found}

theorem IsFirst.congr (h : IsFirst places answer)
    (hiff : ∀ path value, places path value ↔ places' path value) : IsFirst places' answer := by
  have heq : places = places' := funext fun path => funext fun value => propext (hiff path value)
  exact heq ▸ h

/-- Keys do not count in the order. -/
theorem IsFirst.key (h : IsFirst places answer) (key : String) :
    IsFirst (fun path value => ∃ rest, path = .key key :: rest ∧ places rest value)
      (answer.map (Found.under (.key key))) := by
  cases answer with
  | none =>
    rintro _ value ⟨rest, rfl, hplace⟩
    exact h rest value hplace
  | some found =>
    obtain ⟨path, value⟩ := found
    refine ⟨⟨path, rfl, h.1⟩, ?_⟩
    rintro _ value' ⟨path', rfl, hplace⟩
    rcases h.2 path' value' hplace with ⟨rfl, rfl⟩ | hlt
    · exact .inl ⟨rfl, rfl⟩
    · exact .inr hlt

/-- What lies below the items of an array, counted from a position. -/
def BelowItems (items : List Json) (start : Nat) (keys : List String) (path : List Step) (value : Json) : Prop :=
  ∃ offset item rest, items[offset]? = some item ∧ path = .index (start + offset) :: rest ∧
    Leads item keys rest value

theorem belowItems_cons_iff {item : Json} {items : List Json} {start : Nat} {keys : List String}
    {path : List Step} {value : Json} :
    BelowItems (item :: items) start keys path value ↔
      (∃ rest, path = .index start :: rest ∧ Leads item keys rest value) ∨
        BelowItems items (start + 1) keys path value := by
  constructor
  · rintro ⟨offset | offset, item', rest, hitem, rfl, h⟩
    · obtain rfl : item = item' := by simpa using hitem
      exact .inl ⟨rest, rfl, h⟩
    · refine .inr ⟨offset, item', rest, by simpa using hitem, ?_, h⟩
      rw [Nat.add_right_comm, Nat.add_assoc]
  · rintro (⟨rest, rfl, h⟩ | ⟨offset, item', rest, hitem, rfl, h⟩)
    · exact ⟨0, item, rest, rfl, rfl, h⟩
    · refine ⟨offset + 1, item', rest, by simpa using hitem, ?_, h⟩
      rw [Nat.add_right_comm, Nat.add_assoc]

/-- A place below an item comes before all places below the later ones. -/
theorem positions_lt_of_belowItems {items : List Json} {start : Nat} {keys : List String}
    {path rest : List Step} {value : Json} (h : BelowItems items (start + 1) keys path value) :
    positions (.index start :: rest) < positions path := by
  obtain ⟨offset, item, rest', -, rfl, -⟩ := h
  exact List.Lex.rel (by omega)

theorem leads_object_iff {members : List (String × Json)} {key : String} {rest : List String}
    {path : List Step} {found : Json} : Leads (.object members) (key :: rest) path found ↔
      ∃ value, member? key members = some value ∧ ∃ path', path = .key key :: path' ∧
        Leads value rest path' found := by
  constructor
  · intro h
    cases h with
    | key hmember h => exact ⟨_, hmember, _, rfl, h⟩
  · rintro ⟨value, hmember, path', rfl, h⟩
    exact .key hmember h

theorem leads_array_iff {items : List Json} {key : String} {rest : List String} {path : List Step}
    {found : Json} : Leads (.array items) (key :: rest) path found ↔
      BelowItems items 0 (key :: rest) path found := by
  constructor
  · intro h
    cases h with
    | @index _ position item _ _ _ path hitem h => exact ⟨position, item, path, hitem, by simp, h⟩
  · rintro ⟨position, item, path', hitem, rfl, h⟩
    rw [Nat.zero_add]
    exact .index hitem h

theorem isFirst_here (value : Json) : IsFirst (Leads value []) (some ([], value)) := by
  refine ⟨.here value, fun path' value' h => ?_⟩
  cases h
  exact .inl ⟨rfl, rfl⟩

theorem not_leads_scalar {value found : Json} {key : String} {rest : List String} {path : List Step}
    (hobject : ∀ members, value ≠ .object members) (harray : ∀ items, value ≠ .array items) :
    ¬ Leads value (key :: rest) path found := by
  intro h
  cases h with
  | key => exact hobject _ rfl
  | index => exact harray _ rfl

/-- A hit in an item comes before all that the later ones have. -/
theorem IsFirst.item {item : Json} {items : List Json} {start : Nat} {keys : List String} {found : Found}
    (h : IsFirst (Leads item keys) (some found)) :
    IsFirst (BelowItems (item :: items) start keys) (some (found.under (.index start))) := by
  obtain ⟨path, value⟩ := found
  refine ⟨belowItems_cons_iff.2 (.inl ⟨path, rfl, h.1⟩), fun path' value' hplace => ?_⟩
  rcases belowItems_cons_iff.1 hplace with ⟨rest, rfl, hleads⟩ | hlater
  · rcases h.2 rest value' hleads with ⟨rfl, rfl⟩ | hlt
    · exact .inl ⟨rfl, rfl⟩
    · exact .inr (List.Lex.cons hlt)
  · exact .inr (positions_lt_of_belowItems hlater)

/-- An item without a hit hides none in the later ones. -/
theorem IsFirst.later {item : Json} {items : List Json} {start : Nat} {keys : List String}
    (hitem : IsFirst (Leads item keys) none) (h : IsFirst (BelowItems items (start + 1) keys) answer) :
    IsFirst (BelowItems (item :: items) start keys) answer := by
  refine h.congr fun path value => ?_
  rw [belowItems_cons_iff, or_iff_right]
  rintro ⟨rest, -, hleads⟩
  exact hitem rest value hleads

/-- The search finds the first of the places that the keys lead to. -/
theorem isFirst_find? (value : Json) (keys : List String) : IsFirst (Leads value keys) (find? value keys) := by
  -- Over items the keys do not get shorter, so the induction is on all three searches at once.
  refine find?.induct (fun value keys => IsFirst (Leads value keys) (find? value keys))
    (fun items start keys => IsFirst (BelowItems items start keys) (findItem? items start keys))
    (fun members key rest => IsFirst (fun path found => ∃ value, member? key members = some value ∧
      ∃ path', path = .key key :: path' ∧ Leads value rest path' found) (findMember? members key rest))
    ?here ?object ?array ?scalar ?noItem ?found ?missed ?noMember ?member ?other value keys
  case here =>
    intro value
    rw [find?]
    exact isFirst_here value
  case object =>
    intro members key rest h
    rw [find?]
    exact h.congr fun path found => leads_object_iff.symm
  case array =>
    intro items key rest h
    rw [find?]
    exact h.congr fun path found => leads_array_iff.symm
  case scalar =>
    intro value key rest hobject harray
    have hnone : find? value (key :: rest) = none := by
      rw [find?]
      · exact hobject
      · exact harray
    rw [hnone]
    exact fun path found => not_leads_scalar hobject harray
  case noItem =>
    intro start keys
    rw [findItem?]
    rintro path value ⟨offset, item, rest, hitem, -⟩
    simp at hitem
  case found =>
    intro item items start keys found hfound h
    rw [findItem?, hfound]
    rw [hfound] at h
    exact h.item
  case missed =>
    intro item items start keys hnone hitem h
    rw [findItem?, hnone]
    rw [hnone] at hitem
    exact hitem.later h
  case noMember =>
    intro key rest
    rw [findMember?]
    rintro path found ⟨value, hmember, -⟩
    simp [member?] at hmember
  case member =>
    intro value members key rest h
    rw [findMember?, if_pos rfl]
    refine (h.key key).congr fun path found => ?_
    simp [member?]
  case other =>
    intro k value members key rest hne h
    rw [findMember?, if_neg hne]
    refine h.congr fun path found => ?_
    simp [member?, List.lookup_cons, beq_false_of_ne (Ne.symm hne)]

theorem leads_of_find? {value found : Json} {keys : List String} {path : List Step}
    (h : find? value keys = some (path, found)) : Leads value keys path found := by
  have hfirst := isFirst_find? value keys
  rw [h] at hfirst
  exact hfirst.1

theorem IsFirst.eq_none_iff (h : IsFirst places answer) :
    answer = none ↔ ∀ path value, ¬ places path value := by
  constructor
  · rintro rfl
    exact h
  · intro hnone
    cases answer with
    | none => rfl
    | some found => exact absurd h.1 (hnone found.1 found.2)

/-- There is only one first place. -/
theorem IsFirst.unique {answer' : Option Found} (h : IsFirst places answer) (h' : IsFirst places answer') :
    answer = answer' := by
  cases answer with
  | none => exact (h'.eq_none_iff.2 h).symm
  | some found =>
    cases answer' with
    | none => exact h.eq_none_iff.2 h'
    | some found' =>
      rcases h.2 found'.1 found'.2 h'.1 with ⟨hpath, hvalue⟩ | hlt
      · rw [Prod.ext hpath hvalue]
      rcases h'.2 found.1 found.2 h.1 with ⟨hpath, hvalue⟩ | hgt
      · rw [Prod.ext hpath hvalue]
      · exact absurd hgt (List.lt_asymm hlt)

/-! ### Fields -/

/-- The root has no member with the whole name. -/
def NoMember (root : Json) (name : String) : Prop :=
  ∀ members, root = .object members → member? name members = none

theorem findKey?_eq_none_iff {root : Json} {name : String} :
    root.findKey? name = none ↔ NoMember root name := by
  cases root with
  | object members => simp [findKey?, NoMember]
  | _ => simp [findKey?, NoMember]

theorem noMember_or (root : Json) (name : String) :
    NoMember root name ∨ ∃ members value, root = .object members ∧ member? name members = some value := by
  cases hfound : root.findKey? name with
  | none => exact .inl (findKey?_eq_none_iff.1 hfound)
  | some found =>
    cases root with
    | object members =>
      obtain ⟨value, hmember, -⟩ := Option.map_eq_some_iff.1 hfound
      exact .inr ⟨members, value, rfl, hmember⟩
    | _ => cases hfound

theorem lookup?_member {members : List (String × Json)} {name : String} {value : Json}
    (h : member? name members = some value) : lookup? (.object members) name = some ([.key name], value) := by
  rw [lookup?, findKey?, h]; rfl

theorem lookup?_of_noMember {root : Json} {name : String} (h : NoMember root name) :
    lookup? root name = if '.' ∈ name.toList then find? root (segments name) else none := by
  rw [lookup?, findKey?_eq_none_iff.2 h]
  simp

theorem noMember_of_lookup?_eq_none {root : Json} {name : String} (h : lookup? root name = none) :
    NoMember root name := by
  rcases noMember_or root name with hno | ⟨members, value, rfl, hmember⟩
  · exact hno
  · simp [lookup?_member hmember] at h

theorem segments_ne_nil (name : String) : segments name ≠ [] := by
  rw [segments, ne_eq, List.map_eq_nil_iff]
  exact List.splitOn_ne_nil _ _

/-- A field is a member of the root, or what the parts of its name lead to. -/
theorem lookup?_cases {root value : Json} {name : String} {path : List Step}
    (h : lookup? root name = some (path, value)) :
    (∃ members, root = .object members ∧ member? name members = some value ∧ path = [.key name]) ∨
      NoMember root name ∧ '.' ∈ name.toList ∧ find? root (segments name) = some (path, value) := by
  rcases noMember_or root name with hno | ⟨members, found, rfl, hmember⟩
  · rw [lookup?_of_noMember hno, Option.ite_none_right_eq_some] at h
    exact .inr ⟨hno, h⟩
  · rw [lookup?_member hmember] at h
    obtain ⟨rfl, rfl⟩ := Prod.mk.inj (Option.some.inj h)
    exact .inl ⟨members, rfl, hmember, rfl⟩

theorem formed_lookup? {root value : Json} {name : String} {path : List Step} (hroot : root.Formed)
    (h : lookup? root name = some (path, value)) : value.Formed := by
  rcases lookup?_cases h with ⟨members, rfl, hmember, -⟩ | ⟨-, -, hfound⟩
  · exact hroot.member hmember
  · exact (leads_of_find? hfound).formed hroot

/-- A field is the member of the root with the whole name if there is one. If not, a name with a dot
leads to the first place among all those that its parts lead to, and to none exactly if they lead
nowhere. -/
theorem lookup_first (root : Json) (name : String) :
    (∀ members value, root = .object members → member? name members = some value →
      lookup? root name = some ([.key name], value)) ∧
    (NoMember root name → '.' ∈ name.toList → IsFirst (Leads root (segments name)) (lookup? root name)) ∧
    (lookup? root name = none ↔ NoMember root name ∧
      ('.' ∈ name.toList → ∀ path value, ¬ Leads root (segments name) path value)) ∧
    ['.'].intercalate ((segments name).map String.toList) = name.toList ∧
    ∀ part ∈ segments name, '.' ∉ part.toList := by
  have hparts : (segments name).map String.toList = name.toList.splitOn '.' := by
    simp [segments, Function.comp_def]
  have hfirst (hno : NoMember root name) (hdot : '.' ∈ name.toList) :
      IsFirst (Leads root (segments name)) (lookup? root name) := by
    rw [lookup?_of_noMember hno, if_pos hdot]
    exact isFirst_find? root (segments name)
  refine ⟨fun members value hroot hmember => ?_, hfirst, ⟨fun hnone => ?_, ?_⟩, ?_, fun part hpart => ?_⟩
  · rw [hroot, lookup?_member hmember]
  · have hno : NoMember root name := by
      rintro members rfl
      cases hmember : member? name members with
      | none => rfl
      | some value => simp [lookup?_member hmember] at hnone
    exact ⟨hno, fun hdot => (hfirst hno hdot).eq_none_iff.1 hnone⟩
  · rintro ⟨hno, hnowhere⟩
    by_cases hdot : '.' ∈ name.toList
    · exact (hfirst hno hdot).eq_none_iff.2 (hnowhere hdot)
    · rw [lookup?_of_noMember hno, if_neg hdot]
  · rw [hparts, List.intercalate_splitOn]
  · have hmem : part.toList ∈ name.toList.splitOn '.' := by
      rw [← hparts]
      exact List.mem_map_of_mem hpart
    exact Text.not_mem_of_mem_splitOn hmem

/-- Arrays within an array, where the first item has no hit. -/
def nested : Json :=
  .object [("a", .array [.object [("b", .null)], .array [.object [("c", .array [.null])]]])]

theorem lookup_first_nested :
    (∀ members, lookup? (.object (("a.c", .null) :: members)) "a.c" = some ([.key "a.c"], .null)) ∧
      NoMember nested "a.c" ∧ '.' ∈ "a.c".toList ∧
      IsFirst (Leads nested (segments "a.c"))
        (some ([.key "a", .index 1, .index 0, .key "c"], .array [.null])) ∧
      "c" ∈ segments "a.c" ∧ '.' ∉ "c".toList := by
  obtain ⟨-, hfirst, -, -, hparts⟩ := lookup_first nested "a.c"
  have hno : NoMember nested "a.c" := findKey?_eq_none_iff.1 rfl
  have hdot : '.' ∈ "a.c".toList := by decide
  have hlookup : lookup? nested "a.c" =
      some ([.key "a", .index 1, .index 0, .key "c"], .array [.null]) := rfl
  have hpart : "c" ∈ segments "a.c" := .tail _ (.head _)
  exact ⟨fun members => (lookup_first _ "a.c").1 _ .null rfl rfl, hno, hdot, hlookup ▸ hfirst hno hdot,
    hpart, hparts "c" hpart⟩

end EventRules.Json
