import EventRules.Proofs.Event.Path
import Mathlib

/-!
# Members that hold null

Null reads as absent, but the search for a field stops at a member that holds it as at any other. So the
members that hold null may be left out of an event unless one of them is found first and hides something
else that the name leads to: then the field is absent, and without these members it is not
(`JsonEvent.value?_withoutNulls`).
-/

namespace EventRules

namespace Json

mutual

/-- The value without the members that hold null, at any depth. -/
def withoutNulls : Json → Json
  | .array items => .array (itemsWithoutNulls items)
  | .object members => .object (membersWithoutNulls members)
  | value => value

def itemsWithoutNulls : List Json → List Json
  | [] => []
  | item :: items => item.withoutNulls :: itemsWithoutNulls items

def membersWithoutNulls : List (String × Json) → List (String × Json)
  | [] => []
  | (_, .null) :: members => membersWithoutNulls members
  | (key, value) :: members => (key, value.withoutNulls) :: membersWithoutNulls members

end

/-- What is left of a member: nothing if it holds null. -/
def memberWithoutNulls? : String × Json → Option (String × Json)
  | (_, .null) => none
  | (key, value) => some (key, value.withoutNulls)

variable {members : List (String × Json)} {key : String} {value found : Json} {keys : List String}
  {path : List Step}

theorem itemsWithoutNulls_eq (items : List Json) : itemsWithoutNulls items = items.map withoutNulls := by
  induction items with
  | nil => rfl
  | cons item items ih => rw [itemsWithoutNulls, ih, List.map_cons]

theorem membersWithoutNulls_eq (members : List (String × Json)) :
    membersWithoutNulls members = members.filterMap memberWithoutNulls? := by
  induction members with
  | nil => rfl
  | cons m members ih =>
    obtain ⟨key, value⟩ := m
    cases value <;> simp [membersWithoutNulls, memberWithoutNulls?, ih, List.filterMap_cons]

theorem memberWithoutNulls?_eq_some_iff {m m' : String × Json} :
    memberWithoutNulls? m = some m' ↔ m.2 ≠ .null ∧ m' = (m.1, m.2.withoutNulls) := by
  obtain ⟨key, value⟩ := m
  cases value <;> simp [memberWithoutNulls?, eq_comm]

theorem withoutNulls_eq_array_iff {items : List Json} : value.withoutNulls = .array items ↔
    ∃ source, value = .array source ∧ items = source.map withoutNulls := by
  cases value <;> simp [withoutNulls, itemsWithoutNulls_eq, eq_comm]

theorem withoutNulls_eq_object_iff : value.withoutNulls = .object members ↔
    ∃ source, value = .object source ∧ members = membersWithoutNulls source := by
  cases value <;> simp [withoutNulls, eq_comm]

theorem sorted_membersWithoutNulls (h : Sorted members) : Sorted (membersWithoutNulls members) := by
  rw [membersWithoutNulls_eq]
  refine List.Pairwise.filterMap memberWithoutNulls? (fun m m' hlt b hb b' hb' => ?_) h
  obtain ⟨-, rfl⟩ := memberWithoutNulls?_eq_some_iff.1 hb
  obtain ⟨-, rfl⟩ := memberWithoutNulls?_eq_some_iff.1 hb'
  exact hlt

/-- A key has what is left of its value, unless that is null. -/
theorem member?_membersWithoutNulls (hobject : (Json.object members).Formed) :
    member? key (membersWithoutNulls members) = some found ↔
      ∃ value, member? key members = some value ∧ value ≠ .null ∧ found = value.withoutNulls := by
  have h := (formed_object_iff.1 hobject).1
  rw [member?_eq_some_iff (sorted_membersWithoutNulls h), membersWithoutNulls_eq, List.mem_filterMap]
  simp only [member?_eq_some_iff h, memberWithoutNulls?_eq_some_iff, Prod.mk.injEq, Prod.exists]
  constructor
  · rintro ⟨_, value, hmem, hne, rfl, rfl⟩
    exact ⟨value, hmem, hne, rfl⟩
  · rintro ⟨value, hmem, hne, rfl⟩
    exact ⟨key, value, hmem, hne, rfl, rfl⟩

/-! ### Paths -/

theorem not_leads_null {rest : List String} : ¬ Leads .null (key :: rest) path found :=
  not_leads_scalar (by simp) (by simp)

/-- A path that does not end at null is left. -/
theorem Leads.withoutNulls (h : Leads value keys path found) (hvalue : value.Formed)
    (hfound : keys ≠ [] → found ≠ .null) : Leads value.withoutNulls keys path found.withoutNulls := by
  induction h with
  | here value => exact .here _
  | @key members key value found rest path hmember h ih =>
    -- Null leads nowhere, so the member is left whether or not the path ends at it.
    have hne : value ≠ .null := by
      rintro rfl
      cases rest with
      | nil =>
        cases h
        exact hfound (by simp) rfl
      | cons => exact not_leads_null h
    have hkept := (member?_membersWithoutNulls hvalue).2 ⟨value, hmember, hne, rfl⟩
    exact .key hkept (ih (hvalue.member hmember) fun _ => hfound (by simp))
  | @index items position item found key rest path hitem h ih =>
    refine .index ?_ (ih (hvalue.item hitem) hfound)
    rw [itemsWithoutNulls_eq, List.getElem?_map, hitem]; rfl

theorem Leads.of_withoutNulls (h : Leads value.withoutNulls keys path found) (hvalue : value.Formed) :
    ∃ source, Leads value keys path source ∧ (keys ≠ [] → source ≠ .null) ∧ found = source.withoutNulls := by
  generalize hleft : value.withoutNulls = left at h
  induction h generalizing value with
  | here => exact ⟨value, .here value, by simp, hleft.symm⟩
  | key hmember h ih =>
    obtain ⟨members, rfl, rfl⟩ := withoutNulls_eq_object_iff.1 hleft
    obtain ⟨below, hbelow, hne, rfl⟩ := (member?_membersWithoutNulls hvalue).1 hmember
    obtain ⟨source, hsource, hnull, rfl⟩ := ih (hvalue.member hbelow) rfl
    refine ⟨source, .key hbelow hsource, fun _ => ?_, rfl⟩
    cases hsource with
    | here => exact hne
    | key | index => exact hnull (by simp)
  | index hitem h ih =>
    obtain ⟨items, rfl, rfl⟩ := withoutNulls_eq_array_iff.1 hleft
    rw [List.getElem?_map, Option.map_eq_some_iff] at hitem
    obtain ⟨item, hitem, rfl⟩ := hitem
    obtain ⟨source, hsource, hnull, rfl⟩ := ih (hvalue.item hitem) rfl
    exact ⟨source, .index hitem hsource, hnull, rfl⟩

/-- In an event without such members a name leads to what it led to, null apart. -/
theorem leads_withoutNulls_iff (hvalue : value.Formed) (hkeys : keys ≠ []) :
    Leads value.withoutNulls keys path found ↔
      ∃ source, Leads value keys path source ∧ source ≠ .null ∧ found = source.withoutNulls := by
  constructor
  · intro h
    obtain ⟨source, hsource, hne, rfl⟩ := h.of_withoutNulls hvalue
    exact ⟨source, hsource, hne hkeys, rfl⟩
  · rintro ⟨source, hsource, hne, rfl⟩
    exact hsource.withoutNulls hvalue fun _ => hne

theorem find?_withoutNulls (hvalue : value.Formed) (hkeys : keys ≠ [])
    (h : find? value keys = some (path, found)) (hne : found ≠ .null) :
    find? value.withoutNulls keys = some (path, found.withoutNulls) := by
  have hfirst := isFirst_find? value keys
  rw [h] at hfirst
  -- The paths keep their positions, since items of an array stay even if they are null.
  have hfirst' : IsFirst (Leads value.withoutNulls keys) (some (path, found.withoutNulls)) := by
    refine ⟨(leads_withoutNulls_iff hvalue hkeys).2 ⟨found, hfirst.1, hne, rfl⟩, fun path' found' hleads => ?_⟩
    obtain ⟨source, hsource, -, rfl⟩ := (leads_withoutNulls_iff hvalue hkeys).1 hleads
    refine (hfirst.2 path' source hsource).imp_left ?_
    rintro ⟨rfl, rfl⟩
    exact ⟨rfl, rfl⟩
  exact (isFirst_find? _ _).unique hfirst'

theorem find?_withoutNulls_eq_none_iff (hvalue : value.Formed) (hkeys : keys ≠ []) :
    find? value.withoutNulls keys = none ↔ ∀ path found, Leads value keys path found → found = .null := by
  rw [(isFirst_find? _ _).eq_none_iff]
  constructor
  · intro h path found hfound
    by_contra hne
    exact h path _ ((leads_withoutNulls_iff hvalue hkeys).2 ⟨found, hfound, hne, rfl⟩)
  · intro h path found hfound
    obtain ⟨source, hsource, hne, -⟩ := (leads_withoutNulls_iff hvalue hkeys).1 hfound
    exact hne (h path source hsource)

/-! ### Fields -/

variable {root : Json} {name : String}

theorem noMember_withoutNulls (hroot : root.Formed)
    (h : ∀ members value, root = .object members → member? name members = some value → value = .null) :
    NoMember root.withoutNulls name := by
  rintro left hleft
  obtain ⟨members, rfl, rfl⟩ := withoutNulls_eq_object_iff.1 hleft
  refine Option.eq_none_iff_forall_ne_some.2 fun found hfound => ?_
  obtain ⟨value, hmember, hne, -⟩ := (member?_membersWithoutNulls hroot).1 hfound
  exact hne (h _ value rfl hmember)

theorem lookup?_withoutNulls (hroot : root.Formed) (h : lookup? root name = some (path, value))
    (hne : value ≠ .null) : lookup? root.withoutNulls name = some (path, value.withoutNulls) := by
  rcases lookup?_cases h with ⟨members, rfl, hmember, rfl⟩ | ⟨hno, hdot, hfound⟩
  · exact lookup?_member ((member?_membersWithoutNulls hroot).2 ⟨value, hmember, hne, rfl⟩)
  · have hno' : NoMember root.withoutNulls name := by
      refine noMember_withoutNulls hroot fun members value hmembers hmember => ?_
      simp [hno members hmembers] at hmember
    rw [lookup?_of_noMember hno', if_pos hdot]
    exact find?_withoutNulls hroot (segments_ne_nil name) hfound hne

/-- The name leads to null first, and to something else besides. -/
structure NullHides (root : Json) (name : String) : Prop where
  null : ∃ path, lookup? root name = some (path, .null)
  dot : '.' ∈ name.toList
  other : ∃ path value, Leads root (segments name) path value ∧ value ≠ .null

/-- Where nothing but null is found, nothing is found without the nulls, unless null hides something. -/
theorem lookup?_withoutNulls_eq_none_iff (hroot : root.Formed)
    (h : ∀ path value, lookup? root name = some (path, value) → value = .null) :
    lookup? root.withoutNulls name = none ↔ ¬ NullHides root name := by
  have hno : NoMember root.withoutNulls name := by
    refine noMember_withoutNulls hroot ?_
    rintro members value rfl hmember
    exact h _ value (lookup?_member hmember)
  rw [lookup?_of_noMember hno]
  by_cases hdot : '.' ∈ name.toList
  · rw [if_pos hdot, find?_withoutNulls_eq_none_iff hroot (segments_ne_nil name)]
    constructor
    · rintro hnull ⟨-, -, path, value, hleads, hne⟩
      exact hne (hnull path value hleads)
    · intro hhides path value hleads
      by_contra hne
      cases hfound : lookup? root name with
      | none =>
        rw [lookup?_of_noMember (noMember_of_lookup?_eq_none hfound), if_pos hdot] at hfound
        exact (isFirst_find? _ _).eq_none_iff.1 hfound path value hleads
      | some found =>
        obtain ⟨path', value'⟩ := found
        obtain rfl := h path' value' hfound
        exact hhides ⟨⟨path', hfound⟩, hdot, path, value, hleads, hne⟩
  · rw [if_neg hdot]
    exact iff_of_true rfl fun hhides => hdot hhides.dot

theorem withoutNulls_ne_null (h : value ≠ .null) : value.withoutNulls ≠ .null := by
  cases value with
  | null => exact absurd rfl h
  | _ => simp [withoutNulls]

theorem lookup?_withoutNulls_ne_null (hroot : root.Formed)
    (h : lookup? root.withoutNulls name = some (path, found)) : found ≠ .null := by
  rcases lookup?_cases h with ⟨left, hleft, hmember, -⟩ | ⟨-, -, hfound⟩
  · obtain ⟨members, rfl, rfl⟩ := withoutNulls_eq_object_iff.1 hleft
    obtain ⟨source, -, hne, rfl⟩ := (member?_membersWithoutNulls hroot).1 hmember
    exact withoutNulls_ne_null hne
  · have hleads := leads_of_find? hfound
    obtain ⟨source, -, hne, rfl⟩ := (leads_withoutNulls_iff hroot (segments_ne_nil name)).1 hleads
    exact withoutNulls_ne_null hne

theorem fieldValue?_eq_none_iff : fieldValue? (path, value) = none ↔ value = .null := by
  rcases value with _ | _ | (n | x) | _ | _ | _ <;> simp [fieldValue?]
  split <;> simp

end Json

/-- A field value with what is left of its content. -/
def FieldValue.withoutNulls : FieldValue → FieldValue
  | .structured place content => .structured place content.withoutNulls
  | value => value

theorem Json.fieldValue?_withoutNulls (path : List Json.Step) (value : Json) :
    fieldValue? (path, value.withoutNulls) = (fieldValue? (path, value)).map FieldValue.withoutNulls := by
  rcases value with _ | _ | (n | x) | _ | _ | _ <;>
    simp [fieldValue?, Json.withoutNulls, FieldValue.withoutNulls]
  split <;> rfl

namespace JsonEvent

open Json

def withoutNulls (e : JsonEvent) : JsonEvent :=
  { e with root := e.root.withoutNulls }

/-- Without the members that hold null a field reads as it did, unless one of them hides something: then
the field is absent, and something is read for it without them. -/
theorem value?_withoutNulls {e : JsonEvent} (hroot : e.root.Formed) (name : String) :
    (¬ NullHides e.root name → e.withoutNulls.value? name = (e.value? name).map FieldValue.withoutNulls) ∧
    (NullHides e.root name → e.value? name = none ∧ e.withoutNulls.value? name ≠ none) := by
  have hnone (h : ∀ path value, lookup? e.root name = some (path, value) → value = .null) :
      e.value? name = none := by
    rw [value?, Option.bind_eq_none_iff]
    rintro ⟨path, value⟩ hfound
    exact fieldValue?_eq_none_iff.2 (h path value hfound)
  constructor
  · intro hhides
    by_cases hnull : ∀ path value, lookup? e.root name = some (path, value) → value = .null
    · rw [hnone hnull, value?, withoutNulls, (lookup?_withoutNulls_eq_none_iff hroot hnull).2 hhides]
      rfl
    · simp only [not_forall] at hnull
      obtain ⟨path, value, hfound, hne⟩ := hnull
      rw [value?, withoutNulls, value?, hfound, lookup?_withoutNulls hroot hfound hne]
      exact fieldValue?_withoutNulls path value
  · intro hhides
    obtain ⟨path, hfound⟩ := hhides.null
    have hnull : ∀ path value, lookup? e.root name = some (path, value) → value = .null := by
      rintro path' value h
      rw [hfound] at h
      exact (Prod.mk.inj (Option.some.inj h)).2.symm
    refine ⟨hnone hnull, fun habsent => ?_⟩
    cases hleft : lookup? e.root.withoutNulls name with
    | none => exact (lookup?_withoutNulls_eq_none_iff hroot hnull).1 hleft hhides
    | some left =>
      rw [value?, withoutNulls, hleft] at habsent
      exact lookup?_withoutNulls_ne_null hroot hleft (fieldValue?_eq_none_iff.1 habsent)

/-- A key with dots that holds null, in place of which the parts of the name lead to a text. -/
def shadowed : JsonEvent where
  root := .object [("user", .object [("name", .string "ada")]), ("user.name", .null)]
  timeField := none

/-- An array whose first item has null where the second has a text. -/
def interrupted : JsonEvent where
  root := .object [("user", .array [.object [("name", .null)], .object [("name", .string "ada")]])]
  timeField := none

theorem formed_shadowed : shadowed.root.Formed :=
  formed_pair (by decide +kernel) (formed_singleton (.string "ada")) .null

/-- Null hides a text, both under a key with dots and in an item of an array. -/
theorem value?_withoutNulls_hidden :
    shadowed.value? "user.name" = none ∧ shadowed.withoutNulls.value? "user.name" = some (.string "ada") ∧
    interrupted.value? "user.name" = none ∧
      interrupted.withoutNulls.value? "user.name" = some (.string "ada") := by
  refine ⟨?_, ?_, ?_, ?_⟩ <;> cbv

/-- The name with a dot is hidden, the one without is not. -/
theorem value?_withoutNulls_shadowed :
    shadowed.root.Formed ∧ NullHides shadowed.root "user.name" ∧
      shadowed.withoutNulls.value? "user.name" ≠ none ∧ ¬ NullHides shadowed.root "user" ∧
      shadowed.withoutNulls.value? "user" = (shadowed.value? "user").map FieldValue.withoutNulls := by
  have hhides : NullHides shadowed.root "user.name" := by
    refine ⟨⟨_, rfl⟩, by decide, [.key "user", .key "name"], .string "ada", ?_, by simp⟩
    exact .key rfl (.key rfl (.here _))
  have hshown : ¬ NullHides shadowed.root "user" := fun h => absurd h.dot (by decide)
  exact ⟨formed_shadowed, hhides, ((value?_withoutNulls formed_shadowed "user.name").2 hhides).2, hshown,
    (value?_withoutNulls formed_shadowed "user").1 hshown⟩

end JsonEvent

end EventRules
