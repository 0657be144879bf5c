import EventRules.Pattern
import EventRules.Proofs.Compile.Fields
import EventRules.Proofs.Event.Json
import EventRules.Proofs.Event.Path
import Mathlib

/-!
# Nested and flat events

An event of objects within one another, without arrays and without dots in its keys, may be written flat:
each scalar under the keys that lead to it, joined by dots. A name leads to the same scalar in both, by its
parts in the one and as a whole in the other (`JsonEvent.value?_flattened`).
-/

namespace EventRules

namespace Json

mutual

/-- The scalars in objects within one another, each with the keys that lead to it. -/
def leaves : Json → List (List String × Json)
  | .object members => memberLeaves members
  | value => [([], value)]

def memberLeaves : List (String × Json) → List (List String × Json)
  | [] => []
  | (key, value) :: members =>
    value.leaves.map (fun (keys, leaf) => (key :: keys, leaf)) ++ memberLeaves members

end

/-- The scalars under their keys, joined by dots. -/
def flatMembers (root : Json) : List (String × Json) :=
  root.leaves.map fun leaf => (".".intercalate leaf.1, leaf.2)

/-- The object of these alone. -/
def flattened (root : Json) : Json :=
  .ofMembers root.flatMembers

/-- Objects within one another that hold scalars, with no dot in a key. -/
inductive Nested : Json → Prop
  | scalar {value : Json} (h : value.IsScalar) : Nested value
  | object {members : List (String × Json)} (hkeys : ∀ m ∈ members, '.' ∉ m.1.toList)
    (h : ∀ m ∈ members, Nested m.2) : Nested (.object members)

variable {members : List (String × Json)} {value found leaf : Json} {keys : List String} {path : List Step}
  {name : String}

/-! ### Names and keys -/

theorem segments_intercalate (hne : keys ≠ []) (h : ∀ key ∈ keys, '.' ∉ key.toList) :
    segments (".".intercalate keys) = keys := by
  have hparts : ∀ part ∈ keys.map String.toList, '.' ∉ part := by simpa using h
  rw [segments, String.toList_intercalate]
  show (List.splitOn '.' (['.'].intercalate _)).map _ = _
  rw [List.splitOn_intercalate '.' hparts (by simpa using hne)]
  simp [Function.comp_def]

theorem intercalate_segments (name : String) : ".".intercalate (segments name) = name := by
  refine String.toList_inj.1 ?_
  rw [String.toList_intercalate, segments, List.map_map]
  simp [Function.comp_def]

theorem segments_of_no_dot (h : '.' ∉ name.toList) : segments name = [name] := by
  rw [segments, List.splitOn_eq_singleton h, List.map_singleton, String.ofList_toList]

/-! ### Paths -/

theorem Nested.member {key : String} (hnested : (Json.object members).Nested)
    (hformed : (Json.object members).Formed) (h : member? key members = some value) :
    value.Nested ∧ value.Formed ∧ '.' ∉ key.toList := by
  obtain hscalar | ⟨hkeys, hbelow⟩ := hnested
  · exact absurd hscalar id
  have hmem := (member?_eq_some_iff (formed_object_iff.1 hformed).1).1 h
  exact ⟨hbelow _ hmem, hformed.member h, hkeys _ hmem⟩

theorem Nested.not_array {items : List Json} : ¬ (Json.array items).Nested := by
  rintro (hscalar | _)
  exact hscalar

theorem Leads.nested (h : Leads value keys path found) (hnested : value.Nested) (hformed : value.Formed) :
    found.Nested ∧ ∀ key ∈ keys, '.' ∉ key.toList := by
  induction h with
  | here => exact ⟨hnested, by simp⟩
  | key hmember _ ih =>
    obtain ⟨hvalue, hvalue', hkey⟩ := hnested.member hformed hmember
    obtain ⟨hfound, hkeys⟩ := ih hvalue hvalue'
    exact ⟨hfound, List.forall_mem_cons.2 ⟨hkey, hkeys⟩⟩
  | index => exact absurd hnested Nested.not_array

/-- Without arrays keys lead to one place. -/
theorem Leads.unique {path' : List Step} {found' : Json} (h : Leads value keys path found)
    (h' : Leads value keys path' found') (hnested : value.Nested) (hformed : value.Formed) :
    path' = path ∧ found' = found := by
  induction h generalizing path' with
  | here =>
    cases h'
    exact ⟨rfl, rfl⟩
  | key hmember _ ih =>
    obtain ⟨value', hmember', rest', rfl, h'⟩ := leads_object_iff.1 h'
    obtain rfl := Option.some.inj (hmember.symm.trans hmember')
    obtain ⟨hvalue, hvalue', -⟩ := hnested.member hformed hmember
    obtain ⟨rfl, rfl⟩ := ih h' hvalue hvalue'
    exact ⟨rfl, rfl⟩
  | index => exact absurd hnested Nested.not_array

theorem find?_eq_some_iff (hnested : value.Nested) (hformed : value.Formed) :
    find? value keys = some (path, found) ↔ Leads value keys path found := by
  refine ⟨leads_of_find?, fun h => (isFirst_find? value keys).unique ⟨h, fun path' found' h' => ?_⟩⟩
  exact .inl (h.unique h' hnested hformed)

/-- A name leads from the root to where its parts do, whether or not it has a dot. -/
theorem lookup?_nested (hnested : (Json.object members).Nested) (hformed : (Json.object members).Formed)
    (name : String) : lookup? (.object members) name = find? (.object members) (segments name) := by
  rcases noMember_or (.object members) name with hno | ⟨_, value, ⟨⟩, hmember⟩
  · rw [lookup?_of_noMember hno]
    split
    next => rfl
    next hdot =>
      rw [segments_of_no_dot hdot]
      refine ((isFirst_find? _ _).eq_none_iff.2 fun path found h => ?_).symm
      obtain ⟨value, hmember, -⟩ := leads_object_iff.1 h
      simp [hno members rfl] at hmember
  · -- A key has no dot, so that a name that is one has no parts but itself.
    obtain ⟨-, -, hdot⟩ := hnested.member hformed hmember
    rw [lookup?_member hmember, segments_of_no_dot hdot]
    exact ((find?_eq_some_iff hnested hformed).2 (.key hmember (.here value))).symm

/-! ### Leaves -/

theorem mem_memberLeaves : (keys, leaf) ∈ memberLeaves members ↔
    ∃ key value rest, (key, value) ∈ members ∧ keys = key :: rest ∧ (rest, leaf) ∈ value.leaves := by
  induction members with
  | nil => simp [memberLeaves]
  | cons m members ih =>
    obtain ⟨key, value⟩ := m
    rw [memberLeaves, List.mem_append, ih, List.mem_map]
    constructor
    · rintro (⟨⟨rest, leaf'⟩, hleaf, heq⟩ | ⟨key', value', rest, hmem, rfl, hleaf⟩)
      · obtain ⟨rfl, rfl⟩ := Prod.mk.inj heq
        exact ⟨key, value, rest, List.mem_cons_self, rfl, hleaf⟩
      · exact ⟨key', value', rest, List.mem_cons_of_mem _ hmem, rfl, hleaf⟩
    · rintro ⟨key', value', rest, hmem, rfl, hleaf⟩
      rcases List.mem_cons.1 hmem with heq | hmem
      · obtain ⟨rfl, rfl⟩ := Prod.mk.inj heq
        exact .inl ⟨(rest, leaf), hleaf, rfl⟩
      · exact .inr ⟨key', value', rest, hmem, rfl, hleaf⟩

theorem leaves_scalar (h : value.IsScalar) : value.leaves = [([], value)] := by
  cases value with
  | object => exact absurd h id
  | _ => rfl

theorem Leads.of_scalar (h : value.IsScalar) (hleads : Leads value keys path found) :
    keys = [] ∧ found = value := by
  cases hleads with
  | here => exact ⟨rfl, rfl⟩
  | key | index => exact absurd h id

/-- The leaves are the scalars that keys lead to. -/
theorem mem_leaves_iff (hnested : value.Nested) (hformed : value.Formed) :
    (keys, leaf) ∈ value.leaves ↔ leaf.IsScalar ∧ ∃ path, Leads value keys path leaf := by
  induction hnested generalizing keys with
  | @scalar value hscalar =>
    rw [leaves_scalar hscalar, List.mem_singleton, Prod.mk.injEq]
    constructor
    · rintro ⟨rfl, rfl⟩
      exact ⟨hscalar, [], .here leaf⟩
    · rintro ⟨-, path, hleads⟩
      exact hleads.of_scalar hscalar
  | @object members _ _ ih =>
    obtain ⟨hsorted, hmembers⟩ := formed_object_iff.1 hformed
    rw [leaves, mem_memberLeaves]
    constructor
    · rintro ⟨key, value, rest, hmem, rfl, hleaf⟩
      obtain ⟨hscalar, path, hleads⟩ := (ih _ hmem (hmembers _ hmem)).1 hleaf
      exact ⟨hscalar, _, .key ((member?_eq_some_iff hsorted).2 hmem) hleads⟩
    · rintro ⟨hscalar, path, hleads⟩
      cases hleads with
      | here => exact absurd hscalar id
      | @key _ key value _ rest _ hmember hleads =>
        have hmem := (member?_eq_some_iff hsorted).1 hmember
        exact ⟨key, value, rest, hmem, rfl, (ih _ hmem (hmembers _ hmem)).2 ⟨hscalar, _, hleads⟩⟩

/-! ### The flat object -/

theorem mem_flatMembers (hnested : (Json.object members).Nested) (hformed : (Json.object members).Formed) :
    (name, leaf) ∈ flatMembers (.object members) ↔
      leaf.IsScalar ∧ ∃ path, Leads (.object members) (segments name) path leaf := by
  rw [flatMembers, List.mem_map]
  constructor
  · rintro ⟨⟨keys, leaf'⟩, hleaf, heq⟩
    obtain ⟨rfl, rfl⟩ := Prod.mk.inj heq
    obtain ⟨hscalar, path, hleads⟩ := (mem_leaves_iff hnested hformed).1 hleaf
    -- No keys lead to the root alone, which is an object.
    have hkeys : keys ≠ [] := by
      rintro rfl
      cases hleads
      exact hscalar
    rw [segments_intercalate hkeys (hleads.nested hnested hformed).2]
    exact ⟨hscalar, path, hleads⟩
  · intro h
    exact ⟨(segments name, leaf), (mem_leaves_iff hnested hformed).2 h, by rw [intercalate_segments]⟩

/-- In the flat object a name leads to the scalar that its parts lead to in the nested one. -/
theorem lookup?_flattened (hnested : (Json.object members).Nested) (hformed : (Json.object members).Formed)
    (name : String) : lookup? (Json.object members).flattened name = some (path, leaf) ↔
      path = [.key name] ∧ leaf.IsScalar ∧ ∃ path', Leads (.object members) (segments name) path' leaf := by
  have hscalar : ∀ m ∈ insertMembers (flatMembers (.object members)), m.2.IsScalar := fun m hm =>
    ((mem_flatMembers hnested hformed).1 (mem_of_mem_insertMembers hm)).1
  have hfunctional : ∀ key value value', (key, value) ∈ flatMembers (.object members) →
      (key, value') ∈ flatMembers (.object members) → value = value' := by
    intro key value value' h h'
    obtain ⟨-, _, hleads⟩ := (mem_flatMembers hnested hformed).1 h
    obtain ⟨-, _, hleads'⟩ := (mem_flatMembers hnested hformed).1 h'
    exact (hleads'.unique hleads hnested hformed).2
  rw [flattened, ofMembers_eq, lookup?_flat hscalar, Option.map_eq_some_iff, ← mem_flatMembers hnested hformed,
    ← member?_insertMembers hfunctional, member?]
  simp only [Prod.mk.injEq]
  constructor
  · rintro ⟨value, hlookup, rfl, rfl⟩
    exact ⟨rfl, hlookup⟩
  · rintro ⟨rfl, hlookup⟩
    exact ⟨leaf, hlookup, rfl, rfl⟩

theorem fieldValue?_scalar (h : leaf.IsScalar) (path path' : List Step) :
    fieldValue? (path, leaf) = fieldValue? (path', leaf) := by
  cases leaf with
  | array | object => exact absurd h id
  | _ => rfl

/-- The name leads to an object. -/
def NamesObject (root : Json) (name : String) : Prop :=
  ∃ path members, Leads root (segments name) path (.object members)

theorem isScalar_of_find? (hnested : value.Nested) (hformed : value.Formed)
    (hname : ¬ NamesObject value name) (h : find? value (segments name) = some (path, found)) :
    found.IsScalar := by
  have hleads := (find?_eq_some_iff hnested hformed).1 h
  cases (hleads.nested hnested hformed).1 with
  | scalar hscalar => exact hscalar
  | object => exact absurd ⟨path, _, hleads⟩ hname

end Json

namespace JsonEvent

open Json

variable {e : JsonEvent} {members : List (String × Json)}

def flattened (e : JsonEvent) : JsonEvent :=
  { e with root := e.root.flattened }

theorem value?_flattened_of_name (hroot : e.root = .object members) (hformed : e.root.Formed)
    (hnested : e.root.Nested) {name : String} (hname : ¬ NamesObject e.root name) :
    e.flattened.value? name = e.value? name := by
  obtain ⟨root, timeField⟩ := e
  obtain rfl : root = .object members := hroot
  show (lookup? (Json.object members).flattened name).bind fieldValue? =
    (lookup? (.object members) name).bind fieldValue?
  rw [lookup?_nested hnested hformed]
  cases hfound : find? (.object members) (segments name) with
  | none =>
    have hnone : lookup? (Json.object members).flattened name = none := by
      refine Option.eq_none_iff_forall_ne_some.2 fun ⟨path, leaf⟩ hflat => ?_
      obtain ⟨-, -, path', hleads⟩ := (lookup?_flattened hnested hformed name).1 hflat
      simp [(find?_eq_some_iff hnested hformed).2 hleads] at hfound
    rw [hnone]
  | some found =>
    obtain ⟨path, leaf⟩ := found
    have hscalar := isScalar_of_find? hnested hformed hname hfound
    have hleads := (find?_eq_some_iff hnested hformed).1 hfound
    rw [(lookup?_flattened hnested hformed name).2 ⟨rfl, hscalar, path, hleads⟩]
    exact fieldValue?_scalar hscalar _ _

/-- An object within which there are no arrays and no keys with dots reads as the flat one does, names of
objects apart, and so a predicate whose tree has no such name says the same of both. -/
theorem value?_flattened [PatternEngine] (hroot : e.root = .object members) (hformed : e.root.Formed)
    (hnested : e.root.Nested) :
    (∀ name, ¬ NamesObject e.root name → e.flattened.value? name = e.value? name) ∧
    ∀ (names : FieldNames) (t : Condition.Item) (p : Predicate), Compile.item names t = .ok p →
      (∀ field ∈ t.fields, ¬ NamesObject e.root (names.storedName field)) →
      p e.flattened.datum = p e.datum := by
  have hvalue {name : String} (hname : ¬ NamesObject e.root name) :
      e.flattened.value? name = e.value? name := value?_flattened_of_name hroot hformed hnested hname
  refine ⟨fun _ => hvalue, fun names t p hp hnames => Compile.item_congr hp fun field hfield => ?_⟩
  show FieldValue.SameAnswer (e.flattened.value? _) (e.value? _)
  rw [hvalue (hnames field hfield)]
  exact .alike (.same _)

/-- Objects three levels deep, with an empty key on the way. -/
def deep : JsonEvent where
  root := .object [("user", .object [("", .object [("name", .string "ada")]), ("id", .null)])]
  timeField := none

example : deep.flattened.root = .object [("user..name", .string "ada"), ("user.id", .null)] := by cbv

theorem formed_deep : deep.root.Formed :=
  formed_singleton (formed_pair (by decide +kernel) (formed_singleton (.string "ada")) .null)

theorem nested_deep : deep.root.Nested := by
  have hname : (Json.object [("name", .string "ada")]).Nested :=
    .object (by simp) (by simpa using .scalar trivial)
  have huser : (Json.object [("", .object [("name", .string "ada")]), ("id", .null)]).Nested := by
    refine .object (by simp) fun m hm => ?_
    rcases List.mem_pair.1 hm with rfl | rfl
    · exact hname
    · exact .scalar trivial
  exact .object (by simp) (by simpa using huser)

/-- The text below the empty key is found in both. -/
theorem value?_flattened_deep :
    let t : Condition.Item := .field "user..name" (.string "ada")
    deep.root.Formed ∧ deep.root.Nested ∧ ¬ NamesObject deep.root "user..name" ∧
      deep.flattened.value? "user..name" = some (.string "ada") ∧
      ∃ p, Compile.item .empty t = .ok p ∧ p deep.flattened.datum = pure true := by
  intro t
  have hfound : find? deep.root (segments "user..name") =
      some ([.key "user", .key "", .key "name"], .string "ada") := by cbv
  have hname : ¬ NamesObject deep.root "user..name" := by
    rintro ⟨path, members, hleads⟩
    cases ((find?_eq_some_iff nested_deep formed_deep).2 hleads).symm.trans hfound
  have hboth := value?_flattened rfl formed_deep nested_deep
  have hvalue : deep.value? "user..name" = some (.string "ada") := by cbv
  have hp : Compile.item .empty t = .ok (Compile.itemTest .empty t) := by
    rw [Compile.item_eq]; rfl
  have hnames : ∀ field ∈ t.fields, ¬ NamesObject deep.root (FieldNames.empty.storedName field) := by
    intro field hfield
    obtain rfl : field = "user..name" := by simpa [t, Condition.Item.fields] using hfield
    exact hname
  refine ⟨formed_deep, nested_deep, hname, (hboth.1 _ hname).trans hvalue, _, hp, ?_⟩
  rw [hboth.2 .empty t _ hp hnames]
  cbv

end JsonEvent

end EventRules
