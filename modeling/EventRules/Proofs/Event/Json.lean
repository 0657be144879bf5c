import EventRules.Event.Json
import Mathlib.Tactic.SplitIfs

/-!
# Fields of an event in JSON

An object whose members are scalars holds nothing deeper, so that a name leads to the member that it is
the key of, or nowhere, dots or not (`Json.lookup?_flat`).
-/

namespace EventRules.Json

/-- Neither an array nor an object. -/
def IsScalar : Json → Prop
  | .array _ | .object _ => False
  | _ => True

/-- A dot in a name separates two parts of it. -/
theorem segments_of_dot {name : String} (h : '.' ∈ name.toList) :
    ∃ first second rest, segments name = first :: second :: rest := by
  obtain ⟨front, back, hname, hfront⟩ := List.eq_append_cons_of_mem h
  have hsplit : name.toList.splitOn '.' = front :: back.splitOn '.' := by
    rw [hname]
    refine List.splitOnP_append_cons_of_forall_mem (fun c hc => ?_) '.' rfl back
    refine beq_false_of_ne ?_
    rintro rfl
    exact hfront hc
  obtain ⟨second, rest, hback⟩ := List.exists_cons_of_ne_nil (List.splitOn_ne_nil '.' back)
  exact ⟨.ofList front, .ofList second, rest.map .ofList, by rw [segments, hsplit, hback]; rfl⟩

theorem find?_scalar {value : Json} (h : value.IsScalar) (key : String) (rest : List String) :
    find? value (key :: rest) = none := by
  cases value with
  | array | object => exact absurd h id
  | _ => rfl

theorem findMember?_scalars {members : List (String × Json)} (h : ∀ m ∈ members, m.2.IsScalar)
    (key next : String) (rest : List String) : findMember? members key (next :: rest) = none := by
  induction members with
  | nil => rfl
  | cons m members ih =>
    obtain ⟨k, value⟩ := m
    have hvalue : find? value (next :: rest) = none := find?_scalar (h (k, value) (by simp)) next rest
    rw [findMember?, hvalue, ih fun m hm => h m (by simp [hm])]
    split <;> rfl

/-- In an object of scalars a field is the member with its name. -/
theorem lookup?_flat {members : List (String × Json)} (h : ∀ m ∈ members, m.2.IsScalar) (name : String) :
    lookup? (.object members) name = (members.lookup name).map fun value => ([.key name], value) := by
  rw [lookup?, findKey?, member?]
  cases members.lookup name with
  | some value => rfl
  | none =>
    show (if name.toList.contains '.' then find? (.object members) (segments name) else none) = none
    split_ifs with hdot
    · obtain ⟨first, second, rest, hsegments⟩ := segments_of_dot (List.contains_iff_mem.1 hdot)
      rw [hsegments, find?, findMember?_scalars h]
    · rfl

end EventRules.Json
