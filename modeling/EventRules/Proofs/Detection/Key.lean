import EventRules.Proofs.Detection.Body
import EventRules.Proofs.Text.Trim

/-!
# Keys of detections

A key spells the name of a field and modifiers, with a bar before each of them (`Spells`). It is accepted
exactly if there is a name, every modifier is known and at most one of them is about types
(`fieldSpec_eq_ok_iff`); for how often and where `all` stands among them only matters whether it does.
-/

namespace EventRules.Detection

/-! ### Parts between bars -/

/-- The key is the field and, each behind a bar, the modifiers; none of these parts has a bar in it. -/
structure Spells (key field : String) (modifiers : List String) : Prop where
  text : key.toList = ['|'].intercalate ((field :: modifiers).map String.toList)
  bars : ∀ part ∈ field :: modifiers, '|' ∉ part.toList

theorem splitOn_eq_of_spells {key field : String} {modifiers : List String} (h : Spells key field modifiers) :
    key.toList.splitOn '|' = (field :: modifiers).map String.toList := by
  rw [h.text]
  refine List.splitOn_intercalate '|' (fun part hpart => ?_) (by simp)
  obtain ⟨text, htext, rfl⟩ := List.mem_map.1 hpart
  exact h.bars text htext

theorem map_ofList_toList (texts : List String) : (texts.map String.toList).map String.ofList = texts := by
  simp [Function.comp_def]

/-- Every key spells one field and one list of modifiers. -/
theorem spells_iff {key field : String} {modifiers : List String} :
    Spells key field modifiers ↔ field = fieldOf key ∧ modifiers = modifiersOf key := by
  constructor
  · intro h
    have hsplit := splitOn_eq_of_spells h
    rw [fieldOf, modifiersOf, hsplit, List.map_cons]
    exact ⟨String.ofList_toList.symm, (map_ofList_toList modifiers).symm⟩
  · rintro ⟨rfl, rfl⟩
    obtain ⟨first, rest, hsplit⟩ := List.exists_cons_of_ne_nil (List.splitOn_ne_nil '|' key.toList)
    have hparts : (fieldOf key :: modifiersOf key).map String.toList = key.toList.splitOn '|' := by
      rw [fieldOf, modifiersOf, hsplit]
      simp [Function.comp_def]
    refine ⟨?_, fun part hpart => ?_⟩
    · rw [hparts, List.intercalate_splitOn]
    · refine Text.not_mem_of_mem_splitOn (?_ : part.toList ∈ key.toList.splitOn '|')
      rw [← hparts]
      exact List.mem_map_of_mem hpart

/-! ### Modifiers -/

/-- The modifiers that say how values are meant. -/
def typeModifiers : List String :=
  ["re", "cidr", "gt", "gte", "lt", "lte"]

/-- The modifiers but `all`, in order. -/
def types (modifiers : List String) : List String :=
  modifiers.filter (· ≠ "all")

/-- All modifiers are known, and at most one is not `all`. -/
structure ModifiersFit (modifiers : List String) : Prop where
  known : ∀ m ∈ modifiers, m = "all" ∨ m ∈ typeModifiers
  single : (types modifiers).length ≤ 1

theorem types_cons_all (modifiers : List String) : types ("all" :: modifiers) = types modifiers := rfl

theorem types_cons {m : String} (h : m ≠ "all") (modifiers : List String) :
    types (m :: modifiers) = m :: types modifiers :=
  List.filter_cons_of_pos (by simpa using h)

theorem isSome_kindOf?_iff {m : String} : (kindOf? m).isSome ↔ m ∈ typeModifiers := by
  unfold kindOf? typeModifiers
  split <;> simp_all

/-- No two modifiers stand for one kind. -/
theorem kindOf?_inj {m m' : String} {kind : ValueKind} (h : kindOf? m = some kind)
    (h' : kindOf? m' = some kind) : m = m' := by
  have hall : ∀ m ∈ typeModifiers, ∀ m' ∈ typeModifiers, kindOf? m = kindOf? m' → m = m' := by decide
  have hm : m ∈ typeModifiers := isSome_kindOf?_iff.1 (by rw [h]; rfl)
  have hm' : m' ∈ typeModifiers := isSome_kindOf?_iff.1 (by rw [h']; rfl)
  exact hall m hm m' hm' (h.trans h'.symm)

theorem kindOf_types (modifiers : List String) : kindOf (types modifiers) = kindOf modifiers := by
  induction modifiers with
  | nil => rfl
  | cons m modifiers ih =>
    by_cases hall : m = "all"
    · subst hall
      rw [types_cons_all, ih, kindOf_cons_none rfl]
    · rw [types_cons hall]
      cases hkind : kindOf? m with
      | none => rw [kindOf_cons_none hkind, kindOf_cons_none hkind, ih]
      | some kind => rw [kindOf_cons_some hkind, kindOf_cons_some hkind]

theorem mem_types_iff {m : String} {modifiers : List String} :
    m ∈ types modifiers ↔ m ∈ modifiers ∧ m ≠ "all" := by
  simp [types]

theorem modifiersFit_iff {modifiers : List String} : ModifiersFit modifiers ↔
    (∀ m ∈ types modifiers, m ∈ typeModifiers) ∧ (types modifiers).length ≤ 1 := by
  have hknown : (∀ m ∈ modifiers, m = "all" ∨ m ∈ typeModifiers) ↔
      ∀ m ∈ types modifiers, m ∈ typeModifiers := by
    simp only [mem_types_iff, and_imp]
    exact forall₂_congr fun m _ => or_iff_not_imp_left
  rw [← hknown]
  exact ⟨fun h => ⟨h.known, h.single⟩, fun h => ⟨h.1, h.2⟩⟩

/-- A modifier is there exactly if it says how values are meant. -/
theorem mem_iff_kindOf {modifiers : List String} (hfit : ModifiersFit modifiers) {m : String}
    {kind : ValueKind} (hkind : kindOf? m = some kind) : m ∈ modifiers ↔ kindOf modifiers = kind := by
  have hall : m ≠ "all" := by
    rintro rfl
    cases hkind
  have hmem : m ∈ modifiers ↔ m ∈ types modifiers := by
    rw [mem_types_iff, and_iff_left hall]
  obtain ⟨hknown, hsingle⟩ := modifiersFit_iff.1 hfit
  rw [hmem, ← kindOf_types]
  match htypes : types modifiers with
  | [] =>
    have hplain : kindOf [] ≠ kind := (kindOf?_ne_plain hkind).symm
    simp [hplain]
  | [m'] =>
    rw [htypes, List.forall_mem_singleton] at hknown
    obtain ⟨kind', hkind'⟩ := Option.isSome_iff_exists.1 (isSome_kindOf?_iff.2 hknown)
    rw [List.mem_singleton, kindOf_cons_some hkind']
    constructor
    · rintro rfl
      exact Option.some.inj (hkind'.symm.trans hkind)
    · rintro rfl
      exact kindOf?_inj hkind hkind'
  | _ :: _ :: _ =>
    rw [htypes] at hsingle
    simp at hsingle

theorem types_eq_nil_iff {modifiers : List String} (hfit : ModifiersFit modifiers) :
    types modifiers = [] ↔ kindOf modifiers = .plain := by
  constructor
  · intro h
    rw [← kindOf_types, h]; rfl
  · intro h
    refine List.eq_nil_iff_forall_not_mem.2 fun m hm => ?_
    obtain ⟨kind, hkind⟩ := Option.isSome_iff_exists.1
      (isSome_kindOf?_iff.2 ((modifiersFit_iff.1 hfit).1 m hm))
    have hmem := (mem_iff_kindOf hfit hkind).1 (mem_types_iff.1 hm).1
    exact kindOf?_ne_plain hkind (hmem.symm.trans h)

/-- After the first modifier about types no other one may come. -/
theorem exists_applyModifiers_iff {name : String} {spec : FieldSpec} {modifiers : List String} :
    (∃ spec', applyModifiers name spec modifiers = .ok spec') ↔
      (∀ m ∈ types modifiers, m ∈ typeModifiers) ∧
        (types modifiers).length ≤ if spec.kind = .plain then 1 else 0 := by
  induction modifiers generalizing spec with
  | nil => simp [applyModifiers, types]
  | cons m modifiers ih =>
    rw [applyModifiers]
    by_cases hall : m = "all"
    · subst hall
      rw [if_pos rfl, ih, types_cons_all]
    · rw [if_neg hall, types_cons hall]
      cases hkind : kindOf? m with
      | none =>
        have hunknown : m ∉ typeModifiers := fun h => by
          rw [← isSome_kindOf?_iff, hkind] at h
          cases h
        simp [hunknown]
      | some kind =>
        have hknown : m ∈ typeModifiers := isSome_kindOf?_iff.1 (by rw [hkind]; rfl)
        have hlength : (m :: types modifiers).length = (types modifiers).length + 1 := rfl
        by_cases hplain : spec.kind = .plain
        · simp only [hplain, if_true]
          rw [ih, if_neg (kindOf?_ne_plain hkind), hlength]
          simp [hknown]
        · simp [hplain]

variable {name key field : String} {modifiers : List String} {spec : FieldSpec}

/-- A key is accepted as what it spells. -/
theorem fieldSpec_eq_ok_iff (hkey : Spells key field modifiers) :
    fieldSpec name key = .ok spec ↔ field ≠ "" ∧ ModifiersFit modifiers ∧
      spec = ⟨field, kindOf modifiers, modifiers.contains "all"⟩ := by
  have hsplit : key.toList.splitOn '|' = field.toList :: modifiers.map String.toList :=
    splitOn_eq_of_spells hkey
  have hfit : (∃ spec', applyModifiers name ⟨field, .plain, false⟩ modifiers = .ok spec') ↔
      ModifiersFit modifiers := by
    rw [exists_applyModifiers_iff, if_pos rfl, modifiersFit_iff]
  have hempty : field.toList.isEmpty = true ↔ field = "" := by simp
  simp only [fieldSpec, hsplit, String.ofList_toList, map_ofList_toList]
  by_cases hfield : field = ""
  · simp [hfield]
  · rw [if_neg (by rwa [hempty])]
    constructor
    · intro h
      exact ⟨hfield, hfit.1 ⟨spec, h⟩, by simpa using applyModifiers_ok h⟩
    · rintro ⟨-, hmodifiers, rfl⟩
      obtain ⟨spec', h⟩ := hfit.2 hmodifiers
      rw [h, applyModifiers_ok h]
      simp

/-- Keys that differ at most in how often and where `all` stands among the modifiers. -/
def SameKey (key key' : String) : Prop :=
  ∃ field modifiers modifiers', Spells key field modifiers ∧ Spells key' field modifiers' ∧
    types modifiers = types modifiers' ∧ ("all" ∈ modifiers ↔ "all" ∈ modifiers')

theorem SameKey.fieldSpec_iff {key' : String} (h : SameKey key key') :
    fieldSpec name key = .ok spec ↔ fieldSpec name key' = .ok spec := by
  obtain ⟨field, modifiers, modifiers', hkey, hkey', htypes, hall⟩ := h
  have hfit : ModifiersFit modifiers ↔ ModifiersFit modifiers' := by
    rw [modifiersFit_iff, modifiersFit_iff, htypes]
  have hkind : kindOf modifiers = kindOf modifiers' := by
    rw [← kindOf_types, htypes, kindOf_types]
  have hcontains : modifiers.contains "all" = modifiers'.contains "all" := by
    rw [Bool.eq_iff_iff, List.contains_iff_mem, List.contains_iff_mem, hall]
  rw [fieldSpec_eq_ok_iff hkey, fieldSpec_eq_ok_iff hkey', hfit, hkind, hcontains]

end EventRules.Detection
