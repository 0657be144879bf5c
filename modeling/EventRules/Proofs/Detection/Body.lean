import EventRules.Detection.Body
import EventRules.Proofs.Condition.Formed
import EventRules.Proofs.Text.Trim
import Mathlib.Tactic.SplitIfs

/-!
# What the body of a detection says

`bodyHolds` reads a body directly: a mapping asks for all of its entries, a list of mappings for any of
them, a list of values for any of them or, under the modifier `all`, for all. A body that is converted
makes a tree that says the same (`body_holds`), with nothing missing in it (`body_whole`).
-/

namespace EventRules.Detection

open Condition

/-- The field that a key is about: what stands before the first bar. -/
def fieldOf (key : String) : String :=
  .ofList ((key.toList.splitOn '|').headD [])

/-- What stands after the bars of a key. -/
def modifiersOf (key : String) : List String :=
  (key.toList.splitOn '|').tail.map .ofList

/-- How modifiers say that a value is meant. -/
def kindOf (modifiers : List String) : ValueKind :=
  (modifiers.findSome? kindOf?).getD .plain

/-- What the modifiers in a key ask for. -/
def specOf (key : String) : FieldSpec :=
  ⟨fieldOf key, kindOf (modifiersOf key), (modifiersOf key).contains "all"⟩

section
variable [PatternEngine] (names : FieldNames) (datum : Datum)

/-- What a datum says about a field and one value. -/
def valueHolds (field : String) (kind : ValueKind) (value : Yaml) : Verdict :=
  match literal? kind value with
  | some l => l.holds names datum field
  | none => .ok false

/-- What a datum says about an entry of a mapping. -/
def entryHolds (key : String) (value : Yaml) : Verdict :=
  let holds := valueHolds names datum (fieldOf key) (kindOf (modifiersOf key))
  match value with
  | .sequence items =>
    if "all" ∈ modifiersOf key then .all (items.map holds) else .any (items.map holds)
  | single => holds single

/-- What a datum says about a mapping: all of its entries, in order. -/
def mappingHolds (fields : List (Yaml × Yaml)) : Verdict :=
  .all (fields.map fun (key, value) => entryHolds names datum (key.string?.getD "") value)

/-- What a datum says about a body: all entries of a mapping, or any of a list of mappings. -/
def bodyHolds : Yaml → Verdict
  | .mapping fields => mappingHolds names datum fields
  | .sequence items =>
    .any (items.map fun item => item.mapping?.elim (.ok false) (mappingHolds names datum))
  | _ => .ok false

end

theorem kindOf?_ne_plain {modifier : String} {kind : ValueKind} (h : kindOf? modifier = some kind) :
    kind ≠ .plain := by
  rintro rfl
  unfold kindOf? at h
  split at h <;> simp at h

theorem kindOf_cons_none {modifier : String} (h : kindOf? modifier = none) (rest : List String) :
    kindOf (modifier :: rest) = kindOf rest := by
  simp [kindOf, h]

theorem kindOf_cons_some {modifier : String} {kind : ValueKind} (h : kindOf? modifier = some kind)
    (rest : List String) : kindOf (modifier :: rest) = kind := by
  simp [kindOf, h]

variable {name : String}

/-- Modifiers set the kind once, and ask for all values if `all` is among them. -/
theorem applyModifiers_ok {spec spec' : FieldSpec} {modifiers : List String}
    (h : applyModifiers name spec modifiers = .ok spec') :
    spec' = ⟨spec.field, if spec.kind = .plain then kindOf modifiers else spec.kind,
      spec.matchAll || modifiers.contains "all"⟩ := by
  induction modifiers generalizing spec with
  | nil =>
    obtain rfl : spec = spec' := by simpa [applyModifiers] using h
    have hkind : (if spec.kind = .plain then kindOf [] else spec.kind) = spec.kind :=
      ite_eq_right_iff.2 fun hplain => hplain.symm
    simp [hkind]
  | cons modifier rest ih =>
    rw [applyModifiers] at h
    by_cases hall : modifier = "all"
    · rw [if_pos hall] at h
      rw [ih h, hall, kindOf_cons_none rfl]
      simp
    · have hmem : (modifier :: rest).contains "all" = rest.contains "all" := by
        simp [Ne.symm hall]
      rw [if_neg hall] at h
      cases hkind : kindOf? modifier with
      | none => simp [hkind] at h
      | some kind =>
        simp only [hkind] at h
        split_ifs at h with hplain
        rw [ih h, hmem, kindOf_cons_some hkind, if_pos hplain, if_neg (kindOf?_ne_plain hkind)]

theorem fieldSpec_ok {key : String} {spec : FieldSpec} (h : fieldSpec name key = .ok spec) :
    spec = specOf key := by
  unfold fieldSpec at h
  unfold specOf fieldOf modifiersOf
  cases hparts : key.toList.splitOn '|' with
  | nil => simp [hparts] at h
  | cons field modifiers =>
    simp only [hparts] at h
    split_ifs at h
    simpa using applyModifiers_ok h

theorem literal_eq_ok_iff {spec : FieldSpec} {value : Yaml} {l : Literal} :
    literal name spec value = .ok l ↔ literal? spec.kind value = some l := by
  unfold literal
  cases literal? spec.kind value <;> simp

/-- Once its key is read, an entry is converted by its values. -/
theorem entry_eq_ok_iff {key : String} {value : Yaml} {spec : FieldSpec} {t : Item}
    (hspec : fieldSpec name key = .ok spec) : entry name key value = .ok t ↔
      (∃ items ls, value = .sequence items ∧ items ≠ [] ∧ items.mapM (literal name spec) = .ok ls ∧
        (if spec.matchAll then .join .and (ls.map (.field spec.field))
          else .field spec.field (.expansion ls)) = t) ∨
      (∀ items, value ≠ .sequence items) ∧
        ∃ l, literal name spec value = .ok l ∧ .field spec.field l = t := by
  rw [entry, hspec, Except.ok_bind]
  cases value with
  | sequence items =>
    by_cases hempty : items = []
    · simp [hempty]
    · have hisEmpty : items.isEmpty = false := by simpa using hempty
      cases hall : spec.matchAll <;> simp [hisEmpty, hempty, Except.bind_eq_ok_iff]
  | _ => simp [Except.bind_eq_ok_iff]

/-- What an entry is converted to. -/
theorem entry_ok {key : String} {value : Yaml} {t : Item} (h : entry name key value = .ok t) :
    (∃ items ls, value = .sequence items ∧ items ≠ [] ∧
      List.Forall₂ (fun v l => literal? (kindOf (modifiersOf key)) v = some l) items ls ∧
      t = if "all" ∈ modifiersOf key then .join .and (ls.map (.field (fieldOf key)))
        else .field (fieldOf key) (.expansion ls)) ∨
    (∀ items, value ≠ .sequence items) ∧
      ∃ l, literal? (kindOf (modifiersOf key)) value = some l ∧ t = .field (fieldOf key) l := by
  obtain ⟨spec, hspec, -⟩ := Except.bind_eq_ok_iff.1 h
  obtain rfl := fieldSpec_ok hspec
  rcases (entry_eq_ok_iff hspec).1 h with ⟨items, ls, rfl, hne, hls, rfl⟩ | ⟨hsingle, l, hl, rfl⟩
  · have hvalues := (Except.mapM_eq_ok_iff.1 hls).imp fun _ _ => literal_eq_ok_iff.1
    exact .inl ⟨items, ls, rfl, hne, hvalues, by simp [specOf]⟩
  · exact .inr ⟨hsingle, l, literal_eq_ok_iff.1 hl, rfl⟩

theorem valueHolds_of_literal? [PatternEngine] {field : String} {kind : ValueKind} {value : Yaml} {l : Literal}
    (h : literal? kind value = some l) (names : FieldNames) (datum : Datum) :
    valueHolds names datum field kind value = l.holds names datum field := by
  rw [valueHolds, h]

theorem entry_holds [PatternEngine] {key : String} {value : Yaml} {t : Item} (h : entry name key value = .ok t)
    (names : FieldNames) (datum : Datum) :
    t.holds names datum = entryHolds names datum key value := by
  rcases entry_ok h with ⟨items, ls, rfl, -, hls, rfl⟩ | ⟨hsingle, l, hl, rfl⟩
  · have hvalues := hls.map_eq_map (f := valueHolds names datum (fieldOf key) _)
      fun _ _ _ hl => valueHolds_of_literal? hl names datum
    rw [entryHolds, hvalues]
    split
    · rw [Item.holds_join_and, List.map_map]; rfl
    · rw [Item.holds_field, Literal.holds_expansion]
  · rw [Item.holds_field, ← valueHolds_of_literal? hl]
    cases value with
    | sequence items => exact absurd rfl (hsingle items)
    | _ => rfl

/-- Comparisons come from modifiers that stand for an operator. -/
theorem kindOf_compare {modifiers : List String} {op : String}
    (h : kindOf modifiers = .compare op) : op ∈ [">", "<", ">=", "<="] := by
  induction modifiers with
  | nil => simp [kindOf] at h
  | cons modifier rest ih =>
    cases hkind : kindOf? modifier with
    | none => exact ih (by rwa [kindOf_cons_none hkind] at h)
    | some kind =>
      rw [kindOf_cons_some hkind] at h
      subst h
      unfold kindOf? at hkind
      split at hkind <;> simp_all

theorem literal?_simple {modifiers : List String} {value : Yaml} {l : Literal}
    (h : literal? (kindOf modifiers) value = some l) : l.Simple := by
  cases hkind : kindOf modifiers with
  | plain =>
    rw [hkind] at h
    cases value <;> simp [literal?, scalar?] at h <;> subst h <;> trivial
  | regex =>
    obtain ⟨text, -, rfl⟩ := Option.map_eq_some_iff.1 (hkind ▸ h)
    trivial
  | cidr =>
    obtain ⟨text, -, rfl⟩ := Option.map_eq_some_iff.1 (hkind ▸ h)
    trivial
  | compare op =>
    obtain ⟨n, -, rfl⟩ := Option.map_eq_some_iff.1 (hkind ▸ h)
    exact kindOf_compare hkind

theorem scalar?_simple {value : Yaml} {l : Literal} (h : scalar? value = some l) : l.Simple :=
  @literal?_simple [] value l h

/-- A key that is read names a field. -/
theorem fieldOf_ne_empty {key : String} {spec : FieldSpec} (h : fieldSpec name key = .ok spec) :
    fieldOf key ≠ "" := by
  unfold fieldSpec at h
  unfold fieldOf
  cases hparts : key.toList.splitOn '|' with
  | nil => simp [hparts] at h
  | cons field modifiers =>
    simp only [hparts] at h
    split_ifs at h with hempty
    simpa using hempty

theorem bar_not_mem_fieldOf (key : String) : '|' ∉ (fieldOf key).toList := by
  unfold fieldOf
  cases hparts : key.toList.splitOn '|' with
  | nil => simp
  | cons field modifiers =>
    have hmem : field ∈ key.toList.splitOn '|' := by simp [hparts]
    simpa using Text.not_mem_of_mem_splitOn hmem

theorem entry_whole {key : String} {value : Yaml} {t : Item} (h : entry name key value = .ok t) :
    t.Whole := by
  obtain ⟨spec, hspec, -⟩ := Except.bind_eq_ok_iff.1 h
  have hname := fieldOf_ne_empty hspec
  have hbar := bar_not_mem_fieldOf key
  rcases entry_ok h with ⟨items, ls, -, hne, hls, rfl⟩ | ⟨-, l, hl, rfl⟩
  · have hls_ne : ls ≠ [] := hls.ne_nil hne
    have hsimple : ∀ l ∈ ls, l.Simple := by
      intro l hl
      obtain ⟨v, -, hv⟩ := hls.exists_of_mem_right hl
      exact literal?_simple hv
    split
    · refine Item.whole_join_and (by simpa using hls_ne) fun t ht => ?_
      obtain ⟨l, hl, rfl⟩ := List.mem_map.1 ht
      exact Item.whole_field hname hbar (hsimple l hl).tidy
    · exact Item.whole_field hname hbar ⟨hls_ne, hsimple⟩
  · exact Item.whole_field hname hbar (literal?_simple hl).tidy

/-- The test that an entry with any key asks for. -/
def keyedEntry (name : String) (entry : Yaml × Yaml) : Except GrammarError Item :=
  match entry.1.string? with
  | none => .error (.detection name (.invalidFieldName entry.1))
  | some key => Detection.entry name key entry.2

theorem entries_eq (fields : List (Yaml × Yaml)) : entries name fields = fields.mapM (keyedEntry name) := by
  induction fields with
  | nil => rfl
  | cons entry fields ih =>
    rw [entries, List.mapM_cons, ← ih, keyedEntry]
    cases entry.1.string? <;> rfl

theorem mapping_eq_ok_iff {fields : List (Yaml × Yaml)} {t : Item} : mapping name fields = .ok t ↔
    fields ≠ [] ∧ ∃ ts, fields.mapM (keyedEntry name) = .ok ts ∧ .join .and ts = t := by
  rw [mapping, entries_eq]
  cases fields with
  | nil => simp
  | cons entry fields => simp [Except.bind_eq_ok_iff]

/-- The entries of a mapping are converted one by one. -/
theorem mapping_ok {fields : List (Yaml × Yaml)} {t : Item} (h : mapping name fields = .ok t) :
    ∃ ts, ts ≠ [] ∧ t = .join .and ts ∧
      List.Forall₂ (fun field t => entry name (field.1.string?.getD "") field.2 = .ok t) fields ts := by
  obtain ⟨hne, ts, hts, rfl⟩ := mapping_eq_ok_iff.1 h
  have hentries := Except.mapM_eq_ok_iff.1 hts
  refine ⟨ts, hentries.ne_nil hne, rfl, hentries.imp fun field t ht => ?_⟩
  unfold keyedEntry at ht
  cases hkey : field.1.string? with
  | none => simp [hkey] at ht
  | some key => simpa [hkey] using ht

theorem mapping_holds [PatternEngine] {fields : List (Yaml × Yaml)} {t : Item} (h : mapping name fields = .ok t)
    (names : FieldNames) (datum : Datum) :
    t.holds names datum = mappingHolds names datum fields := by
  obtain ⟨ts, -, rfl, hts⟩ := mapping_ok h
  have hentries := hts.map_eq_map fun _ _ _ ht => (entry_holds ht names datum).symm
  rw [Item.holds_join_and, mappingHolds, hentries]

theorem mapping_whole {fields : List (Yaml × Yaml)} {t : Item} (h : mapping name fields = .ok t) :
    t.Whole := by
  obtain ⟨ts, hne, rfl, hts⟩ := mapping_ok h
  refine Item.whole_join_and hne fun t ht => ?_
  obtain ⟨field, -, hentry⟩ := hts.exists_of_mem_right ht
  exact entry_whole hentry

/-- Of mappings none is passed over. -/
theorem mapM_filterMap_mapping? {items : List Yaml} {ts : List Item}
    (h : (items.filterMap Yaml.mapping?).mapM (mapping name) = .ok ts)
    (hall : ∀ item ∈ items, item.isMapping) :
    List.Forall₂ (fun item t => ∃ fields, item.mapping? = some fields ∧ mapping name fields = .ok t)
      items ts := by
  rw [Except.mapM_eq_ok_iff] at h
  induction items generalizing ts with
  | nil =>
    obtain rfl := List.forall₂_nil_left_iff.1 h
    exact .nil
  | cons item items ih =>
    obtain ⟨fields, hfields⟩ := Option.isSome_iff_exists.1 (hall item (by simp))
    rw [List.filterMap_cons_some hfields] at h
    obtain ⟨t, rest, ht, hrest, rfl⟩ := List.forall₂_cons_left_iff.1 h
    exact .cons ⟨fields, hfields, ht⟩ (ih hrest fun item hitem => hall item (by simp [hitem]))

theorem body_sequence_eq_ok_iff {items : List Yaml} {t : Item} : body name (.sequence items) = .ok t ↔
    items ≠ [] ∧ if items.all Yaml.isMapping then
        ∃ ts, (items.filterMap Yaml.mapping?).mapM (mapping name) = .ok ts ∧ .join .or ts = t
      else ∃ ls, items.mapM scalar? = some ls ∧ .join .or (ls.map .keyword) = t := by
  rw [body]
  by_cases hempty : items = []
  · simp [hempty]
  · have hisEmpty : items.isEmpty = false := by simpa using hempty
    rw [hisEmpty, and_iff_right hempty]
    simp only [Bool.false_eq_true, if_false]
    split_ifs
    · rw [mappings, Except.bind_eq_ok_iff]; simp
    · cases items.mapM scalar? <;> simp

/-- What a body is converted to: a mapping, any of some mappings, or a search for keywords. -/
theorem body_ok {value : Yaml} {t : Item} (h : body name value = .ok t) :
    (∃ fields, value = .mapping fields ∧ mapping name fields = .ok t) ∨
    (∃ items ts, value = .sequence items ∧ ts ≠ [] ∧ t = .join .or ts ∧
      List.Forall₂ (fun item t => ∃ fields, item.mapping? = some fields ∧ mapping name fields = .ok t)
        items ts) ∨
    (∃ items ls, value = .sequence items ∧ ls ≠ [] ∧ t = .join .or (ls.map .keyword) ∧
      List.Forall₂ (fun item l => scalar? item = some l) items ls) ∨
    (∀ fields, value ≠ .mapping fields) ∧ (∀ items, value ≠ .sequence items) ∧
      ∃ l, scalar? value = some l ∧ t = .keyword l := by
  cases value with
  | mapping fields => exact .inl ⟨fields, rfl, h⟩
  | sequence items =>
    obtain ⟨hne, h⟩ := body_sequence_eq_ok_iff.1 h
    split_ifs at h with hall
    · obtain ⟨ts, hts, rfl⟩ := h
      have hmappings := mapM_filterMap_mapping? hts (by simpa using hall)
      exact .inr (.inl ⟨items, ts, rfl, hmappings.ne_nil hne, rfl, hmappings⟩)
    · obtain ⟨ls, hls, rfl⟩ := h
      have hscalars := Option.mapM_eq_some_iff.1 hls
      exact .inr (.inr (.inl ⟨items, ls, rfl, hscalars.ne_nil hne, rfl, hscalars⟩))
  | tagged => simp [body, scalar?] at h
  | _ =>
    refine .inr (.inr (.inr ⟨by simp, by simp, _, rfl, (Except.ok.inj h).symm⟩))

theorem scalar_not_mapping {item : Yaml} {l : Literal} (h : scalar? item = some l) :
    item.mapping? = none := by
  cases item <;> first | rfl | simp [scalar?] at h

/-- A body that is converted makes a tree that says the same as the body. -/
theorem body_holds [PatternEngine] {value : Yaml} {t : Item} (h : body name value = .ok t)
    (names : FieldNames) (datum : Datum) : t.holds names datum = bodyHolds names datum value := by
  rcases body_ok h with ⟨fields, rfl, hf⟩ | ⟨items, ts, rfl, -, rfl, hts⟩ |
    ⟨items, ls, rfl, -, rfl, hls⟩ | ⟨hmap, hseq, l, -, rfl⟩
  · exact mapping_holds hf names datum
  · have hitems := hts.map_eq_map
      (f := fun item => item.mapping?.elim (.ok false) (mappingHolds names datum))
      (g := Item.holds names datum) ?_
    · rw [Item.holds_join_or, bodyHolds, hitems]
    · rintro item - t ⟨fields, hfields, hf⟩
      rw [hfields, mapping_holds hf]; rfl
  · have hitems := hls.map_eq_map
      (f := fun item => item.mapping?.elim (.ok false) (mappingHolds names datum))
      (g := fun l => Item.holds names datum (.keyword l)) ?_
    · rw [Item.holds_join_or, bodyHolds, hitems, List.map_map]; rfl
    · intro item _ l hl
      rw [scalar_not_mapping hl]; rfl
  · cases value with
    | mapping fields => exact absurd rfl (hmap fields)
    | sequence items => exact absurd rfl (hseq items)
    | _ => rfl

theorem body_whole {value : Yaml} {t : Item} (h : body name value = .ok t) : t.Whole := by
  rcases body_ok h with ⟨fields, -, hf⟩ | ⟨items, ts, -, hne, rfl, hts⟩ |
    ⟨items, ls, -, hne, rfl, hls⟩ | ⟨-, -, l, hl, rfl⟩
  · exact mapping_whole hf
  · refine Item.whole_join_or hne fun t ht => ?_
    obtain ⟨item, -, fields, -, hf⟩ := hts.exists_of_mem_right ht
    exact mapping_whole hf
  · refine Item.whole_join_or (by simpa using hne) fun t ht => ?_
    obtain ⟨l, hl, rfl⟩ := List.mem_map.1 ht
    obtain ⟨item, -, hitem⟩ := hls.exists_of_mem_right hl
    exact Item.whole_keyword (scalar?_simple hitem)
  · exact Item.whole_keyword (scalar?_simple hl)

end EventRules.Detection
