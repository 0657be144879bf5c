import EventRules.Proofs.Detection.Key

/-!
# Which bodies are converted

`BodyFits` says what a body has to look like: a scalar, scalars in a list, a mapping or mappings in a
list, where each key is accepted and each value suits its modifiers. A body without tags is converted
exactly if it looks like that, and how often and where `all` stands in its keys does not change what it is
converted to (`body_accepted`).
-/

namespace EventRules

namespace Yaml

/-- No tag stands anywhere in the value. -/
inductive Untagged : Yaml → Prop
  | null : Untagged .null
  | bool (value : Bool) : Untagged (.bool value)
  | number (value : Numeral) : Untagged (.number value)
  | string (text : String) : Untagged (.string text)
  | sequence {items : List Yaml} (h : ∀ item ∈ items, Untagged item) : Untagged (.sequence items)
  | mapping {fields : List (Yaml × Yaml)} (hkeys : ∀ field ∈ fields, Untagged field.1)
    (hvalues : ∀ field ∈ fields, Untagged field.2) : Untagged (.mapping fields)

/-- Null, a truth value, a number or a string. -/
def IsScalar : Yaml → Prop
  | .null | .bool _ | .number _ | .string _ => True
  | _ => False

variable {v : Yaml}

theorem Untagged.string?_eq_some_iff (h : v.Untagged) {text : String} :
    v.string? = some text ↔ v = .string text := by
  cases h <;> simp [string?, untagged]

theorem Untagged.mapping?_eq_some_iff (h : v.Untagged) {fields : List (Yaml × Yaml)} :
    v.mapping? = some fields ↔ v = .mapping fields := by
  cases h <;> simp [mapping?, untagged]

theorem IsScalar.not_isMapping (h : v.IsScalar) : v.isMapping = false := by
  cases v with
  | sequence | mapping | tagged => exact absurd h id
  | _ => rfl

theorem isMapping_iff : v.isMapping = true ↔ ∃ fields, v.mapping? = some fields :=
  Option.isSome_iff_exists

end Yaml

namespace Detection

open Condition (Item Literal)

/-! ### Values -/

/-- The text is that of an integer of 64 bits or of a double. -/
def IsNumber (text : List Char) : Prop :=
  (Digits.readInt64? text).isSome ∨ (Decimal.readDouble? text).isSome

/-- A value that the modifiers of its field ask for. -/
inductive Suits (modifiers : List String) : Yaml → Prop
  | scalar {v : Yaml} (hnone : types modifiers = []) (hv : v.IsScalar) : Suits modifiers v
  | text (text : String) (h : "re" ∈ modifiers ∨ "cidr" ∈ modifiers) : Suits modifiers (.string text)
  | number (value : Numeral) (h : ∃ m ∈ ["gt", "gte", "lt", "lte"], m ∈ modifiers) :
    Suits modifiers (.number value)
  | numberText {text : String} (h : ∃ m ∈ ["gt", "gte", "lt", "lte"], m ∈ modifiers)
    (htext : IsNumber (Text.trim text.toList)) : Suits modifiers (.string text)

/-- The value of a field, or the values of a list that is not empty. -/
inductive ValueFits (modifiers : List String) : Yaml → Prop
  | single {v : Yaml} (h : Suits modifiers v) : ValueFits modifiers v
  | list {items : List Yaml} (hne : items ≠ []) (h : ∀ item ∈ items, Suits modifiers item) :
    ValueFits modifiers (.sequence items)

theorem isSome_scalar?_iff {v : Yaml} : (scalar? v).isSome ↔ v.IsScalar := by
  cases v <;> simp [scalar?, Yaml.IsScalar]

theorem isSome_read?_iff {text : List Char} : (Number.read? text).isSome ↔ IsNumber text := by
  unfold Number.read? IsNumber
  cases Digits.readInt64? text <;> simp

theorem isSome_number?_iff {v : Yaml} : (number? v).isSome ↔
    (∃ value, v = .number value) ∨ ∃ text, v = .string text ∧ IsNumber (Text.trim text.toList) := by
  cases v <;> simp [number?, isSome_read?_iff]

variable {modifiers : List String} {v : Yaml}

theorem mem_comparisons_iff (hfit : ModifiersFit modifiers) :
    (∃ m ∈ ["gt", "gte", "lt", "lte"], m ∈ modifiers) ↔ ∃ op, kindOf modifiers = .compare op := by
  constructor
  · rintro ⟨m, hm, hmem⟩
    have hall : ∀ m ∈ ["gt", "gte", "lt", "lte"], ∃ op, kindOf? m = some (.compare op) := by simp [kindOf?]
    obtain ⟨op, hop⟩ := hall m hm
    exact ⟨op, (mem_iff_kindOf hfit hop).1 hmem⟩
  · rintro ⟨op, hop⟩
    have hall : ∀ op ∈ [">", "<", ">=", "<="],
        ∃ m ∈ ["gt", "gte", "lt", "lte"], kindOf? m = some (.compare op) := by simp [kindOf?]
    obtain ⟨m, hm, hkind⟩ := hall op (kindOf_compare hop)
    exact ⟨m, hm, (mem_iff_kindOf hfit hkind).2 hop⟩

/-- The values that suit the modifiers are those that make a literal. -/
theorem isSome_literal?_iff (hfit : ModifiersFit modifiers) (hv : v.Untagged) :
    (literal? (kindOf modifiers) v).isSome ↔ Suits modifiers v := by
  have hsuits : Suits modifiers v ↔ types modifiers = [] ∧ v.IsScalar ∨
      (("re" ∈ modifiers ∨ "cidr" ∈ modifiers) ∧ ∃ text, v = .string text) ∨
      (∃ m ∈ ["gt", "gte", "lt", "lte"], m ∈ modifiers) ∧ (number? v).isSome := by
    rw [isSome_number?_iff]
    constructor
    · rintro (⟨hnone, hv⟩ | ⟨text, h⟩ | ⟨value, h⟩ | ⟨h, htext⟩)
      · exact .inl ⟨hnone, hv⟩
      · exact .inr (.inl ⟨h, text, rfl⟩)
      · exact .inr (.inr ⟨h, .inl ⟨value, rfl⟩⟩)
      · exact .inr (.inr ⟨h, .inr ⟨_, rfl, htext⟩⟩)
    · rintro (⟨hnone, hv⟩ | ⟨h, text, rfl⟩ | ⟨h, ⟨value, rfl⟩ | ⟨text, rfl, htext⟩⟩)
      · exact .scalar hnone hv
      · exact .text text h
      · exact .number value h
      · exact .numberText h htext
  have hstring : v.string?.isSome ↔ ∃ text, v = .string text := by
    simp only [Option.isSome_iff_exists, hv.string?_eq_some_iff]
  have hregex : "re" ∈ modifiers ↔ kindOf modifiers = .regex := mem_iff_kindOf hfit rfl
  have hcidr : "cidr" ∈ modifiers ↔ kindOf modifiers = .cidr := mem_iff_kindOf hfit rfl
  rw [hsuits, types_eq_nil_iff hfit, mem_comparisons_iff hfit, hregex, hcidr]
  cases kindOf modifiers with
  | plain => simp [literal?, isSome_scalar?_iff]
  | regex => simp [literal?, hstring]
  | cidr => simp [literal?, hstring]
  | compare op => simp [literal?]

/-! ### Entries -/

variable {name key field : String} {spec : FieldSpec} {t : Item}

theorem exists_literal_iff : (∃ l, literal name spec v = .ok l) ↔ (literal? spec.kind v).isSome := by
  simp only [literal_eq_ok_iff, Option.isSome_iff_exists]

theorem literal?_sequence (kind : ValueKind) (items : List Yaml) : literal? kind (.sequence items) = none := by
  cases kind <;> rfl

/-- Once its key is read, an entry is converted if its values are. -/
theorem exists_entry_of_spec (hspec : fieldSpec name key = .ok spec) (v : Yaml) :
    (∃ t, entry name key v = .ok t) ↔
      (∃ items, v = .sequence items ∧ items ≠ [] ∧ ∀ item ∈ items, (literal? spec.kind item).isSome) ∨
        (literal? spec.kind v).isSome := by
  have hvalues {items : List Yaml} : (∃ ls, items.mapM (literal name spec) = .ok ls) ↔
      ∀ item ∈ items, (literal? spec.kind item).isSome := by
    simp only [Except.exists_mapM_ok_iff, exists_literal_iff]
  simp only [entry_eq_ok_iff hspec]
  constructor
  · rintro ⟨t, ⟨items, ls, rfl, hne, hls, -⟩ | ⟨-, l, hl, -⟩⟩
    · exact .inl ⟨items, rfl, hne, hvalues.1 ⟨ls, hls⟩⟩
    · exact .inr (exists_literal_iff.1 ⟨l, hl⟩)
  · rintro (⟨items, rfl, hne, hitems⟩ | hv)
    · obtain ⟨ls, hls⟩ := hvalues.2 hitems
      exact ⟨_, .inl ⟨items, ls, rfl, hne, hls, rfl⟩⟩
    · have hsingle : ∀ items, v ≠ .sequence items := by
        rintro items rfl
        simp [literal?_sequence] at hv
      obtain ⟨l, hl⟩ := exists_literal_iff.2 hv
      exact ⟨_, .inr ⟨hsingle, l, hl, rfl⟩⟩

/-- An entry is converted if its key is accepted and its value suits the modifiers in it. -/
theorem exists_entry_iff (hkey : Spells key field modifiers) (hv : v.Untagged) :
    (∃ t, entry name key v = .ok t) ↔ field ≠ "" ∧ ModifiersFit modifiers ∧ ValueFits modifiers v := by
  by_cases hfit : field ≠ "" ∧ ModifiersFit modifiers
  · have hspec : fieldSpec name key = .ok ⟨field, kindOf modifiers, modifiers.contains "all"⟩ :=
      (fieldSpec_eq_ok_iff hkey).2 ⟨hfit.1, hfit.2, rfl⟩
    have hvalue : (∃ t, entry name key v = .ok t) ↔ ValueFits modifiers v := by
      rw [exists_entry_of_spec hspec, isSome_literal?_iff hfit.2 hv]
      constructor
      · rintro (⟨items, rfl, hne, hitems⟩ | hsuits)
        · cases hv with
          | sequence hv =>
            exact .list hne fun item hitem => (isSome_literal?_iff hfit.2 (hv item hitem)).1 (hitems item hitem)
        · exact .single hsuits
      · rintro (hsuits | ⟨hne, hitems⟩)
        · exact .inr hsuits
        · cases hv with
          | sequence hv =>
            exact .inl ⟨_, rfl, hne,
              fun item hitem => (isSome_literal?_iff hfit.2 (hv item hitem)).2 (hitems item hitem)⟩
    rw [hvalue, ← and_assoc, and_iff_right hfit]
  · refine iff_of_false ?_ fun h => hfit ⟨h.1, h.2.1⟩
    rintro ⟨t, ht⟩
    obtain ⟨spec, hspec, -⟩ := Except.bind_eq_ok_iff.1 ht
    obtain ⟨hfield, hmodifiers, -⟩ := (fieldSpec_eq_ok_iff hkey).1 hspec
    exact hfit ⟨hfield, hmodifiers⟩

/-! ### Mappings -/

/-- The key is a string that names a field, and the value suits the modifiers in it. -/
def EntryFits (entry : Yaml × Yaml) : Prop :=
  ∃ key field modifiers, entry.1 = .string key ∧ Spells key field modifiers ∧ field ≠ "" ∧
    ModifiersFit modifiers ∧ ValueFits modifiers entry.2

structure MappingFits (fields : List (Yaml × Yaml)) : Prop where
  ne_nil : fields ≠ []
  entries : ∀ entry ∈ fields, EntryFits entry

theorem exists_keyedEntry_iff {entry : Yaml × Yaml} (hkey : entry.1.Untagged) (hvalue : entry.2.Untagged) :
    (∃ t, keyedEntry name entry = .ok t) ↔ EntryFits entry := by
  obtain ⟨key, value⟩ := entry
  unfold keyedEntry EntryFits
  cases htext : key.string? with
  | none =>
    have hnone : ∀ text, key ≠ .string text := fun text h => by
      rw [hkey.string?_eq_some_iff.2 h] at htext
      cases htext
    simp [hnone]
  | some text =>
    obtain rfl := hkey.string?_eq_some_iff.1 htext
    simp only [exists_entry_iff (spells_iff.2 ⟨rfl, rfl⟩) hvalue]
    constructor
    · rintro ⟨hfield, hmodifiers, hfits⟩
      exact ⟨text, _, _, rfl, spells_iff.2 ⟨rfl, rfl⟩, hfield, hmodifiers, hfits⟩
    · rintro ⟨text', field, modifiers, htext', hspells, hfield, hmodifiers, hfits⟩
      obtain rfl := Yaml.string.inj htext'
      obtain ⟨rfl, rfl⟩ := spells_iff.1 hspells
      exact ⟨hfield, hmodifiers, hfits⟩

theorem exists_mapping_iff {fields : List (Yaml × Yaml)} (hv : (Yaml.mapping fields).Untagged) :
    (∃ t, mapping name fields = .ok t) ↔ MappingFits fields := by
  cases hv with
  | mapping hkeys hvalues =>
    have hentries : (∃ ts, fields.mapM (keyedEntry name) = .ok ts) ↔ ∀ entry ∈ fields, EntryFits entry := by
      rw [Except.exists_mapM_ok_iff]
      exact forall₂_congr fun entry h => exists_keyedEntry_iff (hkeys entry h) (hvalues entry h)
    simp only [mapping_eq_ok_iff]
    constructor
    · rintro ⟨t, hne, ts, hts, -⟩
      exact ⟨hne, hentries.1 ⟨ts, hts⟩⟩
    · rintro ⟨hne, hfits⟩
      obtain ⟨ts, hts⟩ := hentries.2 hfits
      exact ⟨_, hne, ts, hts, rfl⟩

/-! ### Bodies -/

/-- What a body has to look like. -/
inductive BodyFits : Yaml → Prop
  | scalar {v : Yaml} (hv : v.IsScalar) : BodyFits v
  | scalars {items : List Yaml} (hne : items ≠ []) (h : ∀ item ∈ items, item.IsScalar) :
    BodyFits (.sequence items)
  | mapping {fields : List (Yaml × Yaml)} (h : MappingFits fields) : BodyFits (.mapping fields)
  | mappings {items : List Yaml} (hne : items ≠ [])
    (h : ∀ item ∈ items, ∃ fields, item = .mapping fields ∧ MappingFits fields) : BodyFits (.sequence items)

theorem exists_scalars_iff {items : List Yaml} :
    (∃ ls, items.mapM scalar? = some ls) ↔ ∀ item ∈ items, item.IsScalar := by
  induction items with
  | nil => simp
  | cons item items ih =>
    rw [List.forall_mem_cons, ← ih, ← isSome_scalar?_iff, Option.isSome_iff_exists, List.mapM_cons]
    simp [Option.bind_eq_some_iff]

theorem exists_mappings_iff {items : List Yaml} (hitems : ∀ item ∈ items, item.Untagged)
    (hall : ∀ item ∈ items, item.isMapping) :
    (∃ ts, (items.filterMap Yaml.mapping?).mapM (mapping name) = .ok ts) ↔
      ∀ item ∈ items, ∃ fields, item = .mapping fields ∧ MappingFits fields := by
  rw [Except.exists_mapM_ok_iff]
  simp only [List.mem_filterMap, forall_exists_index, and_imp]
  constructor
  · intro h item hitem
    obtain ⟨fields, hfields⟩ := Yaml.isMapping_iff.1 (hall item hitem)
    obtain rfl := (hitems item hitem).mapping?_eq_some_iff.1 hfields
    exact ⟨fields, rfl, (exists_mapping_iff (hitems _ hitem)).1 (h fields _ hitem hfields)⟩
  · intro h fields item hitem hfields
    obtain rfl := (hitems item hitem).mapping?_eq_some_iff.1 hfields
    obtain ⟨fields', hfields', hfits⟩ := h _ hitem
    obtain rfl := Yaml.mapping.inj hfields'
    exact (exists_mapping_iff (hitems _ hitem)).2 hfits

theorem bodyFits_sequence_iff {items : List Yaml} : BodyFits (.sequence items) ↔ items ≠ [] ∧
    ((∀ item ∈ items, ∃ fields, item = .mapping fields ∧ MappingFits fields) ∨
      ∀ item ∈ items, item.IsScalar) := by
  constructor
  · rintro (hv | ⟨hne, h⟩ | _ | ⟨hne, h⟩)
    · exact absurd hv id
    · exact ⟨hne, .inr h⟩
    · exact ⟨hne, .inl h⟩
  · rintro ⟨hne, h | h⟩
    · exact .mappings hne h
    · exact .scalars hne h

/-- A list is converted if it holds mappings only, or scalars only. -/
theorem exists_body_sequence_iff {items : List Yaml} (hitems : ∀ item ∈ items, item.Untagged) :
    (∃ t, body name (.sequence items) = .ok t) ↔ BodyFits (.sequence items) := by
  simp only [body_sequence_eq_ok_iff, bodyFits_sequence_iff]
  by_cases hne : items = []
  · simp [hne]
  by_cases hall : items.all Yaml.isMapping
  · have hmappings : ∀ item ∈ items, item.isMapping := by simpa using hall
    have hscalars : ¬∀ item ∈ items, item.IsScalar := fun h => by
      obtain ⟨first, hfirst⟩ := List.exists_mem_of_ne_nil items hne
      have hmapping := hmappings first hfirst
      rw [Yaml.IsScalar.not_isMapping (h first hfirst)] at hmapping
      cases hmapping
    have hconverted : (∃ ts, (items.filterMap Yaml.mapping?).mapM (mapping name) = .ok ts) ↔ _ :=
      exists_mappings_iff hitems hmappings
    rw [or_iff_left hscalars, ← hconverted]
    simp [hne, hall]
  · have hmappings : ¬∀ item ∈ items, ∃ fields, item = .mapping fields ∧ MappingFits fields := fun h => by
      refine hall (List.all_eq_true.2 fun item hitem => ?_)
      obtain ⟨fields, rfl, -⟩ := h item hitem
      rfl
    rw [or_iff_right hmappings, ← exists_scalars_iff]
    simp [hne, hall]

theorem exists_body_iff (hv : v.Untagged) : (∃ t, body name v = .ok t) ↔ BodyFits v := by
  have hscalar (hv : v.IsScalar) (hbody : ∃ t, body name v = .ok t) :
      (∃ t, body name v = .ok t) ↔ BodyFits v :=
    iff_of_true hbody (.scalar hv)
  cases hv with
  | null | bool | number | string => exact hscalar trivial ⟨_, rfl⟩
  | sequence hitems => exact exists_body_sequence_iff hitems
  | mapping hkeys hvalues =>
    refine (exists_mapping_iff (.mapping hkeys hvalues)).trans ⟨.mapping, ?_⟩
    rintro (hv | _ | ⟨h⟩ | _)
    · exact absurd hv id
    · exact h

/-! ### The place of `all` -/

/-- Entries with one value under keys that differ at most in how often and where `all` stands. -/
def SameEntry (entry entry' : Yaml × Yaml) : Prop :=
  entry.2 = entry'.2 ∧ (entry.1 = entry'.1 ∨
    ∃ key key', entry.1 = .string key ∧ entry'.1 = .string key' ∧ SameKey key key')

/-- Values that are the same, or mappings with entries that are, one by one. -/
inductive SameMapping : Yaml → Yaml → Prop
  | refl (v : Yaml) : SameMapping v v
  | mapping {fields fields' : List (Yaml × Yaml)} (h : List.Forall₂ SameEntry fields fields') :
    SameMapping (.mapping fields) (.mapping fields')

/-- Bodies that differ at most in how often and where `all` stands in their keys. -/
inductive SameBody : Yaml → Yaml → Prop
  | single {v v' : Yaml} (h : SameMapping v v') : SameBody v v'
  | list {items items' : List Yaml} (h : List.Forall₂ SameMapping items items') :
    SameBody (.sequence items) (.sequence items')

theorem SameEntry.keyedEntry_iff {entry entry' : Yaml × Yaml} (h : SameEntry entry entry') :
    keyedEntry name entry = .ok t ↔ keyedEntry name entry' = .ok t := by
  obtain ⟨key, value⟩ := entry
  obtain ⟨key', value'⟩ := entry'
  obtain ⟨rfl, rfl | ⟨text, text', rfl, rfl, hsame⟩⟩ := h
  · rfl
  · show entry name text value = .ok t ↔ entry name text' value = .ok t
    rw [entry, entry, Except.bind_eq_ok_iff, Except.bind_eq_ok_iff]
    simp only [hsame.fieldSpec_iff]

theorem mapping_same {fields fields' : List (Yaml × Yaml)} (h : List.Forall₂ SameEntry fields fields') :
    mapping name fields = .ok t ↔ mapping name fields' = .ok t := by
  have hne : fields ≠ [] ↔ fields' ≠ [] := ⟨h.ne_nil, h.flip.ne_nil⟩
  have hentries {ts : List Item} :
      fields.mapM (keyedEntry name) = .ok ts ↔ fields'.mapM (keyedEntry name) = .ok ts :=
    h.mapM_eq_ok_congr fun _ _ hsame _ => hsame.keyedEntry_iff
  simp only [mapping_eq_ok_iff, hne, hentries]

theorem SameMapping.isMapping_eq {v v' : Yaml} (h : SameMapping v v') : v.isMapping = v'.isMapping := by
  cases h <;> rfl

theorem SameMapping.scalar?_eq {v v' : Yaml} (h : SameMapping v v') : scalar? v = scalar? v' := by
  cases h <;> rfl

theorem filterMap_same {items items' : List Yaml} (h : List.Forall₂ SameMapping items items') :
    List.Forall₂ (fun fields fields' => ∀ t, mapping name fields = .ok t ↔ mapping name fields' = .ok t)
      (items.filterMap Yaml.mapping?) (items'.filterMap Yaml.mapping?) := by
  induction h with
  | nil => exact .nil
  | @cons item item' items items' hsame _ ih =>
    cases hsame with
    | mapping hfields =>
      exact .cons (fun t => mapping_same hfields) ih
    | refl =>
      cases hitem : item.mapping? with
      | none => rwa [List.filterMap_cons_none hitem, List.filterMap_cons_none hitem]
      | some fields =>
        rw [List.filterMap_cons_some hitem, List.filterMap_cons_some hitem]
        exact .cons (fun _ => Iff.rfl) ih

theorem body_sequence_same {items items' : List Yaml} (h : List.Forall₂ SameMapping items items') :
    body name (.sequence items) = .ok t ↔ body name (.sequence items') = .ok t := by
  have hne : items ≠ [] ↔ items' ≠ [] := ⟨h.ne_nil, h.flip.ne_nil⟩
  have hall : items.all Yaml.isMapping = items'.all Yaml.isMapping := by
    have hmap := h.map_eq_map fun _ _ _ hsame => hsame.isMapping_eq
    calc items.all Yaml.isMapping = (items.map Yaml.isMapping).all id := by rw [List.all_map]; rfl
      _ = (items'.map Yaml.isMapping).all id := by rw [hmap]
      _ = items'.all Yaml.isMapping := by rw [List.all_map]; rfl
  have hscalars : items.mapM scalar? = items'.mapM scalar? :=
    h.mapM_eq_mapM fun _ _ _ hsame => hsame.scalar?_eq
  have hmappings {ts : List Item} : (items.filterMap Yaml.mapping?).mapM (mapping name) = .ok ts ↔
      (items'.filterMap Yaml.mapping?).mapM (mapping name) = .ok ts :=
    (filterMap_same h).mapM_eq_ok_congr fun _ _ hsame => hsame
  simp only [body_sequence_eq_ok_iff, hne, hall, hscalars, hmappings]

theorem SameBody.body_iff {v v' : Yaml} (h : SameBody v v') :
    body name v = .ok t ↔ body name v' = .ok t := by
  rcases h with ⟨_ | hfields⟩ | hitems
  · rfl
  · exact mapping_same hfields
  · exact body_sequence_same hitems

/-- A body without tags is converted exactly if it looks like one, and how often and where `all` stands
in its keys does not change what it is converted to. -/
theorem body_accepted (name : String) {v : Yaml} (hv : v.Untagged) :
    ((∃ t, body name v = .ok t) ↔ BodyFits v) ∧
      ∀ v', SameBody v v' → ∀ t, body name v = .ok t ↔ body name v' = .ok t :=
  ⟨exists_body_iff hv, fun _ h _ => h.body_iff⟩

/-- A host that begins and ends in some way. -/
def hostBody (key : String) : Yaml :=
  .mapping [(.string key, .sequence [.string "^web", .string "[0-9]$"])]

theorem body_accepted_host :
    let t := Item.and [
      .resolved (.field "host" (.regex "^web")), .resolved (.field "host" (.regex "[0-9]$"))]
    (hostBody "host|all|re|all").Untagged ∧ BodyFits (hostBody "host|all|re|all") ∧
      body "by_host" (hostBody "host|all|re|all") = .ok t ∧ body "by_host" (hostBody "host|re|all") = .ok t := by
  intro t
  have hv : (hostBody "host|all|re|all").Untagged := by
    refine .mapping (fun field hfield => ?_) fun field hfield => ?_
    · obtain rfl := List.mem_singleton.1 hfield
      exact .string _
    · obtain rfl := List.mem_singleton.1 hfield
      refine .sequence fun item hitem => ?_
      rcases List.mem_pair.1 hitem with rfl | rfl <;> exact .string _
  have hkey : SameKey "host|all|re|all" "host|re|all" :=
    ⟨"host", ["all", "re", "all"], ["re", "all"], spells_iff.2 ⟨rfl, rfl⟩, spells_iff.2 ⟨rfl, rfl⟩, rfl,
      by simp⟩
  have hbody : SameBody (hostBody "host|all|re|all") (hostBody "host|re|all") :=
    .single (.mapping (.cons ⟨rfl, .inr ⟨_, _, rfl, rfl, hkey⟩⟩ .nil))
  have hconverted : body "by_host" (hostBody "host|all|re|all") = .ok t := rfl
  obtain ⟨hfits, hsame⟩ := body_accepted "by_host" hv
  exact ⟨hv, hfits.1 ⟨t, hconverted⟩, hconverted, (hsame _ hbody t).1 hconverted⟩

end Detection

end EventRules
