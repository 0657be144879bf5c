import EventRules.Proofs.Condition.Expr
import EventRules.Proofs.Detection.Body

/-!
# What an expression says about a datum

`Expr.holds` evaluates an expression over the bodies of the detections, without condition trees. An
expression that is resolved makes a tree that says the same (`resolve_holds`). It makes one that can be
compiled exactly if all that it refers to can be used: `Expr.Sound` (`resolve_compilable_iff`).
-/

namespace EventRules

open Condition

namespace DetectionSet

variable {s : DetectionSet}

theorem mem_names_iff {name : String} : name ∈ s.names ↔ (s.entries.lookup name).isSome := by
  simp only [names, List.mem_map, List.lookup_isSome_iff, beq_iff_eq]
  exact exists_congr fun entry => and_congr_right fun _ => eq_comm

theorem resolve?_whole {name : String} {t : Item} (h : s.resolve? name = some (.ok t)) : t.Whole := by
  obtain ⟨body, -, ht⟩ := Option.map_eq_some_iff.1 h
  exact Detection.body_whole ht

variable [PatternEngine] (s)

/-- What a datum says about the detection of a name. -/
def holds (names : FieldNames) (datum : Datum) (name : String) : Verdict :=
  (s.entries.lookup name).elim (.ok false) (Detection.bodyHolds names datum)

/-- The body of a detection is converted, to a tree that can be compiled. -/
def Usable (name : String) : Prop :=
  ∃ t, s.resolve? name = some (.ok t) ∧ t.Testable

variable {s}

theorem resolve?_holds {name : String} {t : Item} (h : s.resolve? name = some (.ok t))
    (names : FieldNames) (datum : Datum) : t.holds names datum = s.holds names datum name := by
  obtain ⟨body, hbody, ht⟩ := Option.map_eq_some_iff.1 h
  rw [holds, hbody, Detection.body_holds ht names datum]; rfl

theorem usable_iff {name : String} :
    s.Usable name ↔ ∃ t, s.resolve? name = some (.ok t) ∧ t.Compilable := by
  constructor
  · rintro ⟨t, ht, htest⟩
    exact ⟨t, ht, (resolve?_whole ht).formed.compilable_iff.2 htest⟩
  · rintro ⟨t, ht, hc⟩
    exact ⟨t, ht, (resolve?_whole ht).formed.compilable_iff.1 hc⟩

end DetectionSet

namespace Condition

section
variable {detections : DetectionSet}

theorem resolveName_resolved_iff {name : String} {t : Item} :
    resolveName detections name = .ok (.resolved t) ↔ detections.resolve? name = some (.ok t) := by
  unfold resolveName
  cases hname : detections.resolve? name with
  | none => simp
  | some item => simp [Except.map_eq_ok_iff]

theorem resolveArgs_eq (es : List Expr) :
    resolveArgs detections es = es.mapM (resolveArg detections) := by
  induction es with
  | nil => rfl
  | cons e es ih => rw [resolveArgs, ih, List.mapM_cons]

/-- A quantifier resolves to the detections that it selects, joined. -/
theorem quantify_eq_ok_iff {s : Selector} {wrap : List Arg → Item} {t : Item} :
    quantify detections s wrap = .ok t ↔ s.select detections.names ≠ [] ∧
      ∃ as, (s.select detections.names).mapM (resolveName detections) = .ok as ∧
        t = .join wrap (as.map Arg.item) := by
  unfold quantify
  split
  case h_1 hselect => simp [hselect]
  case h_2 hselect =>
    rw [Except.bind_eq_ok_iff, and_iff_right hselect]
    simp [eq_comm]

end

variable [PatternEngine]

section
variable (names : FieldNames) (datum : Datum) (detections : DetectionSet)

namespace Expr

mutual

/-- What a datum says about an expression over detections. -/
def holds : Expr → Verdict
  | .identifier name => detections.holds names datum name
  | .and operands => .all (verdicts operands)
  | .or operands => .any (verdicts operands)
  | .not operand => operand.holds.negate
  | .oneOf s => .any ((s.select detections.names).map (detections.holds names datum))
  | .allOf s => .all ((s.select detections.names).map (detections.holds names datum))

def verdicts : List Expr → List Verdict
  | [] => []
  | e :: rest => e.holds :: verdicts rest

end

theorem verdicts_eq (es : List Expr) :
    verdicts names datum detections es = es.map (holds names datum detections) := by
  induction es with
  | nil => rfl
  | cons e es ih => rw [verdicts, ih, List.map_cons]

end Expr

end

namespace Expr

variable (detections : DetectionSet)

/-- What an identifier or a quantifier refers to is there and can be used. -/
def Grounded : Expr → Prop
  | .identifier name => name ∈ detections.names ∧ detections.Usable name
  | .oneOf s | .allOf s =>
    s.select detections.names ≠ [] ∧ ∀ name ∈ s.select detections.names, detections.Usable name
  | _ => True

/-- All that the expression refers to is there and can be used. -/
def Sound (e : Expr) : Prop :=
  ∀ node ∈ e.nodes, node.Grounded detections

variable {detections}

theorem sound_and_iff {es : List Expr} :
    (Expr.and es).Sound detections ↔ ∀ e ∈ es, e.Sound detections := by
  unfold Sound
  rw [forall_nodes_iff (nodes_and es)]
  exact and_iff_left trivial

theorem sound_or_iff {es : List Expr} :
    (Expr.or es).Sound detections ↔ ∀ e ∈ es, e.Sound detections := by
  unfold Sound
  rw [forall_nodes_iff (nodes_or es)]
  exact and_iff_left trivial

theorem sound_not_iff {e : Expr} : (Expr.not e).Sound detections ↔ e.Sound detections := by
  unfold Sound
  rw [forall_nodes_iff (nodes_not_flatMap e)]
  simp [Grounded]

end Expr

@[simp] theorem Arg.holds_item (names : FieldNames) (datum : Datum) (a : Arg) :
    a.item.holds names datum = a.holds names datum := by
  cases a <;> rfl

variable {detections : DetectionSet}

theorem resolveName_holds {name : String} {a : Arg} (h : resolveName detections name = .ok a)
    (names : FieldNames) (datum : Datum) :
    a.holds names datum = detections.holds names datum name := by
  unfold resolveName at h
  cases hname : detections.resolve? name with
  | none =>
    obtain rfl : .unresolved name = a := by simpa [hname] using h
    have hlookup : detections.entries.lookup name = none := Option.map_eq_none_iff.1 hname
    rw [DetectionSet.holds, hlookup]; rfl
  | some item =>
    rw [hname] at h
    obtain ⟨t, rfl, rfl⟩ := Except.map_eq_ok_iff.1 h
    exact DetectionSet.resolve?_holds hname names datum

theorem quantify_holds {s : Selector} {wrap : List Arg → Item} {t : Item}
    (h : quantify detections s wrap = .ok t) (names : FieldNames) (datum : Datum) :
    ∃ ts, t = .join wrap ts ∧ ts.map (Item.holds names datum) =
      (s.select detections.names).map (detections.holds names datum) := by
  obtain ⟨-, as, has, rfl⟩ := quantify_eq_ok_iff.1 h
  have hverdicts := (Except.mapM_eq_ok_iff.1 has).map_eq_map
    fun _ _ _ ha => (resolveName_holds ha names datum).symm
  refine ⟨as.map Arg.item, rfl, ?_⟩
  rw [hverdicts, List.map_map]
  exact List.map_congr_left fun a _ => Arg.holds_item names datum a

/-- What an expression resolves to says the same as the expression. -/
theorem resolveArg_holds {e : Expr} {a : Arg} (h : resolveArg detections e = .ok a)
    (names : FieldNames) (datum : Datum) :
    a.holds names datum = e.holds names datum detections := by
  induction e using Expr.induct generalizing a with
  | identifier name => exact resolveName_holds h names datum
  | and es ih =>
    obtain ⟨as, has, h⟩ := Except.bind_eq_ok_iff.1 h
    obtain rfl := Except.ok.inj h
    rw [resolveArgs_eq, Except.mapM_eq_ok_iff] at has
    have hverdicts := has.map_eq_map fun e he a ha => (ih e he ha).symm
    rw [Arg.holds, Item.holds_and, Expr.holds, Expr.verdicts_eq, hverdicts]
  | or es ih =>
    obtain ⟨as, has, h⟩ := Except.bind_eq_ok_iff.1 h
    obtain rfl := Except.ok.inj h
    rw [resolveArgs_eq, Except.mapM_eq_ok_iff] at has
    have hverdicts := has.map_eq_map fun e he a ha => (ih e he ha).symm
    rw [Arg.holds, Item.holds_or, Expr.holds, Expr.verdicts_eq, hverdicts]
  | not e ih =>
    obtain ⟨b, hb, h⟩ := Except.bind_eq_ok_iff.1 h
    obtain rfl := Except.ok.inj h
    rw [Arg.holds, Item.holds_not, ih hb, Expr.holds]
  | oneOf s =>
    obtain ⟨t, ht, h⟩ := Except.bind_eq_ok_iff.1 h
    obtain rfl := Except.ok.inj h
    obtain ⟨ts, rfl, hts⟩ := quantify_holds ht names datum
    rw [Arg.holds, Item.holds_join_or, hts, Expr.holds]
  | allOf s =>
    obtain ⟨t, ht, h⟩ := Except.bind_eq_ok_iff.1 h
    obtain rfl := Except.ok.inj h
    obtain ⟨ts, rfl, hts⟩ := quantify_holds ht names datum
    rw [Arg.holds, Item.holds_join_and, hts, Expr.holds]

theorem resolve_holds {e : Expr} {t : Item} (h : resolve detections e = .ok t)
    (names : FieldNames) (datum : Datum) :
    t.holds names datum = e.holds names datum detections := by
  obtain ⟨a, ha, rfl⟩ := Except.map_eq_ok_iff.1 h
  rw [Arg.holds_item, resolveArg_holds ha names datum]

theorem Arg.compilable_item_iff {a : Arg} :
    a.item.Compilable ↔ ∃ t, a = .resolved t ∧ t.Compilable := by
  cases a with
  | resolved t => simp [Arg.item]
  | unresolved name => simp [Arg.item, Item.Compilable, Item.Fits]

/-- A name can be compiled exactly if it is that of a detection that can be used. -/
theorem resolveName_compilable_iff {name : String} :
    (∃ a, resolveName detections name = .ok a ∧ a.item.Compilable) ↔ detections.Usable name := by
  simp only [Arg.compilable_item_iff, DetectionSet.usable_iff, ← resolveName_resolved_iff]
  constructor
  · rintro ⟨_, ha, t, rfl, hc⟩
    exact ⟨t, ha, hc⟩
  · rintro ⟨t, ha, hc⟩
    exact ⟨_, ha, t, rfl, hc⟩

/-- A quantifier can be compiled exactly if it selects detections and all of them can be used. -/
theorem quantify_compilable_iff {s : Selector} {wrap : List Arg → Item}
    (hwrap : ∀ {items : List Item}, items ≠ [] →
      ((Item.join wrap items).Compilable ↔ ∀ t ∈ items, t.Compilable)) :
    (∃ t, quantify detections s wrap = .ok t ∧ t.Compilable) ↔
      s.select detections.names ≠ [] ∧
        ∀ name ∈ s.select detections.names, detections.Usable name := by
  simp only [quantify_eq_ok_iff, ← resolveName_compilable_iff, ← Except.exists_mapM_iff]
  constructor
  · rintro ⟨_, ⟨hne, as, has, rfl⟩, hc⟩
    have hitems : as.map Arg.item ≠ [] := by
      simpa using (Except.mapM_eq_ok_iff.1 has).ne_nil hne
    exact ⟨hne, as, has, by simpa using (hwrap hitems).1 hc⟩
  · rintro ⟨hne, as, has, hc⟩
    have hitems : as.map Arg.item ≠ [] := by
      simpa using (Except.mapM_eq_ok_iff.1 has).ne_nil hne
    exact ⟨_, ⟨hne, as, has, rfl⟩, (hwrap hitems).2 (by simpa using hc)⟩

/-- Operands can be compiled exactly if each of them can, whatever the chain. -/
theorem resolveArgs_compilable_iff {es : List Expr} {wrap : List Arg → Item}
    (hwrap : ∀ {as : List Arg}, (wrap as).Compilable ↔
      as ≠ [] ∧ ∀ a ∈ as, ∃ t, a = .resolved t ∧ t.Compilable)
    (hne : es ≠ []) :
    (∃ as, resolveArgs detections es = .ok as ∧ (wrap as).Compilable) ↔
      ∀ e ∈ es, ∃ a, resolveArg detections e = .ok a ∧ a.item.Compilable := by
  simp only [hwrap, resolveArgs_eq, Arg.compilable_item_iff, ← Except.exists_mapM_iff]
  refine exists_congr fun as => and_congr_right fun has => ?_
  exact and_iff_right ((Except.mapM_eq_ok_iff.1 has).ne_nil hne)

theorem exists_resolved_iff {α : Type} {x : Except GrammarError α} {item : α → Item} :
    (∃ a, (x >>= fun v => pure (Arg.resolved (item v))) = .ok a ∧ a.item.Compilable) ↔
      ∃ v, x = .ok v ∧ (item v).Compilable := by
  constructor
  · rintro ⟨a, ha, hc⟩
    obtain ⟨v, hv, h⟩ := Except.bind_eq_ok_iff.1 ha
    obtain rfl := Except.ok.inj h
    exact ⟨v, hv, hc⟩
  · rintro ⟨v, rfl, hc⟩
    exact ⟨.resolved (item v), rfl, hc⟩

theorem resolveArg_compilable_iff {e : Expr} (he : e.Formed) :
    (∃ a, resolveArg detections e = .ok a ∧ a.item.Compilable) ↔ e.Sound detections := by
  induction e using Expr.induct with
  | identifier name =>
    have hmem : detections.Usable name → name ∈ detections.names := by
      rintro ⟨t, ht, -⟩
      obtain ⟨body, hbody, -⟩ := Option.map_eq_some_iff.1 ht
      exact DetectionSet.mem_names_iff.2 (by simp [hbody])
    have hsound : (Expr.identifier name).Sound detections ↔ detections.Usable name := by
      simpa [Expr.Sound, Expr.Grounded] using hmem
    rw [hsound, ← resolveName_compilable_iff]; rfl
  | and es ih =>
    obtain ⟨hes, hlen⟩ := Expr.formed_and_iff.1 he
    have hne : es ≠ [] := List.ne_nil_of_length_pos (by omega)
    rw [resolveArg, exists_resolved_iff, resolveArgs_compilable_iff Item.compilable_and hne,
      Expr.sound_and_iff]
    exact forall₂_congr fun e hmem => ih e hmem (hes e hmem)
  | or es ih =>
    obtain ⟨hes, hlen⟩ := Expr.formed_or_iff.1 he
    have hne : es ≠ [] := List.ne_nil_of_length_pos (by omega)
    rw [resolveArg, exists_resolved_iff, resolveArgs_compilable_iff Item.compilable_or hne,
      Expr.sound_or_iff]
    exact forall₂_congr fun e hmem => ih e hmem (hes e hmem)
  | not e ih =>
    rw [resolveArg, exists_resolved_iff, Expr.sound_not_iff, ← ih (Expr.formed_not_iff.1 he)]
    simp only [Item.compilable_not, Arg.compilable_item_iff]
  | oneOf s =>
    rw [resolveArg, exists_resolved_iff, quantify_compilable_iff Item.compilable_join_or]
    simp [Expr.Sound, Expr.Grounded]
  | allOf s =>
    rw [resolveArg, exists_resolved_iff, quantify_compilable_iff Item.compilable_join_and]
    simp [Expr.Sound, Expr.Grounded]

/-- An expression can be compiled exactly if all that it refers to is there and can be used. -/
theorem resolve_compilable_iff {e : Expr} (he : e.Formed) :
    (∃ t, resolve detections e = .ok t ∧ t.Compilable) ↔ e.Sound detections := by
  rw [← resolveArg_compilable_iff he]
  simp [resolve, Except.map_eq_ok_iff]

end Condition

end EventRules
