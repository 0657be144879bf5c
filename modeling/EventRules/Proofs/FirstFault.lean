import Mathlib.Data.List.Forall2

/-!
# The first fault counts

Computations that may fail, one after the other: the first that fails decides the error of the whole.
`settle` is the common form of such a computation once its faults are known apart from its value; a
sequence of settled computations is settled by the first of their faults (`settle_bind`).
-/

namespace Except

variable {ε ε' α β : Type}

@[simp] theorem ok_bind (a : α) (f : α → Except ε β) : (Except.ok a >>= f) = f a := rfl

@[simp] theorem error_bind (e : ε) (f : α → Except ε β) : (Except.error e >>= f) = .error e := rfl

@[simp] theorem pure_eq_ok (a : α) : (pure a : Except ε α) = .ok a := rfl

theorem bind_eq_ok_iff {x : Except ε α} {f : α → Except ε β} {b : β} :
    x >>= f = .ok b ↔ ∃ a, x = .ok a ∧ f a = .ok b := by
  cases x <;> simp

theorem bind_eq_error_iff {x : Except ε α} {f : α → Except ε β} {e : ε} :
    x >>= f = .error e ↔ x = .error e ∨ ∃ a, x = .ok a ∧ f a = .error e := by
  cases x <;> simp

theorem map_eq_ok_iff {x : Except ε α} {f : α → β} {b : β} :
    x.map f = .ok b ↔ ∃ a, x = .ok a ∧ f a = b := by
  cases x <;> simp [Except.map]

theorem map_eq_error_iff {x : Except ε α} {f : α → β} {e : ε} : x.map f = .error e ↔ x = .error e := by
  cases x <;> simp [Except.map]

theorem mapError_eq_ok_iff {x : Except ε α} {f : ε → ε'} {a : α} :
    x.mapError f = .ok a ↔ x = .ok a := by
  cases x <;> simp [Except.mapError]

theorem mapError_eq_error_iff {x : Except ε α} {f : ε → ε'} {e : ε'} :
    x.mapError f = .error e ↔ ∃ e', x = .error e' ∧ f e' = e := by
  cases x <;> simp [Except.mapError]

theorem mapM_eq_ok_iff {f : α → Except ε β} {as : List α} {bs : List β} :
    as.mapM f = .ok bs ↔ List.Forall₂ (fun a b => f a = .ok b) as bs := by
  induction as generalizing bs with
  | nil => cases bs <;> simp
  | cons a as ih =>
    rw [List.mapM_cons]
    cases bs with
    | nil => simp [bind_eq_ok_iff]
    | cons b bs => simp [bind_eq_ok_iff, ih]

/-- A list fails as its first member that fails. -/
theorem mapM_eq_error_iff {f : α → Except ε β} {as : List α} {e : ε} :
    as.mapM f = .error e ↔
      ∃ before a after, as = before ++ a :: after ∧ (∀ b ∈ before, ∃ v, f b = .ok v) ∧
        f a = .error e := by
  induction as with
  | nil => simp
  | cons a as ih =>
    rw [List.mapM_cons, bind_eq_error_iff]
    constructor
    · rintro (ha | ⟨v, ha, h⟩)
      · exact ⟨[], a, as, rfl, by simp, ha⟩
      · have hrest : as.mapM f = .error e := by simpa [bind_eq_error_iff] using h
        obtain ⟨before, b, after, rfl, hb, he⟩ := ih.1 hrest
        exact ⟨a :: before, b, after, rfl, by simpa [ha] using hb, he⟩
    · rintro ⟨_ | ⟨b, before⟩, c, after, h, hb, he⟩
      · obtain ⟨rfl, rfl⟩ : a = c ∧ as = after := by simpa using h
        exact .inl he
      · obtain ⟨rfl, rfl⟩ : a = b ∧ as = before ++ c :: after := by simpa using h
        obtain ⟨v, ha⟩ := hb a (by simp)
        have hrest := ih.2 ⟨before, c, after, rfl, fun d hd => hb d (by simp [hd]), he⟩
        exact .inr ⟨v, ha, by rw [hrest]; rfl⟩

/-- All members can be computed to something with a property exactly if each of them can. -/
theorem exists_mapM_iff {f : α → Except ε β} {as : List α} {P : β → Prop} :
    (∃ bs, as.mapM f = .ok bs ∧ ∀ b ∈ bs, P b) ↔ ∀ a ∈ as, ∃ b, f a = .ok b ∧ P b := by
  induction as with
  | nil => simp
  | cons a as ih =>
    rw [List.forall_mem_cons, ← ih]
    constructor
    · rintro ⟨bs, h, hP⟩
      obtain ⟨b, rest, hb, hrest, rfl⟩ := List.forall₂_cons_left_iff.1 (mapM_eq_ok_iff.1 h)
      exact ⟨⟨b, hb, hP b (by simp)⟩, rest, mapM_eq_ok_iff.2 hrest, fun c hc => hP c (by simp [hc])⟩
    · rintro ⟨⟨b, hb, hPb⟩, rest, hrest, hPrest⟩
      exact ⟨b :: rest, by simp [hb, hrest], by simpa using ⟨hPb, hPrest⟩⟩

theorem exists_mapM_ok_iff {f : α → Except ε β} {as : List α} :
    (∃ bs, as.mapM f = .ok bs) ↔ ∀ a ∈ as, ∃ b, f a = .ok b := by
  have h : (∃ bs, as.mapM f = .ok bs ∧ ∀ b ∈ bs, True) ↔ ∀ a ∈ as, ∃ b, f a = .ok b ∧ True := exists_mapM_iff
  simpa using h

end Except

theorem Option.mapM_eq_some_iff {α β : Type} {f : α → Option β} {as : List α} {bs : List β} :
    as.mapM f = some bs ↔ List.Forall₂ (fun a b => f a = some b) as bs := by
  induction as generalizing bs with
  | nil => cases bs <;> simp
  | cons a as ih =>
    rw [List.mapM_cons]
    cases bs with
    | nil => simp [Option.bind_eq_some_iff]
    | cons b bs => simp [Option.bind_eq_some_iff, ih]

namespace List.Forall₂

variable {α β : Type} {R : α → β → Prop} {as : List α} {bs : List β}

theorem exists_of_mem_left (h : Forall₂ R as bs) {a : α} (ha : a ∈ as) : ∃ b ∈ bs, R a b := by
  induction h with
  | nil => simp at ha
  | cons hab _ ih =>
    rcases List.mem_cons.1 ha with rfl | ha
    · exact ⟨_, by simp, hab⟩
    · obtain ⟨b, hb, hR⟩ := ih ha
      exact ⟨b, by simp [hb], hR⟩

theorem exists_of_mem_right (h : Forall₂ R as bs) {b : β} (hb : b ∈ bs) : ∃ a ∈ as, R a b :=
  h.flip.exists_of_mem_left hb

theorem ne_nil (h : Forall₂ R as bs) (hne : as ≠ []) : bs ≠ [] := by
  rintro rfl
  exact hne (forall₂_nil_right_iff.1 h)

/-- Related lists have the same images under functions that agree on related members. -/
theorem map_eq_map {γ : Type} (h : Forall₂ R as bs) {f : α → γ} {g : β → γ}
    (hfg : ∀ a ∈ as, ∀ b, R a b → f a = g b) : as.map f = bs.map g := by
  induction h with
  | nil => rfl
  | cons hab _ ih =>
    rw [map_cons, map_cons, hfg _ (by simp) _ hab, ih fun a ha => hfg a (by simp [ha])]

theorem flatMap_eq_flatMap {γ : Type} (h : Forall₂ R as bs) {f : α → List γ} {g : β → List γ}
    (hfg : ∀ a ∈ as, ∀ b, R a b → f a = g b) : as.flatMap f = bs.flatMap g := by
  rw [flatMap_def, flatMap_def, h.map_eq_map hfg]

theorem mapM_eq_mapM {m : Type → Type} [Monad m] [LawfulMonad m] {γ : Type} (h : Forall₂ R as bs)
    {f : α → m γ} {g : β → m γ} (hfg : ∀ a ∈ as, ∀ b, R a b → f a = g b) : as.mapM f = bs.mapM g := by
  induction h with
  | nil => rfl
  | cons hab _ ih =>
    rw [mapM_cons, mapM_cons, hfg _ (by simp) _ hab, ih fun a ha => hfg a (by simp [ha])]

/-- Related lists succeed with the same values under functions that do so on related members. -/
theorem mapM_eq_ok_congr {ε γ : Type} (h : Forall₂ R as bs) {f : α → Except ε γ} {g : β → Except ε γ}
    (hfg : ∀ a b, R a b → ∀ c, f a = .ok c ↔ g b = .ok c) {cs : List γ} :
    as.mapM f = .ok cs ↔ bs.mapM g = .ok cs := by
  rw [Except.mapM_eq_ok_iff, Except.mapM_eq_ok_iff]
  induction h generalizing cs with
  | nil => rw [forall₂_nil_left_iff, forall₂_nil_left_iff]
  | cons hab _ ih => simp only [forall₂_cons_left_iff, hfg _ _ hab, ih]

end List.Forall₂

theorem Except.mapM_congr {ε α β : Type} {f g : α → Except ε β} {as : List α}
    (h : ∀ a ∈ as, f a = g a) : as.mapM f = as.mapM g := by
  have hsame : List.Forall₂ Eq as as := List.forall₂_same.2 fun _ _ => rfl
  exact hsame.mapM_eq_mapM fun a ha b hab => hab ▸ h a ha

namespace EventRules

variable {ε α β : Type}

/-- A value, unless a fault stands against it. -/
def settle (fault : Option ε) (value : α) : Except ε α :=
  match fault with
  | none => .ok value
  | some e => .error e

@[simp] theorem settle_none (value : α) : settle (none : Option ε) value = .ok value := rfl

@[simp] theorem settle_some (e : ε) (value : α) : settle (some e) value = .error e := rfl

theorem settle_eq_ok_iff {fault : Option ε} {value v : α} :
    settle fault value = .ok v ↔ fault = none ∧ value = v := by
  cases fault <;> simp

theorem settle_eq_error_iff {fault : Option ε} {value : α} {e : ε} :
    settle fault value = .error e ↔ fault = some e := by
  cases fault <;> simp

/-- The value matters only if there is no fault. -/
theorem settle_congr {fault : Option ε} {v w : α} (h : fault = none → v = w) :
    settle fault v = settle fault w := by
  cases fault with
  | none => rw [h rfl]
  | some e => rfl

theorem settle_bind (fault : Option ε) (value : α) (next : α → Option ε) (result : α → β) :
    (settle fault value >>= fun v => settle (next v) (result v)) =
      settle (fault.or (next value)) (result value) := by
  cases fault <;> rfl

theorem settle_mapError {ε' : Type} (fault : Option ε) (value : α) (f : ε → ε') :
    (settle fault value).mapError f = settle (fault.map f) value := by
  cases fault <;> rfl

theorem settle_bind_pure (fault : Option ε) (value : α) (result : α → β) :
    (settle fault value >>= fun v => pure (result v)) = settle fault (result value) := by
  cases fault <;> rfl

/-- A list of settled computations is settled by the first of their faults. -/
theorem mapM_settle {γ : Type} {as : List α} {f : α → Except ε β} {parts : α → List γ}
    {fault? : γ → Option ε} {value : α → β}
    (h : ∀ a ∈ as, f a = settle ((parts a).findSome? fault?) (value a)) :
    as.mapM f = settle ((as.flatMap parts).findSome? fault?) (as.map value) := by
  induction as with
  | nil => rfl
  | cons a as ih =>
    rw [List.mapM_cons, h a (by simp), ih fun b hb => h b (by simp [hb])]
    simp only [settle_bind_pure]
    rw [settle_bind, List.flatMap_cons, List.findSome?_append, List.map_cons]

end EventRules
