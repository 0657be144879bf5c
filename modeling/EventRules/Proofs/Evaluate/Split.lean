import EventRules.Proofs.Evaluate.Calls

/-!
# Evaluation in parts

A batch may be cut into chunks and the chunks evaluated by themselves: the matches are the same, and
so is the error (`Evaluate.batch_flatten`). A list of rules may be cut as well; then an evaluation
succeeds if both parts do, and each event is detected by the rules of the first part that detect it and
then by those of the second (`Match.Joins`).
-/

namespace EventRules

namespace Match

def shift (offset : Nat) (m : Match) : Match :=
  { m with position := offset + m.position }

/-- The matches of chunks as those of one batch: one chunk after the other, with the places counted
on from chunk to chunk. -/
def concat : List (List Datum) → List (List Match) → List Match
  | chunk :: chunks, ms :: more => ms ++ (concat chunks more).map (shift chunk.length)
  | _, _ => []

/-- The rules that detect the event in some place, according to the matches of a batch. -/
def rulesAt (ms : List Match) (position : Nat) : List StatelessRule :=
  (ms.filter (·.position = position)).flatMap (·.stateless)

def Has (ms : List Match) (position : Nat) (datum : Datum) : Prop :=
  ∃ m ∈ ms, m.position = position ∧ m.datum = datum

/-- The matches of two lists of rules, joined. -/
structure Joins (first second ms : List Match) : Prop where
  matched : ∀ position datum,
    Has ms position datum ↔ Has first position datum ∨ Has second position datum
  rules : ∀ position, rulesAt ms position = rulesAt first position ++ rulesAt second position

end Match

namespace Evaluate

open Call

variable (rules : List StatelessRule)

/-! ### Chunks of a batch -/

theorem detections_append (position : Nat) (data more : List Datum) :
    detections rules position (data ++ more) =
      detections rules position data ++ detections rules (position + data.length) more := by
  rw [detections, List.zipIdx_append, List.filterMap_append, detections, detections]

theorem detections_shift (offset position : Nat) (data : List Datum) :
    detections rules (offset + position) data =
      (detections rules position data).map (.shift offset) := by
  induction data generalizing position with
  | nil => rfl
  | cons datum data ih =>
    have hrest := ih (position + 1)
    rw [← Nat.add_assoc] at hrest
    rw [detections_cons, detections_cons, hrest]
    split
    · rfl
    · rfl

theorem batch_append (data more : List Datum) :
    (batch rules (data ++ more)).outcome = do
      let ms ← (batch rules data).outcome
      let others ← (batch rules more).outcome
      return ms ++ others.map (.shift data.length) := by
  have hmore := detections_shift rules data.length 0 more
  simp only [batch_outcome, settle_bind_pure, settle_bind]
  rw [List.flatMap_append, List.findSome?_append, detections_append, Nat.zero_add, ← hmore,
    Nat.add_zero]

theorem batch_flatten (chunks : List (List Datum)) :
    (batch rules chunks.flatten).outcome =
      (chunks.mapM fun chunk => (batch rules chunk).outcome).map (Match.concat chunks) := by
  induction chunks with
  | nil => cases rules <;> rfl
  | cons chunk chunks ih =>
    rw [List.flatten_cons, batch_append, ih, List.mapM_cons]
    cases (batch rules chunk).outcome with
    | error error => rfl
    | ok ms =>
      cases chunks.mapM fun chunk => (batch rules chunk).outcome with
      | error error => rfl
      | ok more => rfl

end Evaluate

namespace Match

theorem rulesAt_cons (m : Match) (ms : List Match) (position : Nat) :
    rulesAt (m :: ms) position =
      (if m.position = position then m.stateless else []) ++ rulesAt ms position := by
  by_cases h : m.position = position
  · simp [rulesAt, h]
  · simp [rulesAt, h]

end Match

namespace Evaluate

open Call Match

/-! ### Parts of the rules -/

section Rules

variable {rules first second : List StatelessRule} {data : List Datum} {ms : List Match}

theorem mem_callsOn_append {datum : Datum} {c : Call} :
    c ∈ callsOn (first ++ second) datum ↔ c ∈ callsOn first datum ∨ c ∈ callsOn second datum := by
  simp only [callsOn, candidates, List.filter_append, List.map_append, List.mem_append]
  tauto

theorem batch_eq_ok_iff : (batch rules data).outcome = .ok ms ↔
    (∀ datum ∈ data, ∀ c ∈ callsOn rules datum, c.error? = none) ∧ detections rules 0 data = ms := by
  rw [batch_outcome, settle_eq_ok_iff, List.findSome?_eq_none_iff]
  simp only [List.mem_flatMap]
  refine and_congr_left fun _ => ⟨fun h datum hdatum c hc => h c ⟨datum, hdatum, hc⟩, ?_⟩
  rintro h c ⟨datum, hdatum, hc⟩
  exact h datum hdatum c hc

theorem exists_batch_append_iff : (∃ ms, (batch (first ++ second) data).outcome = .ok ms) ↔
    (∃ ms, (batch first data).outcome = .ok ms) ∧ ∃ ms, (batch second data).outcome = .ok ms := by
  simp only [batch_eq_ok_iff, exists_and_left, exists_eq', and_true, mem_callsOn_append]
  constructor
  · intro h
    exact ⟨fun datum hd c hc => h datum hd c (.inl hc), fun datum hd c hc => h datum hd c (.inr hc)⟩
  · rintro ⟨hfirst, hsecond⟩ datum hd c (hc | hc)
    · exact hfirst datum hd c hc
    · exact hsecond datum hd c hc

theorem detecting_append (datum : Datum) :
    detecting (first ++ second) datum = detecting first datum ++ detecting second datum :=
  List.filter_append ..

/-- The events of a batch that have a match are those that some rule detects. -/
theorem has_detections_iff {position : Nat} {datum : Datum} :
    Has (detections rules 0 data) position datum ↔
      data[position]? = some datum ∧ detecting rules datum ≠ [] := by
  constructor
  · rintro ⟨m, hm, rfl, rfl⟩
    obtain ⟨⟨datum, position⟩, hmem, hsome⟩ := List.mem_filterMap.1 hm
    have hdatum := List.mem_zipIdx_iff_getElem?.1 hmem
    simp only [detection?] at hsome
    split at hsome
    · simp at hsome
    case h_2 hne =>
      obtain rfl := Option.some.inj hsome
      exact ⟨hdatum, hne⟩
  · rintro ⟨hdatum, hne⟩
    refine ⟨⟨position, datum, detecting rules datum, []⟩, ?_, rfl, rfl⟩
    refine List.mem_filterMap.2 ⟨(datum, position), List.mem_zipIdx_iff_getElem?.2 hdatum, ?_⟩
    show detection? rules position datum = _
    rw [detection?]
    cases hmatched : detecting rules datum with
    | nil => exact absurd hmatched hne
    | cons rule others => rfl

theorem rulesAt_detections_of_lt {start position : Nat} (h : position < start) :
    rulesAt (detections rules start data) position = [] := by
  induction data generalizing start with
  | nil => rfl
  | cons datum data ih =>
    have hrest := ih (Nat.lt_succ_of_lt h)
    rw [detections_cons]
    split
    · exact hrest
    · rw [rulesAt_cons, if_neg (Nat.ne_of_gt h), hrest]; rfl

/-- The matches say of each event which rules detect it. -/
theorem rulesAt_detections (start offset : Nat) :
    rulesAt (detections rules start data) (start + offset) =
      (data[offset]?.map (detecting rules)).getD [] := by
  induction data generalizing start offset with
  | nil => rfl
  | cons datum data ih =>
    have hsplit : rulesAt (detections rules start (datum :: data)) (start + offset) =
        (if start = start + offset then detecting rules datum else []) ++
          rulesAt (detections rules (start + 1) data) (start + offset) := by
      rw [detections_cons]
      split
      case isTrue hnone => simp [List.isEmpty_iff.1 hnone]
      case isFalse => exact rulesAt_cons _ _ _
    rw [hsplit]
    -- The first event has its match in the place `start`, and all other matches are in later places.
    cases offset with
    | zero =>
      rw [rulesAt_detections_of_lt (by omega)]
      simp
    | succ offset =>
      have hrest := ih (start + 1) offset
      rw [if_neg (by omega), List.nil_append, List.getElem?_cons_succ, ← hrest]
      congr 1
      omega

theorem detections_joins :
    Joins (detections first 0 data) (detections second 0 data) (detections (first ++ second) 0 data) := by
  -- Both say of the event in a place which rules detect it, and that is a filter of the list of rules.
  have hrules (position : Nat) : rulesAt (detections (first ++ second) 0 data) position =
      rulesAt (detections first 0 data) position ++ rulesAt (detections second 0 data) position := by
    rw [← Nat.zero_add position]
    simp only [rulesAt_detections]
    cases data[position]? with
    | none => rfl
    | some datum => exact detecting_append datum
  refine ⟨fun position datum => ?_, hrules⟩
  rw [has_detections_iff, has_detections_iff, has_detections_iff, detecting_append, ← and_or_left,
    ne_eq, List.append_eq_nil_iff, not_and_or]

end Rules

/-- The chunks of a batch may be evaluated by themselves, and so may the parts of a list of rules. -/
theorem batch_splits :
    (∀ (rules : List StatelessRule) (chunks : List (List Datum)) ms,
      (batch rules chunks.flatten).outcome = .ok ms ↔ ∃ parts,
        List.Forall₂ (fun chunk part => (batch rules chunk).outcome = .ok part) chunks parts ∧
          concat chunks parts = ms) ∧
    (∀ (rules : List StatelessRule) (chunks : List (List Datum)) error,
      (batch rules chunks.flatten).outcome = .error error ↔
        ∃ before chunk after, chunks = before ++ chunk :: after ∧
          (∀ b ∈ before, ∃ ms, (batch rules b).outcome = .ok ms) ∧
          (batch rules chunk).outcome = .error error) ∧
    (∀ (first second : List StatelessRule) (data : List Datum),
      (∃ ms, (batch (first ++ second) data).outcome = .ok ms) ↔
        (∃ ms, (batch first data).outcome = .ok ms) ∧ ∃ ms, (batch second data).outcome = .ok ms) ∧
    ∀ (first second : List StatelessRule) (data : List Datum) ms₁ ms₂ ms,
      (batch first data).outcome = .ok ms₁ → (batch second data).outcome = .ok ms₂ →
        (batch (first ++ second) data).outcome = .ok ms → Joins ms₁ ms₂ ms := by
  refine ⟨fun rules chunks ms => ?_, fun rules chunks error => ?_, fun first second data => ?_,
    fun first second data ms₁ ms₂ ms h₁ h₂ h => ?_⟩
  · rw [batch_flatten, Except.map_eq_ok_iff]
    simp only [Except.mapM_eq_ok_iff]
  · rw [batch_flatten, Except.map_eq_error_iff, Except.mapM_eq_error_iff]
  · exact exists_batch_append_iff
  · obtain ⟨-, rfl⟩ := batch_eq_ok_iff.1 h₁
    obtain ⟨-, rfl⟩ := batch_eq_ok_iff.1 h₂
    obtain ⟨-, rfl⟩ := batch_eq_ok_iff.1 h
    exact detections_joins

def eventWith (fields : List String) : Datum :=
  ⟨.json, none, fun name => if name ∈ fields then some (.boolean true) else none⟩

def fieldRule (field : String) : StatelessRule :=
  ⟨field, .constant true, .has field, .none, ⟨field, []⟩⟩

theorem batch_splits_fields :
    let first := [fieldRule "user"]
    let second := [fieldRule "host"]
    let data := [eventWith ["host"], eventWith [], eventWith ["user", "host"]]
    let ms₁ : List Match := [⟨2, eventWith ["user", "host"], first, []⟩]
    let ms₂ : List Match :=
      [⟨0, eventWith ["host"], second, []⟩, ⟨2, eventWith ["user", "host"], second, []⟩]
    let ms : List Match :=
      [⟨0, eventWith ["host"], second, []⟩, ⟨2, eventWith ["user", "host"], first ++ second, []⟩]
    (batch first data).outcome = .ok ms₁ ∧ (batch second data).outcome = .ok ms₂ ∧
      (batch (first ++ second) data).outcome = .ok ms ∧ Joins ms₁ ms₂ ms := by
  intro first second data ms₁ ms₂ ms
  have h₁ : (batch first data).outcome = .ok ms₁ := rfl
  have h₂ : (batch second data).outcome = .ok ms₂ := rfl
  have h : (batch (first ++ second) data).outcome = .ok ms := rfl
  exact ⟨h₁, h₂, h, batch_splits.2.2.2 first second data ms₁ ms₂ ms h₁ h₂ h⟩

end Evaluate

end EventRules
