import EventRules.Pattern.Choice
import Mathlib.Data.List.SplitBy
import Mathlib.Data.Nat.Bitwise

/-!
# Where choices are found

A choice leads from some positions of a text to those that one of its alternatives leads to
(`Pattern.Expr.leads_choice`): it is the same whether what they share stands in front of it or in each of
them. So it is found in the texts in which one of the alternatives is (`Pattern.Expr.isIn_choice`).
-/

namespace EventRules

/-! ### Sets of characters -/

namespace CodeSet

variable {c : Char}

def covers (c : Char) (r : Nat × Nat) : Bool :=
  r.1 ≤ c.toNat && c.toNat ≤ r.2

theorem covers_joined {r s : Nat × Nat} (hle : r.1 ≤ s.1) (htouch : s.1 ≤ r.2 + 1) :
    covers c (r.1, max r.2 s.2) = (covers c r || covers c s) := by
  rw [Bool.eq_iff_iff]
  simp only [covers, Bool.or_eq_true, Bool.and_eq_true, decide_eq_true_eq]
  omega

theorem any_covers_join {r : Nat × Nat} {ranges : List (Nat × Nat)}
    (h : (r :: ranges).Pairwise (·.1 ≤ ·.1)) :
    (join r ranges).any (covers c) = (r :: ranges).any (covers c) := by
  induction ranges generalizing r with
  | nil => rfl
  | cons s rest ih =>
    obtain ⟨hr, hrest⟩ := List.pairwise_cons.1 h
    obtain ⟨hle, hr⟩ := List.forall_mem_cons.1 hr
    rw [join]
    split
    case isTrue htouch =>
      have hjoined : ((r.1, max r.2 s.2) :: rest).Pairwise (·.1 ≤ ·.1) :=
        List.pairwise_cons.2 ⟨hr, hrest.of_cons⟩
      rw [ih hjoined]
      simp only [List.any_cons, covers_joined hle htouch, Bool.or_assoc]
    case isFalse =>
      rw [List.any_cons, ih hrest]; rfl

theorem any_covers_filter (ranges : List (Nat × Nat)) :
    (ranges.filter fun r => r.1 ≤ r.2).any (covers c) = ranges.any (covers c) := by
  rw [List.any_filter]
  congr 1
  funext r
  rw [Bool.eq_iff_iff]
  simp only [covers, Bool.and_eq_true, decide_eq_true_eq]
  omega

theorem pairwise_mergeSort (ranges : List (Nat × Nat)) :
    (ranges.mergeSort fun a b => a.1 ≤ b.1).Pairwise (·.1 ≤ ·.1) := by
  have h := @List.pairwise_mergeSort _ (fun a b : Nat × Nat => decide (a.1 ≤ b.1))
    (fun a b c => by simpa using Nat.le_trans) (fun a b => by simpa using Nat.le_total a.1 b.1) ranges
  simpa using h

/-- What covers nothing may be left out, and the order does not matter. -/
theorem contains_ofRanges (ranges : List (Nat × Nat)) :
    (ofRanges ranges).contains c = ranges.any (covers c) := by
  have hsorted := pairwise_mergeSort (ranges.filter fun r => r.1 ≤ r.2)
  rw [← any_covers_filter, ← (List.mergeSort_perm _ fun a b => a.1 ≤ b.1).any_eq, ofRanges]
  split
  case h_1 hsort => rw [hsort]; rfl
  case h_2 hsort =>
    rw [hsort] at hsorted ⊢
    exact any_covers_join hsorted

end CodeSet

namespace Pattern

theorem Positions.sift_or (p q : Option Char → Option Char → Bool) (before : Option Char)
    (text : List Char) :
    sift (fun a b => p a b || q a b) before text = sift p before text ||| sift q before text := by
  have hbit (a : Bool) (n : Nat) : a.toNat + 2 * n = Nat.bit a n := by
    rw [Nat.bit_val, Nat.add_comm]
  induction text generalizing before with
  | nil => cases h : p before none <;> cases h' : q before none <;> simp [sift, h, h']
  | cons c rest ih => simp only [sift, ih, hbit, Nat.lor_bit]

theorem Positions.sift_false (before : Option Char) (text : List Char) :
    sift (fun _ _ => false) before text = 0 := by
  induction text generalizing before with
  | nil => rfl
  | cons c rest ih => rw [sift, ih]; rfl

namespace Expr

variable {text : List Char} {s : Positions}

/-- Where an expression leads from some positions of a text. -/
def leads (text : List Char) (s : Positions) (e : Expr CodeSet Edge) : Positions :=
  (e.onText text).reach (text.length + 1) s

/-- Where one expression after the other leads. -/
def leadsAll (text : List Char) (s : Positions) (es : List (Expr CodeSet Edge)) : Positions :=
  es.foldl (leads text) s

/-- Where any of some expressions leads. -/
def leadsAny (text : List Char) (s : Positions) (es : List (Expr CodeSet Edge)) : Positions :=
  es.foldr (fun e t => leads text s e ||| t) 0

/-! ### Sequences -/

theorem leads_seq (a b : Expr CodeSet Edge) :
    leads text s (seq a b) = leads text (leads text s a) b := rfl

theorem leads_or (a b : Expr CodeSet Edge) :
    leads text s (or a b) = leads text s a ||| leads text s b := rfl

theorem leadsAll_append (es fs : List (Expr CodeSet Edge)) :
    leadsAll text s (es ++ fs) = leadsAll text (leadsAll text s es) fs :=
  List.foldl_append

theorem leadsAll_parts (e : Expr CodeSet Edge) : leadsAll text s e.parts = leads text s e := by
  induction e generalizing s with
  | seq a b iha ihb => rw [parts, leadsAll_append, iha, ihb, leads_seq]
  | _ => rfl

theorem leads_chain (e : Expr CodeSet Edge) (rest : List (Expr CodeSet Edge)) :
    leads text s (chain e rest) = leadsAll text s (e :: rest) := by
  induction rest generalizing e s with
  | nil => rfl
  | cons f rest ih => rw [chain, leads_seq, ih]; rfl

theorem leads_sequence (es : List (Expr CodeSet Edge)) :
    leads text s (sequence es) = leadsAll text s es := by
  have hparts : leadsAll text s (es.flatMap parts) = leadsAll text s es := by
    rw [leadsAll, List.foldl_flatMap, leadsAll]
    congr 1
    funext t e
    exact leadsAll_parts e
  rw [sequence, ← hparts]
  cases es.flatMap parts with
  | nil => rfl
  | cons e rest => exact leads_chain e rest

/-! ### Alternatives -/

theorem leadsAny_cons (e : Expr CodeSet Edge) (es : List (Expr CodeSet Edge)) :
    leadsAny text s (e :: es) = leads text s e ||| leadsAny text s es := rfl

theorem leadsAny_append (es fs : List (Expr CodeSet Edge)) :
    leadsAny text s (es ++ fs) = leadsAny text s es ||| leadsAny text s fs := by
  induction es with
  | nil => exact (Nat.zero_or _).symm
  | cons e es ih => rw [List.cons_append, leadsAny_cons, leadsAny_cons, ih, Nat.or_assoc]

theorem leadsAny_alternatives (e : Expr CodeSet Edge) :
    leadsAny text s e.alternatives = leads text s e := by
  induction e with
  | or a b iha ihb => rw [alternatives, leadsAny_append, iha, ihb, leads_or]
  | _ => exact Nat.or_zero _

theorem leadsAny_flatMap (es : List (Expr CodeSet Edge)) :
    leadsAny text s (es.flatMap alternatives) = leadsAny text s es := by
  induction es with
  | nil => rfl
  | cons e es ih => rw [List.flatMap_cons, leadsAny_append, leadsAny_alternatives, ih, leadsAny_cons]

theorem leads_anyOf (e : Expr CodeSet Edge) (rest : List (Expr CodeSet Edge)) :
    leads text s (anyOf e rest) = leadsAny text s (e :: rest) := by
  induction rest generalizing e with
  | nil => exact (Nat.or_zero _).symm
  | cons f rest ih => rw [anyOf, leads_or, ih, leadsAny_cons e]

/-- No character is in the empty set. -/
theorem leads_empty : leads text s (one .empty) = 0 := by
  have hnone (b : Option Char) : b.any CodeSet.empty.contains = false := by cases b <;> rfl
  show (s &&& Positions.sift (fun _ after => after.any CodeSet.empty.contains) none text) <<< 1 = 0
  simp only [hnone, Positions.sift_false, Nat.and_zero, Nat.zero_shiftLeft]

/-- A character of two sets together is one of either. -/
theorem leads_ranges_append (set : CodeSet) (ranges : List (Nat × Nat)) :
    leads text s (one (.ofRanges (set.ranges ++ ranges))) =
      leads text s (one set) ||| leads text s (one (.ofRanges ranges)) := by
  have hany (b : Option Char) : b.any (CodeSet.ofRanges (set.ranges ++ ranges)).contains =
      (b.any set.contains || b.any (CodeSet.ofRanges ranges).contains) := by
    cases b with
    | none => rfl
    | some c => simp only [Option.any_some, CodeSet.contains_ofRanges, List.any_append]; rfl
  show (s &&& Positions.sift (fun _ after => after.any (CodeSet.ofRanges _).contains) none text) <<< 1 = _
  simp only [hany, Positions.sift_or, Nat.and_or_distrib_left, Nat.shiftLeft_or_distrib]
  rfl

theorem leads_sets {es : List (Expr CodeSet Edge)} {sets : List CodeSet} (h : es.mapM chars? = some sets) :
    leads text s (one (.ofRanges (sets.flatMap CodeSet.ranges))) = leadsAny text s es := by
  induction es generalizing sets with
  | nil =>
    obtain rfl : [] = sets := by simpa using h
    have hempty : CodeSet.ofRanges [] = .empty := by simp [CodeSet.ofRanges]
    rw [List.flatMap_nil, hempty]
    exact leads_empty
  | cons e es ih =>
    obtain ⟨set, hset, sets, hsets, rfl⟩ : ∃ set, chars? e = some set ∧
        ∃ sets', es.mapM chars? = some sets' ∧ set :: sets' = sets := by
      simpa [List.mapM_cons, Option.bind_eq_some_iff] using h
    obtain rfl : e = one set := by
      cases e <;> simp_all [chars?]
    rw [List.flatMap_cons, leads_ranges_append, ih hsets, leadsAny_cons]

theorem leads_united (es : List (Expr CodeSet Edge)) :
    leads text s (united es) = leadsAny text s es := by
  cases es with
  | nil => exact leads_empty
  | cons e rest =>
    rw [united]
    cases h : (e :: rest).mapM chars? with
    | none => exact leads_anyOf e rest
    | some sets => exact leads_sets h

/-! ### What alternatives share -/

theorem eq_of_same {e f : Expr CodeSet Edge} (h : e.same f = true) : e = f := by
  induction e, f using same.induct with
  | case1 => rfl
  | case2 s t => simpa [same] using h
  | case3 e f => simpa [same] using h
  | case4 a b c d iha ihb =>
    obtain ⟨hac, hbd⟩ : _ ∧ _ := by simpa [same] using h
    rw [iha hac, ihb hbd]
  | case5 a b c d iha ihb =>
    obtain ⟨hac, hbd⟩ : _ ∧ _ := by simpa [same] using h
    rw [iha hac, ihb hbd]
  | case6 e least most greedy f least' most' greedy' ih =>
    obtain ⟨⟨⟨rfl, rfl⟩, rfl⟩, hef⟩ : _ ∧ _ := by simpa [same] using h
    rw [ih hef]
  | case7 e f => simp [same] at h

theorem eq_of_sameRun {r t : List (Expr CodeSet Edge)} (h : sameRun r t = true) : r = t := by
  obtain ⟨hlength, hsame⟩ : r.length = t.length ∧ ∀ a b, (a, b) ∈ r.zip t → a.same b = true := by
    simpa [sameRun] using h
  rw [← List.forall₂_eq_eq_eq]
  exact List.forall₂_iff_zip.2 ⟨hlength, fun hmem => eq_of_same (hsame _ _ hmem)⟩

theorem take_sharedRuns {rs ts : List (List (Expr CodeSet Edge))} {n : Nat} (h : n ≤ sharedRuns rs ts) :
    rs.take n = ts.take n := by
  induction n generalizing rs ts with
  | zero => rfl
  | succ n ih =>
    unfold sharedRuns at h
    split at h
    case h_1 r rs t ts =>
      split_ifs at h with hsame
      · rw [eq_of_sameRun hsame, List.take_succ_cons, List.take_succ_cons, ih (Nat.le_of_succ_le_succ h)]
      · simp at h
    case h_2 => simp at h

theorem foldr_min_le {first runs : List (List (Expr CodeSet Edge))}
    {others : List (List (List (Expr CodeSet Edge)))} (h : runs ∈ others) (n : Nat) :
    others.foldr (fun runs n => min (sharedRuns first runs) n) n ≤ sharedRuns first runs := by
  induction others with
  | nil => cases h
  | cons other others ih =>
    rcases List.mem_cons.1 h with rfl | h
    · exact Nat.min_le_left _ _
    · exact (Nat.min_le_right _ _).trans (ih h)

/-- All alternatives start with the runs that are taken from the first. -/
theorem take_sharedFront {runs : List (List (Expr CodeSet Edge))}
    {branches : List (List (List (Expr CodeSet Edge)))} (h : runs ∈ branches) :
    (branches.headD []).take (sharedFront branches) = runs.take (sharedFront branches) := by
  cases branches with
  | nil => cases h
  | cons first others =>
    rcases List.mem_cons.1 h with rfl | h
    · rfl
    rw [sharedFront]
    split_ifs
    · exact take_sharedRuns (foldr_min_le h _)
    · rfl

/-! ### Choices -/

/-- Where an alternative leads, it leads after what all of them start with. -/
theorem leads_runs (e : Expr CodeSet Edge) (n : Nat) :
    leads text (leadsAll text s (e.runs.take n).flatten) (sequence (e.runs.drop n).flatten) =
      leads text s e := by
  rw [leads_sequence, ← leadsAll_append, ← List.flatten_append, List.take_append_drop, runs,
    List.flatten_splitBy, leadsAll_parts]

theorem leadsAny_map {t : Positions} {es : List (Expr CodeSet Edge)}
    {f : Expr CodeSet Edge → Expr CodeSet Edge} (h : ∀ e ∈ es, leads text t (f e) = leads text s e) :
    leadsAny text t (es.map f) = leadsAny text s es := by
  induction es with
  | nil => rfl
  | cons e es ih =>
    obtain ⟨he, hes⟩ := List.forall_mem_cons.1 h
    rw [List.map_cons, leadsAny_cons, leadsAny_cons, he, ih hes]

/-- A choice leads where one of its alternatives does. -/
theorem leads_choice (es : List (Expr CodeSet Edge)) :
    leads text s (choice es) = leadsAny text s es := by
  rw [choice, leads_sequence, leadsAll_append]
  show leads text _ (united _) = _
  rw [leads_united, leadsAny_flatMap, List.map_map, ← leadsAny_flatMap es]
  -- What stands in front is taken from the first alternative; each of the others starts with the same.
  refine leadsAny_map fun e he => ?_
  rw [take_sharedFront (List.mem_map_of_mem he)]
  exact leads_runs e _

example :
    let atStart (c : Char) : Expr CodeSet Edge := seq (edge .textStart) (one (.singleton c))
    choice [atStart 'a', atStart 'b'] = seq (edge .textStart) (one ⟨[(0x61, 0x62)]⟩) := by cbv

/-- A choice is found in the texts in which one of its alternatives is. -/
theorem isIn_choice (es : List (Expr CodeSet Edge)) (text : List Char) :
    (choice es).isIn text = es.any fun e => e.isIn text := by
  show (leads text _ (choice es) != 0) = es.any fun e => leads text _ e != 0
  rw [leads_choice]
  induction es with
  | nil => rfl
  | cons e es ih =>
    rw [List.any_cons, ← ih, leadsAny_cons, Bool.eq_iff_iff]
    simp only [bne_iff_ne, Bool.or_eq_true, ne_eq, Nat.or_eq_zero_iff, not_and_or]

end Expr

end Pattern

end EventRules
