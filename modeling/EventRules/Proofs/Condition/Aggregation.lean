import EventRules.Condition.Aggregation
import EventRules.Proofs.FirstFault
import EventRules.Proofs.Text.Trim
import Mathlib.Tactic.SplitIfs

/-!
# The grammar of aggregations

A clause is a function, a field in parentheses, a grouping, a comparison and a threshold, with white space
between them (`Spells`), and it is read exactly as what it spells (`readTrimmed_eq_ok_iff`). Where a part ends is
decided from the left: the field ends at the first closing parenthesis, the grouping before the first
character of an operator, and the operator with the last of the run that begins there.
-/

namespace EventRules.Condition.Aggregation

open Text

/-- The text is a field, or blank. -/
inductive SpellsField (text : List Char) : Option String → Prop
  | blank (h : trim text = []) : SpellsField text none
  | named (h : trim text ≠ []) : SpellsField text (some (.ofList (trim text)))

/-- The text is a grouping: none, or `by` and a field. -/
inductive SpellsGroup : List Char → Option String → Prop
  | none : SpellsGroup [] none
  | field {group : List Char} {name : String} (h : SpellsField group (some name)) :
    SpellsGroup ('b' :: 'y' :: ' ' :: group) (some name)

/-- The clause is the aggregation, with white space around its parts. -/
inductive Spells (a : Aggregation) : List Char → Prop
  | parts {function argument grouping number : List Char}
    (hfunction : trim function = a.function.toList) (hne : a.function.toList ≠ [])
    (hletters : ∀ c ∈ a.function.toList, c.isAlpha) (hargument : ')' ∉ argument)
    (hfield : SpellsField argument a.field) (hgrouping : ∀ c ∈ grouping, isOperatorChar c = false)
    (hgroup : SpellsGroup (trim grouping) a.groupBy) (hop : a.op ∈ operators)
    (hmaximal : ∀ c ∈ number.head?, isOperatorChar c = false)
    (hthreshold : Number.read? (trim number) = some a.threshold) :
    Spells a (function ++ '(' :: (argument ++ ')' :: (grouping ++ (a.op.toList ++ number))))

variable {text : List Char}

/-! ### The parts by themselves -/

theorem nonBlank?_eq_iff {field : Option String} : nonBlank? text = field ↔ SpellsField text field := by
  have hnonBlank : nonBlank? text = if trim text = [] then none else some (.ofList (trim text)) := by
    simp [nonBlank?]
  rw [hnonBlank]
  constructor
  · rintro rfl
    split_ifs with hblank
    · exact .blank hblank
    · exact .named hblank
  · intro h
    cases h with
    | blank hblank => rw [if_pos hblank]
    | named hne => rw [if_neg hne]

theorem readFunction_eq_ok_iff {name : String} : readFunction text = .ok name ↔
    trim text = name.toList ∧ name.toList ≠ [] ∧ ∀ c ∈ name.toList, c.isAlpha := by
  unfold readFunction
  constructor
  · intro h
    dsimp only at h
    split_ifs at h with hname
    obtain rfl := Except.ok.inj h
    simpa [not_or] using hname
  · rintro ⟨htext, hne, hletters⟩
    have hname : ¬ (name.toList.isEmpty || !name.toList.all Char.isAlpha) = true := by
      simpa [not_or] using ⟨by simpa using hne, hletters⟩
    simp only [htext]
    rw [if_neg hname, String.ofList_toList]

theorem readGroup_eq_ok_iff {groupBy : Option String} :
    readGroup text = .ok groupBy ↔ SpellsGroup (trim text) groupBy := by
  unfold readGroup
  generalize trim text = text
  constructor
  · intro h
    split at h
    case h_1 => cases h; exact .none
    case h_2 group =>
      split at h
      case h_1 name hname =>
        cases h
        exact .field (nonBlank?_eq_iff.1 hname)
      case h_2 => cases h
    case h_3 => cases h
  · intro h
    cases h with
    | none => rfl
    | field hname => simp [nonBlank?_eq_iff.2 hname]

theorem splitCall_eq_ok_iff {function argument rest : List Char} :
    splitCall text = .ok (function, argument, rest) ↔
      text = function ++ '(' :: (argument ++ ')' :: rest) ∧ '(' ∉ function ∧ ')' ∉ function ∧
        ')' ∉ argument := by
  unfold splitCall
  constructor
  · intro h
    split at h
    case h_1 => cases h
    case h_2 => cases h
    case h_3 head rest' _ hclose =>
      split at h
      case h_1 => cases h
      case h_2 function' argument' hopen =>
        cases h
        obtain ⟨rfl, hhead⟩ := cut?_eq_some_iff.1 hclose
        obtain ⟨rfl, hfunction⟩ := cut?_eq_some_iff.1 hopen
        have hhead' : ')' ∉ function ∧ ')' ∉ argument := by simpa using hhead
        exact ⟨by simp, hfunction, hhead'⟩
  · rintro ⟨rfl, hopen, hclose, hargument⟩
    have hfirst : cut? '(' (function ++ '(' :: (argument ++ ')' :: rest)) =
        some (function, argument ++ ')' :: rest) := cut?_eq_some_iff.2 ⟨rfl, hopen⟩
    have hlast : cut? ')' (function ++ '(' :: (argument ++ ')' :: rest)) =
        some (function ++ '(' :: argument, rest) := cut?_eq_some_iff.2 ⟨by simp, by simp [hclose, hargument]⟩
    have hhead : cut? '(' (function ++ '(' :: argument) = some (function, argument) :=
      cut?_eq_some_iff.2 ⟨rfl, hopen⟩
    rw [hfirst, hlast]
    simp only [hhead]

/-! ### The comparison -/

theorem operator_chars {op : String} (h : op ∈ operators) :
    op.toList ≠ [] ∧ ∀ c ∈ op.toList, isOperatorChar c = true := by
  simp only [operators, List.mem_cons, List.not_mem_nil, or_false] at h
  rcases h with rfl | rfl | rfl | rfl | rfl | rfl <;> simp [isOperatorChar]

theorem not_isBlank_of_isOperatorChar {c : Char} (h : isOperatorChar c = true) : isBlank c = false := by
  simp only [isOperatorChar, Bool.or_eq_true, beq_iff_eq] at h
  rcases h with (rfl | rfl) | rfl
  · exact not_isBlank (by decide) (by decide)
  · exact not_isBlank (by decide) (by decide)
  · exact not_isBlank (by decide) (by decide)

theorem begins_of_run {op : List Char} (h : ∀ c ∈ op, isOperatorChar c = true) : Begins op :=
  fun c hc => not_isBlank_of_isOperatorChar (h c (List.mem_of_mem_head? hc))

theorem ends_of_run {op : List Char} (h : ∀ c ∈ op, isOperatorChar c = true) : Ends op :=
  fun c hc => not_isBlank_of_isOperatorChar (h c (List.mem_of_mem_getLast? hc))

/-- What follows the closing parenthesis, with a run of operator characters in it. -/
structure Comparison (grouping op number : List Char) : Prop where
  before : ∀ c ∈ grouping, isOperatorChar c = false
  run : ∀ c ∈ op, isOperatorChar c = true
  run_ne : op ≠ []
  after : ∀ c ∈ number.head?, isOperatorChar c = false

theorem exists_comparison (rest : List Char) :
    (∀ c ∈ rest, isOperatorChar c = false) ∨
      ∃ grouping op number, rest = grouping ++ (op ++ number) ∧ Comparison grouping op number := by
  obtain ⟨grouping, comparison, rfl, hgrouping, hcomparison⟩ := exists_run (!isOperatorChar ·) rest
  obtain ⟨op, number, rfl, hop, hmaximal⟩ := exists_run isOperatorChar comparison
  have hgrouping' : ∀ c ∈ grouping, isOperatorChar c = false := by simpa using hgrouping
  by_cases hne : op = []
  · subst hne
    cases number with
    | nil => exact .inl (by simpa using hgrouping')
    | cons c number =>
      have hop : isOperatorChar c = true := by simpa using hcomparison c rfl
      have hno : isOperatorChar c = false := hmaximal c rfl
      rw [hop] at hno
      cases hno
  · exact .inr ⟨grouping, op, number, rfl, hgrouping', hop, hne, hmaximal⟩

namespace Comparison

variable {grouping op number : List Char} (h : Comparison grouping op number)
include h

theorem head? : ∀ c ∈ (op ++ number).head?, (!isOperatorChar c) = false := by
  intro c hc
  cases op with
  | nil => exact absurd rfl h.run_ne
  | cons d op =>
    obtain rfl : d = c := by simpa using hc
    simp [h.run d (by simp)]

theorem takeWhile_before : (grouping ++ (op ++ number)).takeWhile (!isOperatorChar ·) = grouping :=
  takeWhile_run (by simpa using h.before) h.head?

theorem dropWhile_before : (grouping ++ (op ++ number)).dropWhile (!isOperatorChar ·) = op ++ number :=
  dropWhile_run (by simpa using h.before) h.head?

/-- Trimmed, it has the same operator and the same parts around it but for white space. -/
theorem exists_trim : ∃ grouping' number', trim (grouping ++ (op ++ number)) = grouping' ++ (op ++ number') ∧
    Comparison grouping' op number' ∧ trim grouping' = trim grouping ∧ trim number' = trim number := by
  obtain ⟨l, grouping', number', r, hl, hr, rfl, rfl, htrim⟩ :=
    exists_trim_around h.run_ne (begins_of_run h.run) (ends_of_run h.run) grouping number
  exact ⟨grouping', number', htrim,
    ⟨fun c hc => h.before c (by simp [hc]), h.run, h.run_ne,
      fun c hc => h.after c (List.mem_head?_append_of_mem_head? hc)⟩,
    (trim_front hl grouping').symm, (trim_back hr number').symm⟩

end Comparison

section

variable {function : String} {name argument grouping op number rest : List Char}

/-- What is read of the parts of a comparison. -/
def readComparison (function : String) (argument grouping op number : List Char) :
    Except ClauseFault Aggregation := do
  let groupBy ← readGroup grouping
  if !operators.contains (.ofList op) then .error .unknownOperator
  else
    match Number.read? (trim number) with
    | none => .error .missingThreshold
    | some threshold => .ok ⟨function, nonBlank? argument, groupBy, .ofList op, threshold⟩

theorem readComparison_congr {grouping' number' : List Char} (hgrouping : trim grouping' = trim grouping)
    (hnumber : trim number' = trim number) :
    readComparison function argument grouping' op number' = readComparison function argument grouping op number := by
  rw [readComparison, readComparison, readGroup, readGroup, hgrouping, hnumber]

theorem readTrimmed_of_trim (hcall : splitCall text = .ok (name, argument, rest))
    (hrest : trim rest = grouping ++ (op ++ number)) (h : Comparison grouping op number) :
    readTrimmed text = readFunction name >>= fun function => readComparison function argument grouping op number := by
  have hne : (op ++ number).isEmpty = false := by simp [h.run_ne]
  rw [readTrimmed, hcall, Except.ok_bind]
  simp only [hrest, h.takeWhile_before, h.dropWhile_before, takeWhile_run h.run h.after,
    dropWhile_run h.run h.after, hne]
  rfl

theorem readTrimmed_of_comparison (hcall : splitCall text = .ok (name, argument, grouping ++ (op ++ number)))
    (h : Comparison grouping op number) :
    readTrimmed text = readFunction name >>= fun function => readComparison function argument grouping op number := by
  obtain ⟨grouping', number', htrim, h', hgrouping, hnumber⟩ := h.exists_trim
  rw [readTrimmed_of_trim hcall htrim h']
  simp only [readComparison_congr hgrouping hnumber]

theorem readTrimmed_of_none (hcall : splitCall text = .ok (name, argument, rest))
    (h : ∀ c ∈ trim rest, isOperatorChar c = false) :
    readTrimmed text = readFunction name >>= fun _ => .error .missingOperator := by
  have hdrop : (trim rest).dropWhile (!isOperatorChar ·) = [] :=
    List.dropWhile_eq_nil_iff.2 fun c hc => by simp [h c hc]
  rw [readTrimmed, hcall, Except.ok_bind]
  simp only [hdrop]
  rfl

end

/-! ### Clauses -/

variable {a : Aggregation}

theorem readComparison_eq_ok_iff {name : String} {argument grouping op number : List Char} :
    readComparison name argument grouping op number = .ok a ↔
      SpellsGroup (trim grouping) a.groupBy ∧ .ofList op = a.op ∧ a.op ∈ operators ∧
        Number.read? (trim number) = some a.threshold ∧ name = a.function ∧ SpellsField argument a.field := by
  obtain ⟨function, field, groupBy, op', threshold⟩ := a
  unfold readComparison
  simp only [Except.bind_eq_ok_iff, readGroup_eq_ok_iff, ← nonBlank?_eq_iff]
  constructor
  · rintro ⟨groupBy', hgroup, h⟩
    split_ifs at h with hop
    split at h
    case h_1 => cases h
    case h_2 threshold' hnumber =>
      cases h
      have hop' : String.ofList op ∈ operators := by simpa using hop
      exact ⟨hgroup, rfl, hop', hnumber, rfl, rfl⟩
  · rintro ⟨hgroup, rfl, hop, hnumber, rfl, rfl⟩
    have hop' : ¬ (!operators.contains (String.ofList op)) = true := by simpa using hop
    refine ⟨groupBy, hgroup, ?_⟩
    rw [if_neg hop', hnumber]

/-- A clause is read exactly as the aggregation that it spells. -/
theorem readTrimmed_eq_ok_iff : readTrimmed text = .ok a ↔ Spells a text := by
  constructor
  · intro h
    obtain ⟨⟨function, argument, rest⟩, hcall, -⟩ := Except.bind_eq_ok_iff.1 h
    rcases exists_comparison rest with hnone | ⟨grouping, op, number, rfl, hcomparison⟩
    · rw [readTrimmed_of_none hcall fun c hc => hnone c (mem_of_mem_trim hc)] at h
      obtain ⟨_, -, h⟩ := Except.bind_eq_ok_iff.1 h
      cases h
    · rw [readTrimmed_of_comparison hcall hcomparison] at h
      obtain ⟨name, hname, h⟩ := Except.bind_eq_ok_iff.1 h
      obtain ⟨hgroup, hop, hmem, hnumber, rfl, hfield⟩ := readComparison_eq_ok_iff.1 h
      obtain ⟨htrim, hne, hletters⟩ := readFunction_eq_ok_iff.1 hname
      obtain ⟨rfl, -, -, hargument⟩ := splitCall_eq_ok_iff.1 hcall
      obtain rfl : op = a.op.toList := by rw [← hop, String.toList_ofList]
      exact .parts htrim hne hletters hargument hfield hcomparison.before hgroup hmem
        hcomparison.after hnumber
  · intro h
    cases h with
    | @parts function argument grouping number hfunction hne hletters hargument hfield hgrouping hgroup
        hop hmaximal hthreshold =>
      -- A parenthesis before the first one would be left when the function is trimmed.
      have hmark {c : Char} (hblank : isBlank c = false) (halpha : c.isAlpha = false) : c ∉ function := by
        intro hmem
        have hmem := mem_trim_of_not_blank hblank hmem
        rw [hfunction] at hmem
        rw [hletters c hmem] at halpha
        cases halpha
      have hopen : '(' ∉ function := hmark (not_isBlank (by decide) (by decide)) (by decide)
      have hclose : ')' ∉ function := hmark (not_isBlank (by decide) (by decide)) (by decide)
      have hcall : splitCall (function ++ '(' :: (argument ++ ')' :: (grouping ++ (a.op.toList ++ number)))) =
          .ok (function, argument, grouping ++ (a.op.toList ++ number)) :=
        splitCall_eq_ok_iff.2 ⟨rfl, hopen, hclose, hargument⟩
      have hrun := operator_chars hop
      rw [readTrimmed_of_comparison hcall ⟨hgrouping, hrun.2, hrun.1, hmaximal⟩,
        readFunction_eq_ok_iff.2 ⟨hfunction, hne, hletters⟩, Except.ok_bind, readComparison_eq_ok_iff]
      exact ⟨hgroup, String.ofList_toList, hop, hthreshold, rfl, hfield⟩

/-- White space at the ends of a clause makes no difference. -/
theorem Spells.trim (h : Spells a text) : Spells a (trim text) := by
  cases h with
  | @parts function argument grouping number hfunction hne hletters hargument hfield hgrouping hgroup
      hop hmaximal hthreshold =>
    have hrun := operator_chars hop
    have hbegins : Begins ('(' :: (argument ++ ')' :: (grouping ++ a.op.toList))) :=
      begins_cons (not_isBlank (by decide) (by decide)) _
    have hends : Ends ('(' :: (argument ++ ')' :: (grouping ++ a.op.toList))) := by
      have hlast := (ends_of_run hrun.2).append_right hrun.1 ('(' :: (argument ++ ')' :: grouping))
      simpa using hlast
    obtain ⟨l, function', number', r, hl, hr, rfl, rfl, htrim⟩ :=
      exists_trim_around (List.cons_ne_nil _ _) hbegins hends function number
    have htext :
        Text.trim (l ++ function' ++ '(' :: (argument ++ ')' :: (grouping ++ (a.op.toList ++ (number' ++ r))))) =
          function' ++ '(' :: (argument ++ ')' :: (grouping ++ (a.op.toList ++ number'))) := by
      simpa using htrim
    rw [trim_front hl] at hfunction
    rw [trim_back hr] at hthreshold
    rw [htext]
    exact .parts hfunction hne hletters hargument hfield hgrouping hgroup hop
      (fun c hc => hmaximal c (List.mem_head?_append_of_mem_head? hc)) hthreshold

end EventRules.Condition.Aggregation
