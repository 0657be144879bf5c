import EventRules.Proofs.Condition.Aggregation
import EventRules.Proofs.Number
import EventRules.Proofs.Text.Slice

/-!
# Clauses and the slices they are cut into

An aggregation with an integer threshold is read back from its text, whatever white space is put between
the parts (`read_grammar`). The reading can be done by places alone, each part a slice from one place to
another (`readSlices?`): no such slice is missing, since every place that is found stands before or right
behind a character of one byte (`readSlices?_eq`).
-/

namespace EventRules.Condition.Aggregation

open Text

variable {a : Aggregation} {text : List Char}

/-! ### Aggregations as text -/

/-- The part with white space around it. -/
def Padded (part text : List Char) : Prop :=
  ∃ l r, Blank l ∧ Blank r ∧ text = l ++ (part ++ r)

inductive WrittenGroup : Option String → List Char → Prop
  | none {text : List Char} (h : Blank text) : WrittenGroup none text
  | field {l text : List Char} {group : String} (hl : Blank l) (h : Padded group.toList text) :
    WrittenGroup (some group) (l ++ 'b' :: 'y' :: ' ' :: text)

/-- The text is that of the aggregation, with any white space between the parts. -/
inductive Written (a : Aggregation) : List Char → Prop
  | parts {function argument grouping number : List Char} (hfunction : Padded a.function.toList function)
    (hargument : Padded (a.field.getD "").toList argument) (hgrouping : WrittenGroup a.groupBy grouping)
    (hnumber : Padded a.threshold.render.toList number) :
    Written a (function ++ '(' :: (argument ++ ')' :: (grouping ++ (a.op.toList ++ number))))

/-- The parts have the shapes that a clause can give them, and the threshold is an integer. -/
structure Plain (a : Aggregation) : Prop where
  function_ne : a.function.toList ≠ []
  letters : ∀ c ∈ a.function.toList, c.isAlpha
  field : ∀ field ∈ a.field, field.toList ≠ [] ∧ trim field.toList = field.toList ∧ ')' ∉ field.toList
  groupBy : ∀ group ∈ a.groupBy, group.toList ≠ [] ∧ trim group.toList = group.toList ∧
    ∀ c ∈ group.toList, isOperatorChar c = false
  op : a.op ∈ operators
  threshold : ∃ value, a.threshold = .integer value

theorem Padded.trim_eq {part : List Char} (h : Padded part text) : trim text = trim part := by
  obtain ⟨l, r, hl, hr, rfl⟩ := h
  exact trim_padded hl hr part

theorem SpellsField.of_trim {field : String} (htrim : trim text = field.toList) (hne : field.toList ≠ []) :
    SpellsField text (some field) := by
  have hspells : SpellsField text (some (.ofList (trim text))) := .named (by rwa [htrim])
  rwa [htrim, String.ofList_toList] at hspells

theorem no_operator_of_trim (h : ∀ c ∈ trim text, isOperatorChar c = false) :
    ∀ c ∈ text, isOperatorChar c = false := by
  intro c hc
  by_contra hop
  have hop : isOperatorChar c = true := by simpa using hop
  have hmem : c ∈ trim text := mem_trim_of_not_blank (not_isBlank_of_isOperatorChar hop) hc
  rw [h c hmem] at hop
  cases hop

theorem no_operator_of_blank (h : Blank text) : ∀ c ∈ text, isOperatorChar c = false :=
  no_operator_of_trim (by simp [trim_blank h])

/-- The white space behind `by` stays. -/
theorem trim_by {l r group : List Char} (hl : Blank l) (hr : Blank r) (between : List Char) (hne : group ≠ [])
    (hself : trim group = group) :
    trim (l ++ 'b' :: 'y' :: ' ' :: (between ++ (group ++ r))) = 'b' :: 'y' :: ' ' :: (between ++ group) := by
  obtain ⟨-, -, -, -, -, -, hends⟩ := exists_trim group
  rw [hself] at hends
  have hlast : Ends ('b' :: 'y' :: ' ' :: (between ++ group)) :=
    hends.append_right hne ('b' :: 'y' :: ' ' :: between)
  have hfirst : Begins ('b' :: 'y' :: ' ' :: (between ++ group)) :=
    begins_cons (not_isBlank (by decide) (by decide)) _
  have htrim := trim_eq hl hr hfirst hlast
  simpa using htrim

theorem render_integer (value : Int64) :
    trim (Number.integer value).render.toList = (Number.integer value).render.toList ∧
      ∀ c ∈ (Number.integer value).render.toList, isOperatorChar c = false := by
  constructor
  · refine trim_of_not_blank fun c hc => ?_
    rcases Number.mem_render_integer hc with hdigit | rfl
    · exact not_isBlank_of_isDigit hdigit
    · exact not_isBlank (by decide) (by decide)
  · intro c hc
    rcases Number.mem_render_integer hc with hdigit | rfl
    · have hne : c ≠ '<' ∧ c ≠ '>' ∧ c ≠ '=' := by
        refine ⟨?_, ?_, ?_⟩ <;> rintro rfl <;> exact absurd hdigit (by decide)
      simp [isOperatorChar, hne]
    · rfl

namespace Plain

variable (h : Plain a)
include h

theorem spellsField {argument : List Char} (hargument : Padded (a.field.getD "").toList argument) :
    SpellsField argument a.field ∧ ')' ∉ argument := by
  have hblank : isBlank ')' = false := not_isBlank (by decide) (by decide)
  cases hfield : a.field with
  | none =>
    have htrim : trim argument = [] := by
      rw [hargument.trim_eq, hfield]; rfl
    refine ⟨.blank htrim, fun hmem => ?_⟩
    have hmem := mem_trim_of_not_blank hblank hmem
    rw [htrim] at hmem
    cases hmem
  | some field =>
    obtain ⟨hne, hself, hclose⟩ := h.field field (by rw [hfield]; rfl)
    have htrim : trim argument = field.toList := by
      rw [hargument.trim_eq, hfield, Option.getD_some, hself]
    exact ⟨.of_trim htrim hne, fun hmem => hclose (htrim ▸ mem_trim_of_not_blank hblank hmem)⟩

theorem spellsGroup {grouping : List Char} (hgrouping : WrittenGroup a.groupBy grouping) :
    SpellsGroup (trim grouping) a.groupBy ∧ ∀ c ∈ grouping, isOperatorChar c = false := by
  have hshape := h.groupBy
  generalize a.groupBy = groupBy at hgrouping hshape ⊢
  cases hgrouping with
  | none hblank =>
    rw [trim_blank hblank]
    exact ⟨.none, no_operator_of_blank hblank⟩
  | @field l text group hl hgroup =>
    obtain ⟨hne, hself, hop⟩ := hshape group rfl
    obtain ⟨l', r', hl', hr', rfl⟩ := hgroup
    have htrim := trim_by hl hr' l' hne hself
    have hgroup : trim (l' ++ group.toList) = group.toList := by rw [trim_front hl', hself]
    refine ⟨?_, no_operator_of_trim fun c hc => ?_⟩
    · rw [htrim]
      exact .field (.of_trim hgroup hne)
    · rw [htrim] at hc
      simp only [List.mem_cons, List.mem_append] at hc
      rcases hc with rfl | rfl | rfl | hc | hc
      · rfl
      · rfl
      · rfl
      · exact no_operator_of_blank hl' c hc
      · exact hop c hc

theorem spells_of_written (hwritten : Written a text) : Spells a text := by
  cases hwritten with
  | @parts function argument grouping number hfunction hargument hgrouping hnumber =>
    obtain ⟨hfield, hclose⟩ := h.spellsField hargument
    obtain ⟨hgroup, hbefore⟩ := h.spellsGroup hgrouping
    obtain ⟨value, hvalue⟩ := h.threshold
    obtain ⟨hself, hdigits⟩ := render_integer value
    have htrim : trim function = a.function.toList := by
      rw [hfunction.trim_eq]
      exact trim_of_not_blank fun c hc => not_isBlank_of_isAlpha (h.letters c hc)
    have hthreshold : trim number = (Number.integer value).render.toList := by
      rw [hnumber.trim_eq, hvalue, hself]
    have hafter : ∀ c ∈ number, isOperatorChar c = false :=
      no_operator_of_trim (by rwa [hthreshold])
    refine .parts htrim h.function_ne h.letters hclose hfield hbefore hgroup h.op
      (fun c hc => hafter c (List.mem_of_mem_head? hc)) ?_
    rw [hthreshold, hvalue, Number.read?_render_integer]

end Plain

/-! ### Slices -/

/-- The function, the argument and what follows, as slices around the two parentheses. -/
def sliceCall? (clause : List Char) : Option (Except ClauseFault (List Char × List Char × List Char)) :=
  match findIf? (· == '(') clause, findIf? (· == ')') clause with
  | none, _ => some (.error .missingOpen)
  | some _, none => some (.error .missingClose)
  | some opening, some closing =>
    if closing < opening then some (.error .unbalanced)
    else do
      let function ← slice? 0 opening clause
      let argument ← slice? (opening + 1) closing clause
      let rest ← slice? (closing + 1) (size clause) clause
      some (.ok (function, argument, rest))

/-- The grouping, the operator and the number, if there is an operator. The characters of the operator
are counted, and the count is taken for a number of bytes. -/
def sliceComparison? (rest : List Char) : Option (Option (List Char × List Char × List Char)) :=
  match findIf? isOperatorChar rest with
  | none => some none
  | some start => do
    let grouping ← slice? 0 start rest
    let comparison ← slice? start (size rest) rest
    let length := (comparison.takeWhile isOperatorChar).length
    let op ← slice? 0 length comparison
    let number ← slice? length (size comparison) comparison
    some (some (grouping, op, number))

/-- The aggregation that a clause is, read from slices of the clause. -/
def readSlices? (text : List Char) : Option (Except ClauseFault Aggregation) := do
  match ← sliceCall? (trim text) with
  | .error fault => some (.error fault)
  | .ok (name, argument, rest) =>
    match ← sliceComparison? (trim rest) with
    | none => some (readFunction name >>= fun _ => .error .missingOperator)
    | some (grouping, op, number) =>
      some (readFunction name >>= fun function => readComparison function argument grouping op number)

/-- The parentheses take one byte each. -/
theorem slices_of_call {clause function argument rest : List Char}
    (hclause : clause = function ++ '(' :: (argument ++ ')' :: rest)) :
    slice? 0 (size function) clause = some function ∧
      slice? (size function + 1) (size (function ++ '(' :: argument)) clause = some argument ∧
      slice? (size (function ++ '(' :: argument) + 1) (size clause) clause = some rest := by
  have hone : '('.utf8Size = 1 ∧ ')'.utf8Size = 1 := ⟨rfl, rfl⟩
  have hfront := slice?_front function ('(' :: (argument ++ ')' :: rest))
  have hmiddle := slice?_append (function ++ ['(']) argument (')' :: rest)
  have hback := slice?_back (function ++ '(' :: (argument ++ [')'])) rest
  subst hclause
  simp only [List.append_assoc, List.cons_append, List.nil_append, size_append, size_cons, size_nil,
    hone, Nat.add_assoc, Nat.add_zero] at hfront hmiddle hback ⊢
  exact ⟨hfront, hmiddle, hback⟩

theorem sliceCall?_eq (clause : List Char) : sliceCall? clause = some (splitCall clause) := by
  unfold sliceCall? splitCall
  rw [findIf?_eq_cut?, findIf?_eq_cut?]
  cases hopen : cut? '(' clause with
  | none => rfl
  | some parts =>
    obtain ⟨function, inner⟩ := parts
    cases hclose : cut? ')' clause with
    | none => rfl
    | some parts =>
      obtain ⟨head, rest⟩ := parts
      obtain ⟨hopening, hfunction⟩ := cut?_eq_some_iff.1 hopen
      obtain ⟨hclosing, -⟩ := cut?_eq_some_iff.1 hclose
      have hclause : function ++ '(' :: inner = head ++ ')' :: rest := hopening.symm.trans hclosing
      simp only [Option.map_some]
      -- Whichever parenthesis comes first, the text before it begins the text before the other.
      split_ifs with hlt
      · obtain ⟨between, rfl, -⟩ := exists_append_of_size_le hclause.symm hlt.le
        have hnone : cut? '(' head = none := cut?_eq_none_iff.2 fun hmem => hfunction (by simp [hmem])
        rw [hnone]
      · obtain ⟨between, rfl, hinner⟩ := exists_append_of_size_le hclause (Nat.not_lt.1 hlt)
        cases between with
        | nil => exact absurd (List.cons.inj hinner).1 (by decide)
        | cons c argument =>
          obtain ⟨rfl, rfl⟩ := List.cons.inj hinner
          have hcut : cut? '(' (function ++ '(' :: argument) = some (function, argument) :=
            cut?_eq_some_iff.2 ⟨rfl, hfunction⟩
          obtain ⟨hfront, hmiddle, hback⟩ := slices_of_call hopening
          simp only [hfront, hmiddle, hback, hcut, Option.bind_eq_bind, Option.bind_some]

/-- Operator characters take one byte each. -/
theorem size_of_run {op : List Char} (h : ∀ c ∈ op, isOperatorChar c = true) : size op = op.length := by
  induction op with
  | nil => rfl
  | cons c op ih =>
    have hone : c.utf8Size = 1 := by
      have hc := h c (by simp)
      simp only [isOperatorChar, Bool.or_eq_true, beq_iff_eq] at hc
      rcases hc with (rfl | rfl) | rfl <;> rfl
    rw [size_cons, ih fun d hd => h d (by simp [hd]), hone, List.length_cons, Nat.add_comm]

theorem sliceComparison?_of_none {rest : List Char} (h : ∀ c ∈ rest, isOperatorChar c = false) :
    sliceComparison? rest = some none := by
  rw [sliceComparison?, findIf?_eq_none h]

theorem sliceComparison?_of_comparison {grouping op number : List Char} (h : Comparison grouping op number) :
    sliceComparison? (grouping ++ (op ++ number)) = some (some (grouping, op, number)) := by
  have hstart : findIf? isOperatorChar (grouping ++ (op ++ number)) = some (size grouping) := by
    cases op with
    | nil => exact absurd rfl h.run_ne
    | cons c op => exact findIf?_append h.before (h.run c (by simp)) (op ++ number)
  have hlength : ((op ++ number).takeWhile isOperatorChar).length = size op := by
    rw [takeWhile_run h.run h.after, size_of_run h.run]
  rw [sliceComparison?, hstart]
  simp only [slice?_front, slice?_back, hlength, Option.bind_eq_bind, Option.bind_some]

/-- No slice is missing, and what is read from them is what the clause is. -/
theorem readSlices?_eq (text : List Char) : readSlices? text = some (readTrimmed (trim text)) := by
  rw [readSlices?, sliceCall?_eq, Option.bind_eq_bind, Option.bind_some]
  cases hcall : splitCall (trim text) with
  | error fault =>
    rw [readTrimmed, hcall]; rfl
  | ok parts =>
    obtain ⟨name, argument, rest⟩ := parts
    rcases exists_comparison (trim rest) with hnone | ⟨grouping, op, number, hrest, hcomparison⟩
    · rw [readTrimmed_of_none hcall hnone]
      simp only [sliceComparison?_of_none hnone, Option.bind_eq_bind, Option.bind_some]
    · rw [readTrimmed_of_trim hcall hrest hcomparison]
      simp only [hrest, sliceComparison?_of_comparison hcomparison, Option.bind_eq_bind, Option.bind_some]

/-! ### The main result -/

/-- A clause is read as exactly the aggregation that it spells, so that an aggregation of plain parts is
read back from its text under any spacing; and all of it can be read from slices that are there. -/
theorem read_grammar :
    (∀ clause a, read clause = .ok a ↔ Spells a (trim clause.toList)) ∧
      (∀ a text, Plain a → Written a text → read (.ofList text) = .ok a) ∧
      ∀ clause, readSlices? clause.toList = some (read clause) := by
  refine ⟨fun clause a => readTrimmed_eq_ok_iff, fun a text hplain hwritten => ?_,
    fun clause => readSlices?_eq clause.toList⟩
  rw [read, String.toList_ofList, readTrimmed_eq_ok_iff]
  exact (hplain.spells_of_written hwritten).trim

theorem read_grammar_spaced : read " count(user )by  host >=5" =
    .ok ⟨"count", some "user", some "host", ">=", .integer 5⟩ := by
  have hnone : Blank [] := by decide
  have hspace : Blank [' '] := by decide
  refine read_grammar.2.1 ⟨"count", some "user", some "host", ">=", .integer 5⟩
    (" count".toList ++ '(' :: ("user ".toList ++ ')' :: ("by  host ".toList ++ (">=".toList ++ "5".toList))))
    ?plain ?written
  case plain =>
    refine ⟨by simp, by simp, ?_, ?_, by simp [operators], 5, rfl⟩
    · rintro field ⟨⟩
      exact ⟨by simp, rfl, by simp⟩
    · rintro group ⟨⟩
      exact ⟨by simp, rfl, by simp [isOperatorChar]⟩
  case written =>
    exact .parts ⟨[' '], [], hspace, hnone, rfl⟩ ⟨[], [' '], hnone, hspace, rfl⟩
      (.field hnone ⟨[' '], [' '], hspace, hspace, rfl⟩) ⟨[], [], hnone, hnone, rfl⟩

end EventRules.Condition.Aggregation
