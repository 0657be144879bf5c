import EventRules.Proofs.Import

/-!
# How an import ends

Only a policy that fails fast ends an import early, and then with the error of the first document whose
error is not skipped. Any other import makes a report that accounts for each document once
(`ImportReport.Accounts`). `Import.addAll_outcome` says how a report grows: by what the documents make
by themselves, each in its place.
-/

namespace EventRules

namespace ParsedRules

def concat (parts : List ParsedRules) : ParsedRules :=
  ⟨parts.flatMap (·.stateless), parts.flatMap (·.stateful)⟩

theorem append_assoc (a b c : ParsedRules) : a ++ b ++ c = a ++ (b ++ c) :=
  congrArg₂ mk (List.append_assoc ..) (List.append_assoc ..)

theorem append_empty (a : ParsedRules) : a ++ empty = a :=
  congrArg₂ mk (List.append_nil _) (List.append_nil _)

theorem empty_append (a : ParsedRules) : empty ++ a = a := rfl

theorem size_append (a b : ParsedRules) : (a ++ b).size = a.size + b.size := by
  show (a.stateless ++ b.stateless).length + (a.stateful ++ b.stateful).length = _
  rw [List.length_append, List.length_append, size, size]
  omega

end ParsedRules

theorem ImportPolicy.skips_iff {policy : ImportPolicy} {e : RuleError} :
    policy.skips e = true ↔ e.isUnsupported ∧ policy.skipUnsupported := by
  rw [skips, Bool.and_eq_true]

namespace Import

section

variable [PatternEngine]

/-- The failure is the one that a document makes by itself, in its place. -/
def Rejects (p : RuleParser) (docs : List RuleData) (f : ImportFailure) : Prop :=
  ∃ data, docs[f.index]? = some data ∧ (p.parse data).outcome = .error f.error ∧
    f.ruleId = ruleIdOf? p data f.error

def Stops (p : RuleParser) (policy : ImportPolicy) (data : RuleData) (e : RuleError) : Prop :=
  (p.parse data).outcome = .error e ∧ ¬ (e.isUnsupported ∧ policy.skipUnsupported)

/-- The rules of the documents that compile. -/
def accepted (p : RuleParser) (docs : List RuleData) : ParsedRules :=
  .concat (docs.filterMap fun data => (p.parse data).outcome.toOption)

end

end Import

/-- The report accounts for each document once: under its rules, under what was skipped or under the
failures, which are in the order of the documents. -/
structure ImportReport.Accounts [PatternEngine] (p : RuleParser) (policy : ImportPolicy)
    (docs : List RuleData) (report : ImportReport) : Prop where
  rules : report.rules = Import.accepted p docs
  skipped : ∀ f, f ∈ report.skipped ↔
    Import.Rejects p docs f ∧ (f.error.isUnsupported ∧ policy.skipUnsupported)
  failures : ∀ f, f ∈ report.failures ↔
    Import.Rejects p docs f ∧ ¬ (f.error.isUnsupported ∧ policy.skipUnsupported)
  skipped_sorted : report.skipped.Pairwise (·.index < ·.index)
  failures_sorted : report.failures.Pairwise (·.index < ·.index)
  total : report.imported + report.skipped.length + report.failures.length = docs.length

namespace Import

section

variable [PatternEngine] (p : RuleParser) (policy : ImportPolicy)

def rejection? (index : Nat) (data : RuleData) : Option ImportFailure :=
  match (p.parse data).outcome with
  | .ok _ => none
  | .error e => some ⟨index, ruleIdOf? p data e, e⟩

def rejections (index : Nat) (docs : List RuleData) : List ImportFailure :=
  (docs.zipIdx index).filterMap fun (data, index) => rejection? p index data

def stop? (data : RuleData) : Option RuleError :=
  match (p.parse data).outcome with
  | .ok _ => none
  | .error e => if policy.skips e then none else some e

def abort? (docs : List RuleData) : Option RuleError :=
  if policy.failFast then docs.findSome? (stop? p policy) else none

/-- A report with what documents make, counted from `index`. -/
def extend (report : ImportReport) (index : Nat) (docs : List RuleData) : ImportReport :=
  ⟨report.rules ++ accepted p docs,
    report.skipped ++ (rejections p index docs).filter (policy.skips ·.error),
    report.failures ++ (rejections p index docs).filter (!policy.skips ·.error)⟩

variable {p policy} {docs : List RuleData} {data : RuleData} {report : ImportReport} {index : Nat}

/-! ### One document -/

theorem add_of_ok {rules : ParsedRules} (h : (p.parse data).outcome = .ok rules) :
    (add p policy report index data).outcome =
      .ok { report with rules := report.rules ++ rules } := by
  rw [add, Run.bind_outcome, Run.attempt_outcome, h]; rfl

theorem add_of_skips {e : RuleError} (h : (p.parse data).outcome = .error e)
    (hskips : policy.skips e) : (add p policy report index data).outcome =
      .ok { report with skipped := report.skipped ++ [⟨index, ruleIdOf? p data e, e⟩] } := by
  rw [add, Run.bind_outcome, Run.attempt_outcome, h]
  show (reject policy report ⟨index, ruleIdOf? p data e, e⟩).outcome = _
  rw [reject, if_pos hskips]; rfl

theorem add_of_stops {e : RuleError} (h : (p.parse data).outcome = .error e)
    (hskips : ¬ policy.skips e) : (add p policy report index data).outcome =
      if policy.failFast then .error e
      else .ok { report with failures := report.failures ++ [⟨index, ruleIdOf? p data e, e⟩] } := by
  rw [add, Run.bind_outcome, Run.attempt_outcome, h]
  show (reject policy report ⟨index, ruleIdOf? p data e, e⟩).outcome = _
  rw [reject, if_neg hskips, Run.bind_outcome]
  split
  · rfl
  · rfl

/-! ### All documents -/

theorem accepted_cons_of_ok {rules : ParsedRules} (h : (p.parse data).outcome = .ok rules) :
    accepted p (data :: docs) = rules ++ accepted p docs := by
  simp only [accepted, List.filterMap_cons, h, Except.toOption]; rfl

theorem accepted_cons_of_error {e : RuleError} (h : (p.parse data).outcome = .error e) :
    accepted p (data :: docs) = accepted p docs := by
  simp only [accepted, List.filterMap_cons, h, Except.toOption]

theorem rejections_cons_of_ok {rules : ParsedRules} (h : (p.parse data).outcome = .ok rules) :
    rejections p index (data :: docs) = rejections p (index + 1) docs := by
  simp only [rejections, List.zipIdx_cons, List.filterMap_cons, rejection?, h]

theorem rejections_cons_of_error {e : RuleError} (h : (p.parse data).outcome = .error e) :
    rejections p index (data :: docs) =
      ⟨index, ruleIdOf? p data e, e⟩ :: rejections p (index + 1) docs := by
  simp only [rejections, List.zipIdx_cons, List.filterMap_cons, rejection?, h]

theorem stop?_eq_none_of_ok {rules : ParsedRules} (h : (p.parse data).outcome = .ok rules) :
    stop? p policy data = none := by
  rw [stop?, h]

theorem stop?_of_error {e : RuleError} (h : (p.parse data).outcome = .error e) :
    stop? p policy data = if policy.skips e then none else some e := by
  rw [stop?, h]

theorem abort?_cons_of_none (h : stop? p policy data = none) :
    abort? p policy (data :: docs) = abort? p policy docs := by
  rw [abort?, abort?, List.findSome?_cons, h]

theorem extend_nil : extend p policy report index [] = report := by
  show ImportReport.mk (report.rules ++ .empty) (report.skipped ++ []) (report.failures ++ []) = report
  rw [ParsedRules.append_empty, List.append_nil, List.append_nil]

/-- A report grows by what the documents make, unless one of them ends the import. -/
theorem addAll_outcome (report : ImportReport) (index : Nat) (docs : List RuleData) :
    (addAll p policy report index docs).outcome =
      settle (abort? p policy docs) (extend p policy report index docs) := by
  -- The report grows at its end, so the induction is over all reports.
  induction docs generalizing report index with
  | nil =>
    have hnone : abort? p policy [] = none := by simp [abort?]
    rw [hnone, extend_nil]; rfl
  | cons data docs ih =>
    rw [addAll, Run.bind_outcome]
    cases h : (p.parse data).outcome with
    | ok rules =>
      have hextend : extend p policy { report with rules := report.rules ++ rules } (index + 1) docs =
          extend p policy report index (data :: docs) := by
        rw [extend, extend, accepted_cons_of_ok h, rejections_cons_of_ok h, ParsedRules.append_assoc]
      rw [add_of_ok h, Except.ok_bind, ih, hextend, abort?_cons_of_none (stop?_eq_none_of_ok h)]
    | error e =>
      have hstop : stop? p policy data = if policy.skips e then none else some e := stop?_of_error h
      by_cases hskips : policy.skips e
      · rw [if_pos hskips] at hstop
        rw [add_of_skips h hskips, Except.ok_bind, ih, abort?_cons_of_none hstop]
        simp [extend, accepted_cons_of_error h, rejections_cons_of_error h, hskips]
      · rw [if_neg hskips] at hstop
        rw [add_of_stops h hskips]
        cases hfast : policy.failFast with
        | true => simp [abort?, hfast, hstop]
        | false =>
          rw [if_neg (by simp), Except.ok_bind, ih]
          simp [abort?, hfast, extend, accepted_cons_of_error h, rejections_cons_of_error h, hskips]

theorem documents_outcome (docs : List RuleData) :
    (documents p policy docs).outcome =
      settle (abort? p policy docs) (extend p policy .empty 0 docs) := by
  rw [documents, Run.bind_outcome, addAll_outcome]
  exact settle_bind_pure _ _ id

theorem stop?_eq_some_iff {e : RuleError} : stop? p policy data = some e ↔ Stops p policy data e := by
  rw [Stops, ← ImportPolicy.skips_iff, stop?]
  cases (p.parse data).outcome with
  | ok rules => simp
  | error e' =>
    simp only [Option.ite_none_left_eq_some, Option.some.injEq, Except.error.injEq]
    exact and_comm.trans (and_congr_right fun h => by rw [h])

theorem stop?_eq_none_iff : stop? p policy data = none ↔ ∀ e, ¬ Stops p policy data e := by
  simp only [Option.eq_none_iff_forall_ne_some, ne_eq, stop?_eq_some_iff]

theorem documents_eq_error_iff {e : RuleError} : (documents p policy docs).outcome = .error e ↔
    policy.failFast ∧ ∃ before data after, docs = before ++ data :: after ∧ Stops p policy data e ∧
      ∀ b ∈ before, ∀ e', ¬ Stops p policy b e' := by
  rw [documents_outcome, settle_eq_error_iff, abort?]
  simp only [Option.ite_none_right_eq_some, List.findSome?_eq_some_iff, stop?_eq_some_iff,
    stop?_eq_none_iff]

theorem exists_documents_error_iff : (∃ e, (documents p policy docs).outcome = .error e) ↔
    policy.failFast ∧ ∃ data ∈ docs, ∃ e, Stops p policy data e := by
  simp only [documents_outcome, settle_eq_error_iff, ← Option.isSome_iff_exists, abort?]
  cases policy.failFast with
  | false => simp
  | true =>
    simp only [if_true, true_and, List.findSome?_isSome_iff]
    simp only [Option.isSome_iff_exists, stop?_eq_some_iff]

theorem eq_extend_of_documents (h : (documents p policy docs).outcome = .ok report) :
    report = extend p policy .empty 0 docs := by
  rw [documents_outcome, settle_eq_ok_iff] at h
  exact h.2.symm

/-! ### The report -/

theorem mem_rejections {f : ImportFailure} : f ∈ rejections p 0 docs ↔ Rejects p docs f := by
  simp only [rejections, List.mem_filterMap, Prod.exists, List.mem_zipIdx_iff_getElem?, rejection?]
  constructor
  · rintro ⟨data, index, hdata, hsome⟩
    split at hsome
    · simp at hsome
    case h_2 e he =>
      obtain rfl := Option.some.inj hsome
      exact ⟨data, hdata, he, rfl⟩
  · rintro ⟨data, hdata, he, hid⟩
    refine ⟨data, f.index, hdata, ?_⟩
    rw [he]
    exact congrArg (fun ruleId => some (ImportFailure.mk f.index ruleId f.error)) hid.symm

theorem le_index_of_mem_rejections {f : ImportFailure} (h : f ∈ rejections p index docs) :
    index ≤ f.index := by
  obtain ⟨⟨data, place⟩, hmem, hsome⟩ := List.mem_filterMap.1 h
  have hplace : index ≤ place := List.le_snd_of_mem_zipIdx hmem
  simp only [rejection?] at hsome
  split at hsome
  · simp at hsome
  · obtain rfl := Option.some.inj hsome
    exact hplace

theorem rejections_sorted (index : Nat) :
    (rejections p index docs).Pairwise (·.index < ·.index) := by
  induction docs generalizing index with
  | nil => exact .nil
  | cons data docs ih =>
    cases h : (p.parse data).outcome with
    | ok rules =>
      rw [rejections_cons_of_ok h]
      exact ih (index + 1)
    | error e =>
      rw [rejections_cons_of_error h]
      exact List.pairwise_cons.2 ⟨fun f hf => le_index_of_mem_rejections hf, ih (index + 1)⟩

theorem size_of_parse {rules : ParsedRules} (h : (p.parse data).outcome = .ok rules) :
    rules.size = 1 := by
  obtain ⟨r, -, ts, -, -, rfl⟩ := RuleParser.parse_eq_ok_iff.1 h
  rfl

theorem size_accepted (index : Nat) (docs : List RuleData) :
    (accepted p docs).size + (rejections p index docs).length = docs.length := by
  induction docs generalizing index with
  | nil => rfl
  | cons data docs ih =>
    have hrest := ih (index + 1)
    cases h : (p.parse data).outcome with
    | ok rules =>
      have hone := size_of_parse h
      rw [accepted_cons_of_ok h, rejections_cons_of_ok h, ParsedRules.size_append, List.length_cons]
      omega
    | error e =>
      rw [accepted_cons_of_error h, rejections_cons_of_error h, List.length_cons, List.length_cons]
      omega

theorem extend_accounts : (extend p policy .empty 0 docs).Accounts p policy docs where
  rules := ParsedRules.empty_append _
  skipped f := by
    show f ∈ [] ++ _ ↔ _
    rw [List.nil_append, List.mem_filter, mem_rejections, ImportPolicy.skips_iff]
  failures f := by
    show f ∈ [] ++ _ ↔ _
    rw [List.nil_append, List.mem_filter, mem_rejections, Bool.not_eq_true', ← Bool.not_eq_true,
      ImportPolicy.skips_iff]
  skipped_sorted := (rejections_sorted 0).filter _
  failures_sorted := (rejections_sorted 0).filter _
  total := by
    have hsize := size_accepted (p := p) 0 docs
    have hparts := List.length_eq_length_filter_add (l := rejections p 0 docs) (policy.skips ·.error)
    show (accepted p docs).size + ([] ++ List.filter _ _).length + ([] ++ List.filter _ _).length = _
    rw [List.nil_append, List.nil_append]
    omega

/-- What a report holds besides its rules is the same whatever the policy skips. -/
theorem extend_perm : ((extend p policy .empty 0 docs).skipped ++
    (extend p policy .empty 0 docs).failures).Perm (rejections p 0 docs) :=
  List.filter_append_perm _ _

/-- How an import ends. Only a policy that fails fast ends it with an error, and then with that of the
first document whose error is not skipped. Otherwise its report accounts for each document once. What
is skipped only moves failures, and a policy that fails fast makes no other report. -/
theorem documents_accounts (p : RuleParser) (docs : List RuleData) :
    (∀ policy, (∃ e, (documents p policy docs).outcome = .error e) ↔
      policy.failFast ∧ ∃ data ∈ docs, ∃ e, Stops p policy data e) ∧
    (∀ policy e, (documents p policy docs).outcome = .error e ↔
      policy.failFast ∧ ∃ before data after, docs = before ++ data :: after ∧
        Stops p policy data e ∧ ∀ b ∈ before, ∀ e', ¬ Stops p policy b e') ∧
    (∀ policy report, (documents p policy docs).outcome = .ok report →
      report.Accounts p policy docs) ∧
    (∀ policy policy' report report', (documents p policy docs).outcome = .ok report →
      (documents p policy' docs).outcome = .ok report' → report'.rules = report.rules ∧
        (report'.skipped ++ report'.failures).Perm (report.skipped ++ report.failures)) ∧
    ∀ policy report, (documents p policy docs).outcome = .ok report →
      (documents p { policy with failFast := false } docs).outcome = .ok report := by
  refine ⟨fun policy => exists_documents_error_iff, fun policy e => documents_eq_error_iff,
    fun policy report h => ?_, fun policy policy' report report' h h' => ?_,
    fun policy report h => ?_⟩
  · obtain rfl := eq_extend_of_documents h
    exact extend_accounts
  · obtain rfl := eq_extend_of_documents h
    obtain rfl := eq_extend_of_documents h'
    exact ⟨rfl, extend_perm.trans extend_perm.symm⟩
  · obtain rfl := eq_extend_of_documents h
    rw [documents_outcome, abort?, if_neg (by simp)]; rfl

end

def silentRule : Rule :=
  ⟨"silent", "Silent", .default, .none, [], .empty, []⟩

theorem documents_accounts_silent :
    let p : RuleParser :=
      ⟨fun text => .ok (if text = "words" then keywordRule else silentRule), .empty⟩
    let docs : List RuleData := [⟨"words", .constant true, []⟩, ⟨"silent", .constant true, []⟩]
    let failure : ImportFailure := ⟨0, some "keyword", .unsupported .keyword⟩
    let report : ImportReport := ⟨accepted p docs, [failure], []⟩
    let report' : ImportReport := ⟨accepted p docs, [], [failure]⟩
    (documents p ⟨true, true⟩ docs).outcome = .ok report ∧
      (documents p ⟨false, false⟩ docs).outcome = .ok report' ∧
      report.imported = 1 ∧ report.Accounts p ⟨true, true⟩ docs ∧
      (report'.rules = report.rules ∧
        (report'.skipped ++ report'.failures).Perm (report.skipped ++ report.failures)) ∧
      (documents p ⟨true, false⟩ docs).outcome = .ok report := by
  intro p docs failure report report'
  have h : (documents p ⟨true, true⟩ docs).outcome = .ok report := rfl
  have h' : (documents p ⟨false, false⟩ docs).outcome = .ok report' := rfl
  obtain ⟨-, -, haccounts, hpolicies, hslow⟩ := documents_accounts p docs
  exact ⟨h, h', rfl, haccounts _ report h, hpolicies _ _ report report' h h', hslow _ report h⟩

end Import

end EventRules
