import EventRules.Import
import EventRules.Pattern
import EventRules.Proofs.Rule.Failure

/-!
# What an import reports

Every failure in a report is that of one document, `ImportFailure.Traced`: its error is one that the
document makes, and its id is the one that the grammar reads from the document. The invariant is that
this holds of all failures so far (`ImportReport.Traced`).
-/

namespace EventRules

/-- The failure is that of the document in its place, under the id that the grammar reads there. -/
def ImportFailure.Traced [PatternEngine] (p : RuleParser) (docs : List RuleData) (f : ImportFailure) : Prop :=
  ∃ data, docs[f.index]? = some data ∧ p.Fails data.text f.error ∧
    f.ruleId = (p.grammar data.text).toOption.map (·.id)

/-- All failures are those of their documents. -/
structure ImportReport.Traced [PatternEngine] (p : RuleParser) (docs : List RuleData)
    (report : ImportReport) : Prop where
  skipped : ∀ f ∈ report.skipped, f.Traced p docs
  failures : ∀ f ∈ report.failures, f.Traced p docs

namespace Import

section

variable [PatternEngine] {p : RuleParser} {policy : ImportPolicy} {docs : List RuleData} {data : RuleData}
  {report report' : ImportReport}

/-- The id of a failed rule is the same on both ways: errors carry the id that the grammar reads. -/
theorem ruleIdOf?_of_fails {e : RuleError} (h : p.Fails data.text e) :
    ruleIdOf? p data e = (p.grammar data.text).toOption.map (·.id) := by
  cases h with
  | rejected hgrammar => simp [ruleIdOf?, RuleError.ruleId?]
  | unread hgrammar => simp [ruleIdOf?, RuleError.ruleId?, hgrammar, Except.toOption]
  | aggregation hgrammar => simp [ruleIdOf?, RuleError.ruleId?]
  | aggregations hgrammar => simp [ruleIdOf?, RuleError.ruleId?, hgrammar, Except.toOption]
  | keyword hgrammar => simp [ruleIdOf?, RuleError.ruleId?]
  | misfit hgrammar => simp [ruleIdOf?, RuleError.ruleId?, hgrammar, Except.toOption]

theorem reject_traced {f : ImportFailure} (hf : f.Traced p docs) (hreport : report.Traced p docs)
    (h : (reject policy report f).outcome = .ok report') : report'.Traced p docs := by
  have hadd (failures : List ImportFailure) (hfailures : ∀ g ∈ failures, g.Traced p docs) :
      ∀ g ∈ failures ++ [f], g.Traced p docs := by
    simpa [or_imp, forall_and] using ⟨hfailures, hf⟩
  unfold reject at h
  split_ifs at h with hskip hfast
  · obtain rfl := Except.ok.inj h
    exact ⟨hadd _ hreport.skipped, hreport.failures⟩
  · simp [warn] at h
  · obtain rfl := Except.ok.inj h
    exact ⟨hreport.skipped, hadd _ hreport.failures⟩

theorem add_traced {index : Nat} (hdata : docs[index]? = some data) (hreport : report.Traced p docs)
    (h : (add p policy report index data).outcome = .ok report') : report'.Traced p docs := by
  simp only [add, Run.bind_outcome, Run.attempt_outcome, Except.ok_bind] at h
  split at h
  case h_1 rules _ =>
    obtain rfl := Except.ok.inj h
    exact ⟨hreport.skipped, hreport.failures⟩
  case h_2 e he =>
    have hfails := RuleParser.parse_eq_error_iff.1 he
    exact reject_traced ⟨data, hdata, hfails, ruleIdOf?_of_fails hfails⟩ hreport h

theorem addAll_traced {index : Nat} {rest : List RuleData} (hrest : docs.drop index = rest)
    (hreport : report.Traced p docs)
    (h : (addAll p policy report index rest).outcome = .ok report') : report'.Traced p docs := by
  induction rest generalizing index report with
  | nil =>
    obtain rfl := Except.ok.inj h
    exact hreport
  | cons data rest ih =>
    have hdata : docs[index]? = some data := by
      rw [← List.head?_drop, hrest]; rfl
    have htail : docs.drop (index + 1) = rest := by
      rw [← List.tail_drop, hrest]; rfl
    rw [addAll, Run.bind_outcome] at h
    obtain ⟨next, hnext, h⟩ := Except.bind_eq_ok_iff.1 h
    exact ih htail (add_traced hdata hreport hnext) h

/-- A whole import reports nothing but failures of its documents. -/
theorem documents_traced (h : (documents p policy docs).outcome = .ok report) :
    report.Traced p docs := by
  rw [documents, Run.bind_outcome] at h
  obtain ⟨final, hfinal, h⟩ := Except.bind_eq_ok_iff.1 h
  obtain rfl := Except.ok.inj h
  refine addAll_traced List.drop_zero ⟨?_, ?_⟩ hfinal
  · simp [ImportReport.empty]
  · simp [ImportReport.empty]

/-- A document fails as `RuleParser.Fails` says and in no other way, and whatever an import skips or
reports is the failure of one of its documents, under the id that the grammar reads there. -/
theorem failures_classified (p : RuleParser) :
    (∀ data e, (p.parse data).outcome = .error e ↔ p.Fails data.text e) ∧
      ∀ policy docs report, (documents p policy docs).outcome = .ok report →
        ∀ f ∈ report.skipped ++ report.failures, ∃ data, docs[f.index]? = some data ∧
          p.Fails data.text f.error ∧ f.ruleId = (p.grammar data.text).toOption.map (·.id) := by
  refine ⟨fun data e => RuleParser.parse_eq_error_iff, fun policy docs report h f hf => ?_⟩
  have htraced := documents_traced h
  rcases List.mem_append.1 hf with hf | hf
  · exact htraced.skipped f hf
  · exact htraced.failures f hf

end

/-- A rule that searches for a word in all fields. -/
def keywordRule : Rule :=
  let detections : DetectionSet := ⟨[("words", .string "mimikatz")]⟩
  ⟨"keyword", "Keyword", .default, .none, [], detections, [⟨"words", detections⟩]⟩

theorem failures_classified_keyword :
    let p : RuleParser :=
      ⟨fun text => if text = "" then .error (.missingField "id") else .ok keywordRule, .empty⟩
    let docs : List RuleData := [⟨"rule", .constant true, []⟩, ⟨"", .constant true, []⟩]
    let report : ImportReport :=
      ⟨.empty, [⟨0, some "keyword", .unsupported .keyword⟩],
        [⟨1, none, .parse ⟨.grammar (.missingField "id"), none⟩⟩]⟩
    (documents p .lenient docs).outcome = .ok report ∧
      ∀ f ∈ report.skipped ++ report.failures, ∃ data, docs[f.index]? = some data ∧
        p.Fails data.text f.error ∧ f.ruleId = (p.grammar data.text).toOption.map (·.id) := by
  intro p docs report
  have h : (documents p .lenient docs).outcome = .ok report := rfl
  exact ⟨h, (failures_classified p).2 .lenient docs report h⟩

end Import

end EventRules
