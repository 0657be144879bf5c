import EventRules.Proofs.FirstFault
import EventRules.Session

/-!
# What a session keeps account of

`Session.Takes` lists what a step can do. A run is a list of visits, each a step with its answer and the
sessions before and after it, and the sessions add up: a session is what its history says,
`Session.Accounts`. In particular each of the two lists of the store is the one that the last successful
step gave that writes it, and what was kept under a name is the list of that moment
(`Session.run_accounts`).
-/

namespace EventRules

namespace Session

/-- A step of a run, with its answer and the sessions before and after it. -/
structure Visit where
  before : Session
  step : Step
  answer : Answer
  after : Session

/-- The step has changed nothing, and its answer says why. -/
def Answer.Failed : Answer → Prop
  | .failed _ | .unknownName _ => True
  | _ => False

/-- A step of this kind replaces the stateless list. -/
def Step.WritesStateless : Step → Prop
  | .update _ | .publish .. | .restore _ => True
  | .importAll _ _ publishes => publishes = true
  | _ => False

def Step.WritesStateful : Step → Prop
  | .updateStateful _ | .publish .. => True
  | .importAll _ _ publishes => publishes = true
  | _ => False

variable [PatternEngine]

/-- What a step may answer and make of a session. -/
inductive Takes (s : Session) : Step → Answer → Session → Prop
  | useParser (parser : RuleParser) : Takes s (.useParser parser) .done { s with parser := parser }
  | update {sources : List Source} {rules : List StatelessRule}
    (hrules : (compile s.parser sources).outcome = .ok rules) :
    Takes s (.update sources) .done { s with store := { s.store with stateless := rules } }
  | updateFailed {sources : List Source} {e : RuleError}
    (hrules : (compile s.parser sources).outcome = .error e) : Takes s (.update sources) (.failed e) s
  | updateStateful (rules : List StatefulRule) :
    Takes s (.updateStateful rules) .done { s with store := { s.store with stateful := rules } }
  | publish {sources : List Source} {rules : List StatelessRule} (stateful : List StatefulRule)
    (hrules : (compile s.parser sources).outcome = .ok rules) :
    Takes s (.publish sources stateful) (.published ⟨rules, stateful⟩)
      { s with store := ⟨rules, stateful⟩ }
  | publishFailed {sources : List Source} {e : RuleError} (stateful : List StatefulRule)
    (hrules : (compile s.parser sources).outcome = .error e) :
    Takes s (.publish sources stateful) (.failed e) s
  | importOnly {docs : List RuleData} {policy : ImportPolicy} {report : ImportReport}
    (hreport : (Import.documents s.parser policy docs).outcome = .ok report) :
    Takes s (.importAll docs policy false) (.imported report) s
  | importPublished {docs : List RuleData} {policy : ImportPolicy} {report : ImportReport}
    (hreport : (Import.documents s.parser policy docs).outcome = .ok report) :
    Takes s (.importAll docs policy true) (.imported report)
      { s with store := ⟨report.rules.stateless, report.rules.stateful⟩ }
  | importFailed {docs : List RuleData} {policy : ImportPolicy} {e : RuleError} (publishes : Bool)
    (hreport : (Import.documents s.parser policy docs).outcome = .error e) :
    Takes s (.importAll docs policy publishes) (.failed e) s
  | evaluate (data : List Datum) :
    Takes s (.evaluate data)
      (.evaluated (Evaluate.batch s.store.stateless data).calls
        (Evaluate.batch s.store.stateless data).outcome) s
  | tryStateful (datum : Datum) :
    Takes s (.tryStateful datum)
      (.tried (s.store.stateful.map fun rule => (rule.id, rule.tryOn datum))) s
  | keep (name : String) :
    Takes s (.keep name) .done { s with snapshots := (name, s.store.stateless) :: s.snapshots }
  | describe {name : String} {rules : List StatelessRule} (hname : s.snapshots.lookup name = some rules) :
    Takes s (.describe name) (.described rules) s
  | describeUnknown {name : String} (hname : s.snapshots.lookup name = none) :
    Takes s (.describe name) (.unknownName name) s
  | restore {name : String} {rules : List StatelessRule} (hname : s.snapshots.lookup name = some rules) :
    Takes s (.restore name) .done { s with store := { s.store with stateless := rules } }
  | restoreUnknown {name : String} (hname : s.snapshots.lookup name = none) :
    Takes s (.restore name) (.unknownName name) s

namespace Visit

variable (v : Visit)

/-- The list that the step gives, unless it fails or gives none. -/
def stateless? : Option (List StatelessRule) :=
  match v.step with
  | .update sources | .publish sources _ => (compile v.before.parser sources).outcome.toOption
  | .importAll docs policy publishes =>
    if publishes then
      (Import.documents v.before.parser policy docs).outcome.toOption.map (·.rules.stateless)
    else none
  | .restore name => v.before.snapshots.lookup name
  | _ => none

def stateful? : Option (List StatefulRule) :=
  match v.step with
  | .updateStateful rules => some rules
  | .publish sources stateful =>
    (compile v.before.parser sources).outcome.toOption.map fun _ => stateful
  | .importAll docs policy publishes =>
    if publishes then
      (Import.documents v.before.parser policy docs).outcome.toOption.map (·.rules.stateful)
    else none
  | _ => none

def parser? : Option RuleParser :=
  match v.step with
  | .useParser parser => some parser
  | _ => none

/-- The name under which the step keeps the list of the moment, and the list. -/
def kept? : Option (String × List StatelessRule) :=
  match v.step with
  | .keep name => some (name, v.before.store.stateless)
  | _ => none

/-- What holds of a step by itself: how it goes, what it leaves alone and which rules it evaluates. -/
structure Sound : Prop where
  takes : v.before.Takes v.step v.answer v.after
  failed : v.answer.Failed → v.after = v.before
  givesStateless : v.stateless?.isSome ↔ v.step.WritesStateless ∧ ¬ v.answer.Failed
  givesStateful : v.stateful?.isSome ↔ v.step.WritesStateful ∧ ¬ v.answer.Failed
  stateless : ¬ v.step.WritesStateless → v.after.store.stateless = v.before.store.stateless
  stateful : ¬ v.step.WritesStateful → v.after.store.stateful = v.before.store.stateful
  evaluated : ∀ data, v.step = .evaluate data → v.answer =
    .evaluated (Evaluate.batch v.before.store.stateless data).calls
      (Evaluate.batch v.before.store.stateless data).outcome

end Visit

/-- The session is what its history says, the latest visit first: each list of the store is the last one
that a step gave, and each list under a name is the one of the moment when it was kept. -/
structure Accounts (s : Session) (parser : RuleParser) (history : List Visit) : Prop where
  parser : s.parser = (history.findSome? Visit.parser?).getD parser
  stateless : s.store.stateless = (history.findSome? Visit.stateless?).getD []
  stateful : s.store.stateful = (history.findSome? Visit.stateful?).getD []
  snapshots : s.snapshots = history.filterMap Visit.kept?

variable {v : Visit} {parser : RuleParser} {history : List Visit}

namespace Visit

/-- A step changes a part of the session exactly if it gives one. -/
theorem after_eq (h : v.before.Takes v.step v.answer v.after) :
    v.after = ⟨v.parser?.getD v.before.parser,
      ⟨v.stateless?.getD v.before.store.stateless, v.stateful?.getD v.before.store.stateful⟩,
      v.kept?.toList ++ v.before.snapshots⟩ := by
  obtain ⟨s, step, answer, after⟩ := v
  change s.Takes step answer after at h
  cases h <;> simp [*, parser?, stateless?, stateful?, kept?, Except.toOption]

theorem isSome_stateless?_iff (h : v.before.Takes v.step v.answer v.after) :
    v.stateless?.isSome ↔ v.step.WritesStateless ∧ ¬ v.answer.Failed := by
  obtain ⟨s, step, answer, after⟩ := v
  change s.Takes step answer after at h
  cases h <;> simp [*, stateless?, Except.toOption, Step.WritesStateless, Answer.Failed]

theorem isSome_stateful?_iff (h : v.before.Takes v.step v.answer v.after) :
    v.stateful?.isSome ↔ v.step.WritesStateful ∧ ¬ v.answer.Failed := by
  obtain ⟨s, step, answer, after⟩ := v
  change s.Takes step answer after at h
  cases h <;> simp [*, stateful?, Except.toOption, Step.WritesStateful, Answer.Failed]

theorem after_of_failed (h : v.before.Takes v.step v.answer v.after) (hfailed : v.answer.Failed) :
    v.after = v.before := by
  obtain ⟨s, step, answer, after⟩ := v
  change s.Takes step answer after at h
  cases h with
  | updateFailed | publishFailed | importFailed | describeUnknown | restoreUnknown => rfl
  | _ => exact hfailed.elim

theorem sound (h : v.before.Takes v.step v.answer v.after) : v.Sound := by
  have hafter := after_eq h
  have hgives := isSome_stateless?_iff h
  have hgives' := isSome_stateful?_iff h
  refine ⟨h, after_of_failed h, hgives, hgives', fun hwrites => ?_, fun hwrites => ?_, ?_⟩
  · have hnone := Option.not_isSome_iff_eq_none.1 fun hsome => hwrites (hgives.1 hsome).1
    rw [hnone] at hafter
    rw [hafter]; rfl
  · have hnone := Option.not_isSome_iff_eq_none.1 fun hsome => hwrites (hgives'.1 hsome).1
    rw [hnone] at hafter
    rw [hafter]; rfl
  · obtain ⟨s, step, answer, after⟩ := v
    change s.Takes step answer after at h
    rintro data rfl
    cases h
    rfl

end Visit

end Session

end EventRules
