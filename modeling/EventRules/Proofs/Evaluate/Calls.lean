import EventRules.Evaluate
import EventRules.Proofs.FirstFault

/-!
# The calls of an evaluation

The rules and an event fix what is asked of the event: the evaluation conditions of all rules, and
then the rule conditions of the candidates (`Evaluate.callsOn`). An evaluation makes these calls event
by event and stops at the first that fails (`Call.made`); if none fails, its matches are the events
that some rule detects (`Evaluate.batch_calls`).
-/

namespace EventRules

def Predicate.accepts (p : Predicate) (datum : Datum) : Bool :=
  match (p datum).outcome with
  | .ok answer => answer
  | .error _ => false

/-- A condition asked of an event. -/
structure Call where
  condition : Predicate
  datum : Datum

namespace Call

def run (c : Call) : Run CastError Bool :=
  c.condition c.datum

def error? (c : Call) : Option CastError :=
  match c.run.outcome with
  | .ok _ => none
  | .error error => some error

/-- The calls up to the first that fails, which is made as well. -/
def made : List Call → List Call
  | [] => []
  | c :: rest => c :: if c.error?.isSome then [] else made rest

def runAll : List Call → Run CastError Unit
  | [] => return ()
  | c :: rest => do
    let _ ← c.run
    runAll rest

theorem runAll_append (calls more : List Call) :
    runAll (calls ++ more) = runAll calls >>= fun _ => runAll more := by
  induction calls with
  | nil => rw [List.nil_append, runAll, pure_bind]
  | cons c calls ih => rw [List.cons_append, runAll, runAll, bind_assoc, ih]

theorem runAll_outcome (calls : List Call) :
    (runAll calls).outcome = settle (calls.findSome? error?) () := by
  induction calls with
  | nil => rfl
  | cons c calls ih =>
    rw [runAll, Run.bind_outcome, List.findSome?_cons, error?]
    cases c.run.outcome with
    | error error => rfl
    | ok answer => exact ih

theorem runAll_calls (calls : List Call) :
    (runAll calls).calls = (made calls).flatMap (·.run.calls) := by
  induction calls with
  | nil => rfl
  | cons c calls ih =>
    rw [runAll, made, error?, List.flatMap_cons]
    cases h : c.run.outcome with
    | error error => rw [Run.calls_bind_of_error h]; simp
    | ok answer => rw [Run.calls_bind_of_ok h, ih]; simp

end Call

namespace Evaluate

open Call

/-- The rules whose evaluation condition passes an event. -/
def candidates (rules : List StatelessRule) (datum : Datum) : List StatelessRule :=
  rules.filter (·.evaluationCondition.accepts datum)

def callsOn (rules : List StatelessRule) (datum : Datum) : List Call :=
  rules.map (⟨·.evaluationCondition, datum⟩) ++
    (candidates rules datum).map (⟨·.ruleCondition, datum⟩)

/-- The rules both of whose conditions pass an event. -/
def detecting (rules : List StatelessRule) (datum : Datum) : List StatelessRule :=
  rules.filter fun rule => rule.evaluationCondition.accepts datum && rule.ruleCondition.accepts datum

def detection? (rules : List StatelessRule) (position : Nat) (datum : Datum) : Option Match :=
  match detecting rules datum with
  | [] => none
  | matched => some ⟨position, datum, matched, []⟩

/-- The matches of the events that some rule detects, from some place of the batch on. -/
def detections (rules : List StatelessRule) (position : Nat) (data : List Datum) : List Match :=
  (data.zipIdx position).filterMap fun (datum, position) => detection? rules position datum

variable (rules : List StatelessRule)

theorem keep_eq (condition : StatelessRule → Predicate) (datum : Datum) :
    keep condition datum rules = do
      runAll (rules.map (⟨condition ·, datum⟩))
      return rules.filter (condition · |>.accepts datum) := by
  induction rules with
  | nil => rfl
  | cons rule rest ih =>
    rw [keep, ih, List.map_cons, runAll, bind_assoc]
    -- Where the rest is run, the condition has answered, and `kept` is its answer.
    refine Run.bind_congr fun kept hkept => ?_
    have haccepts : (condition rule).accepts datum = kept := by
      rw [Predicate.accepts, hkept]
    rw [bind_assoc, List.filter_cons, haccepts]
    simp only [pure_bind]

theorem matching_eq (datum : Datum) :
    matching rules datum = do
      runAll (callsOn rules datum)
      return detecting rules datum := by
  simp only [matching, keep_eq, callsOn, runAll_append, bind_assoc, pure_bind]
  rw [candidates, List.filter_filter]
  simp only [detecting, Bool.and_comm]

theorem matching_outcome (datum : Datum) :
    (matching rules datum).outcome =
      settle ((callsOn rules datum).findSome? error?) (detecting rules datum) := by
  rw [matching_eq, Run.bind_outcome, runAll_outcome]
  exact settle_bind_pure _ () fun _ => detecting rules datum

theorem matching_calls (datum : Datum) :
    (matching rules datum).calls = (runAll (callsOn rules datum)).calls := by
  rw [matching_eq]
  cases h : (runAll (callsOn rules datum)).outcome with
  | error error => rw [Run.calls_bind_of_error h]
  | ok value => rw [Run.calls_bind_of_ok h, Run.calls_pure, List.append_nil]

theorem detections_cons (position : Nat) (datum : Datum) (data : List Datum) :
    detections rules position (datum :: data) =
      if (detecting rules datum).isEmpty then detections rules (position + 1) data
      else ⟨position, datum, detecting rules datum, []⟩ :: detections rules (position + 1) data := by
  simp only [detections, List.zipIdx_cons, List.filterMap_cons, detection?]
  cases detecting rules datum with
  | nil => rfl
  | cons rule others => rfl

theorem batchFrom_outcome (position : Nat) (data : List Datum) :
    (batchFrom rules position data).outcome =
      settle ((data.flatMap (callsOn rules)).findSome? error?) (detections rules position data) := by
  induction data generalizing position with
  | nil => rfl
  | cons datum data ih =>
    simp only [batchFrom, Run.bind_outcome, Run.log_outcome, Except.ok_bind, matching_outcome, ih,
      Run.pure_outcome]
    rw [List.flatMap_cons, List.findSome?_append, detections_cons]
    cases (callsOn rules datum).findSome? error? with
    | some error => rfl
    | none => exact settle_bind_pure _ _ _

theorem batchFrom_calls (position : Nat) (data : List Datum) :
    (batchFrom rules position data).calls = (runAll (data.flatMap (callsOn rules))).calls := by
  induction data generalizing position with
  | nil => rfl
  | cons datum data ih =>
    rw [batchFrom, List.flatMap_cons, runAll_append]
    have hmatching := matching_outcome rules datum
    have hcalls := runAll_outcome (callsOn rules datum)
    -- A failing call of the first event ends the batch; otherwise only a log record comes between its
    -- calls and those of the other events.
    cases hfault : (callsOn rules datum).findSome? error? with
    | some error =>
      rw [hfault, settle_some] at hmatching hcalls
      rw [Run.calls_bind_of_error hmatching, Run.calls_bind_of_error hcalls, matching_calls]
    | none =>
      rw [hfault, settle_none] at hmatching hcalls
      rw [Run.calls_bind_of_ok hmatching, Run.calls_bind_of_ok hcalls, matching_calls]
      rw [Run.calls_bind_of_ok (Run.log_outcome _ _), Run.calls_log, List.nil_append]
      cases hrest : (batchFrom rules (position + 1) data).outcome with
      | error error => rw [Run.calls_bind_of_error hrest, ih]
      | ok others => rw [Run.calls_bind_of_ok hrest, ih, Run.calls_pure, List.append_nil]

@[simp] theorem flatMap_callsOn_nil (data : List Datum) : data.flatMap (callsOn []) = [] := by
  simp [callsOn, candidates]

@[simp] theorem detections_nil (position : Nat) (data : List Datum) :
    detections [] position data = [] := by
  simp [detections, detection?, detecting]

theorem batch_outcome (data : List Datum) :
    (batch rules data).outcome =
      settle ((data.flatMap (callsOn rules)).findSome? error?) (detections rules 0 data) := by
  cases rules with
  | nil => simp [batch]
  | cons rule rules => exact batchFrom_outcome (rule :: rules) 0 data

/-- An evaluation makes the calls of its events one after the other and stops at the first that
fails. If none fails, its matches are the events that some rule detects. Without rules or without
events it does nothing. -/
theorem batch_calls (rules : List StatelessRule) (data : List Datum) :
    (batch rules data).calls = (made (data.flatMap (callsOn rules))).flatMap (·.run.calls) ∧
      (batch rules data).outcome =
        settle ((data.flatMap (callsOn rules)).findSome? error?)
          (data.zipIdx.filterMap fun (datum, position) => detection? rules position datum) ∧
      batch [] data = pure [] ∧ batch rules [] = pure [] := by
  refine ⟨?_, batch_outcome rules data, rfl, ?_⟩
  · rw [← runAll_calls]
    cases rules with
    | nil => simp [batch, runAll]
    | cons rule rules => exact batchFrom_calls (rule :: rules) 0 data
  · cases rules with
    | nil => rfl
    | cons rule rules => rfl

/-- All evaluation conditions come first, and the error of the second rule ends the batch. -/
example :
    let rule (name : String) (condition : Predicate) : StatelessRule :=
      ⟨name, .labelled s!"{name}?" (.constant true), .labelled name condition, .none, ⟨name, []⟩⟩
    let datum : Datum := ⟨.json, none, fun _ => none⟩
    (batch [rule "a" (.constant false), rule "b" (.failing ⟨"field", "string"⟩),
      rule "c" (.constant true)] [datum, datum]).calls = ["a?", "b?", "c?", "a", "b"] := rfl

end Evaluate

end EventRules
