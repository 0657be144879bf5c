import EventRules.Log

/-!
# Runs

A run ends with a value or an error, and it leaves notes on the way: the log records that it emits
and the labelled predicates that it calls. Runs are put together one after the other; an error ends
the whole, and the notes up to it are kept.
-/

namespace EventRules

/-- What a run leaves behind. -/
inductive Note where
  | called (label : String)
  | logged (entry : Log.Record)
  deriving DecidableEq, Repr

/-- What a computation noted, in order, and how it ended. -/
structure Run (ε α : Type) where
  notes : List Note
  outcome : Except ε α

namespace Run

variable {ε ε' α β : Type}

protected def pure (value : α) : Run ε α :=
  ⟨[], .ok value⟩

protected def bind (r : Run ε α) (f : α → Run ε β) : Run ε β :=
  match r.outcome with
  | .ok value =>
    let next := f value
    ⟨r.notes ++ next.notes, next.outcome⟩
  | .error error => ⟨r.notes, .error error⟩

instance : Monad (Run ε) where
  pure := Run.pure
  bind := Run.bind

def fail (error : ε) : Run ε α :=
  ⟨[], .error error⟩

def ofExcept (outcome : Except ε α) : Run ε α :=
  ⟨[], outcome⟩

def note (n : Note) : Run ε Unit :=
  ⟨[n], .ok ()⟩

/-- Notes the call of a labelled predicate. -/
def call (label : String) : Run ε Unit :=
  note (.called label)

def log (level : Log.Level) (message : String) : Run ε Unit :=
  note (.logged ⟨level, message⟩)

/-- Turns the error of a run into another. -/
def mapError (f : ε → ε') (r : Run ε α) : Run ε' α :=
  ⟨r.notes, r.outcome.mapError f⟩

/-- The outcome as a value: the run that cannot fail any more. -/
def attempt (r : Run ε α) : Run ε' (Except ε α) :=
  ⟨r.notes, .ok r.outcome⟩

/-- The labels of the predicates called, in order. -/
def calls (r : Run ε α) : List String :=
  r.notes.filterMap fun
    | .called label => some label
    | .logged _ => none

/-- The records emitted, in order. -/
def records (r : Run ε α) : List Log.Record :=
  r.notes.filterMap fun
    | .called _ => none
    | .logged entry => some entry

theorem ext {r s : Run ε α} (hn : r.notes = s.notes) (ho : r.outcome = s.outcome) : r = s := by
  cases r; cases s; simp_all

@[simp] theorem pure_notes (value : α) : (pure value : Run ε α).notes = [] := rfl

@[simp] theorem pure_outcome (value : α) : (pure value : Run ε α).outcome = .ok value := rfl

theorem bind_of_ok {r : Run ε α} {value : α} (h : r.outcome = .ok value) (f : α → Run ε β) :
    r >>= f = ⟨r.notes ++ (f value).notes, (f value).outcome⟩ := by
  simp [bind, Run.bind, h]

theorem bind_of_error {r : Run ε α} {error : ε} (h : r.outcome = .error error) (f : α → Run ε β) :
    r >>= f = ⟨r.notes, .error error⟩ := by
  simp [bind, Run.bind, h]

/-- What follows a run matters only for the value that it ends with. -/
theorem bind_congr {r : Run ε α} {f g : α → Run ε β}
    (h : ∀ value, r.outcome = .ok value → f value = g value) : r >>= f = r >>= g := by
  cases hr : r.outcome with
  | error error => rw [bind_of_error hr, bind_of_error hr]
  | ok value => rw [bind_of_ok hr, bind_of_ok hr, h value hr]

@[simp] theorem bind_outcome (r : Run ε α) (f : α → Run ε β) :
    (r >>= f).outcome = r.outcome >>= fun value => (f value).outcome := by
  cases h : r.outcome with
  | error error => rw [bind_of_error h]; rfl
  | ok value => rw [bind_of_ok h]; rfl

@[simp] theorem ofExcept_outcome (outcome : Except ε α) : (ofExcept outcome).outcome = outcome := rfl

@[simp] theorem log_outcome (level : Log.Level) (message : String) :
    (log level message : Run ε Unit).outcome = .ok () := rfl

@[simp] theorem fail_outcome (error : ε) : (fail error : Run ε α).outcome = .error error := rfl

@[simp] theorem mapError_outcome (f : ε → ε') (r : Run ε α) :
    (r.mapError f).outcome = r.outcome.mapError f := rfl

@[simp] theorem attempt_outcome (r : Run ε α) : (r.attempt : Run ε' _).outcome = .ok r.outcome := rfl

@[simp] theorem calls_pure (value : α) : (pure value : Run ε α).calls = [] := rfl

@[simp] theorem calls_log (level : Log.Level) (message : String) :
    (log level message : Run ε Unit).calls = [] := rfl

theorem calls_bind_of_ok {r : Run ε α} {value : α} (h : r.outcome = .ok value) (f : α → Run ε β) :
    (r >>= f).calls = r.calls ++ (f value).calls := by
  rw [bind_of_ok h]; exact List.filterMap_append

theorem calls_bind_of_error {r : Run ε α} {error : ε} (h : r.outcome = .error error)
    (f : α → Run ε β) : (r >>= f).calls = r.calls := by
  rw [bind_of_error h]; rfl

instance : LawfulMonad (Run ε) :=
  LawfulMonad.mk' (Run ε)
    (by rintro α ⟨notes, _ | value⟩ <;> simp [Functor.map, Run.bind, Run.pure])
    (by intro α β value f; simp [bind, Run.bind, pure, Run.pure])
    (by
      rintro α β γ ⟨notes, _ | value⟩ f g
      · simp [bind, Run.bind]
      · cases h : (f value).outcome <;> simp [bind, Run.bind, h])

end Run

end EventRules
