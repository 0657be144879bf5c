import EventRules.Detection.Body
import EventRules.Proofs.FirstFault
import Mathlib.Tactic.SplitIfs

/-!
# Faults of detections

A body that is not converted fails for something in it: the error is about the detection of the given
name, or about a modifier of one of its fields (`body_fault`).
-/

namespace EventRules

/-- The error is about the detection of the name or a modifier in it. -/
def GrammarError.IsInside (name : String) : GrammarError → Prop
  | .detection n _ => n = name
  | .unsupportedModifier _ _ => True
  | _ => False

namespace Detection

open Condition Except

variable {name : String} {e : GrammarError}

theorem applyModifiers_fault {spec : FieldSpec} {modifiers : List String}
    (h : applyModifiers name spec modifiers = .error e) : e.IsInside name := by
  induction modifiers generalizing spec with
  | nil => simp [applyModifiers] at h
  | cons modifier modifiers ih =>
    rw [applyModifiers] at h
    split at h
    · exact ih h
    · split at h
      case h_1 => cases h; trivial
      case h_2 =>
        split_ifs at h with hplain
        · exact ih h
        · cases h; exact rfl

theorem fieldSpec_fault {key : String} (h : fieldSpec name key = .error e) : e.IsInside name := by
  unfold fieldSpec at h
  split at h
  case h_1 => cases h; exact rfl
  case h_2 =>
    split_ifs at h with hempty
    · cases h; exact rfl
    · exact applyModifiers_fault h

theorem literal_fault {spec : FieldSpec} {value : Yaml} (h : literal name spec value = .error e) :
    e.IsInside name := by
  unfold literal at h
  split at h
  · simp at h
  · cases h; exact rfl

theorem entry_fault {key : String} {value : Yaml} (h : entry name key value = .error e) :
    e.IsInside name := by
  rcases bind_eq_error_iff.1 h with h | ⟨spec, -, h⟩
  · exact fieldSpec_fault h
  split at h
  case h_1 items _ =>
    split at h
    · cases h; exact rfl
    -- the values are read first, whether all or any of them are asked for
    · have hmapM : items.mapM (literal name spec) = .error e := by
        split at h
        · simpa [bind_eq_error_iff] using h
        · simpa [bind_eq_error_iff] using h
      obtain ⟨_, value, _, _, _, h⟩ := mapM_eq_error_iff.1 hmapM
      exact literal_fault h
  case h_2 =>
    rcases bind_eq_error_iff.1 h with h | ⟨literal, -, h⟩
    · exact literal_fault h
    · simp at h

theorem entries_fault {fields : List (Yaml × Yaml)} (h : entries name fields = .error e) :
    e.IsInside name := by
  induction fields with
  | nil => simp [entries] at h
  | cons field fields ih =>
    obtain ⟨key, value⟩ := field
    rw [entries] at h
    split at h
    case h_1 => cases h; exact rfl
    case h_2 key _ =>
      rcases bind_eq_error_iff.1 h with h | ⟨item, -, h⟩
      · exact entry_fault h
      · rcases bind_eq_error_iff.1 h with h | ⟨items, -, h⟩
        · exact ih h
        · simp at h

theorem mapping_fault {fields : List (Yaml × Yaml)} (h : mapping name fields = .error e) :
    e.IsInside name := by
  unfold mapping at h
  split_ifs at h with hempty
  · cases h; exact rfl
  · rcases bind_eq_error_iff.1 h with h | ⟨items, -, h⟩
    · exact entries_fault h
    · simp at h

theorem mappings_fault {items : List Yaml} (h : mappings name items = .error e) : e.IsInside name := by
  rcases bind_eq_error_iff.1 h with h | ⟨items, -, h⟩
  · obtain ⟨_, fields, _, _, _, h⟩ := mapM_eq_error_iff.1 h
    exact mapping_fault h
  · simp at h

theorem body_fault {value : Yaml} (h : body name value = .error e) : e.IsInside name := by
  unfold body at h
  split at h
  case h_1 => exact mapping_fault h
  case h_2 items =>
    split_ifs at h with hempty hmappings
    · cases h; exact rfl
    · exact mappings_fault h
    · split at h
      · simp at h
      · cases h; exact rfl
  case h_3 =>
    split at h
    · simp at h
    · cases h; exact rfl

end Detection

end EventRules
