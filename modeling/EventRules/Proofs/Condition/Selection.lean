import EventRules.Condition.Resolve
import EventRules.Proofs.Condition.Glob
import EventRules.Proofs.Condition.Resolve
import EventRules.Proofs.Detection.Fault

/-!
# Detections selected by a pattern

A quantifier over a pattern stands for the declared detections whose names match it, in the order of the
rule. It fails for itself only if there is none; any other error comes from the body of a detection that
it selects (`pattern_selects`).
-/

namespace EventRules.Condition

variable {detections : DetectionSet} {name : String}

theorem resolveName_fault {e : GrammarError} (h : resolveName detections name = .error e) :
    e.IsInside name := by
  unfold resolveName at h
  cases hname : detections.resolve? name with
  | none => simp [hname] at h
  | some outcome =>
    obtain ⟨body, -, rfl⟩ := Option.map_eq_some_iff.1 hname
    rw [hname] at h
    exact Detection.body_fault (Except.map_eq_error_iff.1 h)

/-- A quantifier finds nothing to select, or fails as the first body that it selects and that is not
converted. -/
theorem quantify_eq_error_iff {s : Selector} {wrap : List Arg → Item} {e : GrammarError} :
    quantify detections s wrap = .error e ↔
      s.select detections.names = [] ∧ e = .condition (.emptySelection s) ∨
        (s.select detections.names).mapM (resolveName detections) = .error e := by
  unfold quantify
  split
  case h_1 hselect => simp [hselect, eq_comm]
  case h_2 hselect =>
    have hnonempty : ¬ (s.select detections.names = [] ∧ e = .condition (.emptySelection s)) :=
      fun h => hselect h.1
    rw [or_iff_right hnonempty, Except.bind_eq_error_iff]
    simp

theorem quantify_empty_iff {s : Selector} {wrap : List Arg → Item} :
    quantify detections s wrap = .error (.condition (.emptySelection s)) ↔
      s.select detections.names = [] := by
  rw [quantify_eq_error_iff]
  constructor
  · rintro (⟨h, -⟩ | h)
    · exact h
    · obtain ⟨_, name, _, _, _, hname⟩ := Except.mapM_eq_error_iff.1 h
      exact (resolveName_fault hname).elim
  · exact fun h => .inl ⟨h, rfl⟩

theorem select_pattern (pattern : String) (names : List String) :
    (Selector.pattern pattern).select names =
      names.filter fun name => Glob.Matches pattern.toList name.toList := by
  refine List.filter_congr fun name _ => ?_
  rw [Bool.eq_iff_iff, decide_eq_true_iff, Glob.accepts_iff]

/-- A pattern accepts the names that it becomes by putting some text for each star, without a star
itself alone, and cutting the names to find this out never fails. A quantifier over it selects the
declared names among them, in order, and is empty exactly if there is none. -/
theorem pattern_selects :
    (∀ pattern name : String,
      (Glob.accepts pattern name = true ↔ Glob.Matches pattern.toList name.toList) ∧
      ('*' ∉ pattern.toList → (Glob.accepts pattern name = true ↔ name = pattern)) ∧
      Glob.search? pattern.toList name.toList = some (Glob.accepts pattern name)) ∧
    ∀ (detections : DetectionSet) (pattern : String) (wrap : List Arg → Item),
      let selected := detections.names.filter fun name => Glob.Matches pattern.toList name.toList
      (Selector.pattern pattern).select detections.names = selected ∧
      (quantify detections (.pattern pattern) wrap =
          .error (.condition (.emptySelection (.pattern pattern))) ↔
        ∀ name ∈ detections.names, ¬ Glob.Matches pattern.toList name.toList) ∧
      ∀ item, quantify detections (.pattern pattern) wrap = .ok item ↔
        selected ≠ [] ∧ ∃ args, selected.mapM (resolveName detections) = .ok args ∧
          item = .join wrap (args.map Arg.item) := by
  refine ⟨fun pattern name => ⟨Glob.accepts_iff, fun hplain => ?_, ?_⟩, fun detections pattern wrap => ?_⟩
  · rw [Glob.accepts_iff, Glob.matches_plain_iff hplain, String.toList_inj]
  · rw [Glob.search?_eq, Option.some_inj, Bool.eq_iff_iff, decide_eq_true_iff, Glob.accepts_iff]
  · have hselect := select_pattern pattern detections.names
    refine ⟨hselect, ?_, fun item => ?_⟩
    · rw [quantify_empty_iff, hselect, List.filter_eq_nil_iff]
      simp only [decide_eq_true_iff]
    · rw [quantify_eq_ok_iff, hselect]

/-- The end of a name is not counted twice, and what stands for a star may be empty. -/
theorem pattern_selects_overlap :
    '*' ∉ "filter".toList ∧ Glob.accepts "filter" "filter" = true ∧
      Glob.search? "ab*ba".toList "aba".toList = some false ∧
      Glob.search? "sel*ect*".toList "select".toList = some true := by
  have hplain : '*' ∉ "filter".toList := by decide
  refine ⟨hplain, ((pattern_selects.1 "filter" "filter").2.1 hplain).2 rfl, ?_, ?_⟩
  · rw [(pattern_selects.1 "ab*ba" "aba").2.2]; decide
  · rw [(pattern_selects.1 "sel*ect*" "select").2.2]; decide

end EventRules.Condition
