import BridgeNames.Diagnostic.Sink
import Mathlib.Data.List.Nodup
import Mathlib.Data.List.Perm.Basic

/-!
# What a sink answers

A sink is asked for its entries in many ways: by kind, by topic, by type, for the warnings, for
numbers, and for a summary. Each query is a walk of its own over the entries. What makes them agree
is that an entry has one kind, one severity, and one topic out of a few, so that the groups by any
of these, put together, are the entries again (`flatMap_filter_perm`). The summary leans on that: it
prints the entries if the counts by severity do not add up to zero, and as they add up to the size
of the sink (`DiagnosticSink.count_add_count_add_count`), no entry is left out of it.
-/

namespace BridgeNames

section Groups

variable {α κ : Type} [DecidableEq κ] {values : List κ}

/-- The groups of a list by different values of a function, put together, are the members with any
of these values. -/
theorem flatMap_filter_perm_filter (key : α → κ) (h : values.Nodup) (l : List α) :
    (values.flatMap fun value => l.filter (key · == value)).Perm (l.filter (key · ∈ values)) := by
  induction values with
  | nil => simp
  | cons value others ih =>
    obtain ⟨hnew, hothers⟩ := List.nodup_cons.mp h
    -- The members with one of the values are those with the first value and those with another.
    have hfirst : (l.filter (key · ∈ value :: others)).filter (key · == value) =
        l.filter (key · == value) := by
      rw [List.filter_filter]
      exact List.filter_congr fun a _ => by grind
    have hrest : (l.filter (key · ∈ value :: others)).filter (! key · == value) =
        l.filter (key · ∈ others) := by
      rw [List.filter_filter]
      exact List.filter_congr fun a _ => by grind
    have hsplit := List.filter_append_perm (key · == value) (l.filter (key · ∈ value :: others))
    rw [hfirst, hrest] at hsplit
    rw [List.flatMap_cons]
    exact ((ih hothers).append_left _).trans hsplit

/-- If there are no other values, the groups put together are the whole list. -/
theorem flatMap_filter_perm (key : α → κ) (h : values.Nodup) (hall : ∀ value, value ∈ values)
    (l : List α) : (values.flatMap fun value => l.filter (key · == value)).Perm l := by
  have hself : l.filter (key · ∈ values) = l :=
    List.filter_eq_self.mpr fun a _ => decide_eq_true (hall (key a))
  exact (flatMap_filter_perm_filter key h l).trans (.of_eq hself)

end Groups

/-- Every kind is listed. -/
theorem DiagnosticKind.mem_all (kind : DiagnosticKind) : kind ∈ all := by
  cases kind <;> decide

/-- Every topic is listed. -/
theorem Topic.mem_all (topic : Topic) : topic ∈ all := by
  cases topic <;> decide

namespace DiagnosticSink

/-- Adding no entries leaves the sink as it is. -/
@[simp]
theorem extend_nil (s : DiagnosticSink) : s.extend [] = s := by
  simp [extend]

/-- What is added in two parts is added at once. -/
@[simp]
theorem extend_extend (s : DiagnosticSink) (ds es : List Diagnostic) :
    (s.extend ds).extend es = s.extend (ds ++ es) := by
  simp [extend]

/-! ### Selections -/

/-- The diagnostics are the entries of the sink with the property. -/
structure Selects (s : DiagnosticSink) (p : Diagnostic → Prop) (selected : List Diagnostic) :
    Prop where
  /-- They come in the order of the sink. -/
  sublist : selected.Sublist s.entries
  property : ∀ d ∈ selected, p d
  /-- Each of them comes as often as in the sink. -/
  count_eq (d : Diagnostic) (h : p d) : selected.count d = s.entries.count d

/-- The groups divide the entries of the sink by the values of a function. -/
structure Divides {κ : Type} (s : DiagnosticSink) (key : Diagnostic → κ) (values : List κ)
    (group : κ → List Diagnostic) : Prop where
  /-- Each group consists of the entries with its value. -/
  selects (value : κ) : s.Selects (key · = value) (group value)
  /-- Put together, the groups of the values hold every entry once. -/
  perm : (values.flatMap group).Perm s.entries

/-- A test for a value selects the entries with the value. -/
theorem selects_filter {κ : Type} [BEq κ] [LawfulBEq κ] (s : DiagnosticSink) (key : Diagnostic → κ)
    (value : κ) : s.Selects (key · = value) (s.entries.filter (key · == value)) where
  sublist := List.filter_sublist
  property _ h := eq_of_beq (List.mem_filter.mp h).2
  count_eq _ h := List.count_filter (beq_iff_eq.mpr h)

/-- Tests for all values divide the entries. -/
theorem divides_filter {κ : Type} [DecidableEq κ] (s : DiagnosticSink) (key : Diagnostic → κ)
    {values : List κ} (h : values.Nodup) (hall : ∀ value, value ∈ values) :
    s.Divides key values fun value => s.entries.filter (key · == value) where
  selects value := s.selects_filter key value
  perm := flatMap_filter_perm key h hall s.entries

/-! ### Counts -/

/-- The sink holds a diagnostic of a severity if it counts one. -/
theorem has_iff (s : DiagnosticSink) (severity : Severity) :
    s.has severity = true ↔ 0 < s.count severity := by
  rw [has, count, List.any_eq_true, List.countP_pos_iff]

/-- Every entry is counted under one severity. -/
theorem count_add_count_add_count (s : DiagnosticSink) :
    s.count .error + s.count .warning + s.count .info = s.size := by
  have hdifferent : [Severity.error, .warning, .info].Nodup := by decide
  have hall (severity : Severity) : severity ∈ [Severity.error, .warning, .info] := by
    cases severity <;> decide
  have hlength := (flatMap_filter_perm Diagnostic.severity hdifferent hall s.entries).length_eq
  simp only [List.flatMap_cons, List.flatMap_nil, List.append_nil, List.length_append,
    ← List.countP_eq_length_filter] at hlength
  rw [size, ← hlength, count, count, count, Nat.add_assoc]

/-! ### The summary -/

/-- The line with the counts by severity. -/
def header (s : DiagnosticSink) : String :=
  s!"Diagnostics: {s.count .error} error(s), {s.count .warning} warning(s), {s.count .info} info(s)"

/-- The line with the counts and, if there are entries, an empty line and an indented line for each
of them. -/
def lines (s : DiagnosticSink) : List String :=
  s.header :: if s.entries = [] then [] else "" :: s.entries.map fun d => "  " ++ d.text

/-- The summary consists of these lines, each with an end. -/
theorem summary_eq_join (s : DiagnosticSink) :
    s.summary = String.join (s.lines.map (· ++ "\n")) := by
  have hprinted : 0 < s.count .error + s.count .warning + s.count .info ↔ s.entries ≠ [] := by
    rw [s.count_add_count_add_count, size, List.length_pos_iff]
  have hend : toString " info(s)\n" = toString " info(s)" ++ "\n" := by decide
  unfold summary lines header
  dsimp only
  rw [hend, ← String.append_assoc]
  by_cases h : s.entries = []
  · rw [if_neg (by rwa [hprinted, not_not]), if_pos h]
    simp only [List.map_cons, List.map_nil, String.join_cons, String.join_nil, String.append_empty]
  · rw [if_pos (hprinted.mpr h), if_neg h]
    simp only [List.map_cons, List.map_map, String.join_cons, String.append_assoc,
      String.empty_append]
    rfl

/-- The answers of the sink agree with its entries, and no entry is missing in them. -/
structure AccountsForEntries (s : DiagnosticSink) : Prop where
  size_eq : s.size = s.entries.length
  /-- A severity is counted as often as an entry has it. -/
  count_eq (severity : Severity) :
    s.count severity = (s.entries.filter (·.severity = severity)).length
  count_add_eq : s.count .error + s.count .warning + s.count .info = s.size
  isNonempty_iff : s.isNonempty = true ↔ 0 < s.size
  has_iff (severity : Severity) : s.has severity = true ↔ 0 < s.count severity
  /-- Every entry is of one of the kinds. -/
  ofKind_divides : s.Divides (·.kind) DiagnosticKind.all s.ofKind
  /-- Every entry is on one of the topics. -/
  onTopic_divides : s.Divides (·.topic) Topic.all s.onTopic
  warnings_selects : s.Selects (·.severity = .warning) s.warnings
  length_warnings : s.warnings.length = s.count .warning
  about_selects (typeName : String) : s.Selects (·.typeName = some typeName) (s.about typeName)
  /-- An entry about no type in particular is about no type. -/
  not_mem_about (d : Diagnostic) (h : d.typeName = none) (typeName : String) : d ∉ s.about typeName
  summary_eq : s.summary = String.join (s.lines.map (· ++ "\n"))

/-- Every sink accounts for its entries. -/
theorem entries_accounted (s : DiagnosticSink) : s.AccountsForEntries where
  size_eq := rfl
  count_eq severity := by
    rw [count, List.countP_eq_length_filter]
    rfl
  count_add_eq := s.count_add_count_add_count
  isNonempty_iff := decide_eq_true_iff
  has_iff := s.has_iff
  ofKind_divides := s.divides_filter _ (by decide) DiagnosticKind.mem_all
  onTopic_divides := s.divides_filter _ (by decide) Topic.mem_all
  warnings_selects := s.selects_filter _ _
  length_warnings := List.countP_eq_length_filter.symm
  about_selects typeName := s.selects_filter _ _
  not_mem_about d h typeName hmem := by
    have habout : d.typeName = some typeName := (s.selects_filter _ _).property d hmem
    rw [h] at habout
    cases habout
  summary_eq := s.summary_eq_join

/-- A sink with one entry that is no warning prints it all the same. -/
example :
    let s : DiagnosticSink := ⟨[⟨.ignoredOption, .info, .general, "c", none⟩]⟩
    s.warnings = [] ∧ s.summary =
      "Diagnostics: 0 error(s), 0 warning(s), 1 info(s)\n\n  [INFO] W4 General: c\n" := by
  decide

end DiagnosticSink

end BridgeNames
