import BridgeNames.Proofs.Naming
import BridgeNames.Proofs.Parameter.Identifier

/-!
# Which parameters can be declared

Declaring a parameter spells its type and, if its name is short, the types of its whole signature.
So a declaration fails for one of two reasons: the parameter's own type has no spelling
(`declaration_reports_gap`), or the name is short and another type of the signature has none
(`identifier_answer_of_outlines`). In a list of parameters both reasons blame the same type, the
first one without a spelling, and differ only in how many warnings are reported before the failure
(`declarations_reports_gap`).
-/

namespace BridgeNames

open Naming

namespace Parameter

variable {c : Conventions} {catalog : Catalog} {p : Parameter}
  {signature before after : List Parameter} {e : Error}

/-- The type of the parameter has a spelling in Objective-C. -/
def isSpelled (c : Conventions) (p : Parameter) : Bool :=
  (ObjectiveC.spell c p.type).answer.isOk

/-- The warnings about the type of the parameter. -/
def typeWarnings (c : Conventions) (p : Parameter) : List Diagnostic :=
  (ObjectiveC.spell c p.type).reported

/-- The parameter is declared by the fragment. -/
structure IsDeclaredBy (c : Conventions) (catalog : Catalog) (signature : List Parameter)
    (p : Parameter) (fragment : String) : Prop where
  declaration_eq : (p.declaration c catalog signature).answer = .ok fragment
  /-- The fragment is the type of the parameter in parentheses with its identifier behind them. -/
  eq_parts : ∃ type name, (p.declaredType c catalog).answer = .ok type ∧
    (p.identifier c signature).answer = .ok name ∧ fragment = "(" ++ type ++ ")" ++ name

/-- The type of a parameter is spelled somehow, or its spelling fails. -/
theorem isSpelled_iff : p.isSpelled c = true ↔ ∃ s, p.SpelledAs c s := by
  unfold isSpelled SpelledAs
  cases (ObjectiveC.spell c p.type).answer with
  | ok s => exact iff_of_true rfl ⟨s, rfl⟩
  | error e => exact iff_of_false Bool.false_ne_true fun ⟨_, hs⟩ => nomatch hs

/-- A type that is not spelled fails with an error. -/
theorem exists_gap_of_not_isSpelled (h : p.isSpelled c = false) :
    ∃ e, (ObjectiveC.spell c p.type).answer = .error e := by
  unfold isSpelled at h
  cases hanswer : (ObjectiveC.spell c p.type).answer with
  | ok s => rw [hanswer] at h; cases h
  | error e => exact ⟨e, rfl⟩

/-- A type whose spelling fails is not covered. -/
theorem reports_of_gap (h : (ObjectiveC.spell c p.type).answer = .error e) :
    Reports (ObjectiveC.spell c p.type)
      (.error (.unspellable (ObjectiveC.culprit p.type).fullName .objectiveC)) [] [] := by
  by_cases hcovered : ObjectiveC.Covered p.type
  · obtain ⟨s, ds, rs, hs⟩ := ObjectiveC.spell_of_covered c hcovered
    cases h.symm.trans hs.answer_eq
  · exact ObjectiveC.spell_of_not_covered c hcovered

/-- The error of a type without a spelling blames the culprit. -/
theorem gap_eq (h : (ObjectiveC.spell c p.type).answer = .error e) :
    e = .unspellable (ObjectiveC.culprit p.type).fullName .objectiveC :=
  Except.error.inj (h.symm.trans (reports_of_gap h).answer_eq)

/-- There are no warnings about a type without a spelling. -/
theorem typeWarnings_of_gap (h : (ObjectiveC.spell c p.type).answer = .error e) :
    p.typeWarnings c = [] :=
  (reports_of_gap h).reported_eq

/-- The outlines of a list fail with the first type that has no spelling. -/
theorem outlines_reports_gap (after : List Parameter)
    (hbefore : ∀ q ∈ before, q.isSpelled c = true)
    (he : (ObjectiveC.spell c p.type).answer = .error e) :
    ∃ ds rs, Reports (outlines c (before ++ p :: after)) (.error e) ds rs := by
  induction before with
  | nil =>
    have hp := ObjectiveC.spell_steady c p.type
    rw [Steady, he] at hp
    have hfirst : Reports (p.outline c) (.error e) _ _ := hp.bind_error
    exact ⟨_, _, hfirst.bind_error⟩
  | cons q rest ih =>
    obtain ⟨s, hs⟩ := isSpelled_iff.mp (hbefore q List.mem_cons_self)
    obtain ⟨ds, rs, hq⟩ := hs.reports
    obtain ⟨es, ss, hrest⟩ := ih fun r hr => hbefore r (List.mem_cons_of_mem _ hr)
    have hfirst : Reports (q.outline c) (.ok ⟨s, c.isShort q.name⟩) (ds ++ []) (rs ++ []) :=
      hq.bind (reports_pure _)
    rw [List.cons_append]
    unfold outlines
    exact ⟨_, _, hfirst.bind hrest.bind_error⟩

/-- The outlines of a list are found if every type in it has a spelling. -/
theorem exists_outlines (h : ∀ q ∈ signature, q.isSpelled c = true) :
    ∃ os, (outlines c signature).answer = .ok os := by
  have hspelled (q : Parameter) (hq : q ∈ signature) : ∃ s, q.SpelledAs c s :=
    isSpelled_iff.mp (h q hq)
  choose! spelling hspelling using hspelled
  obtain ⟨ds, rs, hos⟩ := outlines_reports signature hspelling
  exact ⟨_, hos.answer_eq⟩

/-- The answer for a short-named parameter is put together from the spelling of its type and the
outlines of its signature. -/
theorem identifier_answer_of_short (h : c.isShort p.name = true) :
    (p.identifier c signature).answer =
      (ObjectiveC.spell c p.type).answer.bind fun s =>
        (outlines c signature).answer.map (shortIdentifier c p.name s) := by
  have hlast (chosen : String) (rs : Log) :
      Reports (do say [] rs; return chosen) (.ok chosen) ([] ++ []) (rs ++ []) :=
    (reports_lift fun _ => rfl).bind (reports_pure chosen)
  unfold identifier
  rw [if_pos h, answer_bind]
  · refine congrArg _ (funext fun s => ?_)
    rw [answer_bind _ fun os => (hlast _ _).steady, answer_quietly]
    cases (outlines c signature).answer with
    | error e => rfl
    | ok os => exact (hlast _ _).answer_eq
  · intro s
    exact (outlines_steady c signature).quietly.steady.bind fun os => (hlast _ _).steady

/-- A long-named parameter keeps its name. -/
theorem identifier_answer_of_long (h : c.isShort p.name = false) :
    (p.identifier c signature).answer = .ok p.name :=
  identified_of_long h .empty

/-- A parameter has an identifier if its type is spelled and, should its name be short, all types of
its signature are. -/
theorem exists_identifier (signature : List Parameter) (hp : p.isSpelled c = true)
    (hsignature : c.isShort p.name = true → ∀ q ∈ signature, q.isSpelled c = true) :
    ∃ name, (p.identifier c signature).answer = .ok name := by
  cases hshort : c.isShort p.name with
  | false => exact ⟨p.name, identifier_answer_of_long hshort⟩
  | true =>
    obtain ⟨s, hs⟩ := isSpelled_iff.mp hp
    obtain ⟨os, hos⟩ := exists_outlines (hsignature hshort)
    rw [identifier_answer_of_short hshort, hs, hos]
    exact ⟨shortIdentifier c p.name s os, rfl⟩

/-- A short-named parameter has no identifier in a signature whose outlines fail. -/
theorem identifier_answer_of_outlines {ds : List Diagnostic} {rs : Log} (hp : p.isSpelled c = true)
    (hshort : c.isShort p.name = true) (hout : Reports (outlines c signature) (.error e) ds rs) :
    (p.identifier c signature).answer = .error e := by
  obtain ⟨s, hs⟩ := isSpelled_iff.mp hp
  rw [identifier_answer_of_short hshort, hs, hout.answer_eq]
  rfl

/-- A parameter whose type is spelled is declared under its identifier, or fails as that does. The
warnings about its type are reported either way, and only once. -/
theorem declaration_reports (catalog : Catalog) {r : Except Error String}
    (hp : p.isSpelled c = true)
    (hname : (p.identifier c signature).answer = r) :
    ∃ type log, (p.declaredType c catalog).answer = .ok type ∧
      Reports (p.declaration c catalog signature)
        (r.map fun name => "(" ++ type ++ ")" ++ name) (p.typeWarnings c) log := by
  obtain ⟨s, hs⟩ := isSpelled_iff.mp hp
  have hspell := ObjectiveC.spell_steady c p.type
  rw [Steady, hs] at hspell
  obtain ⟨type, log, htype⟩ :
      ∃ type log, Reports (p.declaredType c catalog) (.ok type) (p.typeWarnings c ++ []) log :=
    ⟨_, _, hspell.bind (reports_pure _)⟩
  have hidentifier := identifier_steady c p signature
  rw [Steady, hname] at hidentifier
  refine ⟨type, log ++ (p.identifier c signature).logged, htype.answer_eq, ?_⟩
  rw [← List.append_nil (p.typeWarnings c), ← List.append_nil (p.typeWarnings c)]
  exact htype.bind (hidentifier.quietly.bind_pure fun name => "(" ++ type ++ ")" ++ name)

/-- A parameter whose type has no spelling cannot be declared, and nothing is said about it. -/
theorem declaration_reports_gap (catalog : Catalog) (signature : List Parameter)
    (he : (ObjectiveC.spell c p.type).answer = .error e) :
    ∃ log, Reports (p.declaration c catalog signature) (.error e) [] log := by
  have hspell := ObjectiveC.spell_steady c p.type
  rw [Steady, he] at hspell
  have htype : Reports (p.declaredType c catalog) (.error e) (p.typeWarnings c) _ :=
    hspell.bind_error
  rw [typeWarnings_of_gap he] at htype
  exact ⟨_, htype.bind_error⟩

end Parameter

namespace Method

open Parameter

variable {c : Conventions} {catalog : Catalog} {p : Parameter} {m : Method}
  {signature before after : List Parameter} {e : Error}

/-- In a signature whose types are all spelled, every list of its parameters can be declared. -/
theorem declarations_reports (catalog : Catalog)
    (hsignature : ∀ q ∈ signature, q.isSpelled c = true) {ps : List Parameter}
    (hps : ∀ q ∈ ps, q.isSpelled c = true) :
    ∃ ds log, Reports (declarations c catalog signature ps) (.ok ds) (ps.flatMap (typeWarnings c))
        log ∧
      List.Forall₂ (IsDeclaredBy c catalog signature) ps ds := by
  induction ps with
  | nil => exact ⟨[], [], reports_pure [], .nil⟩
  | cons p rest ih =>
    have hp := hps p List.mem_cons_self
    obtain ⟨name, hname⟩ := exists_identifier signature hp fun _ => hsignature
    obtain ⟨type, log, htype, hfirst⟩ := declaration_reports catalog hp hname
    obtain ⟨ds, others, hrest, hall⟩ := ih fun q hq => hps q (List.mem_cons_of_mem _ hq)
    have hlist : Reports (declarations c catalog signature (p :: rest)) (.ok (_ :: ds)) _ _ :=
      hfirst.bind (hrest.bind_pure _)
    exact ⟨_, _, hlist, .cons ⟨hfirst.answer_eq, type, name, htype, hname, rfl⟩ hall⟩

/-- In a signature whose outlines fail, the declarations of a list fail with the same error if the
list has a parameter without a spelling. -/
theorem declarations_reports_gap (catalog : Catalog) {ds : List Diagnostic} {rs : Log}
    (hout : Reports (outlines c signature) (.error e) ds rs)
    (hbefore : ∀ q ∈ before, q.isSpelled c = true)
    (he : (ObjectiveC.spell c p.type).answer = .error e) :
    ∃ log, Reports (declarations c catalog signature (before ++ p :: after)) (.error e)
      ((before.take (before.findIdx (c.isShort ·.name) + 1)).flatMap (typeWarnings c)) log := by
  induction before with
  | nil =>
    obtain ⟨log, hp⟩ := declaration_reports_gap catalog signature he
    exact ⟨log, hp.bind_error⟩
  | cons q rest ih =>
    have hq := hbefore q List.mem_cons_self
    cases hshort : c.isShort q.name with
    | true =>
      -- The name asks for all types of the signature, so the list ends here.
      have hname := identifier_answer_of_outlines hq hshort hout
      obtain ⟨type, log, -, hfirst⟩ := declaration_reports catalog hq hname
      have hlist : Reports (declarations c catalog signature (q :: rest ++ p :: after)) (.error e)
          (q.typeWarnings c) log := hfirst.bind_error
      refine ⟨log, ?_⟩
      rw [List.findIdx_cons, hshort, cond_true, Nat.zero_add, List.take_succ_cons, List.take_zero,
        List.flatMap_singleton]
      exact hlist
    | false =>
      obtain ⟨name, hname⟩ := exists_identifier signature hq fun h =>
        absurd (hshort.symm.trans h) Bool.false_ne_true
      obtain ⟨type, log, -, hfirst⟩ := declaration_reports catalog hq hname
      obtain ⟨others, hrest⟩ := ih fun r hr => hbefore r (List.mem_cons_of_mem _ hr)
      refine ⟨log ++ others, ?_⟩
      rw [List.findIdx_cons, hshort, cond_false, List.take_succ_cons, List.flatMap_cons]
      exact hfirst.bind hrest.bind_error

/-- A method is rendered with what its parameters are declared as, or fails as they do; what they
report is all that it reports but for the log. -/
theorem render_reports {r : Except Error (List String)} {ds : List Diagnostic} {rs : Log}
    (h : Reports (declarations c catalog m.parameters m.parameters) r ds rs) :
    ∃ log, Reports (m.render c catalog) (r.map (RenderedMethod.mk m.name)) ds log := by
  have hrendered := h.bind_pure (RenderedMethod.mk m.name)
  unfold render
  cases r with
  | ok declarations => exact ⟨_, hrendered.tryCatch_ok⟩
  | error e =>
    have hskip : Reports (m.skip e) (.error e) ([] ++ []) (_ ++ []) :=
      (reports_lift fun _ => rfl).bind (reports_throw e)
    have hall := hrendered.tryCatch_error hskip
    rw [List.append_nil, List.append_nil] at hall
    exact ⟨_, hall⟩

end Method

end BridgeNames
