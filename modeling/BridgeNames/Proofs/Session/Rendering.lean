import BridgeNames.Proofs.Session.Batch

/-!
# What becomes of each method of a batch

A method is rendered if the types of all its parameters have spellings, and otherwise it gets the
error of the first type that has none. The names of its parameters do not decide on that, nor does
another method. The names only decide how far a rendering gets before it fails, and so which
warnings are reported (`Method.reach`): a short name asks for all types of the signature at once, a
long one waits until the type without a spelling has its turn.
-/

namespace BridgeNames

open Naming Parameter

namespace Method

variable {c : Conventions} {catalog : Catalog} {m : Method} {p : Parameter}
  {before after : List Parameter} {e : Error}

/-- How many parameters have their own types spelled when the method is rendered: all of them if all
types have spellings. Otherwise the first short-named parameter is the last one, unless the first
type without a spelling comes before. -/
def reach (c : Conventions) (m : Method) : Nat :=
  match m.parameters.findIdx? (!·.isSpelled c) with
  | none => m.parameters.length
  | some j => min (m.parameters.findIdx (c.isShort ·.name) + 1) j

/-- The warnings that the rendering of the method gives rise to, in the order of the parameters. -/
def warnings (c : Conventions) (m : Method) : List Diagnostic :=
  (m.parameters.take (m.reach c)).flatMap (typeWarnings c)

/-- A list of parameters whose types all have spellings has no first one without. -/
theorem findIdx?_not_isSpelled {ps : List Parameter} (h : ∀ p ∈ ps, p.isSpelled c = true) :
    ps.findIdx? (!·.isSpelled c) = none := by
  rw [List.findIdx?_eq_none_iff]
  intro p hp
  rw [h p hp]
  rfl

/-- If all types have spellings, the warnings about all of them are reported. -/
theorem warnings_of_spelled (h : ∀ p ∈ m.parameters, p.isSpelled c = true) :
    m.warnings c = m.parameters.flatMap (typeWarnings c) := by
  rw [warnings, reach, findIdx?_not_isSpelled h, List.take_length]

/-- Otherwise only those before the first type without a spelling can be, up to the first short
name. -/
theorem warnings_of_gap (hm : m.parameters = before ++ p :: after)
    (hbefore : ∀ q ∈ before, q.isSpelled c = true) (hp : p.isSpelled c = false) :
    m.warnings c =
      (before.take (before.findIdx (c.isShort ·.name) + 1)).flatMap (typeWarnings c) := by
  have hfirst : m.parameters.findIdx? (!·.isSpelled c) = some before.length := by
    rw [hm, List.findIdx?_append, findIdx?_not_isSpelled hbefore, List.findIdx?_cons, hp]
    simp
  -- A short name behind the gap is as good as none.
  have hshort : min ((before ++ p :: after).findIdx (c.isShort ·.name) + 1) before.length =
      min (before.findIdx (c.isShort ·.name) + 1) before.length := by
    have hle : before.findIdx (c.isShort ·.name) ≤ before.length := List.findIdx_le_length
    rw [List.findIdx_append]
    split <;> omega
  rw [warnings, reach, hfirst, hm]
  dsimp only
  rw [hshort, List.take_append_of_le_length (Nat.min_le_right _ _), ← List.take_eq_take_min]

/-- What a method can be rendered to. -/
structure Outcome (c : Conventions) (catalog : Catalog) (m : Method)
    (result : Except Error RenderedMethod) : Prop where
  /-- It is rendered exactly if the types of all its parameters have spellings. -/
  ok_iff : (∃ r, result = .ok r) ↔ ∀ p ∈ m.parameters, p.isSpelled c = true
  /-- Then it keeps its name, and has a declaration for each parameter, in their order. -/
  of_ok : ∀ r, result = .ok r → r.name = m.name ∧
    List.Forall₂ (IsDeclaredBy c catalog m.parameters) m.parameters r.declarations
  /-- Otherwise it has the error of the first type without a spelling. -/
  of_gap : ∀ before p after e, m.parameters = before ++ p :: after →
    (∀ q ∈ before, q.isSpelled c = true) → (ObjectiveC.spell c p.type).answer = .error e →
    result = .error e ∧ e = .unspellable (ObjectiveC.culprit p.type).fullName .objectiveC

/-- The types of a list all have spellings, or there is a first one without. -/
theorem spelled_or_gap (c : Conventions) (ps : List Parameter) :
    (∀ p ∈ ps, p.isSpelled c = true) ∨
      ∃ before p after, ps = before ++ p :: after ∧ (∀ q ∈ before, q.isSpelled c = true) ∧
        p.isSpelled c = false := by
  induction ps with
  | nil => exact .inl fun p hp => absurd hp List.not_mem_nil
  | cons q rest ih =>
    cases hq : q.isSpelled c with
    | false => exact .inr ⟨[], q, rest, rfl, fun r hr => absurd hr List.not_mem_nil, hq⟩
    | true =>
      rcases ih with hrest | ⟨before, p, after, rfl, hbefore, hp⟩
      · exact .inl (List.forall_mem_cons.mpr ⟨hq, hrest⟩)
      · exact .inr ⟨q :: before, p, after, rfl, List.forall_mem_cons.mpr ⟨hq, hbefore⟩, hp⟩

/-- A method whose types all have spellings is rendered. -/
theorem render_reports_of_spelled (catalog : Catalog)
    (h : ∀ p ∈ m.parameters, p.isSpelled c = true) :
    ∃ ds log, Reports (m.render c catalog) (.ok ⟨m.name, ds⟩) (m.warnings c) log ∧
      List.Forall₂ (IsDeclaredBy c catalog m.parameters) m.parameters ds := by
  obtain ⟨ds, rs, hds, hall⟩ := declarations_reports catalog h h
  obtain ⟨log, hrender⟩ := render_reports hds
  rw [warnings_of_spelled h]
  exact ⟨ds, log, hrender, hall⟩

/-- A method with a type that has no spelling fails with the error of the first such type. -/
theorem render_reports_of_gap (catalog : Catalog) (hm : m.parameters = before ++ p :: after)
    (hbefore : ∀ q ∈ before, q.isSpelled c = true)
    (he : (ObjectiveC.spell c p.type).answer = .error e) :
    ∃ log, Reports (m.render c catalog) (.error e) (m.warnings c) log := by
  have hp : p.isSpelled c = false := by rw [isSpelled, he]; rfl
  obtain ⟨ds, rs, hout⟩ := outlines_reports_gap after hbefore he
  rw [← hm] at hout
  obtain ⟨log, hds⟩ := declarations_reports_gap catalog hout hbefore he
  rw [← hm, ← warnings_of_gap hm hbefore hp] at hds
  exact render_reports hds

/-- What a method is rendered to. -/
theorem render_outcome (c : Conventions) (catalog : Catalog) (m : Method) :
    Outcome c catalog m (m.render c catalog).answer := by
  have hgap (before : List Parameter) (p : Parameter) (after : List Parameter) (e : Error)
      (hm : m.parameters = before ++ p :: after) (hbefore : ∀ q ∈ before, q.isSpelled c = true)
      (he : (ObjectiveC.spell c p.type).answer = .error e) :
      (m.render c catalog).answer = .error e ∧
        e = .unspellable (ObjectiveC.culprit p.type).fullName .objectiveC := by
    obtain ⟨log, hrender⟩ := render_reports_of_gap catalog hm hbefore he
    exact ⟨hrender.answer_eq, gap_eq he⟩
  rcases spelled_or_gap c m.parameters with h | ⟨before, p, after, hm, hbefore, hp⟩
  · obtain ⟨ds, log, hrender, hall⟩ := render_reports_of_spelled catalog h
    refine ⟨iff_of_true ⟨_, hrender.answer_eq⟩ h, fun r hr => ?_, hgap⟩
    cases hr.symm.trans hrender.answer_eq
    exact ⟨rfl, hall⟩
  · obtain ⟨e, he⟩ := exists_gap_of_not_isSpelled hp
    have hfails := (hgap before p after e hm hbefore he).1
    have hmem : p ∈ m.parameters := by simp [hm]
    refine ⟨iff_of_false ?_ ?_, fun r hr => ?_, hgap⟩
    · rintro ⟨r, hr⟩
      cases hr.symm.trans hfails
    · exact fun h => Bool.false_ne_true (hp.symm.trans (h p hmem))
    · cases hr.symm.trans hfails

/-- The diagnostics that the rendering of a method reports are its warnings. -/
theorem render_reported (c : Conventions) (catalog : Catalog) (m : Method) :
    (m.render c catalog).reported = m.warnings c := by
  rcases spelled_or_gap c m.parameters with h | ⟨before, p, after, hm, hbefore, hp⟩
  · obtain ⟨ds, log, hrender, -⟩ := render_reports_of_spelled catalog h
    exact hrender.reported_eq
  · obtain ⟨e, he⟩ := exists_gap_of_not_isSpelled hp
    obtain ⟨log, hrender⟩ := render_reports_of_gap catalog hm hbefore he
    exact hrender.reported_eq

end Method

/-- Each method of a batch has an outcome of its own, in the order of the methods, and the sink gets
the warnings of all of them in the same order. -/
theorem Session.renderMethods_outcomes (methods : List Method) (s : Session) :
    List.Forall₂ (Method.Outcome s.conventions s.catalog) methods
        ((renderMethods methods).run s).1 ∧
      ((renderMethods methods).run s).2.sink =
        s.sink.extend (methods.flatMap (Method.warnings s.conventions)) := by
  obtain ⟨later, hrun⟩ := (answers_renderMethods methods).run_eq (s := s) rfl
  rw [hrun]
  constructor
  · rw [List.forall₂_map_right_iff]
    exact List.forall₂_same.mpr fun m _ => Method.render_outcome _ _ m
  · simp only [Method.render_reported]

end BridgeNames
