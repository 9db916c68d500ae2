import BridgeNames.Proofs.Parameter.Declaration
import BridgeNames.Proofs.Session.Answers

/-!
# Batches are single calls

A batch keeps a queue for each member and drains all of them at the end; single calls drain their
queues as they go, and a declaration that fails ends the calls for its method. The answers and the
sink are the same all the same (`batches_eq_calls`): members and calls alike only add to what is
there, so it does not matter when a queue is drained.
-/

namespace BridgeNames

open Naming

/-- The types with a name of their own are the named objects and the enumerations. -/
theorem ManagedType.hasOwnName_iff (t : ManagedType) :
    t.hasOwnName = true ↔
      t.category = .declared .namedObject ∨ t.category = .declared .enumeration := by
  cases t with
  | declared d => simp [hasOwnName, category]
  | wrapped wrapper _ _ => cases wrapper <;> simp [hasOwnName, category]

namespace Session

variable {c : Conventions} {catalog : Catalog}

/-- The export names of the types of a list, by a call for each. -/
def exportNamesByCalls (types : List ManagedType) : StateM Session (List (String × String)) :=
  types.mapM fun t => do return (t.fullName, ← exportName t)

/-- The declarations of the parameters of a list in the signature, by a call for each up to the
first that fails. -/
def declareByCalls (signature ps : List Parameter) : ExceptT Error (StateM Session) (List String) :=
  ps.mapM fun p => ExceptT.mk (declaration p signature)

/-- The methods of a list with the declarations of their parameters, by calls for the parameters. -/
def renderByCalls (methods : List Method) :
    StateM Session (List (Except Error RenderedMethod)) :=
  methods.mapM fun m => do
    let declarations ← (declareByCalls m.parameters m.parameters).run
    return declarations.map (RenderedMethod.mk m.name)

/-- A batch of export names answers with the names of the types that have one of their own. -/
theorem answers_exportNames (types : List ManagedType) :
    Answers c catalog (exportNames types)
      ((types.filter ManagedType.hasOwnName).map fun t =>
        (t.fullName, (Registration.outcome c t).name))
      ((types.filter ManagedType.hasOwnName).flatMap (Registration.warnings c)) := by
  have hname (t : ManagedType) : Journal.Adds (do return (t.fullName, ← BridgeNames.exportName c t))
      (t.fullName, (Registration.outcome c t).name) (Registration.warnings c t)
      (Registration.outcome c t).records := by
    have hcall := (Registration.adds_exportName c t).bind
      (f := fun name => return (t.fullName, name)) (Journal.adds_pure _)
    rwa [List.append_nil, List.append_nil] at hcall
  exact answers_batch hname _

/-- A batch of methods answers with what each of them is rendered to. -/
theorem answers_renderMethods (methods : List Method) :
    Answers c catalog (renderMethods methods)
      (methods.map fun m => (m.render c catalog).answer)
      (methods.flatMap fun m => (m.render c catalog).reported) :=
  answers_batch (Method.render_steady c catalog) _

/-- A batch of export names has an answer for each type with a name of its own, in the order of the
types: the full name and the export name. -/
theorem exportNames_answer (types : List ManagedType) (s : Session) :
    ((exportNames types).run s).1 =
      (types.filter ManagedType.hasOwnName).map fun t =>
        (t.fullName, (Registration.outcome s.conventions t).name) := by
  obtain ⟨later, hrun⟩ := (answers_exportNames types).run_eq (s := s) rfl
  rw [hrun]

/-- Calls for the types of a list answer with their names. -/
theorem answers_exportNamesByCalls (types : List ManagedType) :
    Answers c catalog (exportNamesByCalls types)
      (types.map fun t => (t.fullName, (Registration.outcome c t).name))
      (types.flatMap (Registration.warnings c)) := by
  refine answers_mapM (fun t => ?_) types
  rw [← List.append_nil (Registration.warnings c t)]
  exact (answers_call (Registration.adds_exportName c t)).bind (answers_pure _)

/-- Calls for the parameters of a list answer as the declarations of the list do, with the first
failure if there is one. -/
theorem answers_declareByCalls (signature ps : List Parameter) :
    Answers c catalog (declareByCalls signature ps).run
      (Method.declarations c catalog signature ps).answer
      (Method.declarations c catalog signature ps).reported := by
  induction ps with
  | nil => exact answers_pure _
  | cons p rest ih =>
    have hp := Parameter.declaration_steady c catalog p signature
    have hcall : Answers c catalog (ExceptT.mk (declaration p signature)).run
        (p.declaration c catalog signature).answer (p.declaration c catalog signature).reported :=
      answers_call_of_steady (x := fun c catalog => p.declaration c catalog signature) hp
    have hrest := Method.declarations_steady c catalog signature rest
    unfold Steady at hp hrest
    -- If the first declaration fails, neither the list nor the calls get to the others.
    cases hanswer : (p.declaration c catalog signature).answer with
    | error e =>
      rw [hanswer] at hp hcall
      have hall : Reports (Method.declarations c catalog signature (p :: rest)) _ _ _ :=
        hp.bind_error
      rw [declareByCalls, List.mapM_cons, hall.answer_eq, hall.reported_eq]
      exact hcall.bind_error
    | ok declaration =>
      rw [hanswer] at hp hcall
      have hall : Reports (Method.declarations c catalog signature (p :: rest)) _ _ _ :=
        hp.bind (hrest.bind_pure (declaration :: ·))
      rw [declareByCalls, List.mapM_cons, hall.answer_eq, hall.reported_eq]
      exact hcall.bind_ok (ih.bind_pure (declaration :: ·))

/-- Calls for the parameters of the methods of a list answer with what each method is rendered
to. -/
theorem answers_renderByCalls (methods : List Method) :
    Answers c catalog (renderByCalls methods)
      (methods.map fun m => (m.render c catalog).answer)
      (methods.flatMap fun m => (m.render c catalog).reported) := by
  refine answers_mapM (fun m => ?_) methods
  obtain ⟨log, hrender⟩ :=
    Method.render_reports (Method.declarations_steady c catalog m.parameters m.parameters)
  rw [hrender.answer_eq, hrender.reported_eq, ← List.append_nil (Naming.reported _)]
  exact (answers_declareByCalls _ _).bind (answers_pure _)

/-- A batch of export names gives the names and leaves the sink that calls for the named objects and
the enumerations among the types do, one after the other. A batch of methods gives the declarations
or the errors and leaves the sink that calls for the parameters of each method do, up to the first
that fails. This holds in every session, parallel or not. -/
theorem batches_eq_calls (types : List ManagedType) (methods : List Method) (s : Session) :
    (∀ t : ManagedType, t.hasOwnName = true ↔
      t.category = .declared .namedObject ∨ t.category = .declared .enumeration) ∧
    ((exportNames types).run s).1 =
      ((exportNamesByCalls (types.filter ManagedType.hasOwnName)).run s).1 ∧
    ((exportNames types).run s).2.sink =
      ((exportNamesByCalls (types.filter ManagedType.hasOwnName)).run s).2.sink ∧
    ((renderMethods methods).run s).1 = ((renderByCalls methods).run s).1 ∧
    ((renderMethods methods).run s).2.sink = ((renderByCalls methods).run s).2.sink := by
  obtain ⟨_, hnames⟩ := (answers_exportNames types).run_eq (s := s) rfl
  obtain ⟨_, hnamesByCalls⟩ :=
    (answers_exportNamesByCalls (types.filter ManagedType.hasOwnName)).run_eq (s := s) rfl
  obtain ⟨_, hrendered⟩ := (answers_renderMethods methods).run_eq (s := s) rfl
  obtain ⟨_, hrenderedByCalls⟩ := (answers_renderByCalls methods).run_eq (s := s) rfl
  rw [hnames, hnamesByCalls, hrendered, hrenderedByCalls]
  exact ⟨ManagedType.hasOwnName_iff, rfl, rfl, rfl, rfl⟩

end Session

end BridgeNames
