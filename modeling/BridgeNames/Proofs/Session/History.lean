import BridgeNames.Proofs.Catalog.History
import BridgeNames.Proofs.Session.Batch

/-!
# Histories of sessions

Whatever a session has been asked before, the reply to a request depends on its conventions, on the
arguments, and for the requests that declare parameters on the full names that have been bound
(`replies_independent`). The types that are known, the diagnostics in the sink, and the order in
which classes were bound do not matter, nor does it matter how earlier requests ended. A request
touches the sink only at its end, so a sink only grows.

A session hands insertions and bindings on to its catalog, and whatever else it is asked for leaves
the catalog alone (`Session.after_invariant`). So what is true of the histories of catalogs is true
of the runs of sessions: a refused insertion leaves the whole session as it is
(`Session.insert_cases`), and its bound classes are tracked (`Session.bindings_tracked`).
-/

namespace BridgeNames

/-- A request for names. -/
inductive NamingRequest where
  | exportName (t : ManagedType)
  | spelling (t : ManagedType) (v : Vocabulary)
  | argumentIdentifier (t : ManagedType)
  | unboxing (t : ManagedType)
  | identifier (p : Parameter) (signature : List Parameter)
  | declaredType (p : Parameter)
  | declaration (p : Parameter) (signature : List Parameter)
  | exportNames (types : List ManagedType)
  | renderMethods (methods : List Method)

namespace NamingRequest

/-- What the request is answered with. -/
abbrev Reply : NamingRequest → Type
  | exportName _ => String
  | unboxing _ => Except Error (Option String)
  | exportNames _ => List (String × String)
  | renderMethods _ => List (Except Error RenderedMethod)
  | spelling _ _ | argumentIdentifier _ | identifier _ _ | declaredType _ | declaration _ _ =>
    Except Error String

/-- The request, put to a session. -/
def ask : (r : NamingRequest) → StateM Session r.Reply
  | exportName t => Session.exportName t
  | spelling t v => Session.spelling t v
  | argumentIdentifier t => Session.argumentIdentifier t
  | unboxing t => Session.unboxing t
  | identifier p signature => Session.identifier p signature
  | declaredType p => Session.declaredType p
  | declaration p signature => Session.declaration p signature
  | exportNames types => Session.exportNames types
  | renderMethods methods => Session.renderMethods methods

/-- The request asks for declarations, in which bound classes get the mark of a pointer. -/
def readsBound : NamingRequest → Bool
  | declaredType _ | declaration _ _ | renderMethods _ => true
  | _ => false

end NamingRequest

/-- A step in the life of a session. What only looks something up in the catalog or in the sink
leaves no trace and is no step. -/
inductive SessionStep where
  | name (r : NamingRequest)
  /-- Asks for the export names of all types that the session knows. -/
  | exportKnown
  | bind (t : ManagedType)
  /-- Adds a type to the catalog, which is refused if its full name is taken. -/
  | insert (t : ManagedType)
  | takeLog

/-- The session after the step. -/
def SessionStep.run : SessionStep → Session → Session
  | name r, s => (r.ask.run s).2
  | exportKnown, s => ((Session.exportNames s.catalog.types).run s).2
  | bind t, s => ((Session.bind t).run s).2
  | insert t, s => ((Session.insert t).run s).2
  | takeLog, s => (Session.takeLog.run s).2

/-- The session with the conventions after the steps, which starts with an empty catalog. A session
over a catalog that is there before it is one whose first steps fill the catalog. -/
def Session.after (c : Conventions) (steps : List SessionStep) : Session :=
  steps.foldl (fun s step => step.run s) (.start c .empty)

/-- The full names that the steps bind, in their order. -/
def boundNames (steps : List SessionStep) : List String :=
  steps.filterMap fun
    | .bind t => some t.fullName
    | _ => none

namespace Session

variable {c : Conventions} {catalog other : Catalog}

/-- A call whose operation is the same for two catalogs answers the same in sessions with either. -/
theorem answers_call_both {α : Type} {x : Conventions → Catalog → Naming α}
    (h : Naming.Steady (x c catalog)) (hx : x c catalog = x c other) :
    ∃ reply ds, Answers c catalog (call fun c catalog => (x c catalog).run) reply ds ∧
      Answers c other (call fun c catalog => (x c catalog).run) reply ds :=
  ⟨_, _, answers_call_of_steady h, hx ▸ answers_call_of_steady (hx ▸ h)⟩

end Session

/-- A request has one answer for two catalogs, which must bind the same types if the request reads
what is bound. -/
theorem NamingRequest.exists_answers (c : Conventions) {catalog other : Catalog}
    (r : NamingRequest) (h : r.readsBound = true → ∀ t, catalog.isBound t = other.isBound t) :
    ∃ reply ds, Session.Answers c catalog r.ask reply ds ∧
      Session.Answers c other r.ask reply ds := by
  cases r with
  | exportName t =>
    have hcall (catalog : Catalog) : Session.Answers c catalog (Session.exportName t) _ _ :=
      Session.answers_call (Registration.adds_exportName c t)
    exact ⟨_, _, hcall catalog, hcall other⟩
  | spelling t v =>
    exact Session.answers_call_both (x := fun c _ => spell c t v) (spell_steady c t v) rfl
  | argumentIdentifier t =>
    exact Session.answers_call_both (x := fun c _ => BridgeNames.argumentIdentifier c t)
      (argumentIdentifier_steady c t) rfl
  | unboxing t =>
    exact Session.answers_call_both (x := fun c _ => BridgeNames.unboxing c t)
      (unboxing_steady c t) rfl
  | identifier p signature =>
    exact Session.answers_call_both (x := fun c _ => p.identifier c signature)
      (p.identifier_steady c signature) rfl
  | declaredType p =>
    exact Session.answers_call_both (x := fun c catalog => p.declaredType c catalog)
      (p.declaredType_steady c catalog) (p.declaredType_eq_of_isBound (h rfl))
  | declaration p signature =>
    exact Session.answers_call_both (x := fun c catalog => p.declaration c catalog signature)
      (p.declaration_steady c catalog signature) (p.declaration_eq_of_isBound (h rfl) signature)
  | exportNames types =>
    exact ⟨_, _, Session.answers_exportNames types, Session.answers_exportNames types⟩
  | renderMethods methods =>
    -- The answer names the catalog, once for each method, so it is rewritten to the other one.
    have hrender : Session.Answers c other (Session.renderMethods methods) _ _ :=
      Session.answers_renderMethods methods
    simp only [← Method.render_eq_of_isBound (h rfl)] at hrender
    exact ⟨_, _, Session.answers_renderMethods methods, hrender⟩

/-- A session refuses a type whose full name is taken, with an error that names it, and then is the
same in all its parts. It accepts any other type, and changes only in its catalog. -/
theorem Session.insert_cases (t : ManagedType) (s : Session) :
    (∃ u ∈ s.catalog.types, u.fullName = t.fullName) ∧
        (Session.insert t).run s = (.error (.duplicateType t.fullName), s) ∨
      (∀ u ∈ s.catalog.types, u.fullName ≠ t.fullName) ∧
        (Session.insert t).run s = (.ok (), { s with catalog := s.catalog.insertIfNew t }) := by
  have hinsert : (Session.insert t).run s =
      (((Catalog.insert t).run s.catalog).1,
        { s with catalog := ((Catalog.insert t).run s.catalog).2 }) := rfl
  rw [hinsert, Catalog.insertIfNew]
  obtain ⟨⟨u, hu⟩, hrun⟩ | ⟨hnone, hrun⟩ := s.catalog.insert_cases t
  · have htaken : ∃ u ∈ s.catalog.types, u.fullName = t.fullName :=
      ⟨u, List.mem_of_find?_eq_some hu, Catalog.fullName_of_find? hu⟩
    rw [hrun]
    exact .inl ⟨htaken, rfl⟩
  · rw [hrun]
    exact .inr ⟨(Catalog.find?_eq_none_iff ..).mp hnone, rfl⟩

/-- The request that the step puts to the catalog, if it changes that. -/
def SessionStep.catalogRequest? : SessionStep → Option CatalogRequest
  | bind t => some (.bind t)
  | insert t => some (.insert t)
  | name _ | exportKnown | takeLog => none

/-- A step keeps the conventions, puts what it has to say behind what is in the sink, and changes
the catalog only as it says. -/
theorem SessionStep.run_eq (step : SessionStep) (s : Session) :
    ∃ ds later, step.run s =
      ⟨s.conventions, s.catalog.serve step.catalogRequest?.toList, s.sink.extend ds, later⟩ := by
  cases step with
  | name r =>
    -- A request is looked at with one catalog only, so it does not matter whether it reads it.
    obtain ⟨reply, ds, h, -⟩ := r.exists_answers s.conventions fun _ (t : ManagedType) =>
      (rfl : s.catalog.isBound t = s.catalog.isBound t)
    obtain ⟨later, hrun⟩ := h.run_eq rfl
    exact ⟨ds, later, congrArg (·.2) hrun⟩
  | exportKnown =>
    obtain ⟨later, hrun⟩ := (Session.answers_exportNames s.catalog.types).run_eq (s := s) rfl
    exact ⟨_, later, congrArg (·.2) hrun⟩
  | bind t =>
    refine ⟨[], s.log, ?_⟩
    rw [DiagnosticSink.extend_nil]
    rfl
  | insert t =>
    refine ⟨[], s.log, ?_⟩
    rw [DiagnosticSink.extend_nil]
    rfl
  | takeLog =>
    refine ⟨[], [], ?_⟩
    rw [DiagnosticSink.extend_nil]
    rfl

namespace Session

/-- The last step of a session comes after the others. -/
theorem after_concat (c : Conventions) (steps : List SessionStep) (step : SessionStep) :
    after c (steps ++ [step]) = step.run (after c steps) := by
  rw [after, List.foldl_append]
  rfl

/-- Whatever steps a session takes, it keeps its conventions, and its catalog has the history that
the steps say. -/
theorem after_invariant (c : Conventions) (steps : List SessionStep) :
    (after c steps).conventions = c ∧
      (after c steps).catalog = .after (steps.filterMap SessionStep.catalogRequest?) := by
  induction steps using List.reverseRecOn with
  | nil => exact ⟨rfl, rfl⟩
  | append_singleton steps step ih =>
    obtain ⟨hconventions, hcatalog⟩ := ih
    obtain ⟨ds, later, hrun⟩ := step.run_eq (after c steps)
    have hlast : [step].filterMap SessionStep.catalogRequest? = step.catalogRequest?.toList := by
      cases h : step.catalogRequest? <;> simp [h]
    rw [after_concat, hrun, List.filterMap_append, Catalog.after_append, ← hcatalog, hlast]
    exact ⟨hconventions, rfl⟩

/-- What is bound in a session are the full names that its steps have bound. -/
theorem mem_bound_after (c : Conventions) (steps : List SessionStep) (fullName : String) :
    fullName ∈ (after c steps).catalog.bound ↔ fullName ∈ boundNames steps := by
  have hsame (step : SessionStep) :
      step.catalogRequest?.bind CatalogRequest.boundName? =
        match step with
        | .bind t => some t.fullName
        | _ => none := by
    cases step <;> rfl
  rw [(after_invariant c steps).2, Catalog.mem_bound_after, List.filterMap_filterMap, boundNames,
    funext hsame]

/-- Two sessions with the conventions give one reply to a request and add the same diagnostics to
their sinks, whatever steps brought them about, if these have bound the same full names; unless the
request asks for declarations, they need not even have done that. A step leaves what is in the sink
where it is, also when it fails. -/
theorem replies_independent (c : Conventions) :
    (∀ (first second : List SessionStep) (r : NamingRequest),
      (r.readsBound = true → ∀ n, n ∈ boundNames first ↔ n ∈ boundNames second) →
      (r.ask.run (after c first)).1 = (r.ask.run (after c second)).1 ∧
        ∃ ds, (r.ask.run (after c first)).2.sink = (after c first).sink.extend ds ∧
          (r.ask.run (after c second)).2.sink = (after c second).sink.extend ds) ∧
    ∀ (steps : List SessionStep) (step : SessionStep),
      (after c steps).sink.entries <+: (after c (steps ++ [step])).sink.entries := by
  refine ⟨fun first second r hbound => ?_, fun steps step => ?_⟩
  · have hfirst := (after_invariant c first).1
    have hsecond := (after_invariant c second).1
    -- The two catalogs can know different types; only what they bind is compared.
    have hsame (hreads : r.readsBound = true) (t : ManagedType) :
        (after c first).catalog.isBound t = (after c second).catalog.isBound t :=
      Catalog.isBound_congr (fun n => by rw [mem_bound_after, mem_bound_after, hbound hreads]) t
    obtain ⟨reply, ds, hreply, hreply'⟩ := r.exists_answers c hsame
    obtain ⟨later, hrun⟩ := hreply.run_eq hfirst
    obtain ⟨later', hrun'⟩ := hreply'.run_eq hsecond
    rw [hrun, hrun']
    exact ⟨rfl, ds, rfl, rfl⟩
  · obtain ⟨ds, later, hrun⟩ := step.run_eq (after c steps)
    rw [after_concat, hrun]
    exact List.prefix_append ..

/-- A class. -/
def button : ManagedType :=
  .declared ⟨"App.Widgets", "Button", none, .reference, []⟩

/-- A history that binds the class twice, before and after it asks for its name. -/
def buttonBoundTwice : List SessionStep :=
  [.bind button, .name (.exportName button), .bind button]

/-- A history that makes the class known and binds it. -/
def buttonKnown : List SessionStep :=
  [.insert button, .bind button]

/-- After both histories, a parameter of the class is declared as a pointer. -/
theorem button_declared_alike :
    (∀ n, n ∈ boundNames buttonBoundTwice ↔ n ∈ boundNames buttonKnown) ∧
      (((declaredType ⟨"sender", button⟩).run (after .standard buttonBoundTwice)).1 =
          ((declaredType ⟨"sender", button⟩).run (after .standard buttonKnown)).1 ∧
        ∃ ds, ((declaredType ⟨"sender", button⟩).run (after .standard buttonBoundTwice)).2.sink =
            (after .standard buttonBoundTwice).sink.extend ds ∧
          ((declaredType ⟨"sender", button⟩).run (after .standard buttonKnown)).2.sink =
            (after .standard buttonKnown).sink.extend ds) ∧
      ((declaredType ⟨"sender", button⟩).run (after .standard buttonKnown)).1 =
        .ok "App_Widgets_Button *" := by
  have hbound : ∀ n, n ∈ boundNames buttonBoundTwice ↔ n ∈ boundNames buttonKnown := by
    simp [boundNames, buttonBoundTwice, buttonKnown]
  exact ⟨hbound, (replies_independent .standard).1 buttonBoundTwice buttonKnown
    (.declaredType ⟨"sender", button⟩) fun _ => hbound, by decide +kernel⟩

/-! ### Bound classes over whole runs -/

/-- After any history of insertions, bindings and queries, a catalog tracks its bound classes: it
goes by full names and the flag of a class, counts each full name once, and keeps bindings and
insertions apart. The catalog of a session is the catalog after the insertions and bindings among
the steps of the session. -/
theorem bindings_tracked :
    (∀ history : List CatalogRequest, Catalog.TracksBindings history) ∧
      ∀ (c : Conventions) (steps : List SessionStep),
        (after c steps).catalog = .after (steps.filterMap SessionStep.catalogRequest?) :=
  ⟨Catalog.tracksBindings, fun c steps => (after_invariant c steps).2⟩

/-- A class and an interface that have both been bound are counted, but only the one is a bound
class. -/
example :
    let shape : ManagedType := .declared ⟨"App", "IShape", none, .interface, []⟩
    let catalog := (after .standard [.bind button, .bind shape, .bind button]).catalog
    catalog.boundCount = 2 ∧ catalog.isBound button = true ∧ catalog.isBound shape = false := by
  decide

end Session

end BridgeNames
