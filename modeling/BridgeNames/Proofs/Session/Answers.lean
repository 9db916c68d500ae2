import BridgeNames.Proofs.Diagnostic.Sink
import BridgeNames.Proofs.Journal
import BridgeNames.Session.Batch

/-!
# What a session answers

A request to a session gives an answer that depends on the conventions and the catalog alone, and it
touches the sink only at its end. `Session.Answers` says so of a request, together with the answer
and the diagnostics. It follows for a single call from what the operation adds to its journal
(`answers_call`), for a batch from what the task adds for each member (`answers_batch`), and for a
sequence of requests from its members (`Answers.bind`). The log is left out: it alone shows in which
way an answer was found.
-/

namespace BridgeNames

namespace Session

variable {α β : Type} {c : Conventions} {catalog : Catalog} {ds es : List Diagnostic}

/-- In every session with the conventions and the catalog, the request gives the answer and puts the
diagnostics behind those in the sink. It changes neither the conventions nor the catalog. -/
def Answers (c : Conventions) (catalog : Catalog) (x : StateM Session α) (answer : α)
    (ds : List Diagnostic) : Prop :=
  ∀ (sink : DiagnosticSink) (log : Log), ∃ later : Log,
    x.run ⟨c, catalog, sink, log⟩ = (answer, ⟨c, catalog, sink.extend ds, later⟩)

/-- What a request does in a session with the conventions and the catalog. -/
theorem Answers.run_eq {x : StateM Session α} {a : α} {s : Session} (hc : s.conventions = c)
    (h : Answers c s.catalog x a ds) :
    ∃ later : Log, x.run s = (a, { s with sink := s.sink.extend ds, log := later }) := by
  subst hc
  exact h s.sink s.log

/-- A request that does nothing answers with its value. -/
theorem answers_pure (a : α) : Answers c catalog (pure a) a [] := by
  intro sink log
  rw [DiagnosticSink.extend_nil]
  exact ⟨log, rfl⟩

/-- A sequence of two requests gives the answer of the second and the diagnostics of both. -/
theorem Answers.bind {x : StateM Session α} {f : α → StateM Session β} {a : α} {b : β}
    (hx : Answers c catalog x a ds) (hf : Answers c catalog (f a) b es) :
    Answers c catalog (x >>= f) b (ds ++ es) := by
  intro sink log
  obtain ⟨between, hx⟩ := hx sink log
  obtain ⟨later, hf⟩ := hf (sink.extend ds) between
  refine ⟨later, ?_⟩
  rw [StateT.run_bind, hx]
  show (f a).run _ = _
  rw [hf, DiagnosticSink.extend_extend]

/-- A request for each member of a list answers for the members in their order. -/
theorem answers_mapM {f : α → StateM Session β} {answer : α → β} {said : α → List Diagnostic}
    (h : ∀ a, Answers c catalog (f a) (answer a) (said a)) (l : List α) :
    Answers c catalog (l.mapM f) (l.map answer) (l.flatMap said) := by
  induction l with
  | nil => exact answers_pure []
  | cons a rest ih =>
    rw [List.mapM_cons, List.flatMap_cons, ← List.append_nil (rest.flatMap said)]
    exact (h a).bind (ih.bind (answers_pure _))

/-- A sequence of two requests that can fail goes on after the first one if that succeeds. -/
theorem Answers.bind_ok {x : ExceptT Error (StateM Session) α}
    {f : α → ExceptT Error (StateM Session) β} {a : α} {r : Except Error β}
    (hx : Answers c catalog x.run (.ok a) ds) (hf : Answers c catalog (f a).run r es) :
    Answers c catalog (x >>= f).run r (ds ++ es) := by
  rw [ExceptT.run_bind]
  exact hx.bind hf

/-- It ends with the first failure. -/
theorem Answers.bind_error {x : ExceptT Error (StateM Session) α}
    {f : α → ExceptT Error (StateM Session) β} {e : Error}
    (hx : Answers c catalog x.run (.error e) ds) :
    Answers c catalog (x >>= f).run (.error e) ds := by
  rw [ExceptT.run_bind, ← List.append_nil ds]
  exact hx.bind (answers_pure _)

/-- A request that can fail, followed by a function, answers with the value of the function or with
the same error. -/
theorem Answers.bind_pure {x : ExceptT Error (StateM Session) α} {r : Except Error α}
    (hx : Answers c catalog x.run r ds) (g : α → β) :
    Answers c catalog (x >>= fun a => pure (g a)).run (r.map g) ds := by
  cases r with
  | error e => exact hx.bind_error
  | ok a =>
    rw [← List.append_nil ds]
    exact hx.bind_ok (answers_pure _)

/-- A call answers what its operation gives, and drains what it adds. -/
theorem answers_call {x : Conventions → Catalog → StateM Journal α} {a : α} {rs : Log}
    (h : Journal.Adds (x c catalog) a ds rs) : Answers c catalog (call x) a ds := by
  intro sink log
  let s : Session := ⟨c, catalog, sink, log⟩
  refine ⟨log ++ rs ++ (⟨ds⟩ : DiagnosticQueue).drainRecords, ?_⟩
  show (let run := (x c catalog).run ⟨.empty, log⟩
    (run.1, { s with log := run.2.log }.drain run.2.queue)) = _
  rw [h]
  rfl

/-- A call of a steady operation answers what the operation does on the empty journal. -/
theorem answers_call_of_steady {x : Conventions → Catalog → Naming α}
    (h : Naming.Steady (x c catalog)) :
    Answers c catalog (call fun c catalog => (x c catalog).run) (x c catalog).answer
      (x c catalog).reported :=
  answers_call h

section Batch

variable {task : α → StateM Journal β} {answer : α → β} {said : α → List Diagnostic}
  {noted : α → Log}

/-- The runs of the members of a batch one after the other: an answer and a queue for each. -/
theorem runMembers_eq
    (h : ∀ member, Journal.Adds (task member) (answer member) (said member) (noted member))
    (members : List α) (log : Log) :
    (runMembers task members).run log =
      (members.map fun member => (answer member, ⟨said member⟩),
        log ++ members.flatMap noted) := by
  -- Each member starts with the log that those before it leave, so the log is generalized.
  induction members generalizing log with
  | nil =>
    rw [List.flatMap_nil, List.append_nil]
    rfl
  | cons member rest ih =>
    show (let run := (task member).run ⟨.empty, log⟩
      let others := (runMembers task rest).run run.2.log
      ((run.1, run.2.queue) :: others.1, others.2)) = _
    rw [h]
    dsimp only
    rw [ih]
    simp [Journal.add, DiagnosticQueue.append, DiagnosticQueue.empty]

/-- The members of a batch that runs together give the same, since no member sees another one. -/
theorem runTogether_eq_runMembers
    (h : ∀ member, Journal.Adds (task member) (answer member) (said member) (noted member))
    (members : List α) (log : Log) :
    (runTogether task members).run log = (runMembers task members).run log := by
  have hrun (member : α) :
      (task member).run .empty = (answer member, ⟨⟨said member⟩, noted member⟩) := h member .empty
  unfold runTogether
  rw [runMembers_eq h]
  show (let runs := members.map fun member => (task member).run .empty
    (runs.map fun run => (run.1, run.2.queue), log ++ runs.flatMap fun run => run.2.log)) = _
  simp [hrun, List.flatMap_map]

/-- Either way, there is an answer and a queue for each member, in the order of the members. -/
theorem runAll_eq
    (h : ∀ member, Journal.Adds (task member) (answer member) (said member) (noted member))
    (parallel : Bool) (members : List α) (log : Log) :
    (runAll parallel task members).run log =
      (members.map fun member => (answer member, ⟨said member⟩),
        log ++ members.flatMap noted) := by
  unfold runAll
  split
  · rw [runTogether_eq_runMembers h, runMembers_eq h]
  · exact runMembers_eq h members log

/-- Draining the queues of the members one after the other moves all their diagnostics. -/
theorem foldl_drain (answer : α → β) (said : α → List Diagnostic) (members : List α) (s : Session) :
    ∃ later : Log,
      (members.map fun member => (answer member, (⟨said member⟩ : DiagnosticQueue))).foldl
          (fun s r => s.drain r.2) s =
        { s with sink := s.sink.extend (members.flatMap said), log := later } := by
  induction members generalizing s with
  | nil => exact ⟨s.log, by simp⟩
  | cons member rest ih =>
    obtain ⟨later, hrest⟩ := ih (s.drain ⟨said member⟩)
    refine ⟨later, ?_⟩
    rw [List.map_cons, List.foldl_cons, hrest]
    simp [drain, DiagnosticQueue.drainInto]

end Batch

/-- A batch answers what its task gives for the members, in their order, and drains what it adds for
them, in the same order; whether the members are worked on together makes no difference. -/
theorem answers_batch {task : Conventions → Catalog → α → StateM Journal β} {answer : α → β}
    {said : α → List Diagnostic} {noted : α → Log}
    (h : ∀ member,
      Journal.Adds (task c catalog member) (answer member) (said member) (noted member))
    (members : List α) :
    Answers c catalog (batch members task) (members.map answer) (members.flatMap said) := by
  intro sink log
  let s : Session := ⟨c, catalog, sink, log ++ members.flatMap noted⟩
  obtain ⟨later, hdrained⟩ := foldl_drain answer said members s
  refine ⟨later, ?_⟩
  show (let run := (runAll c.parallel (task c catalog) members).run log
    (run.1.map fun r => r.1, run.1.foldl (fun (s : Session) r => s.drain r.2)
      ⟨c, catalog, sink, run.2⟩)) = _
  rw [runAll_eq h]
  show (_, List.foldl _ s _) = _
  rw [hdrained, List.map_map]
  rfl

end Session

end BridgeNames
