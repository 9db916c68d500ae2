import BridgeNames.Diagnostic.Collector
import BridgeNames.Proofs.Diagnostic.Sink

/-!
# From the queues to the sink

While several calls are under way, each of them says things in a queue of its own, other things are
said in the sink at once, and now and then a queue is drained. So the sink mixes diagnostics of all
origins, and how far each of them has got depends on the drains. Still nothing is lost, nothing
comes twice, and what comes from one origin keeps its order (`diagnostics_conserved`).

The sink does not tell where its entries come from, so that is read off the steps: an entry comes
from the origin of the step that has brought it into the sink (`DiagnosticCollector.arrivals`). The
law is one of conservation. What waits at an origin, followed by what a step says there, is what the
step brings from there, followed by what waits there afterwards
(`DiagnosticCollector.waiting_append_share`), and the steps of a run add up
(`DiagnosticCollector.waiting_append_share_remarks`).
-/

namespace BridgeNames

/-- Where a diagnostic is said. -/
inductive Origin where
  /-- In the call that owns the queue with the number. -/
  | call (i : Nat)
  /-- In the sink, outside of all calls. -/
  | outside
  deriving DecidableEq

/-- A diagnostic together with its origin. -/
structure Remark where
  origin : Origin
  diagnostic : Diagnostic
  deriving DecidableEq

namespace Origin

variable {o other : Origin}

/-- The diagnostics as remarks of the origin. -/
def remarks (o : Origin) (ds : List Diagnostic) : List Remark :=
  ds.map fun d => ⟨o, d⟩

/-- What the remarks have from the origin, in their order. -/
def share (o : Origin) (remarks : List Remark) : List Diagnostic :=
  (remarks.filter (·.origin = o)).map (·.diagnostic)

/-- The share in two lists of remarks is the share in the first followed by that in the second. -/
@[simp]
theorem share_append (o : Origin) (first second : List Remark) :
    o.share (first ++ second) = o.share first ++ o.share second := by
  simp [share]

/-- The share of an origin in its own remarks is all of them. -/
@[simp]
theorem share_remarks_self (o : Origin) (ds : List Diagnostic) : o.share (o.remarks ds) = ds := by
  simp [share, remarks, List.filter_map, Function.comp_def]

/-- An origin has no share in the remarks of another one. -/
theorem share_remarks_of_ne (h : other ≠ o) (ds : List Diagnostic) :
    o.share (other.remarks ds) = [] := by
  simp [share, remarks, h]

/-- The diagnostics of remarks are those that were made remarks. -/
@[simp]
theorem map_diagnostic_remarks (o : Origin) (ds : List Diagnostic) :
    (o.remarks ds).map (·.diagnostic) = ds := by
  simp [remarks, Function.comp_def]

end Origin

/-- A step of a run in which several calls are under way. To copy a queue or to take its content is
no such step: the one would say things twice, and the other leads elsewhere than to the sink. -/
inductive CollectorStep where
  /-- A call warns about a type. -/
  | warn (i : Nat) (typeName : String) (kind : DiagnosticKind) (topic : Topic) (message : String)
  /-- A call says something. -/
  | push (i : Nat) (d : Diagnostic)
  /-- The queue of a call is drained. -/
  | drain (i : Nat)
  /-- The sink gets a warning about no type in particular. -/
  | warnOutside (kind : DiagnosticKind) (topic : Topic) (message : String)
  /-- The sink gets a diagnostic. -/
  | pushOutside (d : Diagnostic)
  /-- The sink gets several diagnostics. -/
  | extendOutside (ds : List Diagnostic)

namespace CollectorStep

/-- The collector after the step. -/
def run : CollectorStep → DiagnosticCollector → DiagnosticCollector
  | warn i typeName kind topic message, s => s.push i (.warningAbout typeName kind topic message)
  | push i d, s => s.push i d
  | drain i, s => s.drain i
  | warnOutside kind topic message, s =>
    { s with sink := s.sink.push (.warning kind topic message) }
  | pushOutside d, s => { s with sink := s.sink.push d }
  | extendOutside ds, s => s.extend ds

/-- Where the step takes place. -/
def origin : CollectorStep → Origin
  | warn i _ _ _ _ | push i _ | drain i => .call i
  | warnOutside _ _ _ | pushOutside _ | extendOutside _ => .outside

/-- What the step says. -/
def said : CollectorStep → List Diagnostic
  | warn _ typeName kind topic message => [⟨kind, .warning, topic, message, some typeName⟩]
  | push _ d | pushOutside d => [d]
  | drain _ => []
  | warnOutside kind topic message => [⟨kind, .warning, topic, message, none⟩]
  | extendOutside ds => ds

/-- What the step brings into the sink: what is there afterwards behind what was there before. -/
def brought (step : CollectorStep) (s : DiagnosticCollector) : List Diagnostic :=
  (step.run s).sink.entries.drop s.sink.size

/-- What the steps say, each at its origin. -/
def remarks (steps : List CollectorStep) : List Remark :=
  steps.flatMap fun step => step.origin.remarks step.said

/-- A step says one thing in a call, or drains the queue of a call, or says things outside. -/
theorem run_cases (step : CollectorStep) (s : DiagnosticCollector) :
    (∃ i d, step.origin = .call i ∧ step.said = [d] ∧ step.run s = s.push i d) ∨
      (∃ i, step.origin = .call i ∧ step.said = [] ∧ step.run s = s.drain i) ∨
      (step.origin = .outside ∧ step.run s = s.extend step.said) := by
  cases step with
  | warn i typeName kind topic message => exact .inl ⟨i, _, rfl, rfl, rfl⟩
  | push i d => exact .inl ⟨i, d, rfl, rfl, rfl⟩
  | drain i => exact .inr (.inl ⟨i, rfl, rfl, rfl⟩)
  | warnOutside kind topic message => exact .inr (.inr ⟨rfl, rfl⟩)
  | pushOutside d => exact .inr (.inr ⟨rfl, rfl⟩)
  | extendOutside ds => exact .inr (.inr ⟨rfl, rfl⟩)

end CollectorStep

namespace DiagnosticCollector

variable {s : DiagnosticCollector} {step : CollectorStep} {o : Origin}

/-- What has been said at the origin and is not in the sink yet. -/
def waiting (s : DiagnosticCollector) : Origin → List Diagnostic
  | .call i => (s.queues i).entries
  | .outside => []

/-- The collector after the steps, one after the other. -/
def serve (s : DiagnosticCollector) (steps : List CollectorStep) : DiagnosticCollector :=
  steps.foldl (fun s step => step.run s) s

/-- The collector after the history, which starts with nothing. -/
def after (history : List CollectorStep) : DiagnosticCollector :=
  empty.serve history

/-- What the steps bring into the sink, each from its origin. -/
def arrivals (s : DiagnosticCollector) : List CollectorStep → List Remark
  | [] => []
  | step :: later => step.origin.remarks (step.brought s) ++ (step.run s).arrivals later

/-! ### Single steps -/

/-- What is said in a call does not get to the sink. -/
@[simp]
theorem entries_push (s : DiagnosticCollector) (i : Nat) (d : Diagnostic) :
    (s.push i d).sink.entries = s.sink.entries := rfl

/-- A drain puts the content of the queue behind the entries of the sink. -/
@[simp]
theorem entries_drain (s : DiagnosticCollector) (i : Nat) :
    (s.drain i).sink.entries = s.sink.entries ++ (s.queues i).entries := rfl

/-- What is said outside of the calls gets to the sink at once. -/
@[simp]
theorem entries_extend (s : DiagnosticCollector) (ds : List Diagnostic) :
    (s.extend ds).sink.entries = s.sink.entries ++ ds := rfl

/-- Another content of one queue is what waits in its call, and nothing else changes. -/
theorem waiting_setQueue (s : DiagnosticCollector) (i : Nat) (q : DiagnosticQueue) (o : Origin) :
    (s.setQueue i q).waiting o = if o = .call i then q.entries else s.waiting o := by
  cases o with
  | call j => by_cases h : j = i <;> simp [waiting, setQueue, h]
  | outside => rfl

/-- What is said in a call waits there. -/
theorem waiting_push (s : DiagnosticCollector) (i : Nat) (d : Diagnostic) (o : Origin) :
    (s.push i d).waiting o = s.waiting o ++ if o = .call i then [d] else [] := by
  rw [push, waiting_setQueue]
  by_cases h : o = .call i
  · rw [if_pos h, if_pos h, h]
    rfl
  · rw [if_neg h, if_neg h, List.append_nil]

/-- After a drain nothing waits in the call. -/
theorem waiting_drain (s : DiagnosticCollector) (i : Nat) (o : Origin) :
    (s.drain i).waiting o = if o = .call i then [] else s.waiting o :=
  s.waiting_setQueue i .empty o

/-- What is said outside of the calls does not wait. -/
theorem waiting_extend (s : DiagnosticCollector) (ds : List Diagnostic) (o : Origin) :
    (s.extend ds).waiting o = s.waiting o := by
  cases o <;> rfl

/-- What comes behind the entries of the sink has been brought by the step. -/
theorem brought_eq {ds : List Diagnostic}
    (h : (step.run s).sink.entries = s.sink.entries ++ ds) : step.brought s = ds := by
  rw [CollectorStep.brought, h]
  exact List.drop_left

/-- A step leaves what is in the sink where it is. -/
theorem entries_run (step : CollectorStep) (s : DiagnosticCollector) :
    (step.run s).sink.entries = s.sink.entries ++ step.brought s := by
  have hgrows : ∃ ds, (step.run s).sink.entries = s.sink.entries ++ ds := by
    obtain ⟨i, d, -, -, hrun⟩ | ⟨i, -, -, hrun⟩ | ⟨-, hrun⟩ := step.run_cases s
    · exact ⟨[], by rw [hrun, entries_push, List.append_nil]⟩
    · exact ⟨_, by rw [hrun, entries_drain]⟩
    · exact ⟨_, by rw [hrun, entries_extend]⟩
  obtain ⟨ds, h⟩ := hgrows
  rw [brought_eq h, h]

/-- At the origin of a step, what waits there and what the step says are what the step brings and
what waits afterwards. -/
theorem waiting_append_said (step : CollectorStep) (s : DiagnosticCollector) :
    s.waiting step.origin ++ step.said = step.brought s ++ (step.run s).waiting step.origin := by
  obtain ⟨i, d, horigin, hsaid, hrun⟩ | ⟨i, horigin, hsaid, hrun⟩ | ⟨horigin, hrun⟩ :=
    step.run_cases s
  · have hbrought : step.brought s = [] := brought_eq (by rw [hrun, entries_push, List.append_nil])
    rw [hbrought, hrun, hsaid, horigin, waiting_push, if_pos rfl, List.nil_append]
  · have hbrought : step.brought s = s.waiting (.call i) :=
      brought_eq (by rw [hrun, entries_drain, waiting])
    rw [hbrought, hrun, hsaid, horigin, waiting_drain, if_pos rfl]
  · have hbrought : step.brought s = step.said := brought_eq (by rw [hrun, entries_extend])
    rw [hbrought, hrun, horigin, waiting_extend, waiting, List.nil_append, List.append_nil]

/-- At another origin a step changes nothing. -/
theorem waiting_run_of_ne (s : DiagnosticCollector) (h : step.origin ≠ o) :
    (step.run s).waiting o = s.waiting o := by
  obtain ⟨i, d, horigin, -, hrun⟩ | ⟨i, horigin, -, hrun⟩ | ⟨horigin, hrun⟩ := step.run_cases s
  · rw [hrun, waiting_push, if_neg (horigin ▸ h.symm), List.append_nil]
  · rw [hrun, waiting_drain, if_neg (horigin ▸ h.symm)]
  · rw [hrun, waiting_extend]

/-- At every origin, what waits there and what the step says there are what the step brings from
there and what waits afterwards. -/
theorem waiting_append_share (step : CollectorStep) (s : DiagnosticCollector) (o : Origin) :
    s.waiting o ++ o.share (step.origin.remarks step.said) =
      o.share (step.origin.remarks (step.brought s)) ++ (step.run s).waiting o := by
  by_cases h : step.origin = o
  · subst h
    rw [Origin.share_remarks_self, Origin.share_remarks_self]
    exact waiting_append_said step s
  · rw [Origin.share_remarks_of_ne h, Origin.share_remarks_of_ne h, waiting_run_of_ne s h,
      List.append_nil, List.nil_append]

/-! ### Runs -/

/-- Steps can be served in two parts. -/
theorem serve_append (s : DiagnosticCollector) (first second : List CollectorStep) :
    s.serve (first ++ second) = (s.serve first).serve second :=
  List.foldl_append

/-- What arrives in two parts of a run is what arrives in the first followed by what arrives in the
second. -/
theorem arrivals_append (s : DiagnosticCollector) (first second : List CollectorStep) :
    s.arrivals (first ++ second) = s.arrivals first ++ (s.serve first).arrivals second := by
  induction first generalizing s with
  | nil => rfl
  | cons step later ih =>
    rw [List.cons_append, arrivals, arrivals, ih, List.append_assoc]
    rfl

/-- Behind what is in the sink comes what arrives, and nothing else. -/
theorem entries_serve (s : DiagnosticCollector) (steps : List CollectorStep) :
    (s.serve steps).sink.entries = s.sink.entries ++ (s.arrivals steps).map (·.diagnostic) := by
  induction steps generalizing s with
  | nil => exact (List.append_nil _).symm
  | cons step later ih =>
    calc ((step.run s).serve later).sink.entries
        = (step.run s).sink.entries ++ ((step.run s).arrivals later).map (·.diagnostic) := ih _
      _ = s.sink.entries ++ (step.brought s ++
            ((step.run s).arrivals later).map (·.diagnostic)) := by
          rw [entries_run, List.append_assoc]
      _ = s.sink.entries ++ (s.arrivals (step :: later)).map (·.diagnostic) := by
          rw [arrivals, List.map_append, Origin.map_diagnostic_remarks]

/-- At every origin, what waits there and what the steps say there are what arrives from there and
what waits afterwards. -/
theorem waiting_append_share_remarks (s : DiagnosticCollector) (steps : List CollectorStep)
    (o : Origin) :
    s.waiting o ++ o.share (CollectorStep.remarks steps) =
      o.share (s.arrivals steps) ++ (s.serve steps).waiting o := by
  induction steps generalizing s with
  | nil => exact List.append_nil _
  | cons step later ih =>
    -- The step settles what it says itself, and the later steps start with what then waits.
    calc s.waiting o ++ o.share (CollectorStep.remarks (step :: later))
        = (s.waiting o ++ o.share (step.origin.remarks step.said)) ++
            o.share (CollectorStep.remarks later) := by
          rw [CollectorStep.remarks, List.flatMap_cons, Origin.share_append, List.append_assoc]
          rfl
      _ = o.share (step.origin.remarks (step.brought s)) ++
            ((step.run s).waiting o ++ o.share (CollectorStep.remarks later)) := by
          rw [waiting_append_share, List.append_assoc]
      _ = o.share (step.origin.remarks (step.brought s)) ++
            (o.share ((step.run s).arrivals later) ++ ((step.run s).serve later).waiting o) := by
          rw [ih]
      _ = o.share (s.arrivals (step :: later)) ++ (s.serve (step :: later)).waiting o := by
          rw [arrivals, Origin.share_append, List.append_assoc]
          rfl

/-- Draining an empty queue has no effect. -/
theorem drain_of_empty {i : Nat} (h : s.queues i = .empty) : s.drain i = s := by
  have hqueues : (s.setQueue i .empty).queues = s.queues := by
    funext j
    by_cases hj : j = i
    · simp [setQueue, hj, h]
    · simp [setQueue, hj]
  have hsink : s.sink.extend (s.queues i).entries = s.sink := by
    rw [h]
    exact s.sink.extend_nil
  have hlog : s.log ++ (s.queues i).drainRecords = s.log := by
    rw [h]
    exact List.append_nil s.log
  show (⟨(s.setQueue i .empty).queues, s.sink.extend (s.queues i).entries,
    s.log ++ (s.queues i).drainRecords⟩ : DiagnosticCollector) = s
  rw [hqueues, hsink, hlog]

/-- After the history, everything that has been said has one place, in its order. -/
structure Conserves (history : List CollectorStep) : Prop where
  /-- The sink holds what has arrived. -/
  entries_eq : (after history).sink.entries = (empty.arrivals history).map (·.diagnostic)
  /-- What has been said at an origin is what has arrived from there, followed by what still waits
  there. -/
  said_eq (o : Origin) :
    o.share (CollectorStep.remarks history) =
      o.share (empty.arrivals history) ++ (after history).waiting o
  /-- A drain puts the content of the queue, in one piece, behind the entries of the sink. -/
  entries_drain (i : Nat) :
    (after (history ++ [.drain i])).sink.entries =
      (after history).sink.entries ++ ((after history).queues i).entries
  /-- It arrives as what has been said in the call. -/
  arrivals_drain (i : Nat) :
    empty.arrivals (history ++ [.drain i]) =
      empty.arrivals history ++ (Origin.call i).remarks ((after history).queues i).entries
  /-- A drain leaves its queue empty and the other queues as they are. -/
  queues_drain (i j : Nat) :
    (after (history ++ [.drain i])).queues j = if j = i then .empty else (after history).queues j
  /-- A second drain has no effect, not even on the log. -/
  drain_drain (i : Nat) : after (history ++ [.drain i, .drain i]) = after (history ++ [.drain i])
  /-- What is in the sink stays where it is, whatever steps come later. -/
  entries_prefix (later : List CollectorStep) :
    (after history).sink.entries <+: (after (history ++ later)).sink.entries

/-- Every history conserves what is said in it. -/
theorem diagnostics_conserved (history : List CollectorStep) : Conserves history where
  entries_eq := entries_serve empty history
  said_eq o := by
    have hrun := waiting_append_share_remarks empty history o
    have hstart : empty.waiting o = [] := by cases o <;> rfl
    rwa [hstart, List.nil_append] at hrun
  entries_drain i := by
    rw [after, serve_append]
    rfl
  arrivals_drain i := by
    have hbrought : (CollectorStep.drain i).brought (after history) =
        ((after history).queues i).entries := brought_eq rfl
    rw [arrivals_append]
    show _ ++ ((Origin.call i).remarks ((CollectorStep.drain i).brought (after history)) ++ []) = _
    rw [hbrought, List.append_nil]
  queues_drain i j := by
    rw [after, serve_append]
    rfl
  drain_drain i := by
    rw [after, after, serve_append, serve_append]
    exact drain_of_empty (if_pos rfl)
  entries_prefix later := by
    rw [after, after, serve_append, entries_serve _ later]
    exact List.prefix_append ..

/-- Two calls and the run itself say things by turns. The first call is drained last and in vain
once more. -/
example :
    let d (message : String) : Diagnostic := .warning .noName .general message
    let history : List CollectorStep :=
      [.push 0 (d "a"), .push 1 (d "b"), .pushOutside (d "c"), .drain 1, .push 0 (d "d"),
        .drain 0, .drain 0, .push 1 (d "e")]
    empty.arrivals history =
        [⟨.outside, d "c"⟩, ⟨.call 1, d "b"⟩, ⟨.call 0, d "a"⟩, ⟨.call 0, d "d"⟩] ∧
      (after history).waiting (.call 1) = [d "e"] := by
  decide

end DiagnosticCollector

end BridgeNames
