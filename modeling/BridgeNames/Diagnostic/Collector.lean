import BridgeNames.Diagnostic.Sink

/-!
# Collecting from several queues

The state of a run in which several calls are under way: a queue for each of them, told apart by
numbers, and the one sink that all of them are drained into.
-/

namespace BridgeNames

/-- Any number of queues, the sink, and the log of the drains. -/
structure DiagnosticCollector where
  queues : Nat → DiagnosticQueue
  sink : DiagnosticSink
  log : Log

namespace DiagnosticCollector

/-- The state in which nothing has been said. -/
def empty : DiagnosticCollector := ⟨fun _ => .empty, .empty, []⟩

/-- The state with another content of the queue `i`. -/
def setQueue (s : DiagnosticCollector) (i : Nat) (q : DiagnosticQueue) : DiagnosticCollector :=
  { s with queues := fun j => if j = i then q else s.queues j }

/-- Adds a diagnostic to the queue `i`. -/
def push (s : DiagnosticCollector) (i : Nat) (d : Diagnostic) : DiagnosticCollector :=
  s.setQueue i ((s.queues i).push d)

/-- Adds the diagnostics of a list to the sink directly. -/
def extend (s : DiagnosticCollector) (ds : List Diagnostic) : DiagnosticCollector :=
  { s with sink := s.sink.extend ds }

/-- Drains the queue `i` into the sink. -/
def drain (s : DiagnosticCollector) (i : Nat) : DiagnosticCollector :=
  let (queue, sink) := (s.queues i).drainInto s.sink
  { s.setQueue i queue with sink := sink, log := s.log ++ (s.queues i).drainRecords }

/-- Makes the queue `j` a copy of the queue `i`. -/
def copy (s : DiagnosticCollector) (i j : Nat) : DiagnosticCollector :=
  s.setQueue j (s.queues i)

/-- Takes the content of the queue `i`, which is empty afterwards. -/
def take (s : DiagnosticCollector) (i : Nat) : List Diagnostic × DiagnosticCollector :=
  ((s.queues i).entries, s.setQueue i .empty)

end DiagnosticCollector

end BridgeNames
