import BridgeNames.Diagnostic.Basic
import BridgeNames.Log

/-!
# Queues and the sink

Diagnostics are collected twice. Each call has a queue of its own, to which it only adds; the whole
run has one sink. Draining a queue moves its entries to the end of the sink in their order and
leaves the queue empty, so the sink holds the diagnostics of a call next to each other, and what
the sink has once taken stays where it is.

The queries of the sink select entries by one property and keep their order.

The entries of the sink are a vector that only grows. What is used of it is that a push puts an
entry behind all others and leaves these as they are, that a walk meets every entry once and in the
order of the pushes, and that the length is the number of the entries. Everything that is pushed in
one go by one caller stays together, as no two callers push at the same time.
-/

namespace BridgeNames

/-- The diagnostics of one call, in the order of their emission. -/
structure DiagnosticQueue where
  entries : List Diagnostic
  deriving DecidableEq

namespace DiagnosticQueue

/-- The queue of a call that has not said anything. -/
def empty : DiagnosticQueue := ⟨[]⟩

/-- Adds a diagnostic at the end. -/
def push (q : DiagnosticQueue) (d : Diagnostic) : DiagnosticQueue :=
  ⟨q.entries ++ [d]⟩

/-- Adds the diagnostics of a list at the end, in their order. -/
def append (q : DiagnosticQueue) (ds : List Diagnostic) : DiagnosticQueue :=
  ⟨q.entries ++ ds⟩

/-- How many diagnostics the queue holds. -/
def size (q : DiagnosticQueue) : Nat :=
  q.entries.length

/-- The queue holds nothing. -/
def isEmpty (q : DiagnosticQueue) : Bool :=
  q.entries.isEmpty

/-- What is logged when the queue is drained. An empty queue is drained silently. -/
def drainRecords (q : DiagnosticQueue) : Log :=
  if q.isEmpty then [] else [⟨.debug, s!"flushing {q.size} diagnostic(s)"⟩]

end DiagnosticQueue

/-- The diagnostics of a whole run, in the order in which they arrived. -/
structure DiagnosticSink where
  entries : List Diagnostic
  deriving DecidableEq

namespace DiagnosticSink

/-- The sink of a run that has not said anything. -/
def empty : DiagnosticSink := ⟨[]⟩

/-- Adds a diagnostic at the end. -/
def push (s : DiagnosticSink) (d : Diagnostic) : DiagnosticSink :=
  ⟨s.entries ++ [d]⟩

/-- Adds the diagnostics of a list at the end, in their order. -/
def extend (s : DiagnosticSink) (ds : List Diagnostic) : DiagnosticSink :=
  ⟨s.entries ++ ds⟩

/-- How many diagnostics the sink holds. -/
def size (s : DiagnosticSink) : Nat :=
  s.entries.length

/-- The sink holds a diagnostic. -/
def isNonempty (s : DiagnosticSink) : Bool :=
  0 < s.size

/-- The sink holds a diagnostic of the severity. -/
def has (s : DiagnosticSink) (severity : Severity) : Bool :=
  s.entries.any (·.severity == severity)

/-- How many diagnostics of the severity the sink holds. -/
def count (s : DiagnosticSink) (severity : Severity) : Nat :=
  s.entries.countP (·.severity == severity)

/-- The warnings. -/
def warnings (s : DiagnosticSink) : List Diagnostic :=
  s.entries.filter (·.severity == .warning)

/-- The diagnostics of the kind. -/
def ofKind (s : DiagnosticSink) (kind : DiagnosticKind) : List Diagnostic :=
  s.entries.filter (·.kind == kind)

/-- The diagnostics on the topic. -/
def onTopic (s : DiagnosticSink) (topic : Topic) : List Diagnostic :=
  s.entries.filter (·.topic == topic)

/-- The diagnostics about the type with the full name. -/
def about (s : DiagnosticSink) (typeName : String) : List Diagnostic :=
  s.entries.filter (·.typeName == some typeName)

/-- The counts by severity on one line and, if there is anything to count, an empty line and every
diagnostic on an indented line of its own. -/
def summary (s : DiagnosticSink) : String :=
  let errors := s.count .error
  let warnings := s.count .warning
  let infos := s.count .info
  let header := s!"Diagnostics: {errors} error(s), {warnings} warning(s), {infos} info(s)\n"
  if 0 < errors + warnings + infos then
    header ++ "\n" ++ String.join (s.entries.map fun d => s!"  {d.text}\n")
  else
    header

end DiagnosticSink

/-- Moves the diagnostics of the queue to the end of the sink. -/
def DiagnosticQueue.drainInto (q : DiagnosticQueue) (s : DiagnosticSink) :
    DiagnosticQueue × DiagnosticSink :=
  (.empty, s.extend q.entries)

end BridgeNames
