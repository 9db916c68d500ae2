import BridgeNames.Diagnostic.Sink
import BridgeNames.Error

/-!
# Naming with a journal

A naming operation gives a name or an error, and on the way it says things: diagnostics into the
queue of the call and records into the log. Both are kept in a journal that the operations of a
call share. What an operation has said stays said when it fails.

`quietly` runs an operation for its answer only: the log sees it, the queue does not.
-/

namespace BridgeNames

/-- What the operations of a call have said so far. -/
structure Journal where
  queue : DiagnosticQueue
  log : Log

namespace Journal

/-- The journal of a call that has not said anything. -/
def empty : Journal := ⟨.empty, []⟩

/-- Adds diagnostics and records at the ends. -/
def add (j : Journal) (diagnostics : List Diagnostic) (records : Log) : Journal :=
  ⟨j.queue.append diagnostics, j.log ++ records⟩

end Journal

/-- An operation that gives a name or an error and keeps a journal. -/
abbrev Naming (α : Type) := ExceptT Error (StateM Journal) α

/-- Adds diagnostics and records to the journal. -/
def say (diagnostics : List Diagnostic) (records : Log) : StateM Journal Unit :=
  modify fun j => j.add diagnostics records

/-- Runs an operation without its diagnostics. -/
def quietly {α : Type} (x : Naming α) : Naming α :=
  ExceptT.mk fun j =>
    let (result, after) := x.run.run j
    (result, { after with queue := j.queue })

end BridgeNames
