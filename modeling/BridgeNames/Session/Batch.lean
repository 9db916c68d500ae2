import BridgeNames.Session.Basic

/-!
# Batches

Export names of many types and declarations of many methods at once. Every member of a batch has a
queue of its own; the queues are drained in the order of the members when all of them are done. So
the answers and the sink are those of single calls one after the other, and only the log shows the
difference: the records of the members come before those of the drains.

A parallel session works on all members together (`runTogether`). Of that, three things are taken
for granted: each member is worked on once, with a journal that no other member reads or writes; the
results are collected in the order of the members, whatever order they were worked on in; and the
records of the members are all in the log when the queues are drained. In which order they are there
is left open, which is why a parallel session sorts its log when it is taken (`takeLog`). What a
session then answers, and what is in its sink, is the same as in one that works on one member after
the other (`answers_batch`).
-/

namespace BridgeNames.Session

/-- Runs a task on each member of a list, each with an empty queue and all with one log. -/
def runMembers {α β : Type} (task : α → StateM Journal β) :
    List α → StateM Log (List (β × DiagnosticQueue))
  | [] => return []
  | member :: rest => do
    let first ← fun log =>
      let (result, journal) := (task member).run ⟨.empty, log⟩
      ((result, journal.queue), journal.log)
    return first :: (← runMembers task rest)

/-- Runs a task on each member of a list, each with a journal of its own, and adds the records of
all of them to the log. -/
def runTogether {α β : Type} (task : α → StateM Journal β) (members : List α) :
    StateM Log (List (β × DiagnosticQueue)) := fun log =>
  let runs := members.map fun member => (task member).run .empty
  (runs.map fun run => (run.1, run.2.queue), log ++ runs.flatMap fun run => run.2.log)

/-- Runs a task on each member of a list, on all together or on one after the other. -/
def runAll {α β : Type} (parallel : Bool) (task : α → StateM Journal β) (members : List α) :
    StateM Log (List (β × DiagnosticQueue)) :=
  if parallel then runTogether task members else runMembers task members

/-- Runs a task on each member of a list and drains the queues afterwards. -/
def batch {α β : Type} (members : List α) (task : Conventions → Catalog → α → StateM Journal β) :
    StateM Session (List β) := fun s =>
  let (results, log) :=
    (runAll s.conventions.parallel (task s.conventions s.catalog) members).run s.log
  (results.map (·.1), results.foldl (fun s r => s.drain r.2) { s with log := log })

/-- The full name and the export name of every type of a list that has a name of its own. -/
def exportNames (types : List ManagedType) : StateM Session (List (String × String)) :=
  batch (types.filter ManagedType.hasOwnName) fun c _ t => do
    return (t.fullName, ← BridgeNames.exportName c t)

/-- The methods of a list with the declarations of their parameters, and an error in the place of a
method that has none. -/
def renderMethods (methods : List Method) :
    StateM Session (List (Except Error RenderedMethod)) :=
  batch methods fun c catalog m => (m.render c catalog).run

end BridgeNames.Session
