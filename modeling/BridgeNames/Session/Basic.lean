import BridgeNames.Parameter.Declaration
import BridgeNames.Spelling.Unboxing

/-!
# Sessions

One run of a generator of bindings: its conventions, the catalog of the types it knows, the sink
for its diagnostics, and its log. Every call keeps a journal of its own, whose queue is drained
when the call is done, also when it failed. Nothing that a call finds out is kept for later calls.
-/

namespace BridgeNames

/-- The state of a run. -/
structure Session where
  conventions : Conventions
  catalog : Catalog
  sink : DiagnosticSink
  log : Log

namespace Session

/-- A run at its start, with the types that it knows. -/
def start (conventions : Conventions) (catalog : Catalog) : Session :=
  ⟨conventions, catalog, .empty, []⟩

/-- The session after the queue of a call is drained. -/
def drain (s : Session) (queue : DiagnosticQueue) : Session :=
  { s with sink := (queue.drainInto s.sink).2, log := s.log ++ queue.drainRecords }

/-- Runs a call with an empty queue, and drains the queue. -/
def call {α : Type} (x : Conventions → Catalog → StateM Journal α) : StateM Session α := fun s =>
  let (result, journal) := (x s.conventions s.catalog).run ⟨.empty, s.log⟩
  (result, { s with log := journal.log }.drain journal.queue)

/-- The export name of a type. -/
def exportName (t : ManagedType) : StateM Session String :=
  call fun c _ => BridgeNames.exportName c t

/-- The spelling of a type in a vocabulary. -/
def spelling (t : ManagedType) (v : Vocabulary) : StateM Session (Except Error String) :=
  call fun c _ => (spell c t v).run

/-- The identifier for an argument of a type. -/
def argumentIdentifier (t : ManagedType) : StateM Session (Except Error String) :=
  call fun c _ => (BridgeNames.argumentIdentifier c t).run

/-- The method that takes a value of a type out of a number object. -/
def unboxing (t : ManagedType) : StateM Session (Except Error (Option String)) :=
  call fun c _ => (BridgeNames.unboxing c t).run

/-- The identifier of a parameter in a signature. -/
def identifier (p : Parameter) (signature : List Parameter) :
    StateM Session (Except Error String) :=
  call fun c _ => (p.identifier c signature).run

/-- The type of a parameter in a declaration. -/
def declaredType (p : Parameter) : StateM Session (Except Error String) :=
  call fun c catalog => (p.declaredType c catalog).run

/-- The declaration of a parameter in a signature. -/
def declaration (p : Parameter) (signature : List Parameter) :
    StateM Session (Except Error String) :=
  call fun c catalog => (p.declaration c catalog signature).run

/-- Binds a type as a class. -/
def bind (t : ManagedType) : StateM Session Unit :=
  modify fun s => { s with catalog := s.catalog.bind t }

/-- Adds a type to the catalog, unless its full name is taken. -/
def insert (t : ManagedType) : StateM Session (Except Error Unit) := fun s =>
  let (reply, catalog) := (Catalog.insert t).run s.catalog
  (reply, { s with catalog := catalog })

/-- Takes the log, which is empty afterwards. Records of a parallel session have no order of their
own and come in the order of their characters. -/
def takeLog : StateM Session (List String) := fun s =>
  (if s.conventions.parallel then s.log.sortedLines else s.log.map LogRecord.text,
    { s with log := [] })

end Session

end BridgeNames
