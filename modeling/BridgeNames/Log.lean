/-!
# The log

Records that let a reader follow a run. Unlike diagnostics they are not part of any answer: a name
that is found, a default that is taken, a declaration that is left out.
-/

namespace BridgeNames

/-- How important a record is. -/
inductive LogLevel where
  | trace
  | debug
  | warn
  deriving DecidableEq

/-- The word for the level. -/
def LogLevel.text : LogLevel → String
  | .trace => "TRACE"
  | .debug => "DEBUG"
  | .warn => "WARN"

/-- A record of the log. -/
structure LogRecord where
  level : LogLevel
  message : String
  deriving DecidableEq

/-- The record on one line. -/
def LogRecord.text (r : LogRecord) : String :=
  s!"{r.level.text} {r.message}"

/-- The records of a run, in the order of their emission. -/
abbrev Log := List LogRecord

/-- The lines of the log in the order of their characters, for a run whose records have no order of
their own. -/
def Log.sortedLines (log : Log) : List String :=
  (log.map LogRecord.text).mergeSort fun a b => decide (a ≤ b)

end BridgeNames
