/-!
# Log entries

What goes wrong without an answer to carry it is logged: a setting that cannot be read, an export
that failed on a timer, a context detached out of order.  Operations return their entries in order.
-/

namespace Telemetry

/-- How much a log entry or a span matters. -/
inductive Level where
  /-- Something failed. -/
  | error
  /-- Something is not as it should be. -/
  | warn
  /-- Something to know. -/
  | info
  /-- Something for those who look for faults. -/
  | debug
  /-- Every detail. -/
  | trace
deriving DecidableEq, Repr

/-- The name of a level. -/
def Level.name : Level → String
  | .error => "ERROR"
  | .warn => "WARN"
  | .info => "INFO"
  | .debug => "DEBUG"
  | .trace => "TRACE"

/-- One log entry. -/
structure LogEntry where
  /-- How much it matters. -/
  level : Level
  /-- The part of the library it comes from. -/
  target : String
  /-- What it says. -/
  message : String
deriving DecidableEq, Repr

end Telemetry
