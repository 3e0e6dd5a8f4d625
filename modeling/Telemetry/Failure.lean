/-!
# Failures

What fails is told in three ways: by the name of its kind, which programs look at, by a message for
people, and by a description that shows all its parts.  Behind a failure there may be another one
that caused it.
-/

namespace Telemetry

/-- Errors that can be told. -/
class Failure (ε : Type) where
  /-- The name of the kind of an error. -/
  kind : ε → String
  /-- What an error says. -/
  message : ε → String
  /-- An error as descriptions show it, if it has a description of its own. -/
  description? : ε → Option String
  /-- What the error behind an error says, if there is one. -/
  source? : ε → Option String

end Telemetry
