import Telemetry.SortedMap

/-!
# Baggage

Names with values that an application sends along with a trace, each name once and in the order of
the names.
-/

namespace Telemetry

/-- Names with values, in the order of the names. -/
abbrev Baggage := SortedMap String String

end Telemetry
