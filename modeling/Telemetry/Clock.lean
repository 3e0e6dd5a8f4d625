/-!
# The clock

Times are milliseconds on a clock that never goes back.  It counts seconds in a signed word of 64
bits, so that there is a last instant that it can tell.  A thread that adds a duration to the present
and gets past that instant panics, and durations that long can be set: they are counted in an
unsigned word.
-/

namespace Telemetry.Clock

/-- The last instant that the clock can tell. -/
def last : Nat := 9223372036854775807 * 1000 + 999

/-- The clock can tell an instant. -/
def Tells (instant : Nat) : Prop := instant ≤ last

instance : DecidablePred Tells := fun instant => inferInstanceAs (Decidable (instant ≤ last))

/-- The longest duration. -/
def longest : Nat := 18446744073709551615 * 1000 + 999

theorem Tells.of_le {s t : Nat} (h : Tells t) (hs : s ≤ t) : Tells s := Nat.le_trans hs h

end Telemetry.Clock
