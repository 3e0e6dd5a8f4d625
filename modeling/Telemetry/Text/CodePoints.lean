/-!
# Sets of code points

A property of characters that a standard lists by ranges is written as its *edges*: the code
points at which membership changes, in ascending order.  The first edge opens the set, the second
closes it, and so on, so a code point is in the set when an odd number of edges lie at or below
it.
-/

namespace Telemetry.Text

/-- Whether a code point lies in the set with the given edges. -/
def withinEdges (edges : List Nat) (n : Nat) : Bool :=
  (edges.takeWhile (· ≤ n)).length % 2 == 1

/-! ## Tests -/

example : (List.range 10).filter (withinEdges [2, 4, 7, 8]) = [2, 3, 7] := by decide
example : withinEdges [] 5 = false := by decide

end Telemetry.Text
