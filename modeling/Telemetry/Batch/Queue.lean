/-!
# The bounded queue

Records wait in a queue of limited capacity, which refuses a record when it is full.  It counts the
records that it has accepted and those that it has handed out, over its whole life.  A flush notes
the first count and takes records until the second has reached it, so that it ends although new
records keep coming.

Once closed, a queue refuses everything.
-/

namespace Telemetry

/-- A queue that holds at most so many records. -/
structure BoundedQueue (ρ : Type) where
  /-- The records, oldest first. -/
  items : List ρ
  /-- The most records that it holds. -/
  capacity : Nat
  /-- How many records it has accepted. -/
  pushed : Nat
  /-- How many records it has handed out. -/
  popped : Nat
  /-- Whether it refuses everything. -/
  closed : Bool
deriving DecidableEq, Repr

namespace BoundedQueue

variable {ρ : Type}

/-- A queue that has accepted nothing. -/
def ofCapacity (capacity : Nat) : BoundedQueue ρ := ⟨[], capacity, 0, 0, false⟩

/-- The number of records in it. -/
def size (q : BoundedQueue ρ) : Nat := q.items.length

/-- Accepts a record and tells the new size, or gives the record back. -/
def push (q : BoundedQueue ρ) (r : ρ) : BoundedQueue ρ × Except ρ Nat :=
  if q.closed ∨ q.capacity ≤ q.size then (q, .error r)
  else ({ q with items := q.items ++ [r], pushed := q.pushed + 1 }, .ok (q.size + 1))

/-- Hands out so many of the oldest records. -/
def handOut (q : BoundedQueue ρ) (count : Nat) : BoundedQueue ρ × List ρ :=
  ({ q with items := q.items.drop count, popped := q.popped + count }, q.items.take count)

/-- Hands out the oldest records: at most `max`, and none above `target` in all. -/
def popUntil (q : BoundedQueue ρ) (max target : Nat) : BoundedQueue ρ × List ρ :=
  q.handOut (min (min max q.size) (target - q.popped))

/-- Hands out at most `max` of the oldest records. -/
def popBatch (q : BoundedQueue ρ) (max : Nat) : BoundedQueue ρ × List ρ := q.handOut (min max q.size)

/-- Hands out all records and refuses everything from now on. -/
def close (q : BoundedQueue ρ) : BoundedQueue ρ × List ρ :=
  ({ q with items := [], popped := q.popped + q.size, closed := true }, q.items)

/-! ## Laws -/

theorem length_popUntil (q : BoundedQueue ρ) (max target : Nat) :
    (q.popUntil max target).2.length = min (min max q.size) (target - q.popped) := by
  simp only [popUntil, handOut, List.length_take, size]
  omega

/-- A target beyond all that the queue has accepted bounds nothing. -/
theorem popUntil_eq_popBatch {q : BoundedQueue ρ} {target : Nat} (max : Nat)
    (h : q.popped + q.size ≤ target) : q.popUntil max target = q.popBatch max := by
  rw [popUntil, popBatch, Nat.min_eq_left (by omega)]

/-- A push is refused exactly when the queue is closed or full. -/
theorem push_eq_error_iff {q : BoundedQueue ρ} {r s : ρ} :
    (q.push r).2 = .error s ↔ s = r ∧ (q.closed ∨ q.capacity ≤ q.size) := by
  by_cases h : q.closed ∨ q.capacity ≤ q.size
  · have hp : (q.push r).2 = .error r := by rw [push, if_pos h]
    rw [hp]
    exact ⟨fun e => ⟨by cases e; rfl, h⟩, fun e => by rw [e.1]⟩
  · have hp : (q.push r).2 = .ok (q.size + 1) := by rw [push, if_neg h]
    rw [hp]
    exact ⟨fun e => (by cases e), fun e => absurd e.2 h⟩

/-! ## Tests -/

example : ((ofCapacity 1).push 5).1.push 6 = (((ofCapacity 1).push 5).1, .error 6) := by rfl
example : (BoundedQueue.mk [3, 4, 5] 9 5 2 false).popUntil 9 4 = (⟨[5], 9, 5, 4, false⟩, [3, 4]) := by rfl
example : (BoundedQueue.mk [3, 4] 9 4 2 false).close = (⟨[], 9, 4, 4, true⟩, [3, 4]) := by rfl

end BoundedQueue

end Telemetry
