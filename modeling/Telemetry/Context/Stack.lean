import Telemetry.Context.Basic

/-!
# Attached contexts

Making a context current gives a guard, and dropping the guard brings back the context that was
current before.  Guards should be dropped innermost first, but nothing forces that.  A stack
therefore remembers, for each guard that is live, the context that its attaching replaced, newest
first.  Dropping a guard restores that context and ends every guard attached after it, whose
contexts are no longer to come back.  Dropping a guard that is not on the stack changes nothing.
-/

namespace Telemetry

/-- The number of a guard, which no other guard has. -/
abbrev GuardId := Nat

/-- How the dropping of a guard went. -/
inductive Detached where
  /-- The guard was the newest. -/
  | inOrder
  /-- Newer guards were live and have ended with it. -/
  | outOfOrder
  /-- The guard is not live here. -/
  | notFound
deriving DecidableEq, Repr

/-- The current context and what the live guards will bring back. -/
structure ContextStack where
  /-- The current context. -/
  current : Context
  /-- The live guards, newest first, each with the context that it replaced. -/
  saved : List (GuardId × Context)
deriving DecidableEq

namespace ContextStack

/-- A stack without guards. -/
def starting (cx : Context) : ContextStack := ⟨cx, []⟩

/-- The stack with a context made current under a guard. -/
def attach (s : ContextStack) (guard : GuardId) (cx : Context) : ContextStack :=
  ⟨cx, (guard, s.current) :: s.saved⟩

/-- The context that a guard brings back and the guards older than it. -/
def behind? (guard : GuardId) : List (GuardId × Context) → Option (Context × List (GuardId × Context))
  | [] => none
  | (g, cx) :: older => if g = guard then some (cx, older) else behind? guard older
termination_by structural saved => saved

/-- The stack after a guard was dropped, and how that went. -/
def detach (s : ContextStack) (guard : GuardId) : ContextStack × Detached :=
  match behind? guard s.saved with
  | none => (s, .notFound)
  | some (cx, older) =>
    (⟨cx, older⟩, if (s.saved.head?.map (·.1)) = some guard then .inOrder else .outOfOrder)

/-! ## Laws -/

/-- Dropping the newest guard undoes its attaching. -/
theorem detach_attach (s : ContextStack) (guard : GuardId) (cx : Context) :
    (s.attach guard cx).detach guard = (s, .inOrder) := by
  simp [attach, detach, behind?]

theorem behind?_eq_none_iff {guard : GuardId} {saved : List (GuardId × Context)} :
    behind? guard saved = none ↔ guard ∉ saved.map (·.1) := by
  induction saved with
  | nil => simp [behind?]
  | cons e saved ih =>
    by_cases h : e.1 = guard
    · simp [behind?, h]
    · simp [behind?, h, ih, Ne.symm h]

/-- A guard that is not live changes nothing. -/
theorem detach_of_not_mem {s : ContextStack} {guard : GuardId} (h : guard ∉ s.saved.map (·.1)) :
    s.detach guard = (s, .notFound) := by
  simp [detach, behind?_eq_none_iff.mpr h]

end ContextStack

end Telemetry
