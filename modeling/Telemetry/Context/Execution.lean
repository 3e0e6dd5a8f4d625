import Telemetry.Context.Stack
import Telemetry.Log

/-!
# Current contexts of threads and tasks

Each thread has a stack of attached contexts.  A task that is run in a *scope* has a stack of its
own, which goes along with the task wherever it is polled, and while it is polled the stack of the
thread is out of sight.  Scopes nest, so the place where code runs is a thread together with the
scopes it is in, innermost first.  The innermost scope owns the current context there, and outside
all scopes the thread does.

A guard remembers whether it was attached inside a scope or on a thread, and dropping it looks for
it in the stack that the place of the drop has in that role.  Guards are numbered over all stacks,
so a guard that has travelled to another place finds nothing there that it could disturb.
-/

namespace Telemetry

/-! ## Places -/

/-- What owns a stack. -/
inductive Owner where
  /-- A thread. -/
  | thread (id : Nat)
  /-- A scope. -/
  | scope (id : Nat)
deriving DecidableEq, Repr

/-- Where code runs. -/
structure Place where
  /-- The thread. -/
  thread : Nat
  /-- The scopes it is in, innermost first. -/
  scopes : List Nat
deriving DecidableEq, Repr

namespace Place

/-- The place outside all scopes of a thread. -/
def onThread (id : Nat) : Place := ⟨id, []⟩

/-- The place in one more scope. -/
def within (p : Place) (scope : Nat) : Place := ⟨p.thread, scope :: p.scopes⟩

/-- What owns the current context of a place. -/
def owner (p : Place) : Owner :=
  match p.scopes with
  | [] => .thread p.thread
  | s :: _ => .scope s

end Place

/-- On which of its two stacks a place attached a context. -/
inductive Slot where
  /-- The stack of the innermost scope. -/
  | scope
  /-- The stack of the thread. -/
  | thread
deriving DecidableEq, Repr

/-- The slot of what a place attaches. -/
def Place.slot (p : Place) : Slot := if p.scopes.isEmpty then .thread else .scope

/-- What has the role of a slot at a place: outside all scopes nothing is the innermost one. -/
def Place.ownerOf? (p : Place) : Slot → Option Owner
  | .scope => p.scopes.head?.map .scope
  | .thread => some (.thread p.thread)

/-- What an attaching gives, to be dropped later. -/
structure ContextGuard where
  /-- Its number. -/
  id : GuardId
  /-- The slot it was attached on. -/
  slot : Slot
deriving DecidableEq, Repr

/-! ## All stacks -/

/-- The stacks of all threads and scopes. -/
structure Execution where
  /-- The stack of each owner. -/
  stack : Owner → ContextStack
  /-- The number of the next guard. -/
  nextGuard : GuardId
  /-- The number of the next scope. -/
  nextScope : Nat
  /-- The number of the next thread. -/
  nextThread : Nat

namespace Execution

/-- The thread that runs first. -/
def mainThread : Nat := 0

/-- Only the main thread, with nothing attached. -/
def initial : Execution := ⟨fun _ => .starting .empty, 0, 0, mainThread + 1⟩

instance : Inhabited Execution := ⟨initial⟩

/-- The stacks with that of one owner replaced. -/
def update (e : Execution) (o : Owner) (s : ContextStack) : Execution :=
  { e with stack := fun p => if p = o then s else e.stack p }

/-- The current context of a place. -/
def current (e : Execution) (p : Place) : Context := (e.stack p.owner).current

/-- Makes a context current at a place, under a new guard. -/
def attach (e : Execution) (p : Place) (cx : Context) : Execution × ContextGuard :=
  let attached := e.update p.owner ((e.stack p.owner).attach e.nextGuard cx)
  ({ attached with nextGuard := e.nextGuard + 1 }, ⟨e.nextGuard, p.slot⟩)

/-- Drops a guard at a place. -/
def detach (e : Execution) (p : Place) (g : ContextGuard) : Execution × Detached :=
  match p.ownerOf? g.slot with
  | none => (e, .notFound)
  | some o =>
    let (s, outcome) := (e.stack o).detach g.id
    (e.update o s, outcome)

/-- Opens a scope that starts with a context. -/
def openScope (e : Execution) (cx : Context) : Execution × Nat :=
  let opened := e.update (.scope e.nextScope) (.starting cx)
  ({ opened with nextScope := e.nextScope + 1 }, e.nextScope)

/-- Starts a thread, with nothing attached. -/
def startThread (e : Execution) : Execution × Nat :=
  let started := e.update (.thread e.nextThread) (.starting .empty)
  ({ started with nextThread := e.nextThread + 1 }, e.nextThread)

end Execution

/-! ## What is logged -/

/-- The part of the library that logs about attached contexts. -/
def contextLogTarget : String := "tributary_engine::context::current"

/-- What is logged about the dropping of a guard. -/
def Detached.logs : Detached → List LogEntry
  | .inOrder => []
  | .outOfOrder => [⟨.warn, contextLogTarget, "context detached out of order"⟩]
  | .notFound => [⟨.warn, contextLogTarget, "failed to detach context: not attached in this scope"⟩]

/-! ## Laws -/

namespace Execution

@[simp] theorem stack_update_self (e : Execution) (o : Owner) (s : ContextStack) :
    (e.update o s).stack o = s := by
  simp [update]

theorem stack_update_of_ne (e : Execution) {o p : Owner} (s : ContextStack) (h : p ≠ o) :
    (e.update o s).stack p = e.stack p := by
  simp [update, h]

/-- Attaching at a place changes the stack that is seen there and no other. -/
theorem stack_attach_of_ne (e : Execution) (p : Place) (cx : Context) {o : Owner}
    (h : o ≠ p.owner) : (e.attach p cx).1.stack o = e.stack o := by
  simp [attach, stack_update_of_ne, h]

@[simp] theorem current_attach (e : Execution) (p : Place) (cx : Context) :
    (e.attach p cx).1.current p = cx := by
  simp [current, attach, update, ContextStack.attach]

/-- Dropping a guard changes no stack but the one that has the role of its slot. -/
theorem stack_detach_of_ne (e : Execution) (p : Place) (g : ContextGuard) {o : Owner}
    (h : p.ownerOf? g.slot ≠ some o) : (e.detach p g).1.stack o = e.stack o := by
  unfold detach
  cases hp : p.ownerOf? g.slot with
  | none => rfl
  | some q =>
    have hq : o ≠ q := fun e => h (by rw [hp, e])
    simp [stack_update_of_ne, hq]

end Execution

end Telemetry
