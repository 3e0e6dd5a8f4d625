import Telemetry.Context.Execution

/-!
# Scripts over contexts

A script is a program that derives contexts, attaches them, drops guards and reads what is current,
in tasks, on threads and while a panic unwinds.  Contexts and guards have names that all of a script
shares.  Running a script answers each step with what it saw and what was logged.

The meaning of a step is an `Action`: what it does to the world at a place.  A task that yields is
cut into the pieces between its yields, and tasks that are polled in turn run one piece each, round
after round.  The order of all their steps is therefore known beforehand, and `Task.rounds` gives
it.
-/

namespace Telemetry.Script

/-! ## Steps -/

/-- A context that a step speaks of. -/
inductive ContextName where
  /-- The one that is current. -/
  | current
  /-- The one without values. -/
  | empty
  /-- One that was stored. -/
  | stored (name : String)
deriving DecidableEq, Repr

/-- A value for a key. -/
structure Binding where
  /-- The kind of the key. -/
  kind : Kind
  /-- The key. -/
  key : Key kind
  /-- The value. -/
  content : kind.Content

/-- How one context is derived from another. -/
inductive Change where
  /-- A value is set. -/
  | value (binding : Binding)
  /-- A span context is set. -/
  | span (span : SpanContext)
  /-- A span context of another service is set. -/
  | remoteSpan (span : SpanContext)
  /-- Baggage is set. -/
  | baggage (baggage : Baggage)
  /-- Nothing is changed. -/
  | copy

/-- The context that a change derives. -/
def Change.apply (cx : Context) : Change → Context
  | .value b => cx.set b.key b.content
  | .span s => cx.withSpan s
  | .remoteSpan s => cx.withRemoteSpan s
  | .baggage b => cx.withBaggage b
  | .copy => cx

/-- One step of a script. -/
inductive Step where
  /-- Derives a context and stores it under a name. -/
  | derive (cx : ContextName) (change : Change) (name : String)
  /-- Reads a value. -/
  | get (cx : ContextName) (kind : Kind) (key : Key kind)
  /-- Reads a whole context. -/
  | view (cx : ContextName)
  /-- Attaches a context under a guard with a name, and drops the guard that had the name. -/
  | attach (cx : ContextName) (guard : String)
  /-- Drops a guard. -/
  | detach (guard : String)
  /-- Runs a task in a scope of its own. -/
  | scope (cx : ContextName) (steps : List Step)
  /-- Runs several tasks in turn, those with a context in scopes of their own. -/
  | interleave (tasks : List (Option ContextName × List Step))
  /-- Runs steps on a new thread. -/
  | thread (steps : List Step)
  /-- Runs steps with a context attached, and panics then. -/
  | unwind (cx : ContextName) (steps : List Step)
  /-- Lets other tasks run. -/
  | yield

instance : Inhabited Step := ⟨.yield⟩

/-! ## Answers -/

/-- What a step saw. -/
inductive Answer where
  /-- The context that was made and the one it was made from. -/
  | derived (made source : Context)
  /-- A value, if there was one. -/
  | found (kind : Kind) (content : Option kind.Content)
  /-- A context. -/
  | context (cx : Context)
  /-- Whether the name of the guard was known, and what is current now. -/
  | detached (known : Bool) (current : Context)
  /-- What the steps of tasks answered, each with the number of its task, and what is current
  afterwards. -/
  | tasks (inside : List (Nat × Answer × List LogEntry)) (after : Context)
  /-- What the steps on a thread answered, and what is current afterwards. -/
  | thread (inside : List (Answer × List LogEntry)) (after : Context)
  /-- What the steps before a panic answered, and what is current afterwards. -/
  | unwound (inside : List (Answer × List LogEntry)) (after : Context)

/-- What a step saw and what was logged. -/
abbrev Reply := Answer × List LogEntry

/-! ## The world of a script -/

/-- All that steps share. -/
structure World where
  /-- The stacks of all threads and scopes. -/
  execution : Execution
  /-- The stored contexts, the one stored last first. -/
  contexts : List (String × Context)
  /-- The guards that were not dropped yet. -/
  guards : List (String × ContextGuard)

instance : Inhabited World := ⟨⟨.initial, [], []⟩⟩

/-- What a step does to the world at a place, and its reply. -/
abbrev Action := Place → World → World × Reply

namespace World

/-- The world before the first step. -/
def initial : World := default

/-- The context of a name. -/
def resolve (w : World) (p : Place) : ContextName → Context
  | .current => w.execution.current p
  | .empty => .empty
  | .stored name => (w.contexts.lookup name).getD .empty

/-- Drops a guard of the given number and slot. -/
def release (w : World) (p : Place) (g : ContextGuard) : World × List LogEntry :=
  let (e, outcome) := w.execution.detach p g
  ({ w with execution := e }, outcome.logs)

/-- Drops the guard of a name, if there is one. -/
def releaseNamed (w : World) (p : Place) (name : String) : World × Bool × List LogEntry :=
  match w.guards.lookup name with
  | none => (w, false, [])
  | some g =>
    let (w, logs) := { w with guards := w.guards.filter (·.1 != name) }.release p g
    (w, true, logs)

end World

/-! ## Actions of single steps -/

/-- Derives and stores a context. -/
def storing (cx : ContextName) (change : Change) (name : String) : Action := fun p w =>
  let source := w.resolve p cx
  let made := change.apply source
  ({ w with contexts := (name, made) :: w.contexts }, .derived made source, [])

/-- Attaches a context under a name. -/
def attaching (cx : ContextName) (guard : String) : Action := fun p w =>
  let (e, g) := w.execution.attach p (w.resolve p cx)
  let (w, _, logs) := { w with execution := e }.releaseNamed p guard
  let w := { w with guards := (guard, g) :: w.guards }
  (w, .context (w.execution.current p), logs)

/-- Drops the guard of a name. -/
def detaching (guard : String) : Action := fun p w =>
  let (w, known, logs) := w.releaseNamed p guard
  (w, .detached known (w.execution.current p), logs)

/-! ## Tasks -/

/-- The actions of a task, with nothing where it yields. -/
abbrev Task := List (Option Action)

/-- The actions of a task that is run without pauses. -/
def Task.performed (task : Task) : List Action := task.filterMap id

/-- The pieces of a task between its yields, of which there is at least one. -/
def Task.pieces : Task → List (List Action)
  | [] => [[]]
  | none :: rest => [] :: pieces rest
  | some a :: rest => (pieces rest).modifyHead (a :: ·)
termination_by structural task => task

/-- The actions of tasks that are polled in turn, with the number of the task. -/
def Task.rounds (tasks : List Task) : List (Nat × Action) :=
  let pieces := tasks.map Task.pieces
  let count := (pieces.map List.length).foldl max 0
  (List.range count).flatMap fun round =>
    pieces.zipIdx.flatMap fun (task, index) => (task.getD round []).map (index, ·)

/-- Runs actions one after the other, each at the place of its task. -/
def runAll (places : List Place) : List (Nat × Action) → World → World × List (Nat × Reply)
  | [], w => (w, [])
  | (index, action) :: rest, w =>
    let (w, reply) := action (places.getD index (.onThread 0)) w
    let (w, replies) := runAll places rest w
    (w, (index, reply) :: replies)
termination_by structural actions => actions

/-- Runs actions one after the other at one place. -/
def runAt (p : Place) (actions : List Action) (w : World) : World × List Reply :=
  let (w, replies) := runAll [p] (actions.map (0, ·)) w
  (w, replies.map (·.2))

/-- Opens scopes for the tasks that start with a context, and gives their places. -/
def openScopes (p : Place) : List (Option ContextName) → World → World × List Place
  | [], w => (w, [])
  | none :: rest, w =>
    let (w, places) := openScopes p rest w
    (w, p :: places)
  | some cx :: rest, w =>
    let (e, scope) := w.execution.openScope (w.resolve p cx)
    let (w, places) := openScopes p rest { w with execution := e }
    (w, p.within scope :: places)
termination_by structural starts => starts

/-- Runs tasks in turn. -/
def interleaving (starts : List (Option ContextName)) (tasks : List Task) : Action := fun p w =>
  let (w, places) := openScopes p starts w
  let (w, replies) := runAll places (Task.rounds tasks) w
  (w, .tasks replies (w.execution.current p), [])

/-- Runs steps on a new thread. -/
def threading (task : Task) : Action := fun p w =>
  let (e, id) := w.execution.startThread
  let (w, replies) := runAt (.onThread id) task.performed { w with execution := e }
  (w, .thread replies (w.execution.current p), [])

/-- Runs steps under an attached context, whose guard the panic drops. -/
def unwinding (cx : ContextName) (task : Task) : Action := fun p w =>
  let (e, g) := w.execution.attach p (w.resolve p cx)
  let (w, replies) := runAt p task.performed { w with execution := e }
  let (w, logs) := w.release p g
  (w, .unwound replies (w.execution.current p), logs)

/-! ## Scripts -/

mutual

/-- What a step does, if it is not a yield. -/
def Step.action? : Step → Option Action
  | .derive cx change name => some (storing cx change name)
  | .get cx kind key => some fun p w => (w, .found kind ((w.resolve p cx).get? key), [])
  | .view cx => some fun p w => (w, .context (w.resolve p cx), [])
  | .attach cx guard => some (attaching cx guard)
  | .detach guard => some (detaching guard)
  | .scope cx steps => some (interleaving [some cx] [actions steps])
  | .interleave tasks => some (interleaving (tasks.map (·.1)) (taskActions tasks))
  | .thread steps => some (threading (actions steps))
  | .unwind cx steps => some (unwinding cx (actions steps))
  | .yield => none
termination_by structural s => s

/-- What the steps of a task do. -/
def actions : List Step → Task
  | [] => []
  | s :: rest => s.action? :: actions rest
termination_by structural steps => steps

/-- What several tasks do. -/
def taskActions : List (Option ContextName × List Step) → List Task
  | [] => []
  | t :: rest => oneTask t :: taskActions rest
termination_by structural tasks => tasks

/-- What a task does that may start with a context. -/
def oneTask : Option ContextName × List Step → Task
  | (_, steps) => actions steps
termination_by structural t => t

end

/-- The replies of a script that starts with nothing attached. -/
def run (steps : List Step) : List Reply :=
  (runAt (.onThread Execution.mainThread) (actions steps).performed .initial).2

end Telemetry.Script
