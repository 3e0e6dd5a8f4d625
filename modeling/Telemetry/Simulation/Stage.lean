import Telemetry.Simulation.Agent
import Telemetry.Simulation.ScriptedExporter
import Telemetry.Worker.Call

/-!
# Simulations in virtual time

A stage has an agent with a scripted exporter and a source of metrics, the callers that have put
requests to it, and a clock.  `settle` lets everybody do what they can at the present time, until all
wait.  A caller gives up only when nothing else can go on.  `runUntil` lets time pass from one event
to the next, until something holds or the time is up.

Everything happens as soon as it can, so a run has one outcome.  It is that of every real run in
which steps take no time worth speaking of and no two events fall together.
-/

namespace Telemetry.Simulation

open Worker (CallerId Desk)

/-! ## Stages -/

/-- What is under way between an agent and the world outside. -/
inductive Progress where
  /-- Nothing has begun. -/
  | none
  /-- An exporter call is held up. -/
  | held
  /-- A collection ends at a time. -/
  | collecting (finish : Nat) (outcome : Outcome (List Metric))

/-- A source of metrics: its next collection, with the time that it takes. -/
abbrev Source (ς : Type) := ς → ς × Nat × Outcome (List Metric)

/-- One caller of a stage. -/
structure StageCall (μ : Type) where
  /-- Its number. -/
  caller : CallerId
  /-- How long it waits for an answer. -/
  timeout : Nat
  /-- How far it has got. -/
  phase : Worker.Phase μ

/-- An agent and all it deals with. -/
structure Stage (α ρ μ ς : Type) where
  /-- The time. -/
  now : Nat
  /-- The agent. -/
  agent : α
  /-- What it calls its worker. -/
  workerName : String
  /-- Its exporter. -/
  exporter : ScriptedExporter ρ
  /-- The names of the workers that have exported. -/
  workers : List String
  /-- Where metrics come from. -/
  source : ς
  /-- How they are collected. -/
  collect : Source ς
  /-- How many collections have begun. -/
  collections : Nat
  /-- What is under way. -/
  progress : Progress
  /-- The callers, in the order in which they came. -/
  callers : List (StageCall μ)
  /-- What was logged. -/
  logs : List LogEntry

namespace Stage

variable {α ρ μ ς : Type} [Agent α ρ μ]

/-- A stage on which nothing has happened. -/
def opened (agent : α) (workerName : String) (exporter : ScriptedExporter ρ) (source : ς)
    (collect : Source ς) : Stage α ρ μ ς :=
  ⟨0, agent, workerName, exporter, [], source, collect, 0, .none, [], []⟩

/-- The stage with the agent after a step of its own. -/
def withStep (s : Stage α ρ μ ς) (step : α × List LogEntry) : Stage α ρ μ ς :=
  { s with agent := step.1, logs := s.logs ++ step.2 }

/-! ## The world outside -/

/-- Ends an exporter call. -/
def endCall (s : Stage α ρ μ ς) (call : ExporterCall ρ) : Stage α ρ μ ς :=
  let (exporter, outcome) := s.exporter.finish call
  { s with exporter := exporter, progress := .none }.withStep (Agent.returned s.agent outcome)

/-- Begins an exporter call, and ends it unless it is held up. -/
def beginCall (s : Stage α ρ μ ς) (call : ExporterCall ρ) : Stage α ρ μ ς :=
  let workers := match call with
    | .deliver _ => if s.workers.contains s.workerName then s.workers else s.workers ++ [s.workerName]
    | _ => s.workers
  let s := { s with exporter := s.exporter.begin call, workers := workers }
  if s.exporter.holds call then { s with progress := .held } else s.endCall call

/-- Ends a collection. -/
def endCollection (s : Stage α ρ μ ς) (outcome : Outcome (List Metric)) : Stage α ρ μ ς :=
  { s with progress := .none }.withStep (Agent.collected s.agent s.now outcome)

/-- Begins a collection, and ends it unless it takes time. -/
def beginCollection (s : Stage α ρ μ ς) : Stage α ρ μ ς :=
  let (source, duration, outcome) := s.collect s.source
  let s := { s with source := source, collections := s.collections + 1 }
  if duration = 0 then s.endCollection outcome
  else { s with progress := .collecting (s.now + duration) outcome }

/-- Goes on with what the agent has asked for, if it can go on. -/
def work? (s : Stage α ρ μ ς) : Option (Stage α ρ μ ς) :=
  match Agent.work? s.agent, s.progress with
  | some (.call call), .none => some (s.beginCall call)
  | some (.call call), .held => if s.exporter.holds call then none else some (s.endCall call)
  | some .collection, .none => some s.beginCollection
  | some .collection, .collecting finish outcome =>
    if finish ≤ s.now then some (s.endCollection outcome) else none
  | _, _ => none

/-! ## Callers -/

/-- One step of the first caller that can do one. -/
def stepCaller? (now : Nat) (d : Desk μ) : List (StageCall μ) → Option (Desk μ × List (StageCall μ))
  | [] => none
  | c :: rest =>
    match c.phase.step? d c.caller c.timeout now with
    | some (d, phase) => some (d, { c with phase := phase } :: rest)
    | none => (stepCaller? now d rest).map fun (d, rest) => (d, c :: rest)
termination_by structural callers => callers

/-- The first caller whose time is up gives up. -/
def giveUp? (now : Nat) : List (StageCall μ) → Option (List (StageCall μ))
  | [] => none
  | c :: rest =>
    if c.phase.deadline?.any (· ≤ now) then
      c.phase.giveUp?.map fun phase => { c with phase := phase } :: rest
    else (giveUp? now rest).map (c :: ·)
termination_by structural callers => callers

/-! ## Settling -/

/-- The next thing that happens at the present time, if anything does. -/
def step? (s : Stage α ρ μ ς) : Option (Stage α ρ μ ς) :=
  match Agent.advance? s.agent s.now with
  | some step => some (s.withStep step)
  | none =>
    match s.work? with
    | some s => some s
    | none =>
      match stepCaller? s.now (Agent.desk s.agent) s.callers with
      | some (desk, callers) =>
        some { s with agent := Agent.withDesk s.agent desk, callers := callers }
      | none => (giveUp? s.now s.callers).map fun callers => { s with callers := callers }

/-- More steps than anything does at one time. -/
def patience : Nat := 10000000

/-- Lets everybody do what they can, for at most so many steps. -/
def settleFor : Nat → Stage α ρ μ ς → Stage α ρ μ ς
  | 0, s => s
  | fuel + 1, s =>
    match s.step? with
    | some s => settleFor fuel s
    | none => s
termination_by structural fuel => fuel

/-- Lets everybody do what they can. -/
def settle (s : Stage α ρ μ ς) : Stage α ρ μ ς := settleFor patience s

/-! ## Time -/

/-- The times at which something may happen by itself. -/
def events (s : Stage α ρ μ ς) : List Nat :=
  (Agent.alarm? s.agent).toList
    ++ (match s.progress with
      | .collecting finish _ => [finish]
      | _ => [])
    ++ s.callers.filterMap (·.phase.deadline?)

/-- The next time after the present at which something may happen, or the limit if that is
sooner. -/
def nextTime (s : Stage α ρ μ ς) (limit : Nat) : Nat :=
  (s.events.filter (s.now < ·)).foldl min limit

/-- Lets time pass until something holds or the limit is reached, for at most so many events. -/
def runFor (holds : Stage α ρ μ ς → Bool) (limit : Nat) : Nat → Stage α ρ μ ς → Stage α ρ μ ς
  | 0, s => s
  | fuel + 1, s =>
    let s := s.settle
    if holds s || limit ≤ s.now then s else runFor holds limit fuel { s with now := s.nextTime limit }
termination_by structural fuel => fuel

/-- Lets time pass until something holds, but at most for a time, and tells whether it holds. -/
def runUntil (s : Stage α ρ μ ς) (holds : Stage α ρ μ ς → Bool) (duration : Nat) : Stage α ρ μ ς × Bool :=
  let s := runFor holds (s.now + duration) patience s
  (s, holds s)

/-- Lets time pass. -/
def wait (s : Stage α ρ μ ς) (duration : Nat) : Stage α ρ μ ς := (s.runUntil (fun _ => false) duration).1

/-! ## What a simulation can do -/

/-- Does something to the agent from outside. -/
def act (s : Stage α ρ μ ς) (f : α → α) : Stage α ρ μ ς :=
  let changed : Stage α ρ μ ς := { s with agent := f s.agent }
  changed.settle

/-- Puts a call to the agent, and gives its number. -/
def call (s : Stage α ρ μ ς) (timeout : Nat) (phase : Worker.Phase μ) : Stage α ρ μ ς × CallerId :=
  let id := s.callers.length
  let called : Stage α ρ μ ς := { s with callers := s.callers ++ [⟨id, timeout, phase⟩] }
  (called.settle, id)

/-- The result of a call, if it has ended. -/
def result? (s : Stage α ρ μ ς) (id : CallerId) : Option PipelineResult :=
  s.callers[id]?.bind (·.phase.result?)

/-- More time than any call takes. -/
def longTime : Nat := 1000000000

/-- Puts a call to the agent and waits for its result. -/
def callAndWait (s : Stage α ρ μ ς) (timeout : Nat) (phase : Worker.Phase μ) :
    Stage α ρ μ ς × PipelineResult :=
  let (s, id) := s.call timeout phase
  let (s, _) := s.runUntil (fun s => (s.result? id).isSome) longTime
  (s, (s.result? id).getD (.error .timeout))

/-- Waits for the results of several calls. -/
def join (s : Stage α ρ μ ς) (ids : List CallerId) : Stage α ρ μ ς × List PipelineResult :=
  let (s, _) := s.runUntil (fun s => ids.all fun id => (s.result? id).isSome) longTime
  (s, ids.map fun id => (s.result? id).getD (.error .timeout))

/-- Holds exports up, or lets them go on. -/
def setHeld (s : Stage α ρ μ ς) (held : Bool) : Stage α ρ μ ς :=
  let changed : Stage α ρ μ ς := { s with exporter := { s.exporter with held := held } }
  changed.settle

/-- Whether the worker has left. -/
def hasLeft (s : Stage α ρ μ ς) : Bool := (Agent.desk s.agent).hasLeft

/-- The life of the worker. -/
def lifecycle (s : Stage α ρ μ ς) : Worker.Lifecycle := (Agent.desk s.agent).lifecycle

/-- How long a simulation waits for something to come about. -/
def waitingTime : Nat := 3000

/-- Waits until something has come about, and tells whether it has. -/
def await (s : Stage α ρ μ ς) (holds : Stage α ρ μ ς → Bool) : Stage α ρ μ ς × Bool :=
  s.runUntil holds waitingTime

/-- Lets go of the agent and waits until its worker has left, and tells whether it has. -/
def drop (s : Stage α ρ μ ς) : Stage α ρ μ ς × Bool :=
  let dropped : Stage α ρ μ ς := { s with agent := Agent.drop s.agent }
  dropped.await hasLeft

end Stage

/-! ## Sources -/

/-- The collections of a source that was told them beforehand, each with the time that it takes. -/
abbrev ScriptedSource := List (Nat × Outcome (List Metric))

/-- The next collection of a scripted source.  After the last one there are no metrics. -/
def ScriptedSource.collect : Source ScriptedSource
  | [] => ([], 0, .returned [])
  | (duration, outcome) :: rest => (rest, duration, outcome)

end Telemetry.Simulation
