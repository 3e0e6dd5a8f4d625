import Telemetry.Layer.Tracer
import Telemetry.Simulation.Stage

/-!
# From instrumented code to an exporter

A *layer* joins a tracer to a batch processor: the records that the steps of the instrumented code
make are enqueued in order, and the worker of the processor brings them to the exporter.  It is set
up with settings of its own or with those of the environment.

Flushing and shutting down wait as long as the settings allow an export to take.
-/

namespace Telemetry

open Simulation (ScriptedExporter Stage)

/-- A tracer and the processor that its records go to. -/
structure Layer where
  /-- The tracer. -/
  tracer : Tracer
  /-- The processor with its exporter. -/
  stage : Stage (Processor SpanRecord) SpanRecord Nat Unit

namespace Layer

/-- A layer with an exporter.  Settings that are not given come from the environment. -/
def build (settings : Option BatchConfig) (env : Environment) (exporter : ScriptedExporter SpanRecord) :
    Except BuildError Layer :=
  let (config, logs) := match settings with
    | some config => (config, [])
    | none => BatchConfig.ofEnvironment env
  match Processor.build config 0 with
  | .error e => .error e
  | .ok processor =>
    let stage : Stage (Processor SpanRecord) SpanRecord Nat Unit :=
      .opened processor Processor.workerName exporter () fun u => (u, 0, .returned [])
    .ok ⟨.initial, { stage with logs := logs }⟩

/-- One step of the instrumented code.  What it records is enqueued. -/
def step (l : Layer) (s : Tracer.Step) : Layer :=
  let (tracer, records) := l.tracer.step s
  ⟨tracer, l.stage.act fun p => records.foldl Processor.enqueue p⟩

/-- How long a flush or a shutdown waits. -/
def patience (l : Layer) : Nat := l.stage.agent.config.exportTimeout

/-- Exports every span that has closed. -/
def flush (l : Layer) : Layer × PipelineResult :=
  let (stage, result) := l.stage.callAndWait l.patience (.checking l.stage.agent.queue.pushed)
  ({ l with stage := stage }, result)

/-- Exports every span that has closed, and ends. -/
def shutdown (l : Layer) : Layer × PipelineResult :=
  let (stage, result) := l.stage.callAndWait l.patience .locking
  ({ l with stage := stage }, result)

/-- How many records were dropped. -/
def dropped (l : Layer) : Nat := l.stage.agent.dropped

/-- The records that were exported, in order. -/
def exported (l : Layer) : List SpanRecord := l.stage.exporter.memory.batches.flatten

end Layer

end Telemetry
