import Telemetry.Batch.Processor
import Telemetry.Metric.PeriodicReader

/-!
# Agents

A simulation runs anything that works like a batch processor or a periodic reader: a machine with a
desk that goes on by itself until it has to wait, for an exporter call, for a collection, for a
request or for its timer, or until its clock fails it.
-/

namespace Telemetry.Simulation

open Worker (Desk)

/-- What an agent has asked of the world outside. -/
inductive Work (ρ : Type) where
  /-- An exporter call. -/
  | call (call : ExporterCall ρ)
  /-- A collection. -/
  | collection

/-- Machines that a simulation can run. -/
class Agent (α : Type) (ρ μ : outParam Type) where
  /-- What it does next by itself, if it waits for nothing. -/
  advance? : α → Nat → Option (α × List LogEntry)
  /-- What it waits for. -/
  work? : α → Option (Work ρ)
  /-- What it does when an exporter call has ended. -/
  returned : α → Outcome ExportResult → α × List LogEntry
  /-- What it does when a collection has ended. -/
  collected : α → Nat → Outcome (List Metric) → α × List LogEntry
  /-- When its timer goes off. -/
  alarm? : α → Option Nat
  /-- Its desk. -/
  desk : α → Desk μ
  /-- The same machine with another desk. -/
  withDesk : α → Desk μ → α
  /-- The machine when nobody holds it any more. -/
  drop : α → α

instance {ρ : Type} : Agent (Processor ρ) ρ Nat where
  advance? p now := (p.perish?.map (·, [])).or (p.advance? now)
  work? p := p.call?.map .call
  returned := Processor.returned
  collected p _ _ := (p, [])
  alarm? := Processor.alarm?
  desk p := p.desk
  withDesk p d := { p with desk := d }
  drop := Processor.drop

instance : Agent PeriodicReader Metric Unit where
  advance? r now := ((r.perish? now).map (·, [])).or (r.advance? now)
  work? r := if r.isCollecting then some .collection else r.call?.map .call
  returned := PeriodicReader.returned
  collected := PeriodicReader.collected
  alarm? := PeriodicReader.alarm?
  desk r := r.desk
  withDesk r d := { r with desk := d }
  drop := PeriodicReader.drop

end Telemetry.Simulation
