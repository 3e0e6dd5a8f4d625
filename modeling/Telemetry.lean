import Telemetry.Collector.Connection
import Telemetry.Context.Script
import Telemetry.Layer.Pipeline
import Telemetry.Metric.Listing
import Telemetry.Propagation.Relay
import Telemetry.Simulation.MeterSource
import Telemetry.Proofs.Context.Lifetimes
import Telemetry.Proofs.Worker.Front
import Telemetry.Proofs.Worker.Protocol
import Telemetry.Proofs.Worker.Promises
import Telemetry.Proofs.Batch.Account
import Telemetry.Proofs.Batch.Conservation
import Telemetry.Proofs.Batch.Chronicle
import Telemetry.Proofs.Batch.Flush
import Telemetry.Proofs.Batch.Shutdown
import Telemetry.Proofs.Metric.ReaderWorks
import Telemetry.Proofs.Stations
import Telemetry.Proofs.Context.Runtime
import Telemetry.Proofs.Context.Restoration
import Telemetry.Proofs.Context.Frame
import Telemetry.Proofs.Context.Company
import Telemetry.Proofs.Context.Isolation
import Telemetry.Proofs.Propagation.Identity
import Telemetry.Proofs.Propagation.Overlay
import Telemetry.Proofs.Propagation.TraceStates
import Telemetry.Proofs.Propagation.ParentHeaders
import Telemetry.Proofs.Propagation.ByteOrder
import Telemetry.Proofs.Propagation.Escapes
import Telemetry.Proofs.Propagation.BaggageRoundTrip
import Telemetry.Proofs.Metric.Counters
import Telemetry.Proofs.Metric.OpenCollections
import Telemetry.Proofs.Metric.ReaderIsolation
import Telemetry.Proofs.Wire.FrameStream
import Telemetry.Proofs.Wire.Decoding
import Telemetry.Proofs.Collector.Episodes
import Telemetry.Proofs.Layer.History
import Telemetry.Proofs.Layer.SpanTrees
import Telemetry.Proofs.Layer.IgnoredSpans
import Telemetry.Proofs.Layer.Descriptions
import Telemetry.Proofs.Propagation.B3Forms
import Telemetry.Proofs.Propagation.Leftovers
import Telemetry.Proofs.Propagation.Forwarding
import Telemetry.Proofs.Propagation.JaegerItems
import Telemetry.Proofs.Propagation.Lengths
import Telemetry.Proofs.Propagation.JaegerHeaders
import Telemetry.Proofs.Metric.Observables
import Telemetry.Proofs.Metric.ReaderDeeds
import Telemetry.Proofs.Metric.ReaderRounds
import Telemetry.Proofs.Metric.ReaderRuns
import Telemetry.Proofs.Metric.Windows
import Telemetry.Proofs.Metric.MeteredReader
import Telemetry.Proofs.Batch.Wakeups
import Telemetry.Proofs.Batch.Loops
import Telemetry.Proofs.Propagation.StateMembers
import Telemetry.Proofs.Batch.Passes
import Telemetry.Proofs.Batch.Representation
import Telemetry.Proofs.Metric.Differences
import Telemetry.Proofs.Metric.StreamKeys
import Telemetry.Proofs.Propagation.HexIds
