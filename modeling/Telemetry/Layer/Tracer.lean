import Telemetry.Context.Execution
import Telemetry.Layer.Field
import Telemetry.Layer.Registry
import Telemetry.Trace.Span

/-!
# From spans to records

A *tracer* follows the spans that instrumented code opens, and makes a record of each when it
closes.  What it keeps of a span until then is a *sketch*.

A new span belongs to a trace.  If its parent span has a sketch, the span continues that one: it has
its trace, its flags and its trace state, and the parent's id as parent.  Otherwise it continues the
span of the current context if there is one, which may live in another service.  Otherwise it starts
a trace of its own, which is sampled.

Spans of the library itself have no sketch, so that no record comes of the making of records.  Only
the parent span itself is asked for a sketch, and no span further up.

While a span is open, its declared fields may be written, and an event of level `error` in it makes
it a failed one.  Of several such events the last counts.  When it closes a record is made, but only
of a span that is sampled.

The tracer draws no ids and reads no clock.  A new span is given fresh ids and a time, and so every
run is a function of its steps (`Tracer.run`).
-/

namespace Telemetry

/-! ## Spans of the library -/

/-- The parts of the library whose spans and events are not followed. -/
def libraryTargets : List String := ["tributary_engine", "tributary::exporter"]

/-- Whether a target is a part of the program or lies within it. -/
def Target.isWithin (target part : String) : Bool :=
  target == part || (part ++ "::").toList.isPrefixOf target.toList

/-- Whether a target is one of the library. -/
def Target.isInternal (target : String) : Bool := libraryTargets.any (Target.isWithin target)

/-! ## Sketches -/

/-- What is kept of a span until it closes. -/
structure SpanSketch where
  /-- Who it is. -/
  context : SpanContext
  /-- The span it is part of. -/
  parentId : Option SpanId
  /-- When it began. -/
  start : Time
  /-- What was noted of it. -/
  attributes : Attributes
  /-- How it ends. -/
  status : Status
deriving DecidableEq

/-- Ids that no span has, for a new span and for a trace that it may start. -/
structure FreshIds where
  /-- The id of a trace. -/
  traceId : TraceId
  /-- The id of a span. -/
  spanId : SpanId
deriving DecidableEq, Repr

namespace SpanSketch

/-- The sketch of a span that continues another one. -/
def continuing (origin : SpanContext) (fresh : FreshIds) (attributes : Attributes) (now : Time) :
    SpanSketch :=
  ⟨⟨origin.traceId, fresh.spanId, origin.flags, false, origin.state⟩, some origin.spanId, now, attributes,
    .unset⟩

/-- The sketch of a span that starts a trace. -/
def starting (fresh : FreshIds) (attributes : Attributes) (now : Time) : SpanSketch :=
  ⟨⟨fresh.traceId, fresh.spanId, .sampled, false, .empty⟩, none, now, attributes, .unset⟩

end SpanSketch

/-- A span that the tracer follows. -/
structure TracedSpan where
  /-- What it is called. -/
  name : String
  /-- The part of the program it comes from. -/
  target : String
  /-- The names of the fields that it may have. -/
  declared : List String
  /-- What is kept of it, unless it is one of the library. -/
  sketch : Option SpanSketch
deriving DecidableEq

namespace TracedSpan

/-- The span with a change to what is kept of it. -/
def mapSketch (s : TracedSpan) (f : SpanSketch → SpanSketch) : TracedSpan :=
  { s with sketch := s.sketch.map f }

/-- The span with some of its fields written.  Names that it has not declared are left out. -/
def noting (s : TracedSpan) (fields : Fields) : TracedSpan :=
  s.mapSketch fun k => { k with attributes := k.attributes.notingAll (fields.among s.declared) }

/-- The span as a failed one. -/
def failing (s : TracedSpan) (message : String) : TracedSpan :=
  s.mapSketch fun k => { k with status := .error message }

/-- The record of the span when it closes, if it is followed and sampled. -/
def record? (s : TracedSpan) (now : Time) : Option SpanRecord :=
  match s.sketch with
  | none => none
  | some k =>
    if k.context.isSampled then
      some ⟨k.context.traceId, k.context.spanId, k.parentId, k.context.flags, s.name, s.target, k.start, now,
        k.attributes, k.status⟩
    else none

end TracedSpan

/-! ## The tracer -/

/-- Where a new span or an event stands among the open spans. -/
inductive Parentage where
  /-- In the current span. -/
  | current
  /-- In no span. -/
  | root
  /-- In a span that is named. -/
  | within (key : SpanKey)
deriving DecidableEq, Repr

/-- The spans that are followed, and the contexts that are attached. -/
structure Tracer where
  /-- The spans. -/
  spans : Registry TracedSpan
  /-- The contexts. -/
  contexts : Execution

namespace Tracer

/-- No span is open and no context attached. -/
def initial : Tracer := ⟨.empty, .initial⟩

instance : Inhabited Tracer := ⟨initial⟩

/-- Where the instrumented code runs. -/
def place : Place := .onThread Execution.mainThread

/-- The span that something stands in. -/
def enclosing? (t : Tracer) : Parentage → Option SpanKey
  | .current => t.spans.current?
  | .root => none
  | .within key => some key

/-- What is kept of an open span. -/
def sketch? (t : Tracer) (key : SpanKey) : Option SpanSketch := (t.spans.content? key).bind (·.sketch)

/-- The attached context that is current. -/
def attached (t : Tracer) : Context := t.contexts.current place

/-- The current context, with the current span as its span if that is followed. -/
def currentContext (t : Tracer) : Context :=
  match t.spans.current?.bind t.sketch? with
  | some s => t.attached.withSpan s.context
  | none => t.attached

/-- What a new span with a parent continues. -/
def origin? (t : Tracer) (parent : Option SpanKey) : Option SpanContext :=
  match parent.bind t.sketch? with
  | some s => some s.context
  | none => if t.attached.span.isValid then some t.attached.span else none

/-! ## Spans -/

/-- The sketch of a new span. -/
def newSketch (t : Tracer) (parent : Option SpanKey) (fields : Fields) (fresh : FreshIds) (now : Time) :
    SpanSketch :=
  let attributes := Attributes.notingAll .empty fields
  match t.origin? parent with
  | some origin => .continuing origin fresh attributes now
  | none => .starting fresh attributes now

/-- Opens a span.  Its number is the next one of the registry. -/
def openSpan (t : Tracer) (name target : String) (fields : Fields) (parentage : Parentage)
    (fresh : FreshIds) (now : Time) : Tracer :=
  let parent := t.enclosing? parentage
  let sketch := if Target.isInternal target then none else some (t.newSketch parent fields fresh now)
  { t with spans := (t.spans.insert parent ⟨name, target, fields.names, sketch⟩).1 }

/-- Writes fields of a span. -/
def note (t : Tracer) (key : SpanKey) (fields : Fields) : Tracer :=
  { t with spans := t.spans.modify key (·.noting fields) }

/-- Notes an event.  An event that is no error, or one of the library, leaves no trace. -/
def event (t : Tracer) (level : Level) (target : String) (fields : Fields) (parentage : Parentage) :
    Tracer :=
  if Target.isInternal target || level != .error then t
  else
    match t.enclosing? parentage with
    | some key => { t with spans := t.spans.modify key (·.failing fields.message) }
    | none => t

/-- Enters a span. -/
def enter (t : Tracer) (key : SpanKey) : Tracer := { t with spans := t.spans.enter key }

/-- Leaves a span. -/
def leave (t : Tracer) (key : SpanKey) : Tracer := { t with spans := t.spans.leave key }

/-- Makes one more handle of a span. -/
def share (t : Tracer) (key : SpanKey) : Tracer := { t with spans := t.spans.hold key }

/-- Drops a handle of a span.  Gives the spans that close by it, children first. -/
def release (t : Tracer) (key : SpanKey) : Tracer × List TracedSpan :=
  let (spans, closed) := t.spans.release key
  ({ t with spans := spans }, closed.map (·.content))

/-! ## Contexts -/

/-- Makes a context current. -/
def attach (t : Tracer) (cx : Context) : Tracer × ContextGuard :=
  let (contexts, guard) := t.contexts.attach place cx
  ({ t with contexts := contexts }, guard)

/-- Drops a guard. -/
def detach (t : Tracer) (guard : ContextGuard) : Tracer :=
  { t with contexts := (t.contexts.detach place guard).1 }

/-! ## Runs -/

/-- What instrumented code does. -/
inductive Step where
  /-- It opens a span. -/
  | openSpan (name target : String) (fields : Fields) (parentage : Parentage) (fresh : FreshIds)
      (now : Time)
  /-- It writes fields of a span. -/
  | note (key : SpanKey) (fields : Fields)
  /-- It reports an event. -/
  | event (level : Level) (target : String) (fields : Fields) (parentage : Parentage)
  /-- It enters a span. -/
  | enter (key : SpanKey)
  /-- It leaves a span. -/
  | leave (key : SpanKey)
  /-- It makes one more handle of a span. -/
  | share (key : SpanKey)
  /-- It drops a handle of a span. -/
  | release (key : SpanKey) (now : Time)
  /-- It attaches a context. -/
  | attach (cx : Context)
  /-- It drops the guard of a context. -/
  | detach (guard : ContextGuard)

/-- One step, and the records that are made by it. -/
def step (t : Tracer) : Step → Tracer × List SpanRecord
  | .openSpan name target fields parentage fresh now =>
    (t.openSpan name target fields parentage fresh now, [])
  | .note key fields => (t.note key fields, [])
  | .event level target fields parentage => (t.event level target fields parentage, [])
  | .enter key => (t.enter key, [])
  | .leave key => (t.leave key, [])
  | .share key => (t.share key, [])
  | .release key now =>
    let (t, closed) := t.release key
    (t, closed.filterMap (·.record? now))
  | .attach cx => ((t.attach cx).1, [])
  | .detach guard => (t.detach guard, [])

/-- Several steps, and the records that are made by them in order. -/
def run (t : Tracer) : List Step → Tracer × List SpanRecord
  | [] => (t, [])
  | s :: rest =>
    let (t, made) := t.step s
    let (t, later) := run t rest
    (t, made ++ later)
termination_by structural steps => steps

end Tracer

/-! ## Tests -/

section Tests

example : ["tributary_engine", "tributary_engine::a", "tributary::exporter"].map Target.isInternal
    = [true, true, true] := by decide +kernel
example : ["tributary", "tributary_engineering::jobs", "tributary::exporters", ""].map Target.isInternal
    = [false, false, false, false] := by decide +kernel

/-- Steps that open a span, enter it, fail in it and open a child that outlives it. -/
def nestedSteps : List Tracer.Step :=
  [.openSpan "outer" "app" [("n", some (.i64 1))] .current ⟨⟨1⟩, ⟨2⟩⟩ 10,
    .enter 0,
    .openSpan "inner" "app" [("status", none)] .current ⟨⟨3⟩, ⟨4⟩⟩ 11,
    .event .error "app" [("error", some (.str "late"))] .current,
    .note 1 [("status", some (.u64 200)), ("other", some (.u64 1))],
    .leave 0, .release 0 12, .release 1 13]

example : (Tracer.initial.run nestedSteps).2
    = [⟨⟨1⟩, ⟨4⟩, some ⟨2⟩, .sampled, "inner", "app", 11, 13, .ofList [("status", .u64 200)], .unset⟩,
       ⟨⟨1⟩, ⟨2⟩, none, .sampled, "outer", "app", 10, 13, .ofList [("n", .i64 1)], .error "late"⟩] := by
  decide +kernel

/-- A span under one of the library does not continue what lies above it. -/
example : (Tracer.initial.run
      [.openSpan "outer" "app" [] .root ⟨⟨1⟩, ⟨2⟩⟩ 0, .openSpan "send" "tributary_engine" [] (.within 0) ⟨⟨3⟩, ⟨4⟩⟩ 0,
        .openSpan "inner" "app" [] (.within 1) ⟨⟨5⟩, ⟨6⟩⟩ 0, .release 2 0]).2.map (fun s => (s.traceId, s.parentId))
    = [(⟨5⟩, none)] := by
  decide +kernel

/-- What is not sampled is not recorded. -/
example : (Tracer.initial.run
      [.attach (Context.empty.withSpan (.newRemote ⟨1⟩ ⟨2⟩ .none)), .openSpan "s" "app" [] .root ⟨⟨3⟩, ⟨4⟩⟩ 0,
        .release 0 0]).2 = [] := by
  decide +kernel

end Tests

end Telemetry
