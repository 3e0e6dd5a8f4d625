import Telemetry.Propagation.Propagator

/-!
# Relays

A request goes through a chain of services.  Each *hop* reads the headers of the request into a
context, works under that context, which may add to it, and writes the headers of the request that
it makes itself.
-/

namespace Telemetry

/-- One service on the way of a request. -/
structure Hop where
  /-- Whether it starts from the context of the service before, instead of an empty one. -/
  keepsContext : Bool
  /-- How it reads headers. -/
  reading : Propagator
  /-- The baggage that it adds. -/
  baggage : List (String × String)
  /-- The members that it sets in the trace state, as far as they are well formed. -/
  state : List (String × String)
  /-- The span that it works in, if it opens one. -/
  span : Option SpanId
  /-- The sampling decision that it takes, if it takes one. -/
  sampled : Option Bool
  /-- How it writes headers. -/
  writing : Propagator

namespace Hop

/-- The context with baggage added. -/
def addBaggage (cx : Context) (pairs : List (String × String)) : Context :=
  if pairs.isEmpty then cx else cx.withBaggage (cx.baggage.insertAll pairs)

/-- The context with a member set in the trace state, if the member is well formed. -/
def setMember (cx : Context) (member : String × String) : Context :=
  match cx.span.state.insert? member.1 member.2 with
  | some state => cx.withSpan { cx.span with state := state }
  | none => cx

/-- The context in which a hop writes headers, from the one that it has read. -/
def amend (hop : Hop) (cx : Context) : Context :=
  let cx := hop.state.foldl setMember (addBaggage cx hop.baggage)
  let cx := match hop.span with
    | some id => cx.withSpan { cx.span with spanId := id, isRemote := false }
    | none => cx
  match hop.sampled with
  | some s => cx.withSpan { cx.span with flags := cx.span.flags.withSampled s }
  | none => cx

/-- The context that a hop reads, when the service before has ended with another one. -/
def read {γ : Type} [HeaderSource γ] (hop : Hop) (before : Context) (c : γ) : Context :=
  hop.reading.extract c (if hop.keepsContext then before else .empty)

end Hop

/-- Sends headers through a chain of hops, each of which writes into an empty carrier of its own.
Gives what each hop has read and what it has written. -/
def relay {γ : Type} [HeaderSource γ] [HeaderSink γ] (before : Context) (c : γ) :
    List (Hop × γ) → List (Context × γ)
  | [] => []
  | (hop, blank) :: rest =>
    let read := hop.read before c
    let amended := hop.amend read
    let written := hop.writing.inject amended blank
    (read, written) :: relay amended written rest
termination_by structural hops => hops

end Telemetry
