import Telemetry.Propagation.Relay
import Telemetry.Proofs.Propagation.Formats

/-!
# The identity of a trace

What arrives of a span context is decided by the formats that the reader shares with the writer, in
the order in which the reader goes through them.  Each of them gives the same ids and the same
sampling decision, so that it only matters whether there is one.  The trace state is the exception:
the last reader decides whether it is kept.

A hop that takes no sampling decision of its own passes on what it has read, possibly with a span of
its own.  So a trace keeps its id and its sampling decision along a chain in which each hop reads a
format that the one before it writes (`Hop.Linked`).
-/

namespace Telemetry

namespace Propagator

/-- The formats that a reader finds in what a writer has written, in the order of the reader. -/
def shared (writer reader : Propagator) : List Format := reader.formats.filter (· ∈ writer.formats)

theorem shared_eq_nil_iff {p q : Propagator} : p.shared q = [] ↔ ∀ f ∈ p.formats, f ∉ q.formats := by
  rw [shared, List.filter_eq_nil_iff]
  exact ⟨fun h f hp hq => h f hq (decide_eq_true hp), fun h f hq hp => h f (of_decide_eq_true hp) hq⟩

variable {γ : Type} [HeaderSource γ] [HeaderSink γ] [MapCarrier γ] {cx : Context} {blank : γ}

theorem reads_inject (hv : cx.span.isValid = true) (hb : Blank blank) (p : Propagator) (s : SpanContext)
    (f : Format) : f.reads (p.inject cx blank) s = if f ∈ p.formats then f.received cx.span else s := by
  rw [Format.reads, carried?_inject hv hb]
  split <;> rfl

/-- The last format that is shared decides what is read. -/
theorem foldl_reads (hv : cx.span.isValid = true) (hb : Blank blank) (p : Propagator) (s : SpanContext)
    (fs : List Format) : fs.foldl (Format.reads (p.inject cx blank)) s =
      ((fs.filter (· ∈ p.formats)).getLast?.map (Format.received cx.span)).getD s := by
  induction fs using List.reverseRecOn with
  | nil => rfl
  | append_singleton fs f ih =>
      rw [List.foldl_append, List.foldl_cons, List.foldl_nil, reads_inject hv hb, List.filter_append]
      by_cases hf : f ∈ p.formats
      · have hone : [f].filter (· ∈ p.formats) = [f] := List.filter_eq_self.mpr (by simpa using hf)
        rw [if_pos hf, hone, List.getLast?_concat]
        rfl
      · have hnone : [f].filter (· ∈ p.formats) = [] := by simpa using hf
        rw [if_neg hf, ih, hnone, List.append_nil]

theorem span_extract_inject (hv : cx.span.isValid = true) (hb : Blank blank) (p q : Propagator)
    (cx₀ : Context) : (q.extract (p.inject cx blank) cx₀).span =
      ((p.shared q).getLast?.map (Format.received cx.span)).getD cx₀.span := by
  rw [span_extract, foldl_reads hv hb]
  rfl

/-- What a reader finds that shares a format with the writer. -/
theorem exists_received (hv : cx.span.isValid = true) (hb : Blank blank) {p q : Propagator}
    (hs : ∃ f ∈ p.formats, f ∈ q.formats) (cx₀ : Context) : ∃ f, (p.shared q).getLast? = some f ∧
      (q.extract (p.inject cx blank) cx₀).span = f.received cx.span := by
  obtain ⟨f, hp, hq⟩ := hs
  have hne : p.shared q ≠ [] := fun hnil => shared_eq_nil_iff.mp hnil f hp hq
  have hlast := List.getLast?_eq_some_getLast hne
  exact ⟨_, hlast, by rw [span_extract_inject hv hb, hlast]; rfl⟩

end Propagator

/-! ## Chains -/

namespace Hop

/-- Whether a hop leaves the trace as it is: it takes no sampling decision, and if it opens a span,
that span has an id. -/
def Passes (hop : Hop) : Prop := hop.sampled = none ∧ ∀ id ∈ hop.span, id.isValid = true

/-- Whether each hop reads a format that the one before it writes. -/
def Linked (writing : Propagator) : List Hop → Prop
  | [] => True
  | hop :: rest => (∃ f ∈ writing.formats, f ∈ hop.reading.formats) ∧ Linked hop.writing rest

/-- Whether two span contexts belong to one trace and agree about sampling it. -/
def SameTrace (s r : SpanContext) : Prop := r.traceId = s.traceId ∧ r.isSampled = s.isSampled

theorem span_setMember (cx : Context) (member : String × String) :
    ∃ state, (setMember cx member).span = { cx.span with state := state } := by
  unfold setMember
  split
  next state _ => exact ⟨state, Context.span_withSpan ..⟩
  next => exact ⟨cx.span.state, rfl⟩

theorem span_setMembers (members : List (String × String)) (cx : Context) :
    ∃ state, (members.foldl setMember cx).span = { cx.span with state := state } := by
  induction members generalizing cx with
  | nil => exact ⟨cx.span.state, rfl⟩
  | cons member members ih =>
      obtain ⟨first, hf⟩ := span_setMember cx member
      obtain ⟨state, hs⟩ := ih (setMember cx member)
      exact ⟨state, by rw [List.foldl_cons, hs, hf]⟩

theorem span_addBaggage (cx : Context) (pairs : List (String × String)) :
    (addBaggage cx pairs).span = cx.span := by
  unfold addBaggage
  split
  next => rfl
  next => exact Context.span_withBaggage ..

/-- A hop that passes a trace on works in it. -/
theorem Passes.amend {hop : Hop} (h : hop.Passes) {cx : Context} (hv : cx.span.isValid = true) :
    SameTrace cx.span (hop.amend cx).span ∧ (hop.amend cx).span.isValid = true := by
  obtain ⟨hsampled, hspan⟩ := h
  obtain ⟨state, hs⟩ := span_setMembers hop.state (addBaggage cx hop.baggage)
  rw [span_addBaggage] at hs
  unfold Hop.amend
  rw [hsampled]
  cases hid : hop.span with
  | none =>
      dsimp only
      rw [hs]
      exact ⟨⟨rfl, rfl⟩, hv⟩
  | some id =>
      dsimp only
      rw [Context.span_withSpan, hs]
      refine ⟨⟨rfl, rfl⟩, ?_⟩
      have htrace : cx.span.traceId.isValid = true := (Bool.and_eq_true _ _ ▸ hv).1
      show (cx.span.traceId.isValid && id.isValid) = true
      rw [htrace, hspan id hid]
      rfl

variable {γ : Type} [HeaderSource γ] [HeaderSink γ] [MapCarrier γ]

theorem sameTrace_relay {hops : List (Hop × γ)} {p : Propagator} {cx before : Context} {blank : γ}
    {s : SpanContext} (hs : SameTrace s cx.span) (hv : cx.span.isValid = true) (hb : Blank blank)
    (hlink : Linked p (hops.map (·.1))) (hhops : ∀ h ∈ hops, h.1.Passes ∧ Blank h.2) :
    ∀ r ∈ relay before (p.inject cx blank) hops, SameTrace s r.1.span := by
  induction hops generalizing p cx before blank with
  | nil => exact fun r hr => nomatch hr
  | cons h hops ih =>
      obtain ⟨hop, blank'⟩ := h
      obtain ⟨hshare, hlink⟩ := hlink
      obtain ⟨hpass, hb'⟩ := hhops (hop, blank') List.mem_cons_self
      obtain ⟨f, -, hf⟩ :=
        Propagator.exists_received hv hb hshare (if hop.keepsContext then before else .empty)
      have hread : (hop.read before (p.inject cx blank)).span = f.received cx.span := hf
      have hsame : SameTrace s (hop.read before (p.inject cx blank)).span := by
        rw [hread]
        refine ⟨hs.1, ?_⟩
        rw [← hs.2]
        show cx.span.flags.masked.isSampled = cx.span.flags.isSampled
        rw [TraceFlags.masked_eq]
        cases cx.span.flags.isSampled <;> rfl
      have hvalid : (hop.read before (p.inject cx blank)).span.isValid = true := by
        rw [hread]
        exact hv
      obtain ⟨hamend, hvalid'⟩ := hpass.amend hvalid
      intro r hr
      rcases List.mem_cons.mp hr with rfl | hr
      · exact hsame
      · exact ih ⟨hamend.1.trans hsame.1, hamend.2.trans hsame.2⟩ hvalid' hb' hlink
          (fun h hh => hhops h (List.mem_cons_of_mem _ hh)) r hr

end Hop

/-! ## Pairs of propagators -/

section Pairs

variable {γ : Type} [HeaderSource γ] [HeaderSink γ] [MapCarrier γ]

/-- What one propagator writes into a blank carrier is read by another one, whatever both are.  If they
share a format, the ids and the sampled bit arrive and no other flag does, and the trace state does if
the last shared format of the reader is that of the trace context headers.  Else nothing arrives.  So
along linked hops the trace and the decision to sample it stay the same. -/
theorem trace_identity_survives (p q : Propagator) {cx : Context} (cx₀ : Context) {blank : γ}
    (hv : cx.span.isValid = true) (hstate : ∃ header, cx.span.state = .ofHeader header)
    (hb : Blank blank) :
    ((∃ f ∈ p.formats, f ∈ q.formats) →
      (q.extract (p.inject cx blank) cx₀).span.traceId = cx.span.traceId ∧
      (q.extract (p.inject cx blank) cx₀).span.spanId = cx.span.spanId ∧
      (q.extract (p.inject cx blank) cx₀).span.isRemote = true ∧
      (q.extract (p.inject cx blank) cx₀).span.flags =
        (if cx.span.isSampled then TraceFlags.sampled else TraceFlags.none) ∧
      (q.extract (p.inject cx blank) cx₀).span.state =
        if (q.formats.filter (· ∈ p.formats)).getLast? = some .traceContext then cx.span.state
        else .empty) ∧
    ((∀ f ∈ p.formats, f ∉ q.formats) → (q.extract (p.inject cx blank) cx₀).span = cx₀.span) ∧
    ∀ hops : List (Hop × γ), Hop.Linked p (hops.map (·.1)) → (∀ h ∈ hops, h.1.Passes ∧ Blank h.2) →
      ∀ r ∈ relay cx₀ (p.inject cx blank) hops,
        r.1.span.traceId = cx.span.traceId ∧ r.1.span.isSampled = cx.span.isSampled := by
  refine ⟨fun hs => ?_, fun hno => ?_, fun hops hlink hhops => ?_⟩
  · obtain ⟨f, hlast, hf⟩ := Propagator.exists_received hv hb hs cx₀
    obtain ⟨header, hh⟩ := hstate
    have hagain : TraceState.ofHeader cx.span.state.header = cx.span.state := by
      rw [hh, TraceState.ofHeader_header]
    rw [hf]
    refine ⟨rfl, rfl, rfl, TraceFlags.masked_eq _, ?_⟩
    show (if f = .traceContext then TraceState.ofHeader cx.span.state.header else .empty) = _
    rw [hagain]
    refine if_congr ?_ rfl rfl
    rw [show (q.formats.filter (· ∈ p.formats)).getLast? = some f from hlast, Option.some.injEq]
  · rw [Propagator.span_extract_inject hv hb, Propagator.shared_eq_nil_iff.mpr hno]
    rfl
  · exact Hop.sameTrace_relay ⟨rfl, rfl⟩ hv hb hlink hhops

/-- The trace context headers are read, but B3 has the last word and has no trace state.  Then the
trace goes on over Jaeger to a service that samples as it is told. -/
theorem trace_identity_survives_three_formats :
    ∃ (cx : Context) (p q : Propagator) (hops : List (Hop × HeaderMap)),
      cx.span = ⟨⟨0xab⟩, ⟨0xcd⟩, ⟨0xff⟩, false, .ofHeader "a=1, b=2"⟩ ∧ hops.length = 2 ∧
      (q.extract (p.inject cx HeaderMap.empty) .empty).span.flags = .sampled ∧
      (q.extract (p.inject cx HeaderMap.empty) .empty).span.state = .empty ∧
      ∀ r ∈ relay .empty (p.inject cx HeaderMap.empty) hops,
        r.1.span.traceId = ⟨0xab⟩ ∧ r.1.span.isSampled = true := by
  obtain ⟨cx, hs⟩ : ∃ cx : Context, cx.span = ⟨⟨0xab⟩, ⟨0xcd⟩, ⟨0xff⟩, false, .ofHeader "a=1, b=2"⟩ :=
    ⟨_, Context.span_withSpan .empty _⟩
  obtain ⟨hshared, -, hchain⟩ := trace_identity_survives
    (.composite [.b3 .single, .baggage, .composite [.traceContext]])
    (.composite [.jaeger, .traceContext, .b3 .multiple]) .empty
    (by rw [hs]; decide) ⟨_, by rw [hs]⟩ HeaderMap.blank_empty
  obtain ⟨-, -, -, hflags, hstate⟩ := hshared ⟨.b3, by decide, by decide⟩
  rw [hs] at hflags hchain
  refine ⟨cx, _, _, [(⟨false, .b3 .both, [], [("c", "3")], some ⟨0xef⟩, none, .jaeger⟩, .empty),
    (⟨true, .jaeger, [("k", "v")], [], none, none, .noop⟩, .empty)], hs, rfl, hflags, hstate,
    hchain _ ⟨⟨.b3, by decide, by decide⟩, ⟨.jaeger, by decide, by decide⟩, trivial⟩ fun h hh => ?_⟩
  rcases List.mem_pair.mp hh with rfl | rfl
  · exact ⟨⟨rfl, by decide⟩, HeaderMap.blank_empty⟩
  · exact ⟨⟨rfl, by decide⟩, HeaderMap.blank_empty⟩

end Pairs

end Telemetry
