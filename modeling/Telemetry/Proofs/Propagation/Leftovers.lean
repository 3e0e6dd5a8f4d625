import Telemetry.Proofs.Propagation.Formats

/-!
# Headers left over

A service may write its span into headers that another span has been in before, as when a request is sent
on with the headers that it came with.  A carrier can only be written to.  So a header that a propagator
reads, but does not write for the span at hand, stays and is read.

Jaeger's header, and B3 with the single header among what is written, leave nothing that matters.  The
trace context headers do when the span has no trace state, since an empty state is not written.  The
multiple headers of B3 do in two ways: an old single header comes before them, and the debug flag is never
written.
-/

namespace Telemetry

namespace Propagator

/-- The span context that a propagator reads of a carrier when it has written into it. -/
def reread {γ : Type} [HeaderSource γ] [HeaderSink γ] (p : Propagator) (cx : Context) (c : γ)
    (cx₀ : Context) : SpanContext :=
  (p.extract (p.inject cx c) cx₀).span

section Carriers

variable {γ : Type} [HeaderSource γ] [HeaderSink γ] [MapCarrier γ] {cx : Context} {c : γ} (cx₀ : Context)

theorem reads_of_carried? {γ : Type} [HeaderSource γ] {c : γ} {f : Format} {r : SpanContext}
    (h : f.carried? c = some r) (hremote : r.isRemote = true) (s : SpanContext) : f.reads c s = r := by
  rw [Format.reads, h, Option.map_some, Option.getD_some, ← hremote]

/-! ## What is read over old headers -/

theorem reread_jaeger (hv : cx.span.isValid = true) (c : γ) :
    jaeger.reread cx c cx₀ = Format.received cx.span .jaeger := by
  have hheader : HeaderSource.get? (jaeger.inject cx c) Jaeger.headerName =
      some (SpanHeader.value cx.span .jaeger) := get?_inject hv .jaeger jaeger c
  refine (span_extract _ jaeger cx₀).trans (reads_of_carried? ?_ rfl _)
  rw [Format.carried?, hheader, Option.bind_some, SpanHeader.value, String.toList_ofList,
    Jaeger.read?_write hv]
  rfl

theorem reread_b3_single (hv : cx.span.isValid = true) {encoding : B3Encoding}
    (hsingle : encoding.hasSingle = true) (c : γ) :
    (b3 encoding).reread cx c cx₀ = Format.received cx.span .b3 := by
  have hheader : HeaderSource.get? ((b3 encoding).inject cx c) B3.singleName = _ :=
    get?_inject hv .b3Single (b3 encoding) c
  have hmem : SpanHeader.b3Single ∈ (b3 encoding).spanHeaders cx.span :=
    mem_spanHeaders.mpr ⟨_, List.mem_cons_self, (mem_headers _).mpr ⟨encoding, rfl, hsingle⟩⟩
  rw [if_pos hmem] at hheader
  refine (span_extract _ (b3 encoding) cx₀).trans (reads_of_carried? ?_ rfl _)
  rw [Format.carried?, B3.carried?, hheader]
  dsimp only
  rw [SpanHeader.value, String.toList_ofList, B3.readSingle?_writeSingle hv]
  rfl

/-- Without a single header the debug flag is read beside what has been written. -/
theorem reread_b3_multiple (hv : cx.span.isValid = true) (hold : HeaderSource.get? c B3.singleName = none) :
    (b3 .multiple).reread cx c cx₀ = .newRemote cx.span.traceId cx.span.spanId
      (if cx.span.isSampled || HeaderSource.get? c B3.flagsName == some "1" then .sampled else .none) := by
  have hget := fun k => get?_inject hv k (b3 .multiple) c
  have hsingle : HeaderSource.get? ((b3 .multiple).inject cx c) B3.singleName = none :=
    (hget .b3Single).trans hold
  have hflags : HeaderSource.get? ((b3 .multiple).inject cx c) B3.flagsName =
      HeaderSource.get? c B3.flagsName := hget .b3Flags
  refine (span_extract _ (b3 .multiple) cx₀).trans (reads_of_carried? ?_ rfl _)
  rw [Format.carried?, B3.carried?, hsingle]
  dsimp only
  rw [B3.readMultiple?_of_flags hv (hget .b3Trace) (hget .b3Span) (hget .b3Sampled), hflags]

/-- An old single header is what is read, or not read. -/
theorem reread_b3_multiple_of_old (hv : cx.span.isValid = true) {old : String}
    (hold : HeaderSource.get? c B3.singleName = some old) :
    (b3 .multiple).reread cx c cx₀ =
      ((B3.readSingle? old.toList).map fun r => { r with isRemote := true }).getD cx₀.span := by
  have hsingle : HeaderSource.get? ((b3 .multiple).inject cx c) B3.singleName = some old :=
    (get?_inject hv .b3Single (b3 .multiple) c).trans hold
  refine (span_extract _ (b3 .multiple) cx₀).trans ?_
  show Format.reads _ cx₀.span .b3 = _
  rw [Format.reads, Format.carried?, B3.carried?, hsingle]

/-- The trace state that a carrier has in a header of its own. -/
def oldState {γ : Type} [HeaderSource γ] (c : γ) : TraceState :=
  ((HeaderSource.get? c TraceParent.stateHeaderName).map TraceState.ofHeader).getD .empty

theorem oldState_of_blank {γ : Type} [HeaderSource γ] {blank : γ} (hb : Blank blank) :
    oldState blank = .empty := by
  rw [oldState, hb]
  rfl

theorem carriedState_over (hv : cx.span.isValid = true) (hstate : ∃ header, cx.span.state = .ofHeader header)
    (c : γ) : TraceParent.carriedState (traceContext.inject cx c) =
      if cx.span.state = .empty then oldState c else cx.span.state := by
  have hget : HeaderSource.get? (traceContext.inject cx c) TraceParent.stateHeaderName = _ :=
    get?_inject hv .traceState traceContext c
  have hwritten : .traceState ∈ traceContext.spanHeaders cx.span ↔ cx.span.state ≠ .empty := by
    rw [traceState_mem, and_iff_right (by decide), TraceState.isEmpty, List.isEmpty_eq_false_iff]
    exact not_congr ⟨congrArg TraceState.mk, congrArg TraceState.members⟩
  rw [TraceParent.carriedState_map, hget]
  by_cases hempty : cx.span.state = .empty
  · rw [if_neg fun h => hwritten.mp h hempty, if_pos hempty]
    rfl
  · obtain ⟨header, hheader⟩ := hstate
    rw [if_pos (hwritten.mpr hempty), if_neg hempty, Option.map_some, Option.getD_some, SpanHeader.value,
      hheader, TraceState.ofHeader_header]

theorem reread_traceContext (hv : cx.span.isValid = true)
    (hstate : ∃ header, cx.span.state = .ofHeader header) (c : γ) :
    traceContext.reread cx c cx₀ = ⟨cx.span.traceId, cx.span.spanId, cx.span.flags.masked, true,
      if cx.span.state = .empty then oldState c else cx.span.state⟩ := by
  have hparent : HeaderSource.get? (traceContext.inject cx c) TraceParent.headerName = _ :=
    get?_inject hv .traceParent traceContext c
  rw [if_pos (traceParent_mem.mpr (by decide))] at hparent
  refine (span_extract _ traceContext cx₀).trans (reads_of_carried? ?_ rfl _)
  rw [Format.carried?, TraceParent.carried?, hparent, Option.bind_some, SpanHeader.value,
    String.toList_ofList, TraceParent.read?_write hv, carriedState_over hv hstate]

/-! ## What shows through -/

/-- A span is written over whatever a map has in it, and read again by the propagator that wrote it.  For
Jaeger, and for B3 when the single header is written, it is read as from a blank map.  For the trace
context headers only the trace state may be another one: when the span has none, it is the one that was
there, so that nothing shows through if and only if the span has a trace state or there was none.  For the
multiple headers of B3, if there was no single header, only the sampling decision may be another one:
an old debug flag turns it to yes.  If there was a single header, just that is read. -/
theorem reread_over_leftovers (hv : cx.span.isValid = true)
    (hstate : ∃ header, cx.span.state = .ofHeader header) {blank : γ} (hb : Blank blank) (c : γ) :
    (jaeger.reread cx c cx₀ = jaeger.reread cx blank cx₀) ∧
    (∀ encoding, encoding ≠ .multiple →
      (b3 encoding).reread cx c cx₀ = (b3 encoding).reread cx blank cx₀) ∧
    (traceContext.reread cx c cx₀ = { traceContext.reread cx blank cx₀ with
        state := if cx.span.state = .empty then oldState c else cx.span.state } ∧
      (traceContext.reread cx c cx₀ = traceContext.reread cx blank cx₀ ↔
        cx.span.state ≠ .empty ∨ oldState c = .empty)) ∧
    (HeaderSource.get? c "b3" = none →
      (b3 .multiple).reread cx c cx₀ = { (b3 .multiple).reread cx blank cx₀ with
        flags := if cx.span.isSampled ∨ HeaderSource.get? c "x-b3-flags" = some "1" then .sampled
          else .none } ∧
      ((b3 .multiple).reread cx c cx₀ = (b3 .multiple).reread cx blank cx₀ ↔
        cx.span.isSampled ∨ HeaderSource.get? c "x-b3-flags" ≠ some "1")) ∧
    ∀ old, HeaderSource.get? c "b3" = some old → (b3 .multiple).reread cx c cx₀ =
      ((B3.readSingle? old.toList).map fun r => { r with isRemote := true }).getD cx₀.span := by
  refine ⟨?_, fun encoding hencoding => ?_, ?_, fun hold => ?_,
    fun old hold => reread_b3_multiple_of_old cx₀ hv hold⟩
  · rw [reread_jaeger cx₀ hv, reread_jaeger cx₀ hv]
  · have hsingle : encoding.hasSingle = true := by
      revert hencoding
      cases encoding <;> decide
    rw [reread_b3_single cx₀ hv hsingle, reread_b3_single cx₀ hv hsingle]
  · rw [reread_traceContext cx₀ hv hstate, reread_traceContext cx₀ hv hstate, oldState_of_blank hb]
    refine ⟨rfl, ?_⟩
    by_cases hempty : cx.span.state = .empty
    · simp [hempty]
    · simp [hempty]
  · rw [reread_b3_multiple cx₀ hv hold, reread_b3_multiple cx₀ hv (hb _), hb]
    have hflags : TraceFlags.sampled ≠ TraceFlags.none := by decide
    refine ⟨by simp [SpanContext.newRemote, B3.flagsName], ?_⟩
    by_cases hsampled : cx.span.isSampled
    · simp [hsampled]
    · simp [hsampled, hflags, SpanContext.newRemote, B3.flagsName]

end Carriers

/-- A context with a span that is not sampled and has no trace state. -/
def quietContext : Context := .withSpan .empty ⟨⟨0xab⟩, ⟨0xcd⟩, .none, false, .empty⟩

/-- The headers of a request that came with another span. -/
def forwardedHeaders : HeaderMap :=
  .ofList [("tracestate", "old=1"), ("b3", "a3ce929d0e0e4736-00f067aa0ba902b7-1"), ("uber-trace-id", "1:2:0:1")]

theorem reread_over_leftovers_of_forwarded :
    quietContext.span.isValid = true ∧ quietContext.span.state = .ofHeader "" ∧ Blank HeaderMap.empty ∧
    jaeger.reread quietContext forwardedHeaders .empty = jaeger.reread quietContext HeaderMap.empty .empty ∧
    (b3 .both).reread quietContext forwardedHeaders .empty =
      (b3 .both).reread quietContext HeaderMap.empty .empty ∧
    (traceContext.reread quietContext forwardedHeaders .empty).state = .ofHeader "old=1" ∧
    (b3 .multiple).reread quietContext forwardedHeaders .empty =
      .newRemote ⟨0xa3ce929d0e0e4736⟩ ⟨0x00f067aa0ba902b7⟩ .sampled := by
  have hv : quietContext.span.isValid = true := by decide +kernel
  have hstate : quietContext.span.state = .ofHeader "" := by decide +kernel
  have hnone : quietContext.span.state = .empty := by decide +kernel
  obtain ⟨hjaeger, hb3, ⟨htrace, -⟩, -, hold⟩ := reread_over_leftovers .empty hv ⟨_, hstate⟩
    HeaderMap.blank_empty forwardedHeaders
  refine ⟨hv, hstate, HeaderMap.blank_empty, hjaeger, hb3 .both (by decide), ?_, ?_⟩
  · rw [htrace, if_pos hnone]
    decide +kernel
  · rw [hold "a3ce929d0e0e4736-00f067aa0ba902b7-1" (by decide +kernel)]
    decide +kernel

/-- An old trace state shows through in the trace context headers. -/
theorem old_state_shows_through : ¬ ∀ p ∈ [traceContext, jaeger, b3 .multiple, b3 .single, b3 .both],
    ∀ cx : Context, cx.span.isValid = true → (∃ header, cx.span.state = .ofHeader header) →
    ∀ c : HeaderMap, (∀ name ∈ c.entries.keys, HeaderMap.canonical name = name) →
    ∀ cx₀ : Context, p.reread cx c cx₀ = p.reread cx HeaderMap.empty cx₀ := by
  intro h
  have hsame := h traceContext List.mem_cons_self quietContext (by decide +kernel) ⟨"", by decide +kernel⟩
    (.ofList [("tracestate", "old=1")]) (by decide +kernel) .empty
  revert hsame
  decide +kernel

end Propagator

end Telemetry
