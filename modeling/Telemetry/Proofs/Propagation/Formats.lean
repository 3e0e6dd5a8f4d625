import Telemetry.Proofs.Propagation.Codecs

/-!
# Formats of span contexts

Three of the propagators move span contexts, each in headers of its own.  A tree of propagators writes
all of them into one carrier.  They do not get into each other's way: the headers of the formats have
different names, baggage is written under others, and a propagator that writes a header again writes
the same into it.  So a carrier that was blank holds exactly the headers of the formats of the tree
(`get?_inject`), and a reader finds a span context in each of them and in no other
(`carried?_inject`).

Readers are asked from left to right, and each that finds a span context replaces the one before
(`span_extract`).
-/

namespace Telemetry

/-! ## Map carriers -/

/-- Carriers that have each header once and compare names without regard to case.  In which order
they list the names is open. -/
class MapCarrier (γ : Type) [HeaderSource γ] [HeaderSink γ] : Prop where
  get?_put : ∀ (c : γ) (name other value : String),
    HeaderSource.get? (HeaderSink.put c name value) other =
      if HeaderMap.canonical other = HeaderMap.canonical name then some value
      else HeaderSource.get? c other
  getAll?_eq : ∀ (c : γ) (name : String),
    HeaderSource.getAll? c name = (HeaderSource.get? c name).map fun v => [v]

instance : MapCarrier HeaderMap where
  get?_put c name other value := c.get?_put name other value
  getAll?_eq _ _ := rfl

/-- A map that lists its names in an order of its own, as hashing brings them about. -/
structure HashedHeaders where
  headers : HeaderMap
  arrange : List String → List String

instance : HeaderSource HashedHeaders where
  get? m := m.headers.get?
  names m := m.arrange m.headers.entries.keys

instance : HeaderSink HashedHeaders := ⟨fun m name value => { m with headers := m.headers.put name value }⟩

instance : MapCarrier HashedHeaders where
  get?_put m name other value := m.headers.get?_put name other value
  getAll?_eq _ _ := rfl

/-- A carrier without headers. -/
def Blank {γ : Type} [HeaderSource γ] (c : γ) : Prop := ∀ name, HeaderSource.get? c name = none

theorem HeaderMap.blank_empty : Blank HeaderMap.empty := fun _ => rfl

/-! ## Headers -/

/-- The headers that are read for a span context. -/
inductive SpanHeader where
  | traceParent | traceState | b3Single | b3Trace | b3Span | b3Sampled | b3Flags | jaeger
deriving DecidableEq, Repr

namespace SpanHeader

def name : SpanHeader → String
  | traceParent => TraceParent.headerName
  | traceState => TraceParent.stateHeaderName
  | b3Single => B3.singleName
  | b3Trace => B3.traceName
  | b3Span => B3.spanName
  | b3Sampled => B3.sampledName
  | b3Flags => B3.flagsName
  | jaeger => Jaeger.headerName

/-- What is written into a header.  The debug flag of B3 is not written at all. -/
def value (s : SpanContext) : SpanHeader → String
  | traceParent => String.ofList (TraceParent.write s)
  | traceState => s.state.header
  | b3Single => String.ofList (B3.writeSingle s)
  | b3Trace => s.traceId.text
  | b3Span => s.spanId.text
  | b3Sampled => B3.stateText s
  | b3Flags => ""
  | jaeger => String.ofList (Jaeger.write s)

theorem canonical_name (h : SpanHeader) : HeaderMap.canonical h.name = h.name := by
  cases h <;> decide +kernel

theorem name_inj {h k : SpanHeader} : h.name = k.name ↔ h = k := by
  cases h <;> cases k <;> decide +kernel

theorem name_ne_baggage (h : SpanHeader) : h.name ≠ BaggageHeader.headerName := by
  cases h <;> decide +kernel

theorem not_baggageStart_prefix (h : SpanHeader) : ¬ Jaeger.baggageStart.toList <+: h.name.toList := by
  cases h <;> decide +kernel

end SpanHeader

/-- The beginning of a text in lower case stays what it is. -/
theorem Text.prefix_lowerBehind {start : List Char}
    (h : ∀ c ∈ start, c ≠ capitalSigma ∧ lowerChar c = [c]) (before rest : List Char) :
    start <+: lowerBehind before (start ++ rest) := by
  induction start generalizing before with
  | nil => exact List.nil_prefix
  | cons c start ih =>
      obtain ⟨hs, hl⟩ := h c List.mem_cons_self
      rw [List.cons_append, lowerBehind, if_neg hs, hl, List.singleton_append]
      exact (List.prefix_cons_inj c).mpr (ih (fun d hd => h d (List.mem_cons_of_mem _ hd)) _)

/-- What a baggage header begins with is in lower case. -/
theorem Jaeger.baggageStart_prefix_lowerCase (rest : List Char) :
    baggageStart.toList <+: Text.lowerCase (baggageStart.toList ++ rest) := by
  have hlower : (baggageStart.toList.all fun c =>
      c != Text.capitalSigma && Text.lowerChar c == [c]) = true := by decide +kernel
  refine Text.prefix_lowerBehind (fun c hc => ?_) _ _
  simpa using List.all_eq_true.mp hlower c hc

/-- The headers of baggage items are none of these. -/
theorem SpanHeader.name_ne_item (h : SpanHeader) (item : String) :
    h.name ≠ HeaderMap.canonical (Jaeger.baggageStart ++ item) := by
  intro he
  refine h.not_baggageStart_prefix ?_
  rw [he, HeaderMap.canonical, String.toList_ofList, String.toList_append]
  exact Jaeger.baggageStart_prefix_lowerCase item.toList

/-! ## Writing -/

/-- The headers that a propagator of one format writes for a span context. -/
def Propagator.headers (s : SpanContext) : Propagator → List SpanHeader
  | .traceContext => if s.state.isEmpty then [.traceParent] else [.traceParent, .traceState]
  | .b3 encoding =>
    (if encoding.hasSingle then [.b3Single] else []) ++
      if encoding.hasMultiple then [.b3Trace, .b3Span, .b3Sampled] else []
  | .jaeger => [.jaeger]
  | .noop | .baggage | .composite _ => []

/-- The headers that a tree writes for a span context. -/
def Propagator.spanHeaders (p : Propagator) (s : SpanContext) : List SpanHeader :=
  p.leaves.flatMap (headers s)

section Writing

variable {γ : Type} [HeaderSink γ] {cx : Context}

/-- Writes some headers of a span context. -/
def writeHeaders (s : SpanContext) (hs : List SpanHeader) (c : γ) : γ :=
  hs.foldl (fun c h => HeaderSink.put c h.name (h.value s)) c

theorem TraceParent.inject_eq (hv : cx.span.isValid = true) (c : γ) : TraceParent.inject cx c =
    writeHeaders cx.span (Propagator.headers cx.span .traceContext) c := by
  rw [inject, if_pos hv, Propagator.headers]
  split <;> rfl

theorem B3.inject_eq (hv : cx.span.isValid = true) (encoding : B3Encoding) (c : γ) :
    B3.inject encoding cx c = writeHeaders cx.span (Propagator.headers cx.span (.b3 encoding)) c := by
  rw [inject, if_pos hv]
  cases encoding <;> rfl

end Writing

section Carriers

variable {γ : Type} [HeaderSource γ] [HeaderSink γ] [MapCarrier γ]

theorem get?_put_name (c : γ) (h k : SpanHeader) (v : String) :
    HeaderSource.get? (HeaderSink.put c h.name v) k.name =
      if k = h then some v else HeaderSource.get? c k.name := by
  rw [MapCarrier.get?_put, h.canonical_name, k.canonical_name]
  exact if_congr SpanHeader.name_inj rfl rfl

/-- Writing under another name leaves a header alone. -/
theorem get?_put_other (c : γ) {name : String} {k : SpanHeader} (hk : k.name ≠ HeaderMap.canonical name)
    (v : String) : HeaderSource.get? (HeaderSink.put c name v) k.name = HeaderSource.get? c k.name := by
  rw [MapCarrier.get?_put, k.canonical_name, if_neg hk]

theorem get?_writeHeaders (s : SpanContext) (hs : List SpanHeader) (c : γ) (k : SpanHeader) :
    HeaderSource.get? (writeHeaders s hs c) k.name =
      if k ∈ hs then some (k.value s) else HeaderSource.get? c k.name := by
  induction hs generalizing c with
  | nil => rfl
  | cons h hs ih =>
      rw [show writeHeaders s (h :: hs) c = writeHeaders s hs (HeaderSink.put c h.name (h.value s)) from rfl,
        ih, get?_put_name]
      by_cases hk : k = h
      · rw [if_pos hk, hk, if_pos List.mem_cons_self, ite_self]
      · rw [if_neg hk]
        exact if_congr (by rw [List.mem_cons, or_iff_right hk]) rfl rfl

variable {cx : Context}

theorem BaggageHeader.get?_inject (c : γ) (k : SpanHeader) :
    HeaderSource.get? (BaggageHeader.inject cx c) k.name = HeaderSource.get? c k.name := by
  have hk : k.name ≠ HeaderMap.canonical headerName := by
    rw [show HeaderMap.canonical headerName = headerName by decide +kernel]
    exact k.name_ne_baggage
  unfold inject
  split
  next => rfl
  next => exact get?_put_other c hk _

theorem Jaeger.get?_injectItems (items : List (String × String)) (c : γ) (k : SpanHeader) :
    HeaderSource.get? (items.foldl injectItem c) k.name = HeaderSource.get? c k.name := by
  induction items generalizing c with
  | nil => rfl
  | cons item items ih =>
      rw [List.foldl_cons, ih]
      exact get?_put_other c (k.name_ne_item item.1) _

theorem Jaeger.get?_inject (hv : cx.span.isValid = true) (c : γ) (k : SpanHeader) :
    HeaderSource.get? (Jaeger.inject cx c) k.name =
      if k ∈ Propagator.headers cx.span .jaeger then some (k.value cx.span)
      else HeaderSource.get? c k.name := by
  rw [inject, if_pos hv, get?_injectItems]
  exact get?_writeHeaders cx.span [.jaeger] c k

end Carriers

namespace Propagator

mutual

/-- A header holds what the span context has for it, if a part of the tree writes it. -/
theorem get?_inject {γ : Type} [HeaderSource γ] [HeaderSink γ] [MapCarrier γ] {cx : Context}
    (hv : cx.span.isValid = true) (k : SpanHeader) : ∀ (p : Propagator) (c : γ),
    HeaderSource.get? (p.inject cx c) k.name =
      if k ∈ p.spanHeaders cx.span then some (k.value cx.span) else HeaderSource.get? c k.name
  | .noop, c => rfl
  | .traceContext, c => by
      have hs : spanHeaders .traceContext cx.span = headers cx.span .traceContext := List.append_nil _
      rw [inject, TraceParent.inject_eq hv, get?_writeHeaders, hs]
  | .baggage, c => BaggageHeader.get?_inject c k
  | .b3 encoding, c => by
      have hs : spanHeaders (.b3 encoding) cx.span = headers cx.span (.b3 encoding) := List.append_nil _
      rw [inject, B3.inject_eq hv, get?_writeHeaders, hs]
  | .jaeger, c => Jaeger.get?_inject hv c k
  | .composite parts, c => get?_injectAll hv k parts c
termination_by structural p => p

theorem get?_injectAll {γ : Type} [HeaderSource γ] [HeaderSink γ] [MapCarrier γ] {cx : Context}
    (hv : cx.span.isValid = true) (k : SpanHeader) : ∀ (ps : List Propagator) (c : γ),
    HeaderSource.get? (injectAll cx ps c) k.name =
      if k ∈ (allLeaves ps).flatMap (headers cx.span) then some (k.value cx.span)
      else HeaderSource.get? c k.name
  | [], c => rfl
  | p :: rest, c => by
      rw [injectAll, get?_injectAll hv k rest, get?_inject hv k p, allLeaves, List.flatMap_append]
      by_cases hr : k ∈ (allLeaves rest).flatMap (headers cx.span)
      · rw [if_pos hr, if_pos (List.mem_append_right _ hr)]
      · rw [if_neg hr]
        exact if_congr (by rw [List.mem_append, or_iff_left hr, spanHeaders]) rfl rfl
termination_by structural ps => ps

end

end Propagator

/-! ## Formats -/

/-- How a span context is written. -/
inductive Format where
  | traceContext | b3 | jaeger
deriving DecidableEq, Repr

namespace Propagator

def format? : Propagator → Option Format
  | .traceContext => some .traceContext
  | .b3 _ => some .b3
  | .jaeger => some .jaeger
  | .noop | .baggage | .composite _ => none

/-- The formats of span contexts of a tree, from left to right. -/
def formats (p : Propagator) : List Format := p.leaves.filterMap format?

variable {p : Propagator} {s : SpanContext}

theorem mem_formats {f : Format} : f ∈ p.formats ↔ ∃ l ∈ p.leaves, l.format? = some f :=
  List.mem_filterMap

theorem mem_spanHeaders {k : SpanHeader} : k ∈ p.spanHeaders s ↔ ∃ l ∈ p.leaves, k ∈ l.headers s :=
  List.mem_flatMap

/-- What a part of a tree writes, header by header. -/
theorem mem_headers {k : SpanHeader} (l : Propagator) : k ∈ l.headers s ↔ match k with
    | .traceParent => l.format? = some .traceContext
    | .traceState => l.format? = some .traceContext ∧ s.state.isEmpty = false
    | .b3Single => ∃ encoding, l = .b3 encoding ∧ encoding.hasSingle = true
    | .b3Trace | .b3Span | .b3Sampled => ∃ encoding, l = .b3 encoding ∧ encoding.hasMultiple = true
    | .b3Flags => False
    | .jaeger => l.format? = some .jaeger := by
  cases l with
  | traceContext => cases hs : s.state.isEmpty <;> cases k <;> simp [headers, format?, hs]
  | b3 encoding => cases hs : encoding.hasSingle <;> cases hm : encoding.hasMultiple <;> cases k <;>
      simp [headers, format?, hs, hm]
  | jaeger => cases k <;> simp [headers, format?]
  | noop | baggage | composite => cases k <;> simp [headers, format?]

theorem traceParent_mem : .traceParent ∈ p.spanHeaders s ↔ .traceContext ∈ p.formats := by
  simp only [mem_spanHeaders, mem_headers, mem_formats]

theorem traceState_mem :
    .traceState ∈ p.spanHeaders s ↔ .traceContext ∈ p.formats ∧ s.state.isEmpty = false := by
  simp only [mem_spanHeaders, mem_headers, mem_formats, ← and_assoc, exists_and_right]

theorem jaeger_mem : .jaeger ∈ p.spanHeaders s ↔ .jaeger ∈ p.formats := by
  simp only [mem_spanHeaders, mem_headers, mem_formats]

theorem b3Flags_not_mem : .b3Flags ∉ p.spanHeaders s := by
  simp only [mem_spanHeaders, mem_headers, and_false, exists_false, not_false_iff]

/-- The parts of the multiple form are written together. -/
theorem b3Multiple_mem : (.b3Span ∈ p.spanHeaders s ↔ .b3Trace ∈ p.spanHeaders s) ∧
    (.b3Sampled ∈ p.spanHeaders s ↔ .b3Trace ∈ p.spanHeaders s) := by
  simp only [mem_spanHeaders, mem_headers, and_self]

theorem b3_mem : .b3 ∈ p.formats ↔ .b3Single ∈ p.spanHeaders s ∨ .b3Trace ∈ p.spanHeaders s := by
  simp only [mem_spanHeaders, mem_headers, mem_formats, ← exists_or, ← and_or_left]
  refine exists_congr fun l => and_congr_right fun _ => ?_
  cases l with
  | b3 encoding => cases encoding <;> simp [format?, B3Encoding.hasSingle, B3Encoding.hasMultiple]
  | noop | traceContext | baggage | jaeger | composite => simp [format?]

end Propagator

/-! ## Reading -/

/-- The span context that a carrier holds in a format. -/
def Format.carried? {γ : Type} [HeaderSource γ] (c : γ) : Format → Option SpanContext
  | .traceContext => TraceParent.carried? c
  | .b3 => B3.carried? c
  | .jaeger => (HeaderSource.get? c Jaeger.headerName).bind fun header => Jaeger.read? header.toList

/-- What arrives of a span context. -/
def Format.received (s : SpanContext) (f : Format) : SpanContext :=
  ⟨s.traceId, s.spanId, s.flags.masked, true,
    if f = .traceContext then .ofHeader s.state.header else .empty⟩

section Reading

variable {γ : Type} [HeaderSource γ] [HeaderSink γ] [MapCarrier γ] {cx : Context} {blank : γ}

/-- The headers of a carrier that was blank. -/
theorem get?_inject_blank (hv : cx.span.isValid = true) (hb : Blank blank) (p : Propagator)
    (k : SpanHeader) : HeaderSource.get? (p.inject cx blank) k.name =
      if k ∈ p.spanHeaders cx.span then some (k.value cx.span) else none := by
  rw [Propagator.get?_inject hv, hb]

/-- A map has at most one trace state header. -/
theorem TraceParent.carriedState_map (c : γ) : carriedState c =
    ((HeaderSource.get? c stateHeaderName).map TraceState.ofHeader).getD .empty := by
  rw [carriedState, MapCarrier.getAll?_eq]
  cases HeaderSource.get? c stateHeaderName with
  | none => rfl
  | some header =>
      show TraceState.ofHeader (String.ofList header.toList) = TraceState.ofHeader header
      rw [String.ofList_toList]

theorem carriedState_inject (hv : cx.span.isValid = true) (hb : Blank blank) {p : Propagator}
    (hp : .traceContext ∈ p.formats) :
    TraceParent.carriedState (p.inject cx blank) = .ofHeader cx.span.state.header := by
  have hget : HeaderSource.get? (p.inject cx blank) TraceParent.stateHeaderName = _ :=
    get?_inject_blank hv hb p .traceState
  rw [TraceParent.carriedState_map, hget]
  cases he : cx.span.state.isEmpty with
  | false =>
      rw [if_pos (Propagator.traceState_mem.mpr ⟨hp, he⟩)]
      rfl
  | true =>
      have hno : .traceState ∉ p.spanHeaders cx.span :=
        fun hm => Bool.noConfusion (he.symm.trans (Propagator.traceState_mem.mp hm).2)
      have hnil : cx.span.state = .empty := congrArg TraceState.mk (List.isEmpty_iff.mp he)
      rw [if_neg hno, hnil]
      decide

/-- A reader finds the formats that were written, and no other. -/
theorem carried?_inject (hv : cx.span.isValid = true) (hb : Blank blank) (p : Propagator) (f : Format) :
    f.carried? (p.inject cx blank) = if f ∈ p.formats then some (f.received cx.span) else none := by
  have hget := get?_inject_blank hv hb p
  cases f with
  | traceContext =>
      have hparent : HeaderSource.get? (p.inject cx blank) TraceParent.headerName = _ := hget .traceParent
      rw [Format.carried?, TraceParent.carried?, hparent]
      simp only [Propagator.traceParent_mem]
      split
      next hp =>
        rw [Option.bind_some, SpanHeader.value, String.toList_ofList, TraceParent.read?_write hv,
          carriedState_inject hv hb hp]
        rfl
      next => rfl
  | b3 =>
      have hsingle : HeaderSource.get? (p.inject cx blank) B3.singleName = _ := hget .b3Single
      rw [Format.carried?, B3.carried?, hsingle]
      by_cases hs : .b3Single ∈ p.spanHeaders cx.span
      · rw [if_pos hs, if_pos (Propagator.b3_mem.mpr (.inl hs))]
        dsimp only
        rw [SpanHeader.value, String.toList_ofList, B3.readSingle?_writeSingle hv]
        rfl
      · rw [if_neg hs]
        dsimp only
        have htrace : HeaderSource.get? (p.inject cx blank) B3.traceName = _ := hget .b3Trace
        by_cases hm : .b3Trace ∈ p.spanHeaders cx.span
        · have hspan : HeaderSource.get? (p.inject cx blank) B3.spanName = _ := hget .b3Span
          have hsampled : HeaderSource.get? (p.inject cx blank) B3.sampledName = _ := hget .b3Sampled
          have hflags : HeaderSource.get? (p.inject cx blank) B3.flagsName = _ := hget .b3Flags
          rw [if_pos hm] at htrace
          rw [if_pos (Propagator.b3Multiple_mem.1.mpr hm)] at hspan
          rw [if_pos (Propagator.b3Multiple_mem.2.mpr hm)] at hsampled
          rw [if_neg Propagator.b3Flags_not_mem] at hflags
          rw [B3.readMultiple?_eq hv htrace hspan hsampled hflags,
            if_pos (Propagator.b3_mem.mpr (.inr hm))]
          rfl
        · have hno : .b3 ∉ p.formats := fun hp => (Propagator.b3_mem.mp hp).elim hs hm
          rw [if_neg hm] at htrace
          rw [if_neg hno, B3.readMultiple?, htrace]
          rfl
  | jaeger =>
      have hheader : HeaderSource.get? (p.inject cx blank) Jaeger.headerName = _ := hget .jaeger
      rw [Format.carried?, hheader]
      simp only [Propagator.jaeger_mem]
      split
      next =>
        rw [Option.bind_some, SpanHeader.value, String.toList_ofList, Jaeger.read?_write hv]
        rfl
      next => rfl

end Reading

/-! ## Reading in order -/

section Order

variable {γ : Type} [HeaderSource γ]

/-- The span context after a reader of one format. -/
def Format.reads (c : γ) (s : SpanContext) (f : Format) : SpanContext :=
  ((f.carried? c).map fun r => { r with isRemote := true }).getD s

theorem TraceParent.span_extract (cx : Context) (c : γ) :
    (extract cx c).span = Format.reads c cx.span .traceContext := by
  unfold extract Format.reads Format.carried?
  cases carried? c with
  | none => rfl
  | some r => exact Context.span_withSpan ..

theorem B3.span_extract (cx : Context) (c : γ) : (extract cx c).span = Format.reads c cx.span .b3 := by
  unfold extract Format.reads Format.carried?
  cases carried? c with
  | none => rfl
  | some r => exact Context.span_withSpan ..

theorem BaggageHeader.span_merge (cx : Context) (found : List (String × String)) :
    (merge cx found).span = cx.span := by
  unfold merge
  split
  next => rfl
  next => exact Context.span_withBaggage ..

theorem Jaeger.span_extract (cx : Context) (c : γ) :
    (extract cx c).span = Format.reads c cx.span .jaeger := by
  unfold extract Format.reads Format.carried?
  cases HeaderSource.get? c headerName with
  | none => rfl
  | some header =>
      dsimp only [Option.bind_some]
      cases read? header.toList with
      | none => exact BaggageHeader.span_merge ..
      | some r => exact Context.span_withSpan ..

namespace Propagator

mutual

/-- The span context is read by the formats of the tree, one after the other. -/
theorem span_extract (c : γ) : ∀ (p : Propagator) (cx : Context),
    (p.extract c cx).span = p.formats.foldl (Format.reads c) cx.span
  | .noop, _ => rfl
  | .traceContext, cx => TraceParent.span_extract cx c
  | .baggage, cx => BaggageHeader.span_merge cx _
  | .b3 _, cx => B3.span_extract cx c
  | .jaeger, cx => Jaeger.span_extract cx c
  | .composite parts, cx => span_extractAll c parts cx
termination_by structural p => p

theorem span_extractAll (c : γ) : ∀ (ps : List Propagator) (cx : Context),
    (extractAll c ps cx).span = ((allLeaves ps).filterMap format?).foldl (Format.reads c) cx.span
  | [], _ => rfl
  | p :: rest, cx => by
      rw [extractAll, span_extractAll c rest, span_extract c p, allLeaves, List.filterMap_append,
        List.foldl_append]
      rfl
termination_by structural ps => ps

end

end Propagator

end Order

end Telemetry
