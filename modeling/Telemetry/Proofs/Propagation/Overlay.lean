import Telemetry.Proofs.Propagation.Nesting

/-!
# Reading as an overlay

What a propagator makes of a context is decided before it sees the context.  A carrier gives it a span
context or none, and some baggage, and this `Overlay` is laid over whatever context there is
(`extractAll_eq`).  Each leaf of a tree has an overlay of its own.  Two overlays, one laid over the other,
are one overlay again (`Overlay.onto_andThen`), and an overlay laid over itself is the same one
(`Overlay.andThen_self`).

Baggage is a map, so of the items of a carrier only this matters, which value each name has.  The headers
of Jaeger's items are found by going through the names of a carrier, but two of them never stand for one
item (`Jaeger.items_unique`).  So it is not important in which order the names come.
-/

namespace Telemetry

/-! ## Contexts -/

namespace Context

theorem withSpan_withSpan (cx : Context) (s t : SpanContext) : (cx.withSpan s).withSpan t = cx.withSpan t :=
  set_set_self ..

theorem withBaggage_withBaggage (cx : Context) (a b : Baggage) :
    (cx.withBaggage a).withBaggage b = cx.withBaggage b :=
  set_set_self ..

theorem withBaggage_withSpan (cx : Context) (s : SpanContext) (b : Baggage) :
    (cx.withSpan s).withBaggage b = (cx.withBaggage b).withSpan s := by
  have hne : spanContextKey.id ≠ baggageKey.id := by decide
  exact set_set_comm cx hne s b

end Context

namespace BaggageHeader

variable (cx : Context) (found more : List (String × String))

theorem merge_nil : merge cx [] = cx := rfl

theorem merge_of_ne_nil {found : List (String × String)} (h : found ≠ []) :
    merge cx found = cx.withBaggage (cx.baggage.insertAll found) := by
  rw [merge, if_neg]
  simpa using h

theorem baggage_merge : (merge cx found).baggage = cx.baggage.insertAll found := by
  by_cases h : found = []
  · rw [h]
    rfl
  · rw [merge_of_ne_nil cx h, Context.baggage_withBaggage]

theorem merge_append : merge cx (found ++ more) = merge (merge cx found) more := by
  by_cases hf : found = []
  · rw [hf, List.nil_append, merge_nil]
  by_cases hm : more = []
  · rw [hm, List.append_nil, merge_nil]
  have happ : found ++ more ≠ [] := by simp [hf]
  rw [merge_of_ne_nil cx happ, merge_of_ne_nil _ hm, baggage_merge, merge_of_ne_nil cx hf,
    Context.withBaggage_withBaggage, SortedMap.insertAll_append]

theorem merge_withSpan (s : SpanContext) : merge (cx.withSpan s) found = (merge cx found).withSpan s := by
  by_cases h : found = []
  · rw [h, merge_nil, merge_nil]
  · rw [merge_of_ne_nil _ h, merge_of_ne_nil _ h, Context.withBaggage_withSpan, Context.baggage_withSpan]

theorem get?_entries_merge {id : Nat} (h : id ≠ baggageKey.id) :
    (merge cx found).entries.get? id = cx.entries.get? id := by
  unfold merge
  split
  next => rfl
  next => rw [Context.withBaggage, Context.set, SortedMap.get?_insert, if_neg h]

/-- Only the map of what was found matters. -/
theorem merge_toList_ofList : merge cx (SortedMap.ofList found).toList = merge cx found := by
  by_cases h : found = []
  · rw [h]
    rfl
  have hlist : (SortedMap.ofList found).toList ≠ [] := by
    intro hnil
    have hempty : SortedMap.ofList found = .empty := by rw [← SortedMap.ofList_toList (.ofList found), hnil]; rfl
    exact h (SortedMap.ofList_eq_empty_iff.mp hempty)
  rw [merge_of_ne_nil cx h, merge_of_ne_nil cx hlist, SortedMap.insertAll_toList_ofList]

end BaggageHeader

/-! ## Overlays -/

/-- What may be laid over contexts: a span context, and baggage. -/
structure Overlay where
  span? : Option SpanContext
  baggage : Baggage

namespace Overlay

/-- The context with an overlay laid over it. -/
def onto (o : Overlay) (cx : Context) : Context :=
  match o.span? with
  | some s => (BaggageHeader.merge cx o.baggage.toList).withSpan s
  | none => BaggageHeader.merge cx o.baggage.toList

/-- An overlay with another one over it. -/
def andThen (o upper : Overlay) : Overlay :=
  ⟨upper.span?.or o.span?, o.baggage.insertAll upper.baggage.toList⟩

variable (o : Overlay) (cx : Context)

theorem onto_ofList (span? : Option SpanContext) (items : List (String × String)) :
    (Overlay.mk span? (.ofList items)).onto cx = match span? with
      | some s => (BaggageHeader.merge cx items).withSpan s
      | none => BaggageHeader.merge cx items := by
  simp only [onto, BaggageHeader.merge_toList_ofList]

theorem onto_andThen (upper : Overlay) : (o.andThen upper).onto cx = upper.onto (o.onto cx) := by
  have hbaggage : BaggageHeader.merge cx (o.baggage.insertAll upper.baggage.toList).toList =
      BaggageHeader.merge (BaggageHeader.merge cx o.baggage.toList) upper.baggage.toList := by
    rw [← BaggageHeader.merge_append, ← BaggageHeader.merge_toList_ofList cx (_ ++ _), SortedMap.ofList,
      SortedMap.insertAll_append, ← SortedMap.ofList, SortedMap.ofList_toList]
  unfold onto andThen
  cases upper.span? <;> cases o.span? <;>
    simp only [Option.none_or, Option.some_or, hbaggage, BaggageHeader.merge_withSpan,
      Context.withSpan_withSpan]

theorem andThen_self : o.andThen o = o := by
  obtain ⟨span?, baggage⟩ := o
  have hbaggage : baggage.insertAll baggage.toList = baggage := by
    refine SortedMap.ext_get? fun k => ?_
    rw [SortedMap.get?_insertAll_toList, Option.or_self]
  rw [andThen, Option.or_self, hbaggage]

/-- Nothing laid over a context leaves it as it is. -/
theorem onto_of_nothing (hspan : o.span? = none) (hbaggage : o.baggage = .empty) : o.onto cx = cx := by
  rw [onto, hspan, hbaggage]
  rfl

theorem span_onto : (o.onto cx).span = o.span?.getD cx.span := by
  unfold onto
  cases o.span? with
  | some s => exact Context.span_withSpan ..
  | none => exact BaggageHeader.span_merge ..

theorem get?_baggage_onto (name : String) :
    (o.onto cx).baggage.get? name = (o.baggage.get? name).or (cx.baggage.get? name) := by
  have hbaggage : (o.onto cx).baggage = cx.baggage.insertAll o.baggage.toList := by
    unfold onto
    cases o.span? with
    | some s => rw [Context.baggage_withSpan, BaggageHeader.baggage_merge]
    | none => exact BaggageHeader.baggage_merge ..
  rw [hbaggage, SortedMap.get?_insertAll_toList]

/-- Only the entries of the two keys change. -/
theorem get?_entries_onto {id : Nat} (hspan : id ≠ spanContextKey.id) (hbaggage : id ≠ baggageKey.id) :
    (o.onto cx).entries.get? id = cx.entries.get? id := by
  have hmerge := BaggageHeader.get?_entries_merge cx o.baggage.toList hbaggage
  unfold onto
  cases o.span? with
  | some s => exact (SortedMap.get?_insert ..).trans ((if_neg hspan).trans hmerge)
  | none => exact hmerge

end Overlay

/-! ## What is found in a carrier -/

section Finding

variable {γ : Type} [HeaderSource γ] (c : γ)

/-- The baggage items that a carrier holds in the form of a propagator. -/
def Propagator.items : Propagator → List (String × String)
  | .baggage => BaggageHeader.carried c
  | .jaeger => if (HeaderSource.get? c Jaeger.headerName).isSome then Jaeger.items c else []
  | .noop | .traceContext | .b3 _ | .composite _ => []

/-- The overlay of a row of leaves: the last span context that can be read, and all items. -/
def Overlay.found (leaves : List Propagator) : Overlay :=
  ⟨((leaves.filterMap Propagator.format?).filterMap (Format.carried? c)).getLast?.map
      fun s => { s with isRemote := true },
    .ofList (leaves.flatMap (Propagator.items c))⟩

/-- The overlay of a tree. -/
def Propagator.overlay (p : Propagator) : Overlay := .found c p.leaves

theorem Overlay.found_append (leaves more : List Propagator) :
    found c (leaves ++ more) = (found c leaves).andThen (found c more) := by
  simp only [found, andThen, List.filterMap_append, List.getLast?_append, Option.map_or,
    List.flatMap_append, SortedMap.ofList_append]

theorem Overlay.found_singleton (leaf : Propagator) : found c [leaf] =
    ⟨(leaf.format?.bind (Format.carried? c)).map fun s => { s with isRemote := true },
      .ofList (leaf.items c)⟩ := by
  cases hf : leaf.format? with
  | none => simp [found, hf]
  | some f => cases hc : f.carried? c <;> simp [found, hf, hc]

namespace Propagator

/-- A leaf lays its overlay over the context. -/
theorem extract_leaf {leaf : Propagator} (h : ∀ parts, leaf ≠ .composite parts) (cx : Context) :
    leaf.extract c cx = (Overlay.found c [leaf]).onto cx := by
  rw [Overlay.found_singleton, Overlay.onto_ofList]
  cases leaf with
  | noop | baggage => rfl
  | traceContext =>
    rw [extract, TraceParent.extract, format?, Option.bind_some, Format.carried?]
    cases TraceParent.carried? c <;> rfl
  | b3 encoding =>
    rw [extract, B3.extract, format?, Option.bind_some, Format.carried?]
    cases B3.carried? c <;> rfl
  | jaeger =>
    rw [extract, Jaeger.extract, format?, Option.bind_some, Format.carried?, items]
    cases HeaderSource.get? c Jaeger.headerName with
    | none => rfl
    | some header =>
      dsimp only [Option.bind_some]
      cases Jaeger.read? header.toList <;> rfl
  | composite parts => cases h parts rfl

theorem extractAll_eq {leaves : List Propagator} (h : ∀ leaf ∈ leaves, ∀ parts, leaf ≠ .composite parts)
    (cx : Context) : extractAll c leaves cx = (Overlay.found c leaves).onto cx := by
  induction leaves generalizing cx with
  | nil => rfl
  | cons leaf leaves ih =>
    -- The other leaves see the overlay of this one as part of the context.
    have hleaf := extract_leaf c (h leaf List.mem_cons_self) cx
    have hleaves := ih (fun l hl => h l (List.mem_cons_of_mem leaf hl)) (leaf.extract c cx)
    rw [extractAll, hleaves, hleaf, ← Overlay.onto_andThen, ← Overlay.found_append, List.singleton_append]

theorem extract_eq (p : Propagator) (cx : Context) : p.extract c cx = (p.overlay c).onto cx := by
  rw [← extractAll_leaves, extractAll_eq c fun _ => ne_composite_of_mem_leaves p]
  rfl

theorem span?_overlay_eq_none_iff {p : Propagator} :
    (p.overlay c).span? = none ↔ ∀ f ∈ p.formats, f.carried? c = none := by
  rw [overlay, Overlay.found, Option.map_eq_none_iff, List.getLast?_eq_none_iff, List.filterMap_eq_nil_iff]
  rfl

theorem baggage_overlay_eq_empty_iff {p : Propagator} :
    (p.overlay c).baggage = .empty ↔ ∀ leaf ∈ p.leaves, leaf.items c = [] := by
  rw [overlay, Overlay.found, SortedMap.ofList_eq_empty_iff, List.flatMap_eq_nil_iff]

end Propagator

end Finding

/-! ## Carriers with the same headers -/

/-- Whether two carriers have the same headers.  They may list the names in different orders. -/
structure SameHeaders {γ δ : Type} [HeaderSource γ] [HeaderSource δ] (c : γ) (d : δ) : Prop where
  get? : ∀ name, HeaderSource.get? c name = HeaderSource.get? d name
  getAll? : ∀ name, HeaderSource.getAll? c name = HeaderSource.getAll? d name
  names : ∀ name, name ∈ HeaderSource.names c ↔ name ∈ HeaderSource.names d

/-- A map and the same map with its names in another order. -/
theorem SameHeaders.arranged (m : HeaderMap) {arrange : List String → List String}
    (h : (arrange m.entries.keys).Perm m.entries.keys) : SameHeaders m (HashedHeaders.mk m arrange) where
  get? _ := rfl
  getAll? _ := rfl
  names _ := h.mem_iff.symm

namespace Jaeger

theorem itemName?_eq_some_iff {header name : String} :
    itemName? header = some name ↔ header = baggageStart ++ name := by
  unfold itemName?
  constructor
  · intro h
    split at h
    next hstart =>
      obtain ⟨rest, hrest⟩ := List.isPrefixOf_iff_prefix.mp hstart
      cases h
      rw [← String.toList_inj, String.toList_append, String.toList_ofList, ← hrest]
      exact congrArg _ List.drop_left.symm
    next => cases h
  · rintro rfl
    have hstart : baggageStart.toList <+: (baggageStart ++ name).toList := ⟨name.toList, String.toList_append.symm⟩
    rw [if_pos (List.isPrefixOf_iff_prefix.mpr hstart), String.toList_append]
    exact congrArg some (String.ofList_toList)

section Items

variable {γ : Type} [HeaderSource γ] {c : γ}

/-- The value of an item is the one of its header, wherever that is among the names. -/
theorem mem_items {name value : String} : (name, value) ∈ items c ↔
    baggageStart ++ name ∈ HeaderSource.names c ∧
      (HeaderSource.get? c (baggageStart ++ name)).map readValue = some value := by
  have hitem (header : String) : item? c header = some (name, value) ↔
      header = baggageStart ++ name ∧ (HeaderSource.get? c header).map readValue = some value := by
    simp only [item?, bind, pure, Option.bind_eq_some_iff, itemName?_eq_some_iff, Option.map_eq_some_iff,
      Option.some.injEq, Prod.mk.injEq]
    constructor
    · rintro ⟨_, rfl, raw, hraw, rfl, rfl⟩
      exact ⟨rfl, raw, hraw, rfl⟩
    · rintro ⟨rfl, raw, hraw, rfl⟩
      exact ⟨name, rfl, raw, hraw, rfl, rfl⟩
  simp only [items, List.mem_filterMap, hitem]
  constructor
  · rintro ⟨_, hmem, rfl, hvalue⟩
    exact ⟨hmem, hvalue⟩
  · rintro ⟨hmem, hvalue⟩
    exact ⟨_, hmem, rfl, hvalue⟩

/-- No item has two values. -/
theorem items_unique {name value other : String} (h : (name, value) ∈ items c)
    (h' : (name, other) ∈ items c) : value = other := by
  have hvalue := (mem_items.mp h).2
  rw [(mem_items.mp h').2] at hvalue
  exact (Option.some.inj hvalue).symm

end Items

end Jaeger

namespace SameHeaders

variable {γ δ : Type} [HeaderSource γ] [HeaderSource δ] {c : γ} {d : δ}

theorem carried? (h : SameHeaders c d) (f : Format) : f.carried? c = f.carried? d := by
  cases f with
  | traceContext =>
    simp only [Format.carried?, TraceParent.carried?, TraceParent.carriedState, h.get?, h.getAll?]
  | b3 => simp only [Format.carried?, B3.carried?, B3.readMultiple?, h.get?]
  | jaeger => simp only [Format.carried?, h.get?]

theorem items (h : SameHeaders c d) (leaf : Propagator) :
    SortedMap.ofList (leaf.items c) = SortedMap.ofList (leaf.items d) := by
  cases leaf with
  | baggage => simp only [Propagator.items, BaggageHeader.carried, h.get?]
  | jaeger =>
    simp only [Propagator.items, h.get?]
    split
    next =>
      refine SortedMap.ofList_congr (fun name value other => Jaeger.items_unique) fun item => ?_
      rw [Jaeger.mem_items, Jaeger.mem_items, h.names, h.get?]
    next => rfl
  | noop | traceContext | b3 | composite => rfl

theorem found (h : SameHeaders c d) (leaves : List Propagator) :
    Overlay.found c leaves = Overlay.found d leaves := by
  induction leaves with
  | nil => rfl
  | cons leaf leaves ih =>
    have hleaf : Overlay.found c [leaf] = Overlay.found d [leaf] := by
      simp only [Overlay.found_singleton, h.items, funext h.carried?]
    rw [← List.singleton_append, Overlay.found_append, Overlay.found_append, hleaf, ih]

end SameHeaders

namespace Propagator

theorem extract_congr {γ δ : Type} [HeaderSource γ] [HeaderSource δ] {c : γ} {d : δ} (h : SameHeaders c d)
    (p : Propagator) (cx : Context) : p.extract d cx = p.extract c cx := by
  rw [extract_eq, extract_eq, overlay, overlay, h.found]

/-- What a tree of propagators reads from a carrier is an overlay that does not depend on the context: a
span context or none, which replaces the one of the context, and baggage, which goes into that of the
context.  There is no span context when no format can be read, no baggage when no leaf finds an item, and
without both the context stays as it is.  Reading a carrier again changes nothing, and neither does the
order in which a carrier lists its names, as in a hashed map. -/
theorem extraction_overlays (p : Propagator) :
    (∀ {γ : Type} [HeaderSource γ] (c : γ), ∃ (s : Option SpanContext) (m : Baggage),
      (∀ cx : Context, (p.extract c cx).span = s.getD cx.span ∧
        (∀ name, (p.extract c cx).baggage.get? name = (m.get? name).or (cx.baggage.get? name)) ∧
        ∀ id, id ≠ spanContextKey.id → id ≠ baggageKey.id →
          (p.extract c cx).entries.get? id = cx.entries.get? id) ∧
      (s = none ↔ ∀ f ∈ p.formats, f.carried? c = none) ∧
      (m = .empty ↔ ∀ leaf ∈ p.leaves, leaf.items c = []) ∧
      (s = none → m = .empty → ∀ cx, p.extract c cx = cx) ∧
      (∀ cx, p.extract c (p.extract c cx) = p.extract c cx) ∧
      ∀ {δ : Type} [HeaderSource δ] (d : δ), SameHeaders c d → ∀ cx, p.extract d cx = p.extract c cx) ∧
    ∀ (m : HeaderMap) (arrange : List String → List String), (arrange m.entries.keys).Perm m.entries.keys →
      ∀ cx, p.extract (HashedHeaders.mk m arrange) cx = p.extract m cx := by
  constructor
  · intro γ _ c
    refine ⟨(p.overlay c).span?, (p.overlay c).baggage, fun cx => ?_, span?_overlay_eq_none_iff c,
      baggage_overlay_eq_empty_iff c, fun hspan hbaggage cx => ?_, fun cx => ?_, fun d h => extract_congr h p⟩
    · rw [extract_eq]
      exact ⟨Overlay.span_onto .., Overlay.get?_baggage_onto _ cx, fun id => Overlay.get?_entries_onto _ cx⟩
    · rw [extract_eq, Overlay.onto_of_nothing _ cx hspan hbaggage]
    · rw [extract_eq, extract_eq, ← Overlay.onto_andThen, Overlay.andThen_self]
  · intro m arrange h
    exact extract_congr (.arranged m h) p

/-- Headers of all kinds that cannot be read, and items. -/
def unreadableHeaders : HeaderMap :=
  .ofList [("uber-trace-id", "ab:1:0"), ("uberctx-a", "%31"), ("uberctx-A", "2"), ("b3", "0"),
    ("traceparent", "00-ab-cd-01"), ("baggage", "a=0,=1,b;c=2")]

/-- A propagator for such headers. -/
def readerOfMany : Propagator := .composite [.baggage, .composite [.traceContext, .jaeger], .b3 .single]

theorem extraction_overlays_of_unreadable :
    (unreadableHeaders.entries.keys.reverse).Perm unreadableHeaders.entries.keys ∧
    (∀ f ∈ readerOfMany.formats, f.carried? unreadableHeaders = none) ∧
    ∀ cx, (readerOfMany.extract (HashedHeaders.mk unreadableHeaders List.reverse) cx).span = cx.span := by
  have hperm := unreadableHeaders.entries.keys.reverse_perm
  have hunread : ∀ f ∈ readerOfMany.formats, f.carried? unreadableHeaders = none := by decide +kernel
  obtain ⟨hread, harranged⟩ := extraction_overlays readerOfMany
  obtain ⟨s, _, hlaid, hspan, -⟩ := hread unreadableHeaders
  refine ⟨hperm, hunread, fun cx => ?_⟩
  rw [harranged unreadableHeaders List.reverse hperm, (hlaid cx).1, hspan.mpr hunread]
  rfl

end Propagator

end Telemetry
