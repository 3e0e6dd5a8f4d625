import Telemetry.Proofs.Propagation.Formats

/-!
# Nested propagators

A propagator of several may have such propagators among its parts.  Only the formats at the leaves do
anything, and they do it from left to right, so a tree of propagators writes and reads what the row of its
leaves does (`injectAll_leaves`, `extractAll_leaves`).  The headers of a tree are those of its leaves without
repetition, also where repetitions were taken out of a part before (`eraseDups_leaves`).

Whatever is written goes through `HeaderSink.put`, so what each permitted write keeps is kept by a tree
(`inject_keeps`).  A map writes names in lower case, and the permitted names stay permitted
(`MayWrite.canonical`).  So the entries under all other names are kept.
-/

namespace Telemetry

/-! ## Repetitions -/

section Repetitions

variable {α : Type} [BEq α] [LawfulBEq α]

theorem eraseDups_filter (keep : α → Bool) (l : List α) :
    (l.filter keep).eraseDups = l.eraseDups.filter keep := by
  -- For all filters at once: what comes behind an element is filtered by being another one.
  induction l generalizing keep with
  | nil => rfl
  | cons a l ih =>
    rw [List.eraseDups_cons, ih, List.filter_cons, List.filter_cons, List.filter_filter]
    by_cases ha : keep a
    · rw [if_pos ha, if_pos ha, List.eraseDups_cons, List.filter_filter, ih]
      simp only [Bool.and_comm]
    · rw [if_neg ha, if_neg ha, ih]
      refine List.filter_congr fun b _ => ?_
      have hb : keep b = true → b ≠ a := fun hb h => ha (h ▸ hb)
      cases hk : keep b <;> simp_all

theorem eraseDups_cons_eq (a : α) (l : List α) :
    (a :: l).eraseDups = a :: l.eraseDups.filter (fun b => !b == a) := by
  rw [List.eraseDups_cons, eraseDups_filter]

theorem eraseDups_eraseDups (l : List α) : l.eraseDups.eraseDups = l.eraseDups := by
  induction l with
  | nil => rfl
  | cons a l ih =>
    rw [eraseDups_cons_eq, eraseDups_cons_eq, eraseDups_filter, ih, List.filter_filter]
    simp only [Bool.and_self]

/-- Without repetitions, rows in a row depend on each row without its repetitions. -/
theorem eraseDups_append_congr {xs xs' ys ys' : List α} (hx : xs.eraseDups = xs'.eraseDups)
    (hy : ys.eraseDups = ys'.eraseDups) : (xs ++ ys).eraseDups = (xs' ++ ys').eraseDups := by
  have hmem (a : α) : xs.elem a = xs'.elem a := by
    rw [Bool.eq_iff_iff, List.elem_iff, List.elem_iff, ← List.mem_eraseDups, hx, List.mem_eraseDups]
  rw [List.eraseDups_append, List.eraseDups_append, List.removeAll, List.removeAll, eraseDups_filter,
    eraseDups_filter, hx, hy]
  simp only [hmem]

/-- Without repetitions, everything stands in the order in which it first occurs. -/
theorem pairwise_eraseDups (l : List α) : l.eraseDups.Pairwise fun a b => l.idxOf a < l.idxOf b := by
  induction l with
  | nil => exact .nil
  | cons a l ih =>
    have hne {b : α} (hb : b ∈ l.eraseDups.filter (fun b => !b == a)) : a ≠ b := by
      rintro rfl
      simp at hb
    rw [eraseDups_cons_eq]
    refine .cons (fun b hb => ?_) ((ih.filter _).imp_of_mem fun {b d} hb hd hlt => ?_)
    · rw [List.idxOf_cons_self, List.idxOf_cons_ne l (hne hb)]
      exact Nat.succ_pos _
    · rw [List.idxOf_cons_ne l (hne hb), List.idxOf_cons_ne l (hne hd)]
      exact Nat.succ_lt_succ hlt

end Repetitions

namespace Propagator

/-! ## Leaves -/

theorem allFields_eq (ps : List Propagator) : allFields ps = ps.flatMap fields := by
  induction ps with
  | nil => rfl
  | cons p ps ih => rw [allFields, ih, List.flatMap_cons]

theorem allLeaves_eq (ps : List Propagator) : allLeaves ps = ps.flatMap leaves := by
  induction ps with
  | nil => rfl
  | cons p ps ih => rw [allLeaves, ih, List.flatMap_cons]

mutual

theorem ne_composite_of_mem_leaves : ∀ (p : Propagator) {leaf : Propagator}, leaf ∈ p.leaves →
    ∀ parts, leaf ≠ .composite parts
  | .noop, _, h, parts | .traceContext, _, h, parts | .baggage, _, h, parts | .b3 _, _, h, parts
  | .jaeger, _, h, parts => by
    rw [List.mem_singleton.mp h]
    exact Propagator.noConfusion
  | .composite ps, _, h, parts => ne_composite_of_mem_allLeaves ps h parts
termination_by structural p => p

theorem ne_composite_of_mem_allLeaves : ∀ (ps : List Propagator) {leaf : Propagator}, leaf ∈ allLeaves ps →
    ∀ parts, leaf ≠ .composite parts
  | [], _, h, _ => nomatch h
  | p :: rest, _, h, parts =>
    (List.mem_append.mp h).elim (fun h => ne_composite_of_mem_leaves p h parts)
      (fun h => ne_composite_of_mem_allLeaves rest h parts)
termination_by structural ps => ps

end

section Writing

variable {γ : Type} [HeaderSink γ]

theorem injectAll_append (cx : Context) (ps qs : List Propagator) (c : γ) :
    injectAll cx (ps ++ qs) c = injectAll cx qs (injectAll cx ps c) := by
  induction ps generalizing c with
  | nil => rfl
  | cons p ps ih => exact ih _

mutual

theorem injectAll_leaves (cx : Context) : ∀ (p : Propagator) (c : γ), injectAll cx p.leaves c = p.inject cx c
  | .noop, _ | .traceContext, _ | .baggage, _ | .b3 _, _ | .jaeger, _ => rfl
  | .composite ps, c => injectAll_allLeaves cx ps c
termination_by structural p => p

theorem injectAll_allLeaves (cx : Context) : ∀ (ps : List Propagator) (c : γ),
    injectAll cx (allLeaves ps) c = injectAll cx ps c
  | [], _ => rfl
  | p :: rest, c => by
    rw [allLeaves, injectAll_append, injectAll_leaves cx p, injectAll_allLeaves cx rest, injectAll]
termination_by structural ps => ps

end

end Writing

section Reading

variable {γ : Type} [HeaderSource γ]

theorem extractAll_append (c : γ) (ps qs : List Propagator) (cx : Context) :
    extractAll c (ps ++ qs) cx = extractAll c qs (extractAll c ps cx) := by
  induction ps generalizing cx with
  | nil => rfl
  | cons p ps ih => exact ih _

mutual

theorem extractAll_leaves (c : γ) : ∀ (p : Propagator) (cx : Context),
    extractAll c p.leaves cx = p.extract c cx
  | .noop, _ | .traceContext, _ | .baggage, _ | .b3 _, _ | .jaeger, _ => rfl
  | .composite ps, cx => extractAll_allLeaves c ps cx
termination_by structural p => p

theorem extractAll_allLeaves (c : γ) : ∀ (ps : List Propagator) (cx : Context),
    extractAll c (allLeaves ps) cx = extractAll c ps cx
  | [], _ => rfl
  | p :: rest, cx => by
    rw [allLeaves, extractAll_append, extractAll_leaves c p, extractAll_allLeaves c rest, extractAll]
termination_by structural ps => ps

end

end Reading

/-! ## Headers -/

mutual

theorem eraseDups_leaves : ∀ p : Propagator, (p.leaves.flatMap fields).eraseDups = p.fields
  | .noop | .traceContext | .baggage | .jaeger => by decide
  | .b3 encoding => by cases encoding <;> decide
  | .composite ps => eraseDups_allLeaves ps
termination_by structural p => p

theorem eraseDups_allLeaves : ∀ ps : List Propagator,
    ((allLeaves ps).flatMap fields).eraseDups = (allFields ps).eraseDups
  | [] => rfl
  | p :: rest => by
    have hp := eraseDups_leaves p
    rw [allLeaves, allFields, List.flatMap_append]
    -- A part may have lost repetitions already, which makes no difference.
    refine eraseDups_append_congr ?_ (eraseDups_allLeaves rest)
    rw [← hp, eraseDups_eraseDups]
termination_by structural ps => ps

end

theorem mem_fields {p : Propagator} {name : String} : name ∈ p.fields ↔ ∃ leaf ∈ p.leaves, name ∈ leaf.fields := by
  rw [← eraseDups_leaves, List.mem_eraseDups, List.mem_flatMap]

/-- Whether a propagator may write under a name: that of one of its headers, or of a baggage item of
Jaeger's. -/
def MayWrite (p : Propagator) (name : String) : Prop :=
  name ∈ p.fields ∨ .jaeger ∈ p.leaves ∧ Jaeger.baggageStart.toList <+: name.toList

theorem MayWrite.of_mem {p : Propagator} {parts : List Propagator} (hp : p ∈ parts) {name : String}
    (h : p.MayWrite name) : (composite parts).MayWrite name := by
  have hleaf {leaf : Propagator} (hleaf : leaf ∈ p.leaves) : leaf ∈ (composite parts).leaves := by
    rw [leaves, allLeaves_eq]
    exact List.mem_flatMap.mpr ⟨p, hp, hleaf⟩
  rcases h with h | ⟨hj, hstart⟩
  · obtain ⟨leaf, hl, hname⟩ := mem_fields.mp h
    exact .inl (mem_fields.mpr ⟨leaf, hleaf hl, hname⟩)
  · exact .inr ⟨hleaf hj, hstart⟩

/-- Headers have names in lower case. -/
theorem canonical_of_mem_fields {p : Propagator} {name : String} (h : name ∈ p.fields) :
    HeaderMap.canonical name = name := by
  obtain ⟨leaf, hl, hname⟩ := mem_fields.mp h
  have hall : leaf.fields.all (fun name => HeaderMap.canonical name == name) = true := by
    cases leaf with
    | composite parts => cases ne_composite_of_mem_leaves p hl parts rfl
    | b3 encoding => cases encoding <;> decide +kernel
    | noop | traceContext | baggage | jaeger => decide +kernel
  exact eq_of_beq (List.all_eq_true.mp hall name hname)

theorem MayWrite.canonical {p : Propagator} {name : String} (h : p.MayWrite name) :
    p.MayWrite (HeaderMap.canonical name) := by
  rcases h with h | ⟨hj, item, hitem⟩
  · rw [canonical_of_mem_fields h]
    exact .inl h
  · refine .inr ⟨hj, ?_⟩
    rw [HeaderMap.canonical, String.toList_ofList, ← hitem]
    exact Jaeger.baggageStart_prefix_lowerCase item

/-! ## Writing within the headers -/

theorem name_mem_fields (s : SpanContext) (leaf : Propagator) :
    ∀ h ∈ leaf.headers s, h.name ∈ leaf.fields := by
  cases leaf with
  | traceContext =>
    rw [headers]
    split <;> decide
  | b3 encoding => cases encoding <;> simp [headers, fields, SpanHeader.name, B3.fields, B3Encoding.hasSingle,
      B3Encoding.hasMultiple]
  | jaeger => simp [headers, fields, SpanHeader.name, Jaeger.fields]
  | noop | baggage | composite => simp [headers]

section Keeping

variable {γ : Type} [HeaderSink γ] {P : γ → Prop}

theorem keeps_writeHeaders (s : SpanContext) {hs : List SpanHeader} {c : γ}
    (hput : ∀ h ∈ hs, ∀ c value, P c → P (HeaderSink.put c h.name value)) (hc : P c) :
    P (writeHeaders s hs c) := by
  induction hs generalizing c with
  | nil => exact hc
  | cons h hs ih =>
    exact ih (fun k hk => hput k (List.mem_cons_of_mem h hk)) (hput h List.mem_cons_self _ _ hc)

theorem keeps_headers (s : SpanContext) {leaf : Propagator} {c : γ}
    (hput : ∀ c name value, leaf.MayWrite name → P c → P (HeaderSink.put c name value)) (hc : P c) :
    P (writeHeaders s (leaf.headers s) c) := by
  refine keeps_writeHeaders s (fun h hh c value => ?_) hc
  exact hput c h.name value (.inl (name_mem_fields s leaf h hh))

theorem keeps_items {items : List (String × String)} {c : γ}
    (hput : ∀ c item value, P c → P (HeaderSink.put c (Jaeger.baggageStart ++ item) value)) (hc : P c) :
    P (items.foldl Jaeger.injectItem c) := by
  induction items generalizing c with
  | nil => exact hc
  | cons item items ih => exact ih (hput _ _ _ hc)

mutual

/-- What every permitted write keeps is kept. -/
theorem inject_keeps (cx : Context) : ∀ (p : Propagator),
    (∀ c name value, p.MayWrite name → P c → P (HeaderSink.put c name value)) →
    ∀ c, P c → P (p.inject cx c)
  | .noop, _, _, hc => hc
  | .traceContext, hput, c, hc => by
    rw [inject]
    by_cases hv : cx.span.isValid
    · rw [TraceParent.inject_eq hv]
      exact keeps_headers cx.span hput hc
    · rwa [TraceParent.inject, if_neg hv]
  | .baggage, hput, c, hc => by
    rw [inject, BaggageHeader.inject]
    split
    next => exact hc
    next => exact hput c _ _ (.inl (by decide)) hc
  | .b3 encoding, hput, c, hc => by
    rw [inject]
    by_cases hv : cx.span.isValid
    · rw [B3.inject_eq hv]
      exact keeps_headers cx.span hput hc
    · rwa [B3.inject, if_neg hv]
  | .jaeger, hput, c, hc => by
    rw [inject, Jaeger.inject]
    split
    next =>
      refine keeps_items (fun c item value => hput c _ value (.inr ?_)) (hput c _ _ (.inl (by decide)) hc)
      exact ⟨List.mem_cons_self, item.toList, String.toList_append.symm⟩
    next => exact hc
  | .composite parts, hput, c, hc =>
    injectAll_keeps cx parts (fun _ hp c name value h => hput c name value (h.of_mem hp)) c hc
termination_by structural p => p

theorem injectAll_keeps (cx : Context) : ∀ (ps : List Propagator),
    (∀ p ∈ ps, ∀ c name value, p.MayWrite name → P c → P (HeaderSink.put c name value)) →
    ∀ c, P c → P (injectAll cx ps c)
  | [], _, _, hc => hc
  | p :: rest, hput, c, hc =>
    injectAll_keeps cx rest (fun q hq => hput q (List.mem_cons_of_mem p hq)) _
      (inject_keeps cx p (hput p List.mem_cons_self) c hc)
termination_by structural ps => ps

end

end Keeping

/-- A permitted write leaves the entries under other names alone. -/
theorem MayWrite.get?_put {p : Propagator} {name other : String} (hname : p.MayWrite name)
    (hother : ¬ p.MayWrite other) (value : String) (m : HeaderMap) :
    (m.put name value).entries.get? other = m.entries.get? other := by
  have hne : other ≠ HeaderMap.canonical name := by
    rintro rfl
    exact hother hname.canonical
  rw [HeaderMap.put, SortedMap.get?_insert, if_neg hne]

theorem get?_inject_of_not_mayWrite (cx : Context) {p : Propagator} {name : String} (h : ¬ p.MayWrite name)
    (m : HeaderMap) : (p.inject cx m).entries.get? name = m.entries.get? name := by
  refine inject_keeps (P := fun c => c.entries.get? name = m.entries.get? name) cx p ?_ m rfl
  intro c written value hwritten hc
  exact (hwritten.get?_put h value c).trans hc

theorem get?_hashed_inject_of_not_mayWrite (cx : Context) {p : Propagator} {name : String}
    (h : ¬ p.MayWrite name) (m : HashedHeaders) :
    (p.inject cx m).headers.entries.get? name = m.headers.entries.get? name := by
  refine inject_keeps (P := fun c => c.headers.entries.get? name = m.headers.entries.get? name) cx p ?_ m rfl
  intro c written value hwritten hc
  exact (hwritten.get?_put h value c.headers).trans hc

/-! ## Trees and rows -/

/-- A tree of propagators is the row of its leaves, none of which has parts: it writes the same into any
carrier, reads the same from any carrier, and has the same headers, which are those of the leaves, each
once and in the order in which they first occur.  In a map, whether it is ordered or hashed, writing
changes nothing but what stands under these headers and, if one of the leaves is Jaeger's, under names
of baggage items. -/
theorem nesting_immaterial (p : Propagator) (cx : Context) :
    (∀ leaf ∈ p.leaves, ∀ parts, leaf ≠ .composite parts) ∧
    (∀ {γ : Type} [HeaderSink γ] (c : γ), p.inject cx c = (composite p.leaves).inject cx c) ∧
    (∀ {γ : Type} [HeaderSource γ] (c : γ), p.extract c cx = (composite p.leaves).extract c cx) ∧
    (p.fields = (composite p.leaves).fields ∧
      (∀ name, name ∈ p.fields ↔ ∃ leaf ∈ p.leaves, name ∈ leaf.fields) ∧ p.fields.Nodup ∧
      p.fields.Pairwise fun a b =>
        (p.leaves.flatMap fields).idxOf a < (p.leaves.flatMap fields).idxOf b) ∧
    (∀ name, ¬ (name ∈ p.fields ∨ .jaeger ∈ p.leaves ∧ "uberctx-".toList <+: name.toList) →
      (∀ m : HeaderMap, (p.inject cx m).entries.get? name = m.entries.get? name) ∧
      ∀ m : HashedHeaders, (p.inject cx m).headers.entries.get? name = m.headers.entries.get? name) := by
  have horder := pairwise_eraseDups (p.leaves.flatMap fields)
  rw [eraseDups_leaves] at horder
  refine ⟨fun leaf => ne_composite_of_mem_leaves p, fun c => (injectAll_leaves cx p c).symm,
    fun c => (extractAll_leaves c p cx).symm, ⟨?_, fun _ => mem_fields, ?_, horder⟩, fun name hname => ?_⟩
  · rw [fields, allFields_eq, eraseDups_leaves]
  · refine horder.imp fun {a b} hlt hab => ?_
    rw [hab] at hlt
    exact Nat.lt_irrefl _ hlt
  · exact ⟨get?_inject_of_not_mayWrite cx hname, get?_hashed_inject_of_not_mayWrite cx hname⟩

/-- Three levels, with B3 in two of them. -/
def nestedPropagator : Propagator :=
  .composite [.b3 .multiple, .composite [.b3 .both, .composite [.jaeger, .noop]], .baggage]

/-- A span in a trace, with an item in capitals. -/
def capitalItem : Context :=
  (Context.empty.withSpan ⟨⟨0xab⟩, ⟨0xcd⟩, .sampled, false, .empty⟩).withBaggage (.ofList [("B3", "item")])

/-- A header in capitals is not the one that is written, and neither is the one of an item of that name. -/
theorem nesting_immaterial_of_capitals :
    nestedPropagator.fields = ["x-b3-traceid", "x-b3-spanid", "x-b3-parentspanid", "x-b3-sampled", "b3",
      "uber-trace-id", "baggage"] ∧
    (composite nestedPropagator.leaves).fields = nestedPropagator.fields ∧
    ¬ ("B3" ∈ nestedPropagator.fields ∨
      .jaeger ∈ nestedPropagator.leaves ∧ "uberctx-".toList <+: "B3".toList) ∧
    (nestedPropagator.inject capitalItem (HeaderMap.ofList [("B3", "before"), ("b3", "before")])).entries.get? "B3"
      = some "before" := by
  have hname : ¬ ("B3" ∈ nestedPropagator.fields ∨
      .jaeger ∈ nestedPropagator.leaves ∧ "uberctx-".toList <+: "B3".toList) := by
    rintro (h | ⟨-, h⟩)
    · exact absurd h (by decide)
    · exact absurd h (by decide)
  obtain ⟨-, -, -, ⟨hfields, -⟩, hkept⟩ := nesting_immaterial nestedPropagator capitalItem
  refine ⟨by decide, hfields.symm, hname, ?_⟩
  rw [(hkept "B3" hname).1]
  decide

end Propagator

end Telemetry
