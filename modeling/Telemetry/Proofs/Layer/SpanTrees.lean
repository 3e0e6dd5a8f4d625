import Telemetry.Proofs.Layer.History

/-!
# Trees of spans

A span continues its parent, and so all spans of a tree belong to one trace and have the flags of its
root.  Spans of the library have no identity to continue, so a tree ends where one of them comes in
between (`Beneath`).  As the flags tell what is sampled, of a tree either every span that ends is
recorded or none (`spans_recorded`).
-/

namespace Telemetry

open LayerEvent (births ends)

namespace Tracer

variable {es : List LayerEvent} {t : Tracer}

theorem Sound.eq_of_key (h : Sound es t) {b c : Birth} (hb : b ∈ births es) (hc : c ∈ births es)
    (hk : b.nature.key = c.nature.key) : b = c :=
  List.inj_on_of_nodup_map h.once hb hc hk

theorem Sound.exists_identity (h : Sound es t) {b : Birth} (hb : b ∈ births es) (hi : ¬ b.IsInternal) :
    ∃ i, b.nature.identity = some i := by
  cases hn : b.nature.identity with
  | none => exact absurd ((h.placed b hb).ignored.mp hn) hi
  | some i => exact ⟨i, rfl⟩

/-- A span continues its parent, if that is none of the library. -/
theorem Sound.continues (h : Sound es t) {b p : Birth} (hb : b ∈ births es) (hp : p ∈ births es)
    (hparent : b.nature.parent = some p.nature.key) {i j : SpanIdentity} (hi : b.nature.identity = some i)
    (hj : p.nature.identity = some j) : i.Continues j.context := by
  have same : ∀ q ∈ births es, b.nature.parent = some q.nature.key → q = p := by
    intro q hq hk
    rw [hparent, Option.some.injEq] at hk
    exact h.eq_of_key hq hp hk.symm
  cases (h.placed b hb).descends i hi with
  | parent hq hk hj' hc =>
    obtain rfl := same _ hq hk
    rw [Option.some.inj (hj.symm.trans hj')]
    exact hc
  | ignored hq hk hnone =>
    obtain rfl := same _ hq hk
    rw [hnone] at hj
    cases hj
  | root hnone =>
    rw [hnone] at hparent
    cases hparent

/-- A span without a parent, or with one of the library, takes what is attached or starts a trace. -/
theorem Sound.roots (h : Sound es t) {b : Birth} (hb : b ∈ births es)
    (hparent : ∀ p ∈ births es, b.nature.parent = some p.nature.key → p.IsInternal) {i : SpanIdentity}
    (hi : b.nature.identity = some i) : b.Roots i := by
  cases (h.placed b hb).descends i hi with
  | parent hq hk hj =>
    rw [(h.placed _ hq).ignored.mpr (hparent _ hq hk)] at hj
    cases hj
  | ignored _ _ _ hr => exact hr
  | root _ hr => exact hr

/-! ## Trees -/

/-- The spans of the tree of a root, in which no span of the library is. -/
inductive Beneath (es : List LayerEvent) (root : Birth) : Birth → Prop where
  | root : Beneath es root root
  | child {p b} : Beneath es root p → b ∈ births es → b.nature.parent = some p.nature.key →
      ¬ b.IsInternal → Beneath es root b

theorem Beneath.born {root b : Birth} (hb : Beneath es root b) (hroot : root ∈ births es)
    (hext : ¬ root.IsInternal) : b ∈ births es ∧ ¬ b.IsInternal := by
  cases hb with
  | root => exact ⟨hroot, hext⟩
  | child _ hb _ hi => exact ⟨hb, hi⟩

/-- All spans of a tree have the trace, the flags and the trace state of its root. -/
theorem Sound.beneath (h : Sound es t) {root b : Birth} (hroot : root ∈ births es) (hext : ¬ root.IsInternal)
    {r : SpanIdentity} (hr : root.nature.identity = some r) (hb : Beneath es root b) :
    ∃ i, b.nature.identity = some i ∧ i.context.traceId = r.context.traceId ∧
      i.context.flags = r.context.flags ∧ i.context.state = r.context.state := by
  induction hb with
  | root => exact ⟨r, hr, rfl, rfl, rfl⟩
  | child hp hb hk hi ih =>
    obtain ⟨j, hj, htrace, hflags, hstate⟩ := ih
    obtain ⟨i, hi⟩ := h.exists_identity hb hi
    obtain ⟨htrace', hflags', hstate', -⟩ := h.continues hb (hp.born hroot hext).1 hk hi hj
    exact ⟨i, hi, htrace'.trans htrace, hflags'.trans hflags, hstate'.trans hstate⟩

theorem Sound.leaves (h : Sound es t) {b : Birth} (hb : b ∈ births es) {e : Option SpanRecord}
    (he : e ∈ ends b.nature.key es) : b.nature.Leaves e := by
  rcases h.lives b hb with ⟨-, hnone⟩ | ⟨-, r, hr, hl⟩
  · rw [hnone] at he
    cases he
  · rw [hr] at he
    rw [List.mem_singleton.mp he]
    exact hl

end Tracer

/-- A record is that of a span with an identity. -/
theorem SpanNature.Leaves.of_some {n : SpanNature} {i : SpanIdentity} {record : SpanRecord}
    (h : n.Leaves (some record)) (hi : n.identity = some i) :
    record.traceId = i.context.traceId ∧ record.spanId = i.context.spanId ∧ record.parentId = i.parentId ∧
      record.flags = i.context.flags ∧ record.name = n.name ∧ record.target = n.target ∧ record.start = i.start := by
  unfold Leaves at h
  rw [hi] at h
  dsimp only at h
  split at h
  next =>
    obtain ⟨finish, attributes, status, he⟩ := h
    cases he
    exact ⟨rfl, rfl, rfl, rfl, rfl, rfl, rfl⟩
  next => cases h

theorem SpanNature.Leaves.isSome_iff {n : SpanNature} {i : SpanIdentity} {e : Option SpanRecord}
    (h : n.Leaves e) (hi : n.identity = some i) : e.isSome = true ↔ i.context.isSampled = true := by
  unfold Leaves at h
  rw [hi] at h
  dsimp only at h
  split at h
  next hs =>
    obtain ⟨finish, attributes, status, rfl⟩ := h
    exact ⟨fun _ => hs, fun _ => rfl⟩
  next hs =>
    rw [h]
    exact ⟨fun he => (nomatch he), fun he => absurd he hs⟩

namespace Tracer

/-! ## Records -/

/-- What becomes of a span that was born. -/
structure Followed (es : List LayerEvent) (t : Tracer) (b : Birth) : Prop where
  /-- It is told who it is, unless it is one of the library, -/
  told : b.nature.identity = none ↔ b.IsInternal
  /-- and this stays as it is as long as the span is open. -/
  kept : ∀ n ∈ t.natures, n.key = b.nature.key → n = b.nature
  /-- It has an id of its own. -/
  own : ∀ i, b.nature.identity = some i → i.context.spanId = b.fresh.spanId
  /-- Its parent was born too, and if that is none of the library it continues it. -/
  child : ∀ k, b.nature.parent = some k → ∃ p ∈ births es, p.nature.key = k ∧
    (¬ p.IsInternal → ∀ i, b.nature.identity = some i → ∃ j, p.nature.identity = some j ∧ i.Continues j.context)
  /-- Without a parent it continues what is attached, or starts a trace. -/
  root : b.nature.parent = none → ∀ i, b.nature.identity = some i →
    if b.attached.span.isValid = true then i.Continues b.attached.span else i.Starts b.fresh
  /-- It is open, or it has ended once and left its record. -/
  ended : (b.nature ∈ t.natures ∧ ends b.nature.key es = []) ∨
    (b.nature.key ∉ t.natures.map (·.key) ∧ ∃ e, ends b.nature.key es = [e] ∧ b.nature.Leaves e)

/-- What becomes of the tree of a root. -/
structure Grown (es : List LayerEvent) (root : Birth) (r : SpanIdentity) : Prop where
  /-- Its records are of one trace, with the same flags. -/
  alike : ∀ b, Beneath es root b → ∀ record, some record ∈ ends b.nature.key es →
    record.traceId = r.context.traceId ∧ record.flags = r.context.flags
  /-- The record of a child names its parent. -/
  linked : ∀ p b, Beneath es root p → Beneath es root b → b.nature.parent = some p.nature.key →
    ∃ j, p.nature.identity = some j ∧ ∀ record, some record ∈ ends b.nature.key es →
      record.parentId = some j.context.spanId ∧
      ∀ above, some above ∈ ends p.nature.key es → record.parentId = some above.spanId
  /-- Every span that ends is recorded, or none is. -/
  together : (∀ b, Beneath es root b → ∀ e ∈ ends b.nature.key es, e.isSome = true) ∨
    (∀ b, Beneath es root b → ∀ e ∈ ends b.nature.key es, e = none)

theorem Sound.followed (h : Sound es t) {b : Birth} (hb : b ∈ births es) : Followed es t b where
  told := (h.placed b hb).ignored
  kept n hn hk := by
    obtain ⟨c, hc, rfl⟩ := h.born n hn
    rw [h.eq_of_key hc hb hk]
  own := (h.placed b hb).own
  child k hk := by
    obtain ⟨p, hp, rfl⟩ := (h.placed b hb).parent k hk
    refine ⟨p, hp, rfl, fun hext i hi => ?_⟩
    obtain ⟨j, hj⟩ := h.exists_identity hp hext
    exact ⟨j, hj, h.continues hb hp hk hi hj⟩
  root hnone i hi := h.roots hb (fun p _ hk => by rw [hnone] at hk; cases hk) hi
  ended := h.lives b hb

theorem Sound.grown (h : Sound es t) {root : Birth} (hroot : root ∈ births es) (hext : ¬ root.IsInternal)
    {r : SpanIdentity} (hr : root.nature.identity = some r) : Grown es root r where
  alike b hb record he := by
    obtain ⟨i, hi, htrace, hflags, -⟩ := h.beneath hroot hext hr hb
    obtain ⟨ht, -, -, hf, -⟩ := (h.leaves (hb.born hroot hext).1 he).of_some hi
    exact ⟨ht.trans htrace, hf.trans hflags⟩
  linked p b hp hb hk := by
    obtain ⟨j, hj, -⟩ := h.beneath hroot hext hr hp
    obtain ⟨i, hi, -⟩ := h.beneath hroot hext hr hb
    obtain ⟨hborn, -⟩ := hp.born hroot hext
    obtain ⟨-, -, -, hparent⟩ := h.continues (hb.born hroot hext).1 hborn hk hi hj
    refine ⟨j, hj, fun record he => ?_⟩
    obtain ⟨-, -, hid, -⟩ := (h.leaves (hb.born hroot hext).1 he).of_some hi
    refine ⟨hid.trans hparent, fun above ha => ?_⟩
    obtain ⟨-, hspan, -⟩ := (h.leaves hborn ha).of_some hj
    rw [hid, hparent, hspan]
  together := by
    -- what is sampled is read off the flags, and these are the root's
    have hsampled : ∀ b, Beneath es root b → ∀ e ∈ ends b.nature.key es,
        (e.isSome = true ↔ r.context.isSampled = true) := by
      intro b hb e he
      obtain ⟨i, hi, -, hflags, -⟩ := h.beneath hroot hext hr hb
      rw [(h.leaves (hb.born hroot hext).1 he).isSome_iff hi, SpanContext.isSampled, hflags]
      rfl
    cases hs : r.context.isSampled with
    | true => exact .inl fun b hb e he => (hsampled b hb e he).mpr hs
    | false =>
      refine .inr fun b hb e he => Option.not_isSome_iff_eq_none.mp fun hsome => ?_
      rw [(hsampled b hb e he).mp hsome] at hs
      cases hs

/-- In every run each span is born once, is told who it is by its parent or else by what is attached,
and is enqueued once when it ends if it is sampled.  So the records of a tree are of one trace, they
are linked as the spans are, and either all of them are enqueued or none. -/
theorem spans_recorded (h : Run es t) :
    ((births es).map (·.nature.key)).Nodup ∧
    (∀ b ∈ births es, Followed es t b) ∧
    (∀ k, ends k es ≠ [] → ∃ b ∈ births es, b.nature.key = k) ∧
    (∀ (l : Layer) (s : Step), l.tracer = t → l.step s = ⟨(t.step s).1, l.stage.act fun p =>
      ((t.events s).filterMap LayerEvent.record?).foldl Processor.enqueue p⟩) ∧
    ∀ root ∈ births es, ¬ root.IsInternal → ∃ r, root.nature.identity = some r ∧ Grown es root r := by
  refine ⟨h.sound.once, fun b hb => h.sound.followed hb, h.sound.ended, ?_, fun root hroot hext => ?_⟩
  · rintro l s rfl
    rw [← records_step]
    rfl
  · obtain ⟨r, hr⟩ := h.sound.exists_identity hroot hext
    exact ⟨r, hr, h.sound.grown hroot hext hr⟩

/-- A span continues an attached trace.  Its child is born while another trace is attached, which is
not sampled, and outlives the handle of its parent. -/
def handover : List Step :=
  [.attach (Context.empty.withSpan (.newRemote ⟨7⟩ ⟨8⟩ ⟨3⟩)),
    .openSpan "outer" "app" [] .current ⟨⟨1⟩, ⟨2⟩⟩ 10,
    .attach (Context.empty.withSpan (.newRemote ⟨9⟩ ⟨10⟩ .none)),
    .openSpan "inner" "app" [] (.within 0) ⟨⟨3⟩, ⟨4⟩⟩ 11,
    .release 0 12, .release 1 13]

theorem spans_recorded_of_handover :
    ∃ (es : List LayerEvent) (t : Tracer) (outer inner : Birth) (r : SpanIdentity),
      Run es t ∧ births es = [outer, inner] ∧ inner.attached.span.traceId = ⟨9⟩ ∧ Followed es t inner ∧
      outer.nature.identity = some r ∧ r.context.traceId = ⟨7⟩ ∧ Grown es outer r ∧
      (ends inner.nature.key es).map (·.map fun record => (record.traceId, record.parentId, record.flags))
        = [some (⟨7⟩, some r.context.spanId, ⟨3⟩)] := by
  have hrun : Run (initial.chronicle handover) (initial.run handover).1 := Run.start.steps handover
  obtain ⟨outer, inner, hbirths, hext, r, hr, htrace, hspan⟩ : ∃ outer inner,
      births (initial.chronicle handover) = [outer, inner] ∧ Target.isInternal outer.nature.target = false ∧
      ∃ r, outer.nature.identity = some r ∧ r.context.traceId = ⟨7⟩ ∧ r.context.spanId = ⟨2⟩ :=
    ⟨_, _, rfl, by decide +kernel, _, rfl, rfl, rfl⟩
  obtain ⟨-, hfollowed, -, -, htrees⟩ := spans_recorded hrun
  rw [hbirths] at hfollowed htrees
  obtain ⟨r', hr', hgrown⟩ := htrees outer List.mem_cons_self (by rw [Birth.IsInternal, hext]; decide)
  rw [hr, Option.some.injEq] at hr'
  rw [← hr'] at hgrown
  refine ⟨_, _, outer, inner, r, hrun, hbirths, ?_, hfollowed inner (by simp), hr, htrace, hgrown, ?_⟩
  · cases hbirths
    rfl
  · cases hbirths
    rw [hspan]
    decide +kernel

end Tracer

end Telemetry
