import Telemetry.Proofs.Layer.SpanTrees

/-!
# Spans of the library between others

Spans of the library are not followed, but they may stand between spans that are.  Such a span is not
seen through: a span below it has nothing of its nearest ancestor that is followed, and takes what is
attached or starts a trace, as if it had no parent (`nearest_continued`).  So its trace is another
one, and it may be recorded where its ancestors are not (`descendant_of_unsampled_recorded`).
-/

namespace Telemetry

open LayerEvent (births ends)

namespace Tracer

variable {es : List LayerEvent} {t : Tracer}

/-- The nearest ancestor of a span that is none of the library. -/
inductive Nearest (es : List LayerEvent) : Birth → Birth → Prop where
  | parent {b a} : a ∈ births es → b.nature.parent = some a.nature.key → ¬ a.IsInternal → Nearest es b a
  | above {b p a} : p ∈ births es → b.nature.parent = some p.nature.key → p.IsInternal → Nearest es p a →
      Nearest es b a

theorem Nearest.born {b a : Birth} (h : Nearest es b a) : a ∈ births es ∧ ¬ a.IsInternal := by
  induction h with
  | parent ha _ hi => exact ⟨ha, hi⟩
  | above _ _ _ _ ih => exact ih

/-- A span continues its nearest ancestor that is followed if that is its parent.  If a span of the
library comes in between, it does as a span without a parent does. -/
theorem nearest_continued (h : Run es t) {b a : Birth} (hb : b ∈ births es) (hn : Nearest es b a)
    {i : SpanIdentity} (hi : b.nature.identity = some i) :
    (b.nature.parent = some a.nature.key → ∃ j, a.nature.identity = some j ∧ i.Continues j.context ∧
      (j.context.isSampled = false → ∀ e ∈ ends b.nature.key es, e = none)) ∧
    (b.nature.parent ≠ some a.nature.key →
      if b.attached.span.isValid = true then i.Continues b.attached.span else i.Starts b.fresh) := by
  obtain ⟨ha, hext⟩ := hn.born
  refine ⟨fun hparent => ?_, fun hparent => ?_⟩
  · obtain ⟨j, hj⟩ := h.sound.exists_identity ha hext
    have hcontinues := h.sound.continues hb ha hparent hi hj
    refine ⟨j, hj, hcontinues, fun hs e he => Option.not_isSome_iff_eq_none.mp fun hsome => ?_⟩
    have hsampled := ((h.sound.leaves hb he).isSome_iff hi).mp hsome
    rw [SpanContext.isSampled, hcontinues.2.1] at hsampled
    exact absurd hsampled (Bool.eq_false_iff.mp hs)
  · refine h.sound.roots hb (fun p hp hk => ?_) hi
    cases hn with
    | parent _ hk' _ => exact absurd hk' hparent
    | above hq hk' hinternal _ =>
      rw [hk, Option.some.injEq] at hk'
      rw [h.sound.eq_of_key hp hq hk']
      exact hinternal

/-- A span below one of the library, below a span that is not sampled. -/
def partedFamily : List Step :=
  [.attach (Context.empty.withSpan (.newRemote ⟨7⟩ ⟨8⟩ .none)),
    .openSpan "outer" "app" [] .root ⟨⟨1⟩, ⟨2⟩⟩ 10,
    .attach .empty,
    .openSpan "send" "tributary_engine" [] (.within 0) ⟨⟨3⟩, ⟨4⟩⟩ 11,
    .openSpan "inner" "app" [] (.within 1) ⟨⟨5⟩, ⟨6⟩⟩ 12,
    .release 2 13]

/-- The three spans of the family. -/
theorem births_partedFamily : ∃ outer send inner : Birth,
    births (initial.chronicle partedFamily) = [outer, send, inner] ∧
    send.nature.parent = some outer.nature.key ∧ inner.nature.parent = some send.nature.key ∧
    Target.isInternal outer.nature.target = false ∧ Target.isInternal send.nature.target = true ∧
    inner.nature.key = 2 ∧ inner.attached.span.isValid = false ∧ inner.fresh.traceId = ⟨5⟩ ∧
    (∃ j, outer.nature.identity = some j ∧ j.context.traceId = ⟨7⟩ ∧ j.context.isSampled = false) ∧
    ∃ i, inner.nature.identity = some i ∧ i.context.traceId = ⟨5⟩ :=
  ⟨_, _, _, rfl, rfl, rfl, by decide +kernel, by decide +kernel, rfl, by decide +kernel, rfl,
    ⟨_, rfl, rfl, by decide +kernel⟩, _, rfl, rfl⟩

theorem nearest_partedFamily {outer send inner : Birth}
    (hbirths : births (initial.chronicle partedFamily) = [outer, send, inner])
    (hsend : send.nature.parent = some outer.nature.key) (hinner : inner.nature.parent = some send.nature.key)
    (hext : Target.isInternal outer.nature.target = false) (hint : Target.isInternal send.nature.target = true) :
    Nearest (initial.chronicle partedFamily) inner outer := by
  have houter : ¬ outer.IsInternal := by rw [Birth.IsInternal, hext]; decide
  exact .above (by simp [hbirths]) hinner hint (.parent (by simp [hbirths]) hsend houter)

theorem nearest_continued_of_parted : ∃ (es : List LayerEvent) (t : Tracer) (b a : Birth) (i : SpanIdentity),
    Run es t ∧ b ∈ births es ∧ Nearest es b a ∧ b.nature.identity = some i ∧ i.Starts b.fresh := by
  obtain ⟨outer, send, inner, hbirths, hsend, hinner, hext, hint, -, hvalid, -, -, i, hi, -⟩ := births_partedFamily
  have hrun : Run (initial.chronicle partedFamily) (initial.run partedFamily).1 := Run.start.steps partedFamily
  have hnearest := nearest_partedFamily hbirths hsend hinner hext hint
  have hborn : inner ∈ births (initial.chronicle partedFamily) := by simp [hbirths]
  obtain ⟨-, hroots⟩ := nearest_continued hrun hborn hnearest hi
  have hparted : inner.nature.parent ≠ some outer.nature.key := by
    cases hbirths
    decide
  have hstarts := hroots hparted
  rw [if_neg (Bool.eq_false_iff.mp hvalid)] at hstarts
  exact ⟨_, _, inner, outer, i, hrun, hborn, hnearest, hi, hstarts⟩

/-- A span does not always continue its nearest ancestor that is followed, and one below a span that is
not sampled may be recorded. -/
theorem descendant_of_unsampled_recorded :
    ∃ (es : List LayerEvent) (t : Tracer) (b a : Birth) (i j : SpanIdentity) (record : SpanRecord),
      Run es t ∧ b ∈ births es ∧ Nearest es b a ∧ b.nature.identity = some i ∧ a.nature.identity = some j ∧
      ¬ i.Continues j.context ∧ j.context.isSampled = false ∧ ends b.nature.key es = [some record] ∧
      record.traceId ≠ j.context.traceId := by
  obtain ⟨outer, send, inner, hbirths, hsend, hinner, hext, hint, hkey, -, -, ⟨j, hj, hjtrace, hjsampled⟩,
    i, hi, hitrace⟩ := births_partedFamily
  obtain ⟨record, hends, hrecord⟩ : ∃ record,
      ends 2 (initial.chronicle partedFamily) = [some record] ∧ record.traceId = ⟨5⟩ := ⟨_, rfl, rfl⟩
  have hrun : Run (initial.chronicle partedFamily) (initial.run partedFamily).1 := Run.start.steps partedFamily
  refine ⟨_, _, inner, outer, i, j, record, hrun, by simp [hbirths],
    nearest_partedFamily hbirths hsend hinner hext hint, hi, hj, ?_, hjsampled, by rw [hkey, hends], ?_⟩
  · rintro ⟨htrace, -⟩
    rw [hitrace, hjtrace] at htrace
    cases htrace
  · rw [hrecord, hjtrace]
    decide

end Tracer

end Telemetry
