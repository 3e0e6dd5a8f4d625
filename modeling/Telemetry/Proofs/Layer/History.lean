import Mathlib.Data.List.Nodup
import Telemetry.Layer.Pipeline

/-!
# The lives of spans

Fields are written and handles come and go, but much of a span stays as it was when it was opened: its
number, its parent, its name and target, and above all who it is, which it is told once and keeps.
This is its *nature*, and a span without an identity is one that is not followed.

A run of a tracer leaves a history: which spans were born and which ended, with the record that was
made.  Code may at any time go on elsewhere, on another thread or in another task, where other spans
are entered and other contexts attached.  So nothing that is said of all runs depends on what is
entered, and what is current at a birth is part of the history.

What one step does to the natures of the open spans is one of three things (`Passes`): nothing, one of
them is added, or some are taken out.  From this it follows that a span is born once and ends at most
once, and that its record is made of its nature (`Sound`).
-/

namespace Telemetry

/-! ## Natures -/

/-- What a span is told at its birth. -/
structure SpanIdentity where
  /-- Who it is. -/
  context : SpanContext
  /-- The span it is part of. -/
  parentId : Option SpanId
  /-- When it began. -/
  start : Time
deriving DecidableEq

/-- What stays of a span while it is open. -/
structure SpanNature where
  /-- Its number. -/
  key : SpanKey
  /-- The number of its parent. -/
  parent : Option SpanKey
  /-- What it is called. -/
  name : String
  /-- The part of the program it comes from. -/
  target : String
  /-- Who it is, unless it is not followed. -/
  identity : Option SpanIdentity
deriving DecidableEq

def SpanSketch.identity (k : SpanSketch) : SpanIdentity := ⟨k.context, k.parentId, k.start⟩

def OpenSpan.nature (s : OpenSpan TracedSpan) : SpanNature :=
  ⟨s.key, s.parent, s.content.name, s.content.target, s.content.sketch.map SpanSketch.identity⟩

/-- Whether a change to a span leaves its name, target and identity as they are. -/
def TracedSpan.Minor (f : TracedSpan → TracedSpan) : Prop :=
  ∀ s, ∃ g, f s = s.mapSketch g ∧ ∀ k, (g k).identity = k.identity

theorem TracedSpan.minor_noting (fields : Fields) : Minor (·.noting fields) := fun s =>
  ⟨fun k => { k with attributes := k.attributes.notingAll (fields.among s.declared) }, rfl, fun _ => rfl⟩

theorem TracedSpan.minor_failing (message : String) : Minor (·.failing message) := fun _ =>
  ⟨fun k => { k with status := .error message }, rfl, fun _ => rfl⟩

theorem OpenSpan.nature_mapContent {f : TracedSpan → TracedSpan} (hf : TracedSpan.Minor f)
    (s : OpenSpan TracedSpan) : (s.mapContent f).nature = s.nature := by
  obtain ⟨g, hg, hkeeps⟩ := hf s.content
  have hsketch : (s.content.sketch.map g).map SpanSketch.identity = s.content.sketch.map SpanSketch.identity := by
    rw [Option.map_map]
    exact congrArg (Option.map · _) (funext hkeeps)
  rw [nature, nature, mapContent, hg, TracedSpan.mapSketch, hsketch]

namespace SpanIdentity

/-- Whether it is part of the trace of another span and has that one as parent. -/
def Continues (i : SpanIdentity) (origin : SpanContext) : Prop :=
  i.context.traceId = origin.traceId ∧ i.context.flags = origin.flags ∧ i.context.state = origin.state ∧
    i.parentId = some origin.spanId

/-- Whether it is the first of a new trace. -/
def Starts (i : SpanIdentity) (fresh : FreshIds) : Prop :=
  i.context.traceId = fresh.traceId ∧ i.context.flags = .sampled ∧ i.context.state = .empty ∧ i.parentId = none

end SpanIdentity

/-- What may come of a span of some nature when it closes: a record if it is followed and sampled. -/
def SpanNature.Leaves (n : SpanNature) (record : Option SpanRecord) : Prop :=
  match n.identity with
  | none => record = none
  | some i =>
    if i.context.isSampled = true then
      ∃ finish attributes status, record = some ⟨i.context.traceId, i.context.spanId, i.parentId, i.context.flags,
        n.name, n.target, i.start, finish, attributes, status⟩
    else record = none

theorem OpenSpan.leaves_nature (s : OpenSpan TracedSpan) (now : Time) :
    s.nature.Leaves (s.content.record? now) := by
  unfold SpanNature.Leaves TracedSpan.record?
  cases hs : s.content.sketch with
  | none =>
    have hi : s.nature.identity = none := by rw [nature, hs, Option.map_none]
    rw [hi]
  | some k =>
    have hi : s.nature.identity = some k.identity := by rw [nature, hs, Option.map_some]
    rw [hi]
    show if k.context.isSampled = true then _ else _
    by_cases hk : k.context.isSampled = true
    · rw [if_pos hk]
      dsimp only
      rw [if_pos hk]
      exact ⟨now, k.attributes, k.status, rfl⟩
    · rw [if_neg hk]
      dsimp only
      rw [if_neg hk]

/-! ## Histories -/

/-- A span is born. -/
structure Birth where
  /-- What it is. -/
  nature : SpanNature
  /-- The context that was current. -/
  attached : Context
  /-- The ids that were drawn for it. -/
  fresh : FreshIds

/-- The span is one of the library. -/
def Birth.IsInternal (b : Birth) : Prop := Target.isInternal b.nature.target = true

/-- Who a span is that no other span of this service tells it: it continues the span of the current
context, or starts a trace. -/
def Birth.Roots (b : Birth) (i : SpanIdentity) : Prop :=
  if b.attached.span.isValid = true then i.Continues b.attached.span else i.Starts b.fresh

/-- What happens to spans. -/
inductive LayerEvent where
  | born (birth : Birth)
  | ended (key : SpanKey) (record : Option SpanRecord)

namespace LayerEvent

def birth? : LayerEvent → Option Birth
  | .born b => some b
  | .ended _ _ => none

/-- The record that is enqueued. -/
def record? : LayerEvent → Option SpanRecord
  | .born _ => none
  | .ended _ r => r

/-- The end of a span. -/
def endOf? (key : SpanKey) : LayerEvent → Option (Option SpanRecord)
  | .born _ => none
  | .ended k r => if k = key then some r else none

/-- The births of a history. -/
def births (es : List LayerEvent) : List Birth := es.filterMap birth?

/-- The ends of a span in a history. -/
def ends (key : SpanKey) (es : List LayerEvent) : List (Option SpanRecord) := es.filterMap (endOf? key)

theorem births_append (es fs : List LayerEvent) : births (es ++ fs) = births es ++ births fs :=
  List.filterMap_append

theorem ends_append (key : SpanKey) (es fs : List LayerEvent) : ends key (es ++ fs) = ends key es ++ ends key fs :=
  List.filterMap_append

/-- Several spans end, with what comes of them. -/
def endings (closed : List (SpanNature × Option SpanRecord)) : List LayerEvent :=
  closed.map fun c => .ended c.1.key c.2

theorem births_endings (closed : List (SpanNature × Option SpanRecord)) : births (endings closed) = [] := by
  rw [births, endings, List.filterMap_map]
  exact List.filterMap_eq_nil_iff.mpr fun _ _ => rfl

theorem ends_endings_of_not_mem {key : SpanKey} {closed : List (SpanNature × Option SpanRecord)}
    (h : key ∉ closed.map (·.1.key)) : ends key (endings closed) = [] := by
  rw [ends, endings, List.filterMap_map]
  refine List.filterMap_eq_nil_iff.mpr fun c hc => if_neg fun he => h ?_
  exact he ▸ List.mem_map_of_mem hc

theorem ends_endings_of_mem {closed : List (SpanNature × Option SpanRecord)}
    (hd : (closed.map (·.1.key)).Nodup) {c : SpanNature × Option SpanRecord} (hc : c ∈ closed) :
    ends c.1.key (endings closed) = [c.2] := by
  induction closed with
  | nil => cases hc
  | cons x closed ih =>
    obtain ⟨hx, hrest⟩ := List.nodup_cons.mp hd
    rcases List.mem_cons.mp hc with rfl | hc
    · have hself : endOf? c.1.key (.ended c.1.key c.2) = some c.2 := if_pos rfl
      exact (List.filterMap_cons_some hself).trans (congrArg (c.2 :: ·) (ends_endings_of_not_mem hx))
    · have hne : x.1.key ≠ c.1.key := fun he => hx (List.mem_map.mpr ⟨c, hc, he.symm⟩)
      have hother : endOf? c.1.key (.ended x.1.key x.2) = none := if_neg hne
      exact (List.filterMap_cons_none hother).trans (ih hrest hc)

end LayerEvent

open LayerEvent (births ends endings births_append ends_append births_endings
  ends_endings_of_mem ends_endings_of_not_mem)

namespace Tracer

/-- The natures of the open spans. -/
def natures (t : Tracer) : List SpanNature := t.spans.spans.map OpenSpan.nature

/-- The nature of an open span. -/
def nature? (t : Tracer) (key : SpanKey) : Option SpanNature := (t.spans.find? key).map OpenSpan.nature

/-- What happens to spans in a step. -/
def events (t : Tracer) : Step → List LayerEvent
  | .openSpan name target fields parentage fresh now =>
    ((t.openSpan name target fields parentage fresh now).spans.spans.head?.map fun s =>
      .born ⟨s.nature, t.attached, fresh⟩).toList
  | .release key now => endings ((t.spans.release key).2.map fun s => (s.nature, s.content.record? now))
  | .note _ _ | .event _ _ _ _ | .enter _ | .leave _ | .share _ | .attach _ | .detach _ => []

/-- What happens to spans in several steps. -/
def chronicle (t : Tracer) : List Step → List LayerEvent
  | [] => []
  | s :: rest => t.events s ++ (t.step s).1.chronicle rest
termination_by structural steps => steps

/-- A tracer that has come about, with its history. -/
inductive Run : List LayerEvent → Tracer → Prop where
  | start : Run [] .initial
  | step {es t} (s : Step) : Run es t → Run (es ++ t.events s) (t.step s).1
  | elsewhere {es t} (entered : List SpanKey) (contexts : Execution) : Run es t →
      Run es ⟨{ t.spans with entered := entered }, contexts⟩

theorem Run.steps {es : List LayerEvent} {t : Tracer} (h : Run es t) (steps : List Step) :
    Run (es ++ t.chronicle steps) (t.run steps).1 := by
  induction steps generalizing es t with
  | nil =>
    rw [chronicle, List.append_nil]
    exact h
  | cons s rest ih =>
    rw [chronicle, ← List.append_assoc]
    exact ih (h.step s)

/-- The records that a step makes are those of the spans that end in it. -/
theorem records_step (t : Tracer) (s : Step) : (t.step s).2 = (t.events s).filterMap LayerEvent.record? := by
  cases s with
  | openSpan name target fields parentage fresh now => cases h : (t.openSpan name target fields parentage
      fresh now).spans.spans.head? <;> simp [step, events, h, LayerEvent.record?]
  | release key now =>
    simp only [step, events, release, endings, List.filterMap_map]
    rfl
  | note | event | enter | leave | share | attach | detach => rfl

/-! ## What a step does -/

/-- A span that is born in a tracer: its parent is open, and if that one has an identity the span
continues it. -/
structure Bears (t : Tracer) (b : Birth) : Prop where
  key : b.nature.key = t.spans.next
  ignored : b.nature.identity = none ↔ b.IsInternal
  parent : ∀ p, b.nature.parent = some p → ∃ n, t.nature? p = some n
  own : ∀ i, b.nature.identity = some i → i.context.spanId = b.fresh.spanId
  descent : ∀ i, b.nature.identity = some i →
    match (b.nature.parent.bind t.nature?).bind (·.identity) with
    | some origin => i.Continues origin.context
    | none => b.Roots i

/-- What can become of the natures of the open spans. -/
inductive Passes (t : Tracer) : List LayerEvent → Tracer → Prop where
  | quiet {t'} : t'.natures = t.natures → t'.spans.next = t.spans.next → Passes t [] t'
  | bears {t' b} : t'.natures = b.nature :: t.natures → t'.spans.next = t.spans.next + 1 → t.Bears b →
      Passes t [.born b] t'
  | ends {t' closed} : (t'.natures ++ closed.map (·.1)).Perm t.natures → t'.spans.next = t.spans.next →
      (∀ c ∈ closed, c.1.Leaves c.2) → Passes t (endings closed) t'

variable {t : Tracer}

theorem Passes.of_modify {f : TracedSpan → TracedSpan} (hf : TracedSpan.Minor f) (key : SpanKey) :
    Passes t [] { t with spans := t.spans.modify key f } :=
  .quiet (OpenSpan.map_update (fun s => s.nature_mapContent hf) key t.spans.spans) rfl

/-- The span that was opened last, and those behind it. -/
theorem spans_insert (r : Registry TracedSpan) (parent : Option SpanKey) (content : TracedSpan) :
    ∃ behind, (r.insert parent content).1.spans
        = ⟨r.next, parent.filter fun key => (r.find? key).isSome, 1, content⟩ :: behind ∧
      behind.map OpenSpan.nature = r.spans.map OpenSpan.nature := by
  unfold Registry.insert
  cases parent.filter fun key => (r.find? key).isSome with
  | none => exact ⟨r.spans, rfl, rfl⟩
  | some key => exact ⟨(r.hold key).spans, rfl, OpenSpan.map_update (f := .held) (fun _ => rfl) key r.spans⟩

theorem bind_sketch?_identity (t : Tracer) (parent : Option SpanKey) :
    ((parent.filter fun key => (t.spans.find? key).isSome).bind t.nature?).bind (·.identity) =
      (parent.bind t.sketch?).map SpanSketch.identity := by
  cases parent with
  | none => rfl
  | some key =>
    rw [Option.bind_some, sketch?, Registry.content?, Option.filter]
    cases hf : t.spans.find? key with
    | none => rfl
    | some s =>
      rw [Option.isSome_some, if_pos rfl, Option.bind_some, nature?, hf]
      rfl

/-- The birth of a span that is opened. -/
def birthOf (t : Tracer) (name target : String) (fields : Fields) (parentage : Parentage) (fresh : FreshIds)
    (now : Time) : Birth where
  nature :=
    { key := t.spans.next
      parent := (t.enclosing? parentage).filter fun key => (t.spans.find? key).isSome
      name := name
      target := target
      identity :=
        if Target.isInternal target then none
        else some (t.newSketch (t.enclosing? parentage) fields fresh now).identity }
  attached := t.attached
  fresh := fresh

section Opening

variable (t) (name target : String) (fields : Fields) (parentage : Parentage) (fresh : FreshIds) (now : Time)

/-- The span that was opened stands before all others. -/
theorem spans_openSpan : ∃ s behind,
    (t.openSpan name target fields parentage fresh now).spans.spans = s :: behind ∧
    s.nature = (t.birthOf name target fields parentage fresh now).nature ∧
    behind.map OpenSpan.nature = t.natures := by
  obtain ⟨behind, hspans, hbehind⟩ := spans_insert t.spans (t.enclosing? parentage)
    ⟨name, target, fields.names,
      if Target.isInternal target then none else some (t.newSketch (t.enclosing? parentage) fields fresh now)⟩
  refine ⟨_, behind, hspans, ?_, hbehind⟩
  unfold birthOf OpenSpan.nature
  dsimp only
  split <;> rfl

theorem events_openSpan : t.events (.openSpan name target fields parentage fresh now) =
    [.born (t.birthOf name target fields parentage fresh now)] := by
  obtain ⟨s, behind, hspans, hnature, -⟩ := spans_openSpan t name target fields parentage fresh now
  rw [events, hspans, List.head?_cons, Option.map_some, hnature]
  rfl

/-- Who a new span is depends on its parent if that has an identity, and else on what is attached. -/
theorem descent_birthOf :
    match ((t.birthOf name target fields parentage fresh now).nature.parent.bind t.nature?).bind (·.identity) with
    | some origin =>
      (t.newSketch (t.enclosing? parentage) fields fresh now).identity.Continues origin.context
    | none =>
      (t.birthOf name target fields parentage fresh now).Roots
        (t.newSketch (t.enclosing? parentage) fields fresh now).identity := by
  unfold birthOf Birth.Roots
  dsimp only
  rw [bind_sketch?_identity]
  unfold newSketch origin?
  cases (t.enclosing? parentage).bind t.sketch? with
  | some k => exact ⟨rfl, rfl, rfl, rfl⟩
  | none =>
    by_cases hv : t.attached.span.isValid = true
    · simp only [if_pos hv]
      exact ⟨rfl, rfl, rfl, rfl⟩
    · simp only [if_neg hv]
      exact ⟨rfl, rfl, rfl, rfl⟩

theorem spanId_newSketch (parent : Option SpanKey) :
    (t.newSketch parent fields fresh now).context.spanId = fresh.spanId := by
  unfold newSketch
  dsimp only
  split <;> rfl

theorem bears_birthOf : t.Bears (t.birthOf name target fields parentage fresh now) := by
  have hidentity : ∀ i, (t.birthOf name target fields parentage fresh now).nature.identity = some i →
      i = (t.newSketch (t.enclosing? parentage) fields fresh now).identity := by
    intro i hi
    unfold birthOf at hi
    dsimp only at hi
    split at hi
    next => cases hi
    next => exact (Option.some.inj hi).symm
  constructor
  case key => rfl
  case ignored =>
    unfold birthOf Birth.IsInternal
    dsimp only
    split
    next h => exact ⟨fun _ => h, fun _ => rfl⟩
    next h => exact ⟨fun he => (nomatch he), fun he => absurd he h⟩
  case parent =>
    intro p hp
    obtain ⟨-, hfind⟩ := Option.filter_eq_some_iff.mp hp
    obtain ⟨s, hs⟩ := Option.isSome_iff_exists.mp hfind
    exact ⟨s.nature, by rw [nature?, hs, Option.map_some]⟩
  case own =>
    intro i hi
    rw [hidentity i hi]
    exact spanId_newSketch t fields fresh now (t.enclosing? parentage)
  case descent =>
    intro i hi
    rw [hidentity i hi]
    exact descent_birthOf t name target fields parentage fresh now

theorem passes_openSpan : Passes t (t.events (.openSpan name target fields parentage fresh now))
    (t.openSpan name target fields parentage fresh now) := by
  obtain ⟨s, behind, hspans, hnature, hbehind⟩ := spans_openSpan t name target fields parentage fresh now
  rw [events_openSpan]
  refine .bears ?_ rfl (bears_birthOf t name target fields parentage fresh now)
  rw [natures, hspans, List.map_cons, hnature, hbehind]

end Opening

/-- Every step does one of three things to the open spans. -/
theorem passes_step (t : Tracer) (s : Step) : Passes t (t.events s) (t.step s).1 := by
  cases s with
  | openSpan name target fields parentage fresh now =>
    exact passes_openSpan t name target fields parentage fresh now
  | note key fields => exact .of_modify (TracedSpan.minor_noting fields) key
  | event level target fields parentage =>
    show Passes t [] (t.event level target fields parentage)
    unfold event
    split
    · exact .quiet rfl rfl
    · split
      · exact .of_modify (TracedSpan.minor_failing _) _
      · exact .quiet rfl rfl
  | enter | leave | attach | detach => exact .quiet rfl rfl
  | share key => exact .quiet (OpenSpan.map_update (f := .held) (fun _ => rfl) key t.spans.spans) rfl
  | release key now =>
    have hkeeps : ∀ (s : OpenSpan TracedSpan) (n : Nat), ({ s with holders := n } : OpenSpan TracedSpan).nature =
        s.nature := fun _ _ => rfl
    have hperm := OpenSpan.perm_release hkeeps key t.spans.spans
    refine .ends ?_ rfl ?_
    · rw [List.map_map]
      exact hperm
    · intro c hc
      obtain ⟨s, -, rfl⟩ := List.mem_map.mp hc
      exact s.leaves_nature now

theorem mem_of_nature? {key : SpanKey} {n : SpanNature} (h : t.nature? key = some n) :
    n ∈ t.natures ∧ n.key = key := by
  obtain ⟨s, hs, rfl⟩ := Option.map_eq_some_iff.mp h
  rw [Registry.find?] at hs
  have hkey := List.find?_some hs
  exact ⟨List.mem_map_of_mem (List.mem_of_find?_eq_some hs), eq_of_beq hkey⟩

/-! ## What holds of all histories -/

variable {es new : List LayerEvent} {t' : Tracer}

/-- How a span has come by its identity: from its parent, or else from what was attached. -/
inductive Descends (es : List LayerEvent) (b : Birth) (i : SpanIdentity) : Prop where
  | parent {p j} : p ∈ births es → b.nature.parent = some p.nature.key → p.nature.identity = some j →
      i.Continues j.context → Descends es b i
  | ignored {p} : p ∈ births es → b.nature.parent = some p.nature.key → p.nature.identity = none →
      b.Roots i → Descends es b i
  | root : b.nature.parent = none → b.Roots i → Descends es b i

/-- What holds of a span that was born. -/
structure Placed (es : List LayerEvent) (b : Birth) : Prop where
  ignored : b.nature.identity = none ↔ b.IsInternal
  own : ∀ i, b.nature.identity = some i → i.context.spanId = b.fresh.spanId
  parent : ∀ k, b.nature.parent = some k → ∃ p ∈ births es, p.nature.key = k
  descends : ∀ i, b.nature.identity = some i → Descends es b i

/-- What holds of a tracer with its history. -/
structure Sound (es : List LayerEvent) (t : Tracer) : Prop where
  distinct : (t.natures.map (·.key)).Nodup
  once : ((births es).map (·.nature.key)).Nodup
  below : ∀ b ∈ births es, b.nature.key < t.spans.next
  born : ∀ n ∈ t.natures, ∃ b ∈ births es, b.nature = n
  lives : ∀ b ∈ births es, (b.nature ∈ t.natures ∧ ends b.nature.key es = []) ∨
    (b.nature.key ∉ t.natures.map (·.key) ∧ ∃ r, ends b.nature.key es = [r] ∧ b.nature.Leaves r)
  ended : ∀ k, ends k es ≠ [] → ∃ b ∈ births es, b.nature.key = k
  placed : ∀ b ∈ births es, Placed es b

theorem mem_births_append {b : Birth} (h : b ∈ births es) (new : List LayerEvent) : b ∈ births (es ++ new) := by
  rw [births_append]
  exact List.mem_append_left _ h

theorem Descends.append {b : Birth} {i : SpanIdentity} (h : Descends es b i) (new : List LayerEvent) :
    Descends (es ++ new) b i := by
  cases h with
  | parent hp hk hj hc => exact .parent (mem_births_append hp new) hk hj hc
  | ignored hp hk hj hr => exact .ignored (mem_births_append hp new) hk hj hr
  | root hn hr => exact .root hn hr

theorem Placed.append {b : Birth} (h : Placed es b) (new : List LayerEvent) : Placed (es ++ new) b where
  ignored := h.ignored
  own := h.own
  parent k hk := by
    obtain ⟨p, hp, he⟩ := h.parent k hk
    exact ⟨p, mem_births_append hp new, he⟩
  descends i hi := (h.descends i hi).append new

theorem Bears.placed {b : Birth} (h : t.Bears b) (hborn : ∀ n ∈ t.natures, ∃ p ∈ births es, p.nature = n) :
    Placed es b := by
  have parent : ∀ k n, t.nature? k = some n → ∃ p ∈ births es, p.nature.key = k ∧ p.nature = n := by
    intro k n hn
    obtain ⟨hmem, hkey⟩ := mem_of_nature? hn
    obtain ⟨p, hp, he⟩ := hborn n hmem
    exact ⟨p, hp, by rw [he, hkey], he⟩
  refine ⟨h.ignored, h.own, fun k hk => ?_, fun i hi => ?_⟩
  · obtain ⟨n, hn⟩ := h.parent k hk
    obtain ⟨p, hp, he, -⟩ := parent k n hn
    exact ⟨p, hp, he⟩
  · have hdescent := h.descent i hi
    cases hk : b.nature.parent with
    | none =>
      rw [hk] at hdescent
      exact .root hk hdescent
    | some k =>
      obtain ⟨n, hn⟩ := h.parent k hk
      obtain ⟨p, hp, rfl, rfl⟩ := parent k n hn
      rw [hk, Option.bind_some, hn, Option.bind_some] at hdescent
      cases hj : p.nature.identity with
      | none =>
        rw [hj] at hdescent
        exact .ignored hp hk hj hdescent
      | some j =>
        rw [hj] at hdescent
        exact .parent hp hk hj hdescent

theorem Sound.not_open (h : Sound es t) {k : SpanKey} (hk : ∀ b ∈ births es, b.nature.key ≠ k) :
    k ∉ t.natures.map (·.key) := by
  intro hmem
  obtain ⟨n, hn, rfl⟩ := List.mem_map.mp hmem
  obtain ⟨b, hb, rfl⟩ := h.born n hn
  exact hk b hb rfl

theorem Sound.bears (h : Sound es t) {b : Birth} (hb : t.Bears b) (hnatures : t'.natures = b.nature :: t.natures)
    (hnext : t'.spans.next = t.spans.next + 1) : Sound (es ++ [.born b]) t' := by
  have hbirths : births (es ++ [.born b]) = births es ++ [b] := births_append es [.born b]
  have hends : ∀ k, ends k (es ++ [.born b]) = ends k es := fun k =>
    (ends_append k es [.born b]).trans (List.append_nil _)
  have hnew : ∀ c ∈ births es, c.nature.key ≠ b.nature.key := fun c hc =>
    Nat.ne_of_lt (hb.key ▸ h.below c hc)
  have hplaced : Placed es b := hb.placed h.born
  constructor
  case distinct =>
    rw [hnatures, List.map_cons]
    exact List.nodup_cons.mpr ⟨h.not_open hnew, h.distinct⟩
  case once =>
    rw [hbirths, List.map_append]
    refine List.nodup_append.mpr ⟨h.once, List.nodup_singleton _, fun k hk k' hk' => ?_⟩
    obtain ⟨c, hc, rfl⟩ := List.mem_map.mp hk
    rw [List.mem_singleton.mp hk']
    exact hnew c hc
  case below =>
    intro c hc
    rw [hnext]
    rcases List.mem_append.mp (hbirths ▸ hc) with hc | hc
    · exact Nat.lt_succ_of_lt (h.below c hc)
    · rw [List.mem_singleton.mp hc, hb.key]
      exact Nat.lt_succ_self _
  case born =>
    intro n hn
    rw [hbirths]
    rcases List.mem_cons.mp (hnatures ▸ hn) with rfl | hn
    · exact ⟨b, List.mem_append_right _ List.mem_cons_self, rfl⟩
    · obtain ⟨c, hc, he⟩ := h.born n hn
      exact ⟨c, List.mem_append_left _ hc, he⟩
  case lives =>
    intro c hc
    rw [hends, hnatures]
    rcases List.mem_append.mp (hbirths ▸ hc) with hc | hc
    · refine (h.lives c hc).imp (fun hopen => ⟨List.mem_cons_of_mem _ hopen.1, hopen.2⟩) fun hclosed => ?_
      exact ⟨List.not_mem_cons_of_ne_of_not_mem (hnew c hc) hclosed.1, hclosed.2⟩
    · rw [List.mem_singleton.mp hc]
      refine .inl ⟨List.mem_cons_self, Decidable.not_not.mp fun hne => ?_⟩
      obtain ⟨d, hd, he⟩ := h.ended _ hne
      exact hnew d hd he
  case ended =>
    intro k hk
    rw [hends] at hk
    obtain ⟨c, hc, he⟩ := h.ended k hk
    exact ⟨c, mem_births_append hc _, he⟩
  case placed =>
    intro c hc
    rcases List.mem_append.mp (hbirths ▸ hc) with hc | hc
    · exact (h.placed c hc).append _
    · rw [List.mem_singleton.mp hc]
      exact hplaced.append _

theorem Sound.closes (h : Sound es t) {closed : List (SpanNature × Option SpanRecord)}
    (hperm : (t'.natures ++ closed.map (·.1)).Perm t.natures) (hnext : t'.spans.next = t.spans.next)
    (hleaves : ∀ c ∈ closed, c.1.Leaves c.2) : Sound (es ++ endings closed) t' := by
  have hbirths : births (es ++ endings closed) = births es := by
    rw [births_append, births_endings, List.append_nil]
  -- the spans that stay open and those that end have different numbers
  have hdistinct : (t'.natures.map (·.key) ++ closed.map (·.1.key)).Nodup := by
    have hkeys := hperm.map (·.key)
    rw [List.map_append, List.map_map] at hkeys
    exact hkeys.nodup_iff.mpr h.distinct
  obtain ⟨hstay, hclose, hapart⟩ := List.nodup_append.mp hdistinct
  have hopen : ∀ n, n ∈ t.natures ↔ n ∈ t'.natures ∨ n ∈ closed.map (·.1) := fun n => by
    rw [← hperm.mem_iff, List.mem_append]
  constructor
  case distinct => exact hstay
  case once => rw [hbirths]; exact h.once
  case below => rw [hbirths, hnext]; exact h.below
  case born =>
    intro n hn
    rw [hbirths]
    exact h.born n ((hopen n).mpr (.inl hn))
  case lives =>
    intro b hb
    rw [hbirths] at hb
    rw [ends_append]
    rcases h.lives b hb with ⟨hmem, hnone⟩ | ⟨hnot, r, hr, hl⟩
    · rw [hnone, List.nil_append]
      rcases (hopen _).mp hmem with hmem | hmem
      · refine .inl ⟨hmem, ends_endings_of_not_mem fun hk => ?_⟩
        exact hapart _ (List.mem_map_of_mem hmem) _ hk rfl
      · obtain ⟨c, hc, he⟩ := List.mem_map.mp hmem
        rw [← he]
        refine .inr ⟨fun hk => ?_, c.2, ends_endings_of_mem hclose hc, hleaves c hc⟩
        exact hapart _ hk _ (List.mem_map_of_mem (f := (·.1.key)) hc) rfl
    · have hkeys : ∀ n, n ∈ t.natures → n.key ≠ b.nature.key := fun n hn he =>
        hnot (he ▸ List.mem_map_of_mem hn)
      refine .inr ⟨fun hk => ?_, r, ?_, hl⟩
      · obtain ⟨n, hn, he⟩ := List.mem_map.mp hk
        exact hkeys n ((hopen n).mpr (.inl hn)) he
      · rw [hr, ends_endings_of_not_mem, List.append_nil]
        intro hk
        obtain ⟨c, hc, he⟩ := List.mem_map.mp hk
        exact hkeys c.1 ((hopen _).mpr (.inr (List.mem_map_of_mem hc))) he
  case ended =>
    intro k hk
    rw [hbirths]
    by_cases hold : ends k es = []
    · rw [ends_append, hold, List.nil_append] at hk
      have hmem : k ∈ closed.map (·.1.key) := Decidable.not_not.mp fun hno => hk (ends_endings_of_not_mem hno)
      obtain ⟨c, hc, rfl⟩ := List.mem_map.mp hmem
      obtain ⟨b, hb, he⟩ := h.born c.1 ((hopen _).mpr (.inr (List.mem_map_of_mem hc)))
      exact ⟨b, hb, by rw [he]⟩
    · exact h.ended k hold
  case placed =>
    intro b hb
    rw [hbirths] at hb
    exact (h.placed b hb).append _

theorem Sound.passes (h : Sound es t) (hp : Passes t new t') : Sound (es ++ new) t' := by
  cases hp with
  | bears hnatures hnext hb => exact h.bears hb hnatures hnext
  | ends hperm hnext hleaves => exact h.closes hperm hnext hleaves
  | quiet hnatures hnext =>
    rw [List.append_nil]
    obtain ⟨hdistinct, honce, hbelow, hborn, hlives, hended, hplaced⟩ := h
    rw [← hnatures] at hdistinct hborn hlives
    rw [← hnext] at hbelow
    exact ⟨hdistinct, honce, hbelow, hborn, hlives, hended, hplaced⟩

theorem Run.sound (h : Run es t) : Sound es t := by
  induction h with
  | start => exact ⟨.nil, .nil, nofun, nofun, nofun, fun _ hk => absurd rfl hk, nofun⟩
  | step s _ ih => exact ih.passes (passes_step _ s)
  | elsewhere entered contexts _ ih =>
    exact ⟨ih.distinct, ih.once, ih.below, ih.born, ih.lives, ih.ended, ih.placed⟩

end Tracer

end Telemetry
