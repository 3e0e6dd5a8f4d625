import Mathlib.Data.List.Induction
import Telemetry.Proofs.Metric.ReaderIsolation

/-!
# What observable instruments report

The history of a meter is here a list of its collections, the newest first, each with what was observed
for it and what it reported.  From the history alone it can be said what the next collection has to report
of an observable instrument: nothing about attributes that are not observed for it, and else the last value
that is observed, from which a reader of differences takes off the last value that was observed for it
before (`Reports`).

A stream recalls this value through collections in which it is not observed (`MetricStream.Recalls`).
Increments and other readers do not touch it, so it stays with the reader (`Meter.Course.recalls`).  Each
difference takes the sum of what was reported to the new total (`Ledger.Recalls.sums_collected`), and it
is not important how many collections lie in between.
-/

namespace Telemetry

open MetricStream (key)

theorem Number.total_singleton (n : Int64) : total [n] = .i64 n := by
  rw [total, sumOf, sumOf, Int.add_zero, Int64.ofInt_toInt]

/-! ## Collections -/

/-- The values that are observed of an instrument about some attributes. -/
def valuesOf (c : InstrumentId) (a : Attributes) (os : List (InstrumentId × Observation)) : List Number :=
  (os.filter fun e => e.1 == c && e.2.attributes.sameKey a).map (·.2.value)

theorem valuesOf_concat_self (o : InstrumentId × Observation) (os : List (InstrumentId × Observation)) :
    valuesOf o.1 o.2.attributes (os ++ [o]) = valuesOf o.1 o.2.attributes os ++ [o.2.value] := by
  have hself : (o.1 == o.1 && o.2.attributes.sameKey o.2.attributes) = true :=
    Bool.and_eq_true_iff.mpr ⟨beq_self_eq_true o.1, Attributes.sameKey_iff.mpr rfl⟩
  rw [valuesOf, List.filter_append, List.filter_singleton, hself, List.map_append]
  rfl

theorem valuesOf_concat_of_ne {c : InstrumentId} {a : Attributes} {o : InstrumentId × Observation}
    (h : (c, a) ≠ (o.1, o.2.attributes)) (os : List (InstrumentId × Observation)) :
    valuesOf c a (os ++ [o]) = valuesOf c a os := by
  have hother : (o.1 == c && o.2.attributes.sameKey a) = false := by
    refine Bool.eq_false_iff.mpr fun hsame => h ?_
    obtain ⟨hc, ha⟩ := Bool.and_eq_true_iff.mp hsame
    rw [eq_of_beq hc, Attributes.sameKey_iff.mp ha]
  rw [valuesOf, List.filter_append, List.filter_singleton, hother]
  exact congrArg _ (List.append_nil _)

/-- A collection: for whom it was made, what was observed for it, and what it reported. -/
structure Collection where
  reader : ReaderId
  observed : List (InstrumentId × Observation)
  points : List (InstrumentId × Metric)

namespace Collection

/-- The collections that were made for a reader. -/
def forReader (r : ReaderId) (ks : List Collection) : List Collection := ks.filter (·.reader == r)

section

variable (c : InstrumentId) (a : Attributes)

/-- The value of an instrument that is observed last for a collection. -/
def last? (k : Collection) : Option Number := (valuesOf c a k.observed).getLast?

/-- The value that was observed last for any of some collections. -/
def lastSeen (ks : List Collection) : Option Number := ks.findSome? (last? c a)

/-- The points of an instrument about some attributes. -/
def pointsFor (k : Collection) : List Metric := (Meter.pointsOf c a k.points).map (·.2)

/-- The values that were reported, those of the newest collection first. -/
def reportedValues (ks : List Collection) : List Number :=
  ks.flatMap fun k => (k.pointsFor c a).map (·.point.value)

/-- Whether all that was observed of an instrument about some attributes are integers. -/
def Whole (ks : List Collection) : Prop :=
  ∀ k ∈ ks, ∀ v ∈ valuesOf c a k.observed, ∃ n, v = .i64 n

end

variable {c : InstrumentId} {a : Attributes} {r : ReaderId} {k : Collection} {ks : List Collection}

theorem forReader_cons_self (h : k.reader = r) : forReader r (k :: ks) = k :: forReader r ks :=
  List.filter_cons_of_pos (beq_iff_eq.mpr h)

theorem forReader_cons_of_ne (h : k.reader ≠ r) : forReader r (k :: ks) = forReader r ks :=
  List.filter_cons_of_neg (by simpa using h)

theorem forReader_eq_nil (h : ∀ k ∈ ks, k.reader ≠ r) : forReader r ks = [] :=
  List.filter_eq_nil_iff.mpr fun k hk => by simpa using h k hk

theorem lastSeen_cons : lastSeen c a (k :: ks) = (k.last? c a).or (lastSeen c a ks) := by
  rw [lastSeen, List.findSome?_cons]
  cases k.last? c a <;> rfl

theorem reportedValues_cons : reportedValues c a (k :: ks) =
    (k.pointsFor c a).map (·.point.value) ++ reportedValues c a ks := List.flatMap_cons ..

theorem Whole.tail (h : Whole c a (k :: ks)) : Whole c a ks := fun k hk => h k (List.mem_cons_of_mem _ hk)

theorem Whole.lastSeen (h : Whole c a ks) {v : Number} (hv : lastSeen c a ks = some v) :
    ∃ n, v = .i64 n := by
  obtain ⟨k, hk, hlast⟩ := List.exists_of_findSome?_eq_some hv
  exact h k hk v (List.mem_of_getLast? hlast)

end Collection

/-! ## Streams of observable instruments -/

namespace MetricStream

/-- What a stream recalls between collections: of a total that is to be subtracted, the last value that
was seen. -/
inductive Recalls (io : Option Instrument) (t : Temporality) : Option MetricStream → Option Number → Prop where
  | never : Recalls io t none none
  | seen {i s v} : io = some i → i.aggregator.isObservable = true → s.updated = false →
      (i.aggregator = .totals → t = .delta → s.previous = some v) → Recalls io t (some s) (some v)

/-- What is reported of a total, if another one was seen before. -/
def sinceSeen (t : Temporality) (before : Option Number) (v : Number) : Number :=
  match t, before with
  | .delta, some w => v - w
  | .delta, none | .cumulative, _ => v

variable {i : Instrument} {t : Temporality} {s : MetricStream} {so so' : Option MetricStream}
  {io : Option Instrument} {before : Option Number} {v : Number} {c : InstrumentId} {a : Attributes}

/-- A stream that is not observed reports nothing. -/
theorem collect_of_quiet (hi : i.aggregator.isObservable = true) (hs : s.updated = false) (last now : Time) :
    s.collect i t last now = (none, s.rest i.aggregator) := by
  have hno : ¬ s.isReported i.aggregator t = true := by
    rw [isReported, hs]
    cases h : i.aggregator with
    | increments => rw [h] at hi; cases hi
    | totals | lastValue => exact Bool.false_ne_true
  rw [collect, if_neg hno]

/-- A gauge reports what is observed. -/
theorem collect_observe_of_lastValue (hi : i.aggregator = .lastValue) (last now : Time) :
    (s.observe v).collect i t last now =
      (some ⟨i.name, i.description, i.unit, s.attributes, .gauge ⟨now, v⟩⟩,
        { s with value := v, updated := false }) := by
  rw [collect, hi]
  rfl

/-- A sum reports what is observed, without what the stream recalls, and recalls it. -/
theorem collect_observe_of_totals (hi : i.aggregator = .totals) (hs : t = .delta → s.previous = before)
    (last now : Time) : ∃ start, (s.observe v).collect i t last now =
      (some ⟨i.name, i.description, i.unit, s.attributes, .sum ⟨t, true, start, now, sinceSeen t before v⟩⟩,
        { s with value := v, updated := false, previous := some v }) := by
  rw [collect, hi]
  cases t with
  | cumulative => exact ⟨_, rfl⟩
  | delta =>
    obtain rfl := hs rfl
    refine ⟨max s.start last, ?_⟩
    cases hp : s.previous with
    | none =>
      simp [isReported, observe, point, convert, hp, sinceSeen, rest]
    | some w => simp [isReported, observe, point, convert, hp, sinceSeen, rest]

/-- What a stream reports for an instrument, if there is one, and the stream afterwards. -/
def collectFor (s : MetricStream) (io : Option Instrument) (t : Temporality) (last now : Time) :
    Option Metric × MetricStream :=
  match io with
  | some i => s.collect i t last now
  | none => (none, s)

theorem Recalls.quiet (h : Recalls io t so before) (last now : Time) :
    (so.bind fun s => (s.collectFor io t last now).1) = none ∧
      Recalls io t (so.map fun s => (s.collectFor io t last now).2) before := by
  cases h with
  | never => exact ⟨rfl, .never⟩
  | seen hio hi hs hp =>
    subst hio
    rw [Option.bind_some, Option.map_some, collectFor, collect_of_quiet hi hs]
    exact ⟨rfl, .seen rfl hi rfl hp⟩

theorem Recalls.of_instrument {io' : Option Instrument} (h : Recalls io t so before)
    (hio : ∀ i, io = some i → io' = some i) : Recalls io' t so before := by
  cases h with
  | never => exact .never
  | seen hi hobservable hs hp => exact .seen (hio _ hi) hobservable hs hp

theorem Recalls.eq_none (h : Recalls none t so before) : before = none := by
  cases h with
  | never => rfl
  | seen hio => cases hio

theorem Recalls.previous (h : Recalls (some i) .delta so before) (hi : i.aggregator = .totals) (start : Time) :
    (so.getD (.new c a start)).previous = before := by
  cases h with
  | never => rfl
  | seen hio _ _ hp => exact hp (Option.some.inj hio ▸ hi) rfl

end MetricStream

/-- Points as they have to be for what was observed last, if anything was, and what was seen before. -/
structure Reports (points : List Metric) (i : Instrument) (a : Attributes) (t : Temporality) (now : Time)
    (before latest : Option Number) : Prop where
  silent : latest = none → points = []
  single : latest ≠ none → ∃ p, points = [⟨i.name, i.description, i.unit, a, p⟩]
  gauge : i.aggregator = .lastValue → ∀ v, latest = some v →
    points = [⟨i.name, i.description, i.unit, a, .gauge ⟨now, v⟩⟩]
  whole : i.aggregator = .totals → t = .cumulative ∨ before = none → ∀ v, latest = some v →
    ∃ start, points = [⟨i.name, i.description, i.unit, a, .sum ⟨t, true, start, now, v⟩⟩]
  difference : i.aggregator = .totals → t = .delta → ∀ n w, latest = some (.i64 n) → before = some (.i64 w) →
    ∃ start, points = [⟨i.name, i.description, i.unit, a, .sum ⟨t, true, start, now, .i64 (n - w)⟩⟩]

theorem Reports.eq_nil_iff {points : List Metric} {i : Instrument} {a : Attributes} {t : Temporality} {now : Time}
    {before latest : Option Number} (h : Reports points i a t now before latest) :
    points = [] ↔ latest = none := by
  refine ⟨fun hnil => ?_, h.silent⟩
  by_contra hlatest
  obtain ⟨p, hpoint⟩ := h.single hlatest
  rw [hpoint] at hnil
  cases hnil

theorem Reports.of_gauge {i : Instrument} (hi : i.aggregator = .lastValue) (a : Attributes) (t : Temporality)
    (now : Time) (before : Option Number) (v : Number) :
    Reports [⟨i.name, i.description, i.unit, a, .gauge ⟨now, v⟩⟩] i a t now before (some v) where
  silent := nofun
  single _ := ⟨_, rfl⟩
  gauge _ _ hv := by rw [Option.some.inj hv]
  whole htotals := by rw [hi] at htotals; cases htotals
  difference htotals := by rw [hi] at htotals; cases htotals

theorem Reports.of_sum {i : Instrument} (hi : i.aggregator = .totals) (a : Attributes) (t : Temporality)
    (start now : Time) (before : Option Number) (v : Number) :
    Reports [⟨i.name, i.description, i.unit, a,
      .sum ⟨t, true, start, now, MetricStream.sinceSeen t before v⟩⟩] i a t now before (some v) where
  silent := nofun
  single _ := ⟨_, rfl⟩
  gauge hgauge := by rw [hi] at hgauge; cases hgauge
  whole _ halone w hw := by
    obtain rfl := Option.some.inj hw
    rcases halone with rfl | rfl
    · exact ⟨start, rfl⟩
    · cases t <;> exact ⟨start, rfl⟩
  difference _ ht n w hn hw := by
    subst ht hw
    obtain rfl := Option.some.inj hn
    exact ⟨start, rfl⟩

namespace MetricStream

/-- A stream reports what was observed last, and recalls it. -/
theorem Recalls.observed {i : Instrument} {t : Temporality} {so : Option MetricStream} {before : Option Number}
    {c : InstrumentId} {a : Attributes} (h : Recalls (some i) t so before)
    (hi : i.aggregator.isObservable = true) (ha : ∀ s, so = some s → s.attributes = a) (v : Number)
    (start last now : Time) :
    Recalls (some i) t (some (((so.getD (.new c a start)).observe v).collect i t last now).2) (some v) ∧
    Reports (((so.getD (.new c a start)).observe v).collect i t last now).1.toList i a t now before
      (some v) := by
  have hattr : (so.getD (.new c a start)).attributes = a := by
    cases so with
    | none => rfl
    | some s => exact ha s rfl
  cases hagg : i.aggregator with
  | increments => rw [hagg] at hi; cases hi
  | totals =>
    have hprevious : t = .delta → (so.getD (.new c a start)).previous = before := by
      rintro rfl
      exact h.previous hagg start
    obtain ⟨began, hcollect⟩ := collect_observe_of_totals (v := v) hagg hprevious last now
    rw [hcollect, hattr]
    exact ⟨.seen rfl hi rfl fun _ _ => rfl, .of_sum hagg ..⟩
  | lastValue =>
    rw [collect_observe_of_lastValue hagg, hattr]
    refine ⟨.seen rfl hi rfl fun htotals => ?_, .of_gauge hagg ..⟩
    rw [hagg] at htotals
    cases htotals

end MetricStream

/-! ## Ledgers that take observations -/

namespace Ledger

variable {l : Ledger} {c : InstrumentId} {a : Attributes} {instruments : List Instrument}
  {os : List (InstrumentId × Observation)}

/-- A ledger with some observations, each of the instrument that made it. -/
def takeAll (l : Ledger) (os : List (InstrumentId × Observation)) : Ledger :=
  os.foldl (fun l e => l.observe e.1 e.2.attributes e.2.value e.2.time) l

theorem observed_eq_takeAll (ids : List InstrumentId) (of : InstrumentId → List Observation) :
    l.observed ids of = l.takeAll (ids.flatMap fun id => (of id).map (id, ·)) := by
  rw [takeAll, List.foldl_flatMap]
  refine congrArg (List.foldl · l ids) (funext fun l => funext fun id => ?_)
  rw [List.foldl_map]
  rfl

theorem takeAll_concat (o : InstrumentId × Observation) :
    l.takeAll (os ++ [o]) = (l.takeAll os).observe o.1 o.2.attributes o.2.value o.2.time :=
  List.foldl_concat ..

theorem temporality_takeAll : (l.takeAll os).temporality = l.temporality := by
  induction os using List.reverseRecOn with
  | nil => rfl
  | append_singleton os o ih => rw [takeAll_concat, ← ih]; rfl

theorem nodup_takeAll (h : (l.streams.map key).Nodup) : ((l.takeAll os).streams.map key).Nodup := by
  induction os using List.reverseRecOn with
  | nil => exact h
  | append_singleton os o ih =>
    rw [takeAll_concat]
    exact nodup_modify (MetricStream.keeps_observe _) ih

/-- Of all observations about some attributes only the last one counts, and if there are none then the
stream stays. -/
theorem stream?_takeAll : ((valuesOf c a os) = [] → (l.takeAll os).stream? c a = l.stream? c a) ∧
    ∀ v, (valuesOf c a os).getLast? = some v → ∃ start,
      (l.takeAll os).stream? c a = some (((l.stream? c a).getD (.new c a start)).observe v) := by
  induction os using List.reverseRecOn with
  | nil => exact ⟨fun _ => rfl, nofun⟩
  | append_singleton os o ih =>
    rw [takeAll_concat]
    by_cases ho : (c, a) = (o.1, o.2.attributes)
    · obtain ⟨rfl, rfl⟩ := Prod.mk.inj ho
      rw [valuesOf_concat_self]
      refine ⟨fun hnil => absurd hnil (by simp), fun v hv => ?_⟩
      rw [List.getLast?_concat, Option.some.injEq] at hv
      subst hv
      have hnew : ((l.takeAll os).observe o.1 o.2.attributes o.2.value o.2.time).stream? o.1 o.2.attributes =
          some ((((l.takeAll os).stream? o.1 o.2.attributes).getD
            (.new o.1 o.2.attributes o.2.time)).observe o.2.value) :=
        find?_modify_self (MetricStream.keeps_observe _) _
      rw [hnew]
      -- what was observed before leaves only the start of a new stream behind
      cases hlast : (valuesOf o.1 o.2.attributes os).getLast? with
      | none => exact ⟨_, by rw [ih.1 (List.getLast?_eq_none_iff.mp hlast)]⟩
      | some w =>
        obtain ⟨start, hs⟩ := ih.2 w hlast
        exact ⟨start, by rw [hs]; rfl⟩
    · rw [valuesOf_concat_of_ne ho]
      have hsame : ((l.takeAll os).observe o.1 o.2.attributes o.2.value o.2.time).stream? c a =
          (l.takeAll os).stream? c a := find?_modify_of_ne (MetricStream.keeps_observe _) ho _
      rw [hsame]
      exact ih

theorem collectStream_eq {s : MetricStream} (hs : s.instrument = c) (now : Time) :
    l.collectStream instruments now s = s.collectFor instruments[c]? l.temporality l.lastCollected now := by
  rw [collectStream, hs]
  rfl

/-- The points of one instrument about some attributes are what its stream reports. -/
theorem pointsOf_reported (hd : (l.streams.map key).Nodup) (now : Time) :
    (Meter.pointsOf c a (l.reported instruments now)).map (·.2) = ((l.stream? c a).bind fun s =>
      (s.collectFor instruments[c]? l.temporality l.lastCollected now).1).toList := by
  rw [Meter.pointsOf, filter_reported hd]
  cases hs : l.stream? c a with
  | none => rfl
  | some s =>
    have hc : s.instrument = c := (Prod.mk.inj (key_of_stream? hs)).1
    rw [Option.bind_some, Option.bind_some, collectStream_eq hc]
    cases (s.collectFor instruments[c]? l.temporality l.lastCollected now).1 <;> rfl

theorem stream?_collectFor (now : Time) : (l.collect instruments now).1.stream? c a =
    (l.stream? c a).map fun s =>
      (s.collectFor instruments[c]? l.temporality l.lastCollected now).2 := by
  rw [stream?_collect]
  cases hs : l.stream? c a with
  | none => rfl
  | some s =>
    have hc : s.instrument = c := (Prod.mk.inj (key_of_stream? hs)).1
    rw [Option.map_some, Option.map_some, collectStream_eq hc]

section Collecting

variable {before : Option Number} (hd : (l.streams.map key).Nodup)
  (h : MetricStream.Recalls instruments[c]? l.temporality (l.stream? c a) before)
include hd h

theorem collects_nothing (hnil : valuesOf c a os = []) (now : Time) :
    (Meter.pointsOf c a ((l.takeAll os).reported instruments now)).map (·.2) = [] ∧
      MetricStream.Recalls instruments[c]? l.temporality
        (((l.takeAll os).collect instruments now).1.stream? c a) before := by
  obtain ⟨hpoints, hrecalls⟩ := h.quiet (l.takeAll os).lastCollected now
  have hstream := (stream?_takeAll (l := l)).1 hnil
  constructor
  · rw [pointsOf_reported (nodup_takeAll hd), hstream, temporality_takeAll, hpoints]
    rfl
  · rwa [stream?_collectFor, hstream, temporality_takeAll]

theorem collects_last {i : Instrument} (hi : instruments[c]? = some i)
    (hobservable : i.aggregator.isObservable = true) {v : Number}
    (hv : (valuesOf c a os).getLast? = some v) (now : Time) :
    Reports ((Meter.pointsOf c a ((l.takeAll os).reported instruments now)).map (·.2)) i a l.temporality now
        before (some v) ∧
      MetricStream.Recalls instruments[c]? l.temporality
        (((l.takeAll os).collect instruments now).1.stream? c a) (some v) := by
  obtain ⟨start, hstream⟩ := stream?_takeAll.2 v hv
  have hattr : ∀ s, l.stream? c a = some s → s.attributes = a :=
    fun s hs => (Prod.mk.inj (key_of_stream? hs)).2
  rw [hi] at h
  obtain ⟨hrecalls, hreports⟩ := h.observed hobservable hattr v start (l.takeAll os).lastCollected now
  rw [pointsOf_reported (nodup_takeAll hd), stream?_collectFor, hstream, temporality_takeAll, hi]
  exact ⟨hreports, hrecalls⟩

end Collecting

end Ledger

/-! ## Ledgers and the collections of their readers -/

/-- Whether no counter has the number of an instrument, so that its streams are observed if anything. -/
def NoCounter (instruments : List Instrument) (c : InstrumentId) : Prop :=
  ∀ i, instruments[c]? = some i → i.aggregator ≠ .increments

open Collection (lastSeen reportedValues Whole forReader)

/-- What a ledger that goes with the collections of its reader keeps of observable instruments: what the
streams recall, and that the differences that were reported add up to the last total. -/
structure Ledger.Recalls (instruments : List Instrument) (own : List Collection) (l : Ledger) : Prop where
  streams : ∀ c, NoCounter instruments c → ∀ a,
    MetricStream.Recalls instruments[c]? l.temporality (l.stream? c a) (lastSeen c a own)
  silent : ∀ c, NoCounter instruments c → ∀ a, lastSeen c a own = none → reportedValues c a own = []
  sums : l.temporality = .delta → ∀ c i, instruments[c]? = some i → i.aggregator = .totals → ∀ a,
    Whole c a own → ∀ n, lastSeen c a own = some (.i64 n) →
      ∃ ns, reportedValues c a own = ns.map .i64 ∧ Number.total ns = .i64 n

namespace Ledger

variable {l : Ledger} {instruments : List Instrument} {own : List Collection} {k : Collection}

/-- A ledger that nothing was collected from. -/
theorem Recalls.new (instruments : List Instrument) (t : Temporality) (now : Time) :
    Ledger.Recalls instruments [] (.new t now) where
  streams _ _ _ := .never
  silent _ _ _ _ := rfl
  sums _ _ _ _ _ _ _ _ h := nomatch h

/-- Counters do not matter. -/
theorem Recalls.of_streams {l' : Ledger} (h : l.Recalls instruments own) (ht : l'.temporality = l.temporality)
    (hs : ∀ c, NoCounter instruments c → ∀ a, l'.stream? c a = l.stream? c a) :
    l'.Recalls instruments own where
  streams c hc a := by
    rw [ht, hs c hc a]
    exact h.streams c hc a
  silent := h.silent
  sums := by
    rw [ht]
    exact h.sums

section Collecting

variable (h : l.Recalls instruments own) (hd : (l.streams.map key).Nodup)
  (hk : ∀ e ∈ k.observed, Meter.IsObservable instruments e.1) {c : InstrumentId} {a : Attributes}

include hk in
/-- What is observed is observed of an observable instrument. -/
theorem exists_observable {v : Number} (hv : k.last? c a = some v) :
    ∃ i, instruments[c]? = some i ∧ i.aggregator.isObservable = true := by
  obtain ⟨e, he, -⟩ := List.mem_map.mp (List.mem_of_getLast? hv)
  obtain ⟨he, hsame⟩ := List.mem_filter.mp he
  obtain ⟨i, hi, ho⟩ := hk e he
  exact ⟨i, eq_of_beq (Bool.and_eq_true_iff.mp hsame).1 ▸ hi, ho⟩

variable {now : Time} (hpoints : k.points = (l.takeAll k.observed).reported instruments now)

include h hd hpoints in
theorem Recalls.points_of_none (hc : NoCounter instruments c) (hlast : k.last? c a = none) :
    k.pointsFor c a = [] := by
  rw [Collection.pointsFor, hpoints]
  exact (collects_nothing hd (h.streams c hc a) (List.getLast?_eq_none_iff.mp hlast) now).1

include h hd hpoints in
/-- A collection reports what was observed for it. -/
theorem Recalls.reports {i : Instrument} (hi : instruments[c]? = some i)
    (hobservable : i.aggregator.isObservable = true) (a : Attributes) :
    Reports (k.pointsFor c a) i a l.temporality now (lastSeen c a own) (k.last? c a) := by
  have hc : NoCounter instruments c := by
    intro j hj hcounter
    obtain rfl := Option.some.inj (hi.symm.trans hj)
    rw [hcounter] at hobservable
    cases hobservable
  cases hlast : k.last? c a with
  | none =>
    rw [h.points_of_none hd hpoints hc hlast]
    exact ⟨fun _ => rfl, fun hne => absurd rfl hne, nofun, nofun, nofun⟩
  | some v =>
    rw [Collection.pointsFor, hpoints]
    exact (collects_last hd (h.streams c hc a) hi hobservable hlast now).1

include h hd hpoints in
/-- A difference takes the sum of what was reported to the new total. -/
theorem Recalls.sums_collected (ht : l.temporality = .delta) {i : Instrument} (hi : instruments[c]? = some i)
    (htotals : i.aggregator = .totals) (hwhole : Whole c a (k :: own)) {n : Int64}
    (hn : lastSeen c a (k :: own) = some (.i64 n)) :
    ∃ ns, reportedValues c a (k :: own) = ns.map .i64 ∧ Number.total ns = .i64 n := by
  have hobservable : i.aggregator.isObservable = true := by rw [htotals]; rfl
  have hreports := h.reports hd hpoints hi hobservable a
  have hc : NoCounter instruments c := by
    intro j hj hcounter
    obtain rfl := Option.some.inj (hi.symm.trans hj)
    rw [htotals] at hcounter
    cases hcounter
  rw [Collection.reportedValues_cons]
  rw [Collection.lastSeen_cons] at hn
  cases hlast : k.last? c a with
  | none =>
    rw [hlast, Option.none_or] at hn
    rw [h.points_of_none hd hpoints hc hlast]
    exact h.sums ht c i hi htotals a hwhole.tail n hn
  | some v =>
    rw [hlast, Option.some_or, Option.some.injEq] at hn
    subst hn
    cases hseen : lastSeen c a own with
    | none =>
      obtain ⟨start, hpoint⟩ := hreports.whole htotals (.inr hseen) _ hlast
      rw [hpoint, h.silent c hc a hseen]
      exact ⟨[n], rfl, Number.total_singleton n⟩
    | some w =>
      obtain ⟨m, rfl⟩ := hwhole.tail.lastSeen hseen
      obtain ⟨start, hpoint⟩ := hreports.difference htotals ht n m hlast hseen
      obtain ⟨ns, hns, hsum⟩ := h.sums ht c i hi htotals a hwhole.tail m hseen
      rw [hpoint, hns]
      refine ⟨(n - m) :: ns, rfl, ?_⟩
      rw [← Number.total_add_i64, hsum, Number.i64_add_i64, Int64.add_comm, Int64.sub_add_cancel]

include h hd hk hpoints in
theorem Recalls.collected :
    ((l.takeAll k.observed).collect instruments now).1.Recalls instruments (k :: own) where
  streams c hc a := by
    rw [Collection.lastSeen_cons]
    have ht : ((l.takeAll k.observed).collect instruments now).1.temporality = l.temporality :=
      temporality_takeAll
    rw [ht]
    cases hlast : k.last? c a with
    | none => exact (collects_nothing hd (h.streams c hc a) (List.getLast?_eq_none_iff.mp hlast) now).2
    | some v =>
      obtain ⟨i, hi, hobservable⟩ := exists_observable hk hlast
      exact (collects_last hd (h.streams c hc a) hi hobservable hlast now).2
  silent c hc a hnone := by
    rw [Collection.lastSeen_cons, Option.or_eq_none_iff] at hnone
    rw [Collection.reportedValues_cons, h.points_of_none hd hpoints hc hnone.1, h.silent c hc a hnone.2]
    rfl
  sums ht c i hi htotals a hwhole n hn :=
    h.sums_collected hd hpoints (temporality_takeAll.symm.trans ht) hi htotals hwhole hn

end Collecting

end Ledger

/-! ## Meters and their collections -/

namespace Meter

/-- What the observable instruments observe when they are asked. -/
def observed (m : Meter) (reports : InstrumentId → Report) : List (InstrumentId × Observation) :=
  m.observables.flatMap fun id => (reports id).observations.map (id, ·)

/-- A collection as it is noted down. -/
def collection (m : Meter) (r : ReaderId) (reports : InstrumentId → Report) (now : Time) : Collection :=
  ⟨r, m.observed reports, m.reported r reports now⟩

/-- A meter that has come about, with the collections of its readers.  Only counters of the meter are told
increments. -/
inductive Course (views : List View) : List Collection → Meter → Prop where
  | start : Course views [] (.ofViews views)
  | register {ks m} (i : Instrument) : Course views ks m → Course views ks (m.register i).1
  | registerReader {ks m} (t : Temporality) (now : Time) : Course views ks m →
      Course views ks (m.registerReader t now).1
  | dropReader {ks m} (r : ReaderId) : Course views ks m → Course views ks (m.dropReader r)
  | add {ks m} (i : Increment) : Course views ks m → m.IsCounter i.counter → Course views ks (m.add i).1
  | collect {ks m r l} (reports : InstrumentId → Report) (now : Time) : Course views ks m →
      m.ledger? r = some l → (∀ i ∈ m.called reports, m.IsCounter i.counter) →
      Course views (m.collection r reports now :: ks) (m.collect r reports now).1

theorem Course.run {views : List View} {ks : List Collection} {m : Meter} (h : Course views ks m) :
    ∃ es, Run views es m := by
  induction h with
  | start => exact ⟨_, .start⟩
  | register i _ ih => exact ih.imp fun _ h => h.register i
  | registerReader t now _ ih => exact ih.elim fun _ h => ⟨_, h.registerReader t now⟩
  | dropReader r _ ih => exact ih.imp fun _ h => h.dropReader r
  | add i _ hc ih => exact ih.elim fun _ h => ⟨_, h.add i hc⟩
  | collect reports now _ _ hc ih => exact ih.elim fun _ h => ⟨_, h.collect _ reports now hc⟩

/-- What holds of every meter that has come about: each ledger goes with the collections of its reader. -/
structure Recalls (m : Meter) (ks : List Collection) : Prop where
  known : ∀ k ∈ ks, k.reader < m.nextReader
  ledgers : ∀ e ∈ m.readers, e.2.Recalls m.instruments (forReader e.1 ks)

variable {m : Meter} {ks : List Collection} {r : ReaderId} {l : Ledger} {reports : InstrumentId → Report}

theorem IsCounter.ne_of_noCounter {c c' : InstrumentId} (h : m.IsCounter c) (hc : NoCounter m.instruments c') :
    c' ≠ c := by
  rintro rfl
  obtain ⟨i, hi, hcounter⟩ := h
  exact hc i hi hcounter

theorem Recalls.register (h : m.Recalls ks) (i : Instrument) : (m.register i).1.Recalls ks where
  known := h.known
  ledgers e he := by
    have hold := h.ledgers e he
    have grown {c : InstrumentId} {j : Instrument} (hj : m.instruments[c]? = some j) :
        (m.register i).1.instruments[c]? = some j := by
      obtain ⟨hlt, -⟩ := List.getElem?_eq_some_iff.mp hj
      exact (List.getElem?_append_left hlt).trans hj
    have hless {c : InstrumentId} (hc : NoCounter (m.register i).1.instruments c) :
        NoCounter m.instruments c := fun j hj => hc j (grown hj)
    refine ⟨fun c hc a => (hold.streams c (hless hc) a).of_instrument fun j => grown,
      fun c hc => hold.silent c (hless hc), fun ht c j hj htotals a hwhole n hn => ?_⟩
    cases hknown : m.instruments[c]? with
    | some k =>
      obtain rfl := Option.some.inj ((grown hknown).symm.trans hj)
      exact hold.sums ht c k hknown htotals a hwhole n hn
    | none =>
      -- nothing was seen of an instrument that is new
      have hstream := hold.streams c (fun k hk => nomatch hknown.symm.trans hk) a
      rw [hknown] at hstream
      exact nomatch hstream.eq_none.symm.trans hn

theorem Recalls.registerReader (h : m.Recalls ks) (t : Temporality) (now : Time) :
    (m.registerReader t now).1.Recalls ks where
  known k hk := Nat.lt_succ_of_lt (h.known k hk)
  ledgers e he := by
    rcases List.mem_append.mp he with he | he
    · exact h.ledgers e he
    · rw [List.mem_singleton.mp he, Collection.forReader_eq_nil fun k hk => Nat.ne_of_lt (h.known k hk)]
      exact .new ..

theorem Recalls.dropReader (h : m.Recalls ks) (r : ReaderId) : (m.dropReader r).Recalls ks where
  known := h.known
  ledgers e he := h.ledgers e (List.mem_filter.mp he).1

theorem Recalls.add (h : m.Recalls ks) {i : Increment} (hc : m.IsCounter i.counter) :
    (m.add i).1.Recalls ks := by
  cases hi : i.value.isNegative with
  | true =>
    rw [add_of_negative hi]
    exact h
  | false =>
    rw [Meter.add, if_neg (by rw [hi]; exact Bool.false_ne_true)]
    refine ⟨h.known, fun e he => ?_⟩
    obtain ⟨e, hmem, rfl⟩ := mem_mapLedgers.mp he
    refine (h.ledgers e hmem).of_streams rfl fun c hno a => ?_
    have hne : (c, a) ≠ (i.counter, i.attributes) := fun h => hc.ne_of_noCounter hno (Prod.mk.inj h).1
    exact Ledger.find?_modify_of_ne (MetricStream.keeps_add _) hne _

theorem Recalls.addAll {is : List Increment} (h : m.Recalls ks) (hc : ∀ i ∈ is, m.IsCounter i.counter) :
    (m.addAll is).1.Recalls ks := by
  induction is generalizing m with
  | nil => exact h
  | cons i is ih =>
    have hc' : ∀ j ∈ is, (m.add i).1.IsCounter j.counter :=
      fun j hj => (hc j (List.mem_cons_of_mem _ hj)).add i
    exact ih (h.add (hc i List.mem_cons_self)) hc'

/-- The ledger of a reader that is being collected, when increments have been made for the collection. -/
theorem exists_ledger?_called (h : m.ledger? r = some l) (reports : InstrumentId → Report) :
    ∃ l', (m.addAll (m.called reports)).1.ledger? r = some l' ∧ l'.temporality = l.temporality := by
  have ht := (Alike.addAll (m := m) (m.called reports)).temporality r
  rw [h, Option.map_some] at ht
  exact Option.map_eq_some_iff.mp ht

theorem asked_eq (r : ReaderId) (reports : InstrumentId → Report) : m.asked r reports =
    (m.addAll (m.called reports)).1.modifyLedger r (·.takeAll (m.observed reports)) := by
  rw [asked, foldl_observeAll]
  exact congrArg _ (funext fun l => Ledger.observed_eq_takeAll ..)

/-- A collection is a matter of the ledger that it is made from, when increments have been made for it. -/
theorem collect_of_ledger (hl : (m.addAll (m.called reports)).1.ledger? r = some l) (now : Time) :
    (m.collect r reports now).1 = (m.addAll (m.called reports)).1.modifyLedger r
      (fun _ => ((l.takeAll (m.observed reports)).collect m.instruments now).1) ∧
    m.reported r reports now = (l.takeAll (m.observed reports)).reported m.instruments now := by
  have hledger : (m.asked r reports).ledger? r = some (l.takeAll (m.observed reports)) := by
    rw [asked_eq, ledger?_modifyLedger, if_pos rfl, hl, Option.map_some]
  have hinstruments : (m.asked r reports).instruments = m.instruments := by
    rw [asked_eq]
    exact (Alike.addAll (m.called reports)).instruments
  rw [(collect_eq r reports now).1, reported, hledger, hinstruments]
  dsimp only
  rw [asked_eq, modifyLedger_modifyLedger]
  exact ⟨rfl, rfl⟩

theorem mem_observed {e : InstrumentId × Observation} (he : e ∈ m.observed reports) :
    IsObservable m.instruments e.1 := by
  obtain ⟨id, hid, he⟩ := List.mem_flatMap.mp he
  obtain ⟨o, -, rfl⟩ := List.mem_map.mp he
  exact mem_observablesAmong.mp hid

section Collecting

variable {es : List MeterEvent} (h : m.Recalls ks) (hs : m.Sound es) (hl : m.ledger? r = some l)
  (hc : ∀ i ∈ m.called reports, m.IsCounter i.counter)
include h hs hl hc

/-- The ledger that is collected goes with the collections that were made from it, and is in order. -/
theorem Recalls.called : ∃ l', (m.addAll (m.called reports)).1.ledger? r = some l' ∧
    l'.temporality = l.temporality ∧ (l'.streams.map key).Nodup ∧
    l'.Recalls m.instruments (forReader r ks) := by
  obtain ⟨l', hl', ht⟩ := exists_ledger?_called hl reports
  have hmem := mem_of_ledger? hl'
  have hrecalls := (h.addAll hc).ledgers _ hmem
  rw [(Alike.addAll (m := m) (m.called reports)).instruments] at hrecalls
  exact ⟨l', hl', ht, ((hs.addAll hc).follows _ hmem).distinct, hrecalls⟩

theorem Recalls.collect (now : Time) :
    (m.collect r reports now).1.Recalls (m.collection r reports now :: ks) := by
  obtain ⟨l', hl', -, hd, hrecalls⟩ := h.called hs hl hc
  obtain ⟨hcollect, hpoints⟩ := collect_of_ledger hl' now
  have hcalled := h.addAll hc
  have hinstruments := (Alike.addAll (m := m) (m.called reports)).instruments
  rw [hcollect]
  refine ⟨fun k hk => ?_, fun e he => ?_⟩
  · rcases List.mem_cons.mp hk with rfl | hk
    · exact (hs.addAll hc).fresh _ (mem_of_ledger? hl')
    · exact hcalled.known k hk
  · obtain ⟨e, hmem, rfl⟩ := mem_mapLedgers.mp he
    have hold := hcalled.ledgers e hmem
    dsimp only
    split
    next he =>
      have hown : forReader r (m.collection r reports now :: ks) =
        m.collection r reports now :: forReader r ks := Collection.forReader_cons_self rfl
      show Ledger.Recalls (m.addAll (m.called reports)).1.instruments _ _
      rw [he, hown, hinstruments]
      exact hrecalls.collected hd (fun e => mem_observed) hpoints
    next hne =>
      rw [Collection.forReader_cons_of_ne (Ne.symm hne)]
      exact hold

end Collecting

theorem Course.recalls {views : List View} (h : Course views ks m) : m.Recalls ks := by
  induction h with
  | start => exact ⟨nofun, nofun⟩
  | register i _ ih => exact ih.register i
  | registerReader t now _ ih => exact ih.registerReader t now
  | dropReader r _ ih => exact ih.dropReader r
  | add i _ hc ih => exact ih.add hc
  | collect reports now h hl hc ih =>
    obtain ⟨es, hrun⟩ := h.run
    exact ih.collect hrun.sound hl hc now

/-! ## Whole runs -/

/-- What any collection reports of an observable instrument, whatever has happened before.  About each set
of attributes there is a point just if it was observed for this collection, and then one with the value
that was observed last: a gauge and a total as they are, and to a reader of differences a total without
the one that it saw last, in an earlier collection for which this set was observed.  So the differences
add up to the last total, however often it was not observed in between, and whatever other readers did. -/
theorem observables_match_reference {views : List View} (h : Course views ks m) (hl : m.ledger? r = some l)
    (hc : ∀ i ∈ m.called reports, m.IsCounter i.counter) (now : Time) :
    (m.collect r reports now).2.1 = (m.collection r reports now).points.map (·.2) ∧
    ∀ c i, m.instruments[c]? = some i → i.aggregator.isObservable = true → ∀ a,
      ((m.collection r reports now).pointsFor c a = [] ↔ valuesOf c a (m.observed reports) = []) ∧
      Reports ((m.collection r reports now).pointsFor c a) i a l.temporality now
        (lastSeen c a (forReader r ks)) (valuesOf c a (m.observed reports)).getLast? ∧
      (i.aggregator = .totals → l.temporality = .delta →
        Whole c a (m.collection r reports now :: forReader r ks) →
        ∀ n, lastSeen c a (m.collection r reports now :: forReader r ks) = some (.i64 n) →
          ∃ ns, reportedValues c a (m.collection r reports now :: forReader r ks) = ns.map .i64 ∧
            n.toInt = (sumOf ns).bmod Int64.size) := by
  obtain ⟨es, hrun⟩ := h.run
  obtain ⟨l', hl', ht, hd, hrecalls⟩ := h.recalls.called hrun.sound hl hc
  obtain ⟨-, hpoints⟩ := collect_of_ledger hl' now
  refine ⟨(collect_eq r reports now).2, fun c i hi hobservable a => ?_⟩
  have hreports := hrecalls.reports (k := m.collection r reports now) hd hpoints hi hobservable a
  rw [ht] at hreports
  refine ⟨?_, hreports, fun htotals hdelta hwhole n hn => ?_⟩
  · exact hreports.eq_nil_iff.trans List.getLast?_eq_none_iff
  · obtain ⟨ns, hns, hsum⟩ := hrecalls.sums_collected hd hpoints (ht.trans hdelta) hi htotals hwhole hn
    refine ⟨ns, hns, ?_⟩
    rw [← Number.i64.inj hsum, Int64.toInt_ofInt]

/-- What observable instruments do that all report the same and add to no counters. -/
def showing (os : List Observation) : InstrumentId → Report := fun _ => ⟨[], os⟩

theorem isCounter_of_mem_called_showing (m : Meter) (os : List Observation) :
    ∀ i ∈ m.called (showing os), m.IsCounter i.counter := by
  intro i hi
  obtain ⟨_, _, hi⟩ := List.mem_flatMap.mp hi
  cases hi

/-- A total is observed for a reader of differences, then for another reader, then not at all, and then
twice in one collection. -/
theorem observables_match_reference_of_skipped :
    ∃ (m : Meter) (ks : List Collection) (k : Collection) (start : Time) (ns : List Int64),
      Course [] ks m ∧ ks.map (·.reader) = [0, 1, 0] ∧
      k = m.collection 0 (showing [⟨.i64 7, .ofList [], 8⟩, ⟨.i64 15, .ofList [], 9⟩]) 10 ∧
      k.pointsFor 0 (.ofList []) =
        [⟨"bytes", "", "By", .ofList [], .sum ⟨.delta, true, start, 10, .i64 5⟩⟩] ∧
      reportedValues 0 (.ofList []) (k :: forReader 0 ks) = ns.map .i64 ∧
      15 = (sumOf ns).bmod Int64.size := by
  obtain ⟨m, ks, h, hreaders, ⟨l, hl, ht⟩, hask, hi, hseen, hwhole⟩ : ∃ (m : Meter) (ks : List Collection),
      Course [] ks m ∧ ks.map (·.reader) = [0, 1, 0] ∧
      (∃ l, m.ledger? 0 = some l ∧ l.temporality = .delta) ∧ m.observables = [0] ∧
      m.instruments[0]? = some ⟨"bytes", "", "By", .totals⟩ ∧
      lastSeen 0 (.ofList []) (forReader 0 ks) = some (.i64 10) ∧
      ∀ k ∈ forReader 0 ks, ∀ v ∈ valuesOf 0 (.ofList []) k.observed, v = .i64 10 := by
    have h := ((((@Course.start []).register ⟨"bytes", "", "By", .totals⟩).registerReader .delta 1
      ).registerReader .cumulative 2).collect (showing [⟨.i64 10, .ofList [], 3⟩]) 4 (r := 0) rfl
        (isCounter_of_mem_called_showing _ _)
    have h := h.collect (showing [⟨.i64 12, .ofList [], 5⟩]) 6 (r := 1) rfl
      (isCounter_of_mem_called_showing _ _)
    have h := h.collect (showing []) 7 (r := 0) rfl (isCounter_of_mem_called_showing _ _)
    exact ⟨_, _, h, rfl, ⟨_, rfl, rfl⟩, rfl, rfl, by decide +kernel, by decide +kernel⟩
  obtain ⟨reports, hreports⟩ : ∃ reports, reports = showing [⟨.i64 7, .ofList [], 8⟩, ⟨.i64 15, .ofList [], 9⟩] :=
    ⟨_, rfl⟩
  have hobserved : valuesOf 0 (.ofList []) (m.observed reports) = [.i64 7, .i64 15] := by
    rw [observed, hask, hreports]
    decide +kernel
  have hc : ∀ i ∈ m.called reports, m.IsCounter i.counter :=
    hreports ▸ isCounter_of_mem_called_showing m _
  obtain ⟨-, hmatch⟩ := observables_match_reference h hl hc 10
  obtain ⟨-, hpoints, hsums⟩ := hmatch 0 _ hi rfl (.ofList [])
  have hlast : (m.collection 0 reports 10).last? 0 (.ofList []) = some (.i64 15) :=
    congrArg List.getLast? hobserved
  have hwhole' : Whole 0 (.ofList []) (m.collection 0 reports 10 :: forReader 0 ks) := by
    refine List.forall_mem_cons.mpr ⟨fun v hv => ?_, fun k hk v hv => ⟨10, hwhole k hk v hv⟩⟩
    have hv : v ∈ [Number.i64 7, .i64 15] := hobserved ▸ hv
    rcases List.mem_pair.mp hv with rfl | rfl <;> exact ⟨_, rfl⟩
  obtain ⟨start, hpoint⟩ := hpoints.difference rfl ht 15 10 hlast hseen
  obtain ⟨ns, hns, hsum⟩ := hsums rfl ht hwhole' 15 (by rw [Collection.lastSeen_cons, hlast]; rfl)
  rw [ht] at hpoint
  exact ⟨m, ks, _, start, ns, h, hreaders, by rw [hreports], hpoint, hns, hsum⟩

end Meter

end Telemetry
