import Telemetry.Proofs.Metric.Observables

/-!
# The intervals of sums

A meter whose clock never goes back (`Meter.Timeline`).  The clock is read when a reader is registered, when
a stream begins and when a collection is made, and a stream may begin within the collection that is about to
report it.

A sum begins with its stream or with the last collection of its reader (`Temporality.since`), and both have
been before it ends.  So the intervals of the sums of one stream are in order (`Intervals`), whatever has
happened before and however many collections did not report it.  For this a ledger only has to be in step
with the collections of its reader (`Ledger.Dated`): of each stream that was reported it knows when it began,
and no sum ended after the last collection.  Measurements add streams that begin in the meantime, and do
nothing else to the times of a ledger (`Ledger.Measured`).
-/

namespace Telemetry

open MetricStream (key Keeps)

/-! ## The sums of a stream -/

/-- The sum of a point, if it is one. -/
def Point.sum? : Point → Option Sum
  | .sum s => some s
  | .gauge _ => none

/-- When the sums of a reader start: with their stream, or after the last collection. -/
def Temporality.since : Temporality → (began last : Time) → Time
  | .cumulative, began, _ => began
  | .delta, began, last => max began last

/-- The sums of an instrument about some attributes that a collection reports. -/
def Collection.sums (c : InstrumentId) (a : Attributes) (k : Collection) : List Sum :=
  (k.pointsFor c a).filterMap (·.point.sum?)

/-- A collection with the time that it was made at. -/
structure DatedCollection extends Collection where
  time : Time

namespace DatedCollection

/-- The collections that were made for a reader. -/
def forReader (r : ReaderId) (ks : List DatedCollection) : List DatedCollection := ks.filter (·.reader == r)

/-- The sums that some collections report, those of the newest collection first. -/
def sums (c : InstrumentId) (a : Attributes) (ks : List DatedCollection) : List Sum :=
  ks.flatMap fun k => k.toCollection.sums c a

variable {r : ReaderId} {k : DatedCollection} {ks : List DatedCollection} {c : InstrumentId} {a : Attributes}

theorem forReader_cons_self (h : k.reader = r) : forReader r (k :: ks) = k :: forReader r ks :=
  List.filter_cons_of_pos (beq_iff_eq.mpr h)

theorem forReader_cons_of_ne (h : k.reader ≠ r) : forReader r (k :: ks) = forReader r ks :=
  List.filter_cons_of_neg (by simpa using h)

theorem forReader_eq_nil (h : ∀ k ∈ ks, k.reader ≠ r) : forReader r ks = [] :=
  List.filter_eq_nil_iff.mpr fun k hk => by simpa using h k hk

theorem sums_cons : sums c a (k :: ks) = k.toCollection.sums c a ++ sums c a ks := List.flatMap_cons ..

end DatedCollection

open DatedCollection (forReader sums sums_cons forReader_cons_self forReader_cons_of_ne forReader_eq_nil)

/-- The sums of one stream, the newest first, as they have to be for a reader that was registered at some
time: each one ends after it starts, those of a reader of totals all start at the same time, and those of a
reader of differences each start after the ones before have ended. -/
structure Intervals (t : Temporality) (registered : Time) (ss : List Sum) : Prop where
  temporality : ∀ s ∈ ss, s.temporality = t
  forward : ∀ s ∈ ss, s.start ≤ s.time
  registered : ∀ s ∈ ss, registered ≤ s.start
  common : t = .cumulative → ∀ s ∈ ss, ∀ e ∈ ss, s.start = e.start
  apart : t = .delta → ss.Pairwise fun later earlier => earlier.time ≤ later.start

namespace Intervals

variable {t : Temporality} {registered : Time} {s : Sum} {ss : List Sum}

theorem nil : Intervals t registered [] := ⟨nofun, nofun, nofun, fun _ => nofun, fun _ => .nil⟩

theorem cons (h : Intervals t registered ss) (ht : s.temporality = t) (hforward : s.start ≤ s.time)
    (hregistered : registered ≤ s.start) (hcommon : t = .cumulative → ∀ e ∈ ss, s.start = e.start)
    (hapart : t = .delta → ∀ e ∈ ss, e.time ≤ s.start) : Intervals t registered (s :: ss) where
  temporality := List.forall_mem_cons.mpr ⟨ht, h.temporality⟩
  forward := List.forall_mem_cons.mpr ⟨hforward, h.forward⟩
  registered := List.forall_mem_cons.mpr ⟨hregistered, h.registered⟩
  common hc := List.forall_mem_cons.mpr ⟨List.forall_mem_cons.mpr ⟨rfl, hcommon hc⟩, fun e he =>
    List.forall_mem_cons.mpr ⟨(hcommon hc e he).symm, h.common hc e he⟩⟩
  apart hd := List.pairwise_cons.mpr ⟨hapart hd, h.apart hd⟩

end Intervals

/-! ## When streams begin -/

theorem MetricStream.start_collectFor (s : MetricStream) (io : Option Instrument) (t : Temporality)
    (last now : Time) : (s.collectFor io t last now).2.start = s.start := by
  cases io with
  | none => rfl
  | some i =>
    rw [collectFor, collect]
    split <;> rfl

/-- A sum that a stream reports ends now. -/
theorem MetricStream.sum_collectFor {s : MetricStream} {io : Option Instrument} {t : Temporality}
    {last now : Time} {p : Metric} (h : (s.collectFor io t last now).1 = some p) {q : Sum}
    (hq : p.point.sum? = some q) :
    q.temporality = t ∧ q.start = t.since s.start last ∧ q.time = now := by
  cases io with
  | none => cases h
  | some i =>
    rw [collectFor, collect] at h
    split at h
    · obtain rfl := Option.some.inj h
      unfold point at hq
      split at hq
      · cases hq
      · obtain rfl := Option.some.inj hq
        refine ⟨rfl, ?_, rfl⟩
        cases t <;> rfl
    · cases h

namespace Ledger

variable {l l' l'' : Ledger} {c c' : InstrumentId} {a a' : Attributes} {since now : Time}
  {instruments : List Instrument}

/-- When the stream of an instrument about some attributes began. -/
def start? (l : Ledger) (c : InstrumentId) (a : Attributes) : Option Time := (l.stream? c a).map (·.start)

theorem start?_collect (now : Time) : (l.collect instruments now).1.start? c a = l.start? c a := by
  rw [start?, stream?_collectFor, Option.map_map]
  exact congrArg (Option.map · _) (funext fun s => s.start_collectFor ..)

/-- A collection reports at most one sum of a stream. -/
theorem sum_reported (hd : (l.streams.map key).Nodup) {k : Collection}
    (hk : k.points = l.reported instruments now) {s : Sum} (hs : s ∈ k.sums c a) :
    k.sums c a = [s] ∧ s.temporality = l.temporality ∧ s.time = now ∧
      ∃ began, l.start? c a = some began ∧ s.start = l.temporality.since began l.lastCollected := by
  have hsums : k.sums c a = (((l.stream? c a).bind fun s =>
      (s.collectFor instruments[c]? l.temporality l.lastCollected now).1).bind (·.point.sum?)).toList := by
    rw [Collection.sums, Collection.pointsFor, hk, pointsOf_reported hd]
    cases (l.stream? c a).bind fun s =>
      (s.collectFor instruments[c]? l.temporality l.lastCollected now).1 with
    | none => rfl
    | some p => cases hp : p.point.sum? <;> simp [hp]
  rw [hsums] at hs ⊢
  obtain ⟨p, hp, hsum⟩ := Option.bind_eq_some_iff.mp (Option.mem_toList.mp hs)
  obtain ⟨stream, hstream, hpoint⟩ := Option.bind_eq_some_iff.mp hp
  obtain ⟨ht, hstart, htime⟩ := MetricStream.sum_collectFor hpoint hsum
  refine ⟨?_, ht, htime, stream.start, ?_, hstart⟩
  · rw [hp, Option.bind_some, hsum, Option.toList_some]
  · rw [start?, hstream, Option.map_some]

/-- What becomes of the times of a ledger that takes measurements from one time to another. -/
structure Measured (since now : Time) (l l' : Ledger) : Prop where
  temporality : l'.temporality = l.temporality
  lastCollected : l'.lastCollected = l.lastCollected
  starts : ∀ c a, l'.start? c a = l.start? c a ∨
    l.start? c a = none ∧ ∃ began, l'.start? c a = some began ∧ since ≤ began ∧ began ≤ now

theorem Measured.refl (since now : Time) (l : Ledger) : Measured since now l l := ⟨rfl, rfl, fun _ _ => .inl rfl⟩

theorem Measured.trans (h : Measured since now l l') (h' : Measured since now l' l'') :
    Measured since now l l'' where
  temporality := h'.temporality.trans h.temporality
  lastCollected := h'.lastCollected.trans h.lastCollected
  starts c a := by
    rcases h'.starts c a with hsame | ⟨hnone, hnew⟩
    · rw [hsame]
      exact h.starts c a
    · rcases h.starts c a with hsame | ⟨-, began, hbegan, -⟩
      · exact .inr ⟨hsame ▸ hnone, hnew⟩
      · exact nomatch hnone.symm.trans hbegan

theorem Measured.modify {f : MetricStream → MetricStream} (hkeeps : Keeps f)
    (hstart : ∀ s, (f s).start = s.start) {time : Time} (hsince : since ≤ time) (hnow : time ≤ now) :
    Measured since now l { l with streams := modify c a time f l.streams } where
  temporality := rfl
  lastCollected := rfl
  starts c' a' := by
    by_cases hca : (c', a') = (c, a)
    · obtain ⟨rfl, rfl⟩ := Prod.mk.inj hca
      rw [start?, stream?, find?_modify_self hkeeps, Option.map_some, hstart, start?, stream?]
      cases l.streams.find? (·.isFor c' a') with
      | none => exact .inr ⟨rfl, time, rfl, hsince, hnow⟩
      | some s => exact .inl rfl
    · left
      rw [start?, stream?, find?_modify_of_ne hkeeps hca]
      rfl

theorem Measured.takeAll {os : List (InstrumentId × Observation)}
    (h : ∀ e ∈ os, since ≤ e.2.time ∧ e.2.time ≤ now) : Measured since now l (l.takeAll os) := by
  induction os using List.reverseRecOn with
  | nil => exact .refl ..
  | append_singleton os o ih =>
    obtain ⟨hos, ho⟩ := List.forall_mem_append.mp h
    obtain ⟨hsince, hnow⟩ := ho o (List.mem_singleton_self o)
    rw [takeAll_concat]
    exact (ih hos).trans (.modify (MetricStream.keeps_observe _) (fun _ => rfl) hsince hnow)

end Ledger

/-! ## Ledgers in step with their collections -/

/-- That a reader was registered. -/
structure Registration where
  reader : ReaderId
  temporality : Temporality
  time : Time

/-- What holds of a ledger at any time: how its times go with the registration of its reader and the
collections that were made for it. -/
structure Ledger.Dated (g : Registration) (clock : Time) (own : List DatedCollection) (l : Ledger) : Prop where
  temporality : l.temporality = g.temporality
  latest : l.lastCollected = (own.head?.map (·.time)).getD g.time
  registered : g.time ≤ l.lastCollected
  collected : l.lastCollected ≤ clock
  began : ∀ c a began, l.start? c a = some began → g.time ≤ began ∧ began ≤ clock
  ended : ∀ c a, ∀ s ∈ sums c a own, s.time ≤ l.lastCollected
  reported : ∀ c a, ∀ s ∈ sums c a own, ∃ began, l.start? c a = some began ∧ began ≤ s.start ∧
    (l.temporality = .cumulative → s.start = began)

namespace Ledger.Dated

variable {g : Registration} {clock now : Time} {own : List DatedCollection} {k : DatedCollection} {l l' : Ledger}
  {instruments : List Instrument}

theorem new (r : ReaderId) (t : Temporality) (now : Time) : Dated ⟨r, t, now⟩ now [] (.new t now) where
  temporality := rfl
  latest := rfl
  registered := Int.le_refl _
  collected := Int.le_refl _
  began _ _ _ h := nomatch h
  ended _ _ _ h := nomatch h
  reported _ _ _ h := nomatch h

theorem measured (h : l.Dated g clock own) (hm : l.Measured clock now l') (hle : clock ≤ now) :
    l'.Dated g now own where
  temporality := hm.temporality.trans h.temporality
  latest := hm.lastCollected.trans h.latest
  registered := hm.lastCollected ▸ h.registered
  collected := hm.lastCollected ▸ Int.le_trans h.collected hle
  began c a began hbegan := by
    rcases hm.starts c a with hsame | ⟨-, began', hbegan', hclock, hnow⟩
    · obtain ⟨hregistered, hclock⟩ := h.began c a began (hsame ▸ hbegan)
      exact ⟨hregistered, Int.le_trans hclock hle⟩
    · obtain rfl := Option.some.inj (hbegan.symm.trans hbegan')
      exact ⟨Int.le_trans h.registered (Int.le_trans h.collected hclock), hnow⟩
  ended c a s hs := hm.lastCollected ▸ h.ended c a s hs
  reported c a s hs := by
    obtain ⟨began, hbegan, hs⟩ := h.reported c a s hs
    rcases hm.starts c a with hsame | ⟨hnone, -⟩
    · exact ⟨began, hsame.trans hbegan, by rwa [hm.temporality]⟩
    · exact nomatch hnone.symm.trans hbegan

theorem later (h : l.Dated g clock own) (hle : clock ≤ now) : l.Dated g now own := h.measured (.refl ..) hle

section Collecting

variable (h : l.Dated g now own) (hd : (l.streams.map key).Nodup)
  (hk : k.points = l.reported instruments now)
include h hd hk

/-- A collection goes on with the intervals of each stream. -/
theorem intervals {c : InstrumentId} {a : Attributes} (hpast : Intervals g.temporality g.time (sums c a own)) :
    Intervals g.temporality g.time (sums c a (k :: own)) := by
  rw [sums_cons]
  cases hnew : k.toCollection.sums c a with
  | nil => exact hpast
  | cons s more =>
    obtain ⟨hone, ht, htime, began, hbegan, hstart⟩ := sum_reported hd hk (hnew ▸ List.mem_cons_self)
    obtain rfl : more = [] := (List.cons.inj (hnew.symm.trans hone)).2
    obtain ⟨hregistered, hnow⟩ := h.began c a began hbegan
    refine hpast.cons (ht.trans h.temporality) ?_ ?_ (fun hc e he => ?_) fun hdelta e he => ?_
    · rw [hstart, htime]
      cases l.temporality with
      | cumulative => exact hnow
      | delta => exact Int.max_le.mpr ⟨hnow, h.collected⟩
    · rw [hstart]
      cases l.temporality with
      | cumulative => exact hregistered
      | delta => exact Int.le_trans hregistered (Int.le_max_left ..)
    · obtain ⟨began', hbegan', -, he⟩ := h.reported c a e he
      obtain rfl := Option.some.inj (hbegan.symm.trans hbegan')
      rw [he (h.temporality.trans hc), hstart, h.temporality, hc]
      rfl
    · rw [hstart, h.temporality, hdelta]
      exact Int.le_trans (h.ended c a e he) (Int.le_max_right ..)

theorem collect (hr : k.time = now) : (l.collect instruments now).1.Dated g now (k :: own) where
  temporality := h.temporality
  latest := hr.symm
  registered := Int.le_trans h.registered h.collected
  collected := Int.le_refl _
  began c a began hbegan := h.began c a began (start?_collect (l := l) now ▸ hbegan)
  ended c a s hs := by
    rw [sums_cons] at hs
    rcases List.mem_append.mp hs with hs | hs
    · exact Int.le_of_eq (sum_reported hd hk hs).2.2.1
    · exact Int.le_trans (h.ended c a s hs) h.collected
  reported c a s hs := by
    rw [start?_collect]
    rw [sums_cons] at hs
    rcases List.mem_append.mp hs with hs | hs
    · obtain ⟨-, -, -, began, hbegan, hstart⟩ := sum_reported hd hk hs
      refine ⟨began, hbegan, ?_, fun hc => ?_⟩
      · rw [hstart]
        cases l.temporality with
        | cumulative => exact Int.le_refl _
        | delta => exact Int.le_max_left ..
      · have hc : l.temporality = .cumulative := hc
        rw [hstart, hc]
        rfl
    · exact h.reported c a s hs

end Collecting

end Ledger.Dated

/-! ## Meters under a clock -/

namespace Meter

/-- What the clock shows when it is read for a collection, one time after the other. -/
def readings (m : Meter) (reports : InstrumentId → Report) (now : Time) : List Time :=
  (m.called reports).map (·.time) ++ ((m.observed reports).map (·.2.time) ++ [now])

/-- A collection as it is noted down, with its time. -/
def datedCollection (m : Meter) (r : ReaderId) (reports : InstrumentId → Report) (now : Time) :
    DatedCollection :=
  ⟨m.collection r reports now, now⟩

/-- A meter that has come about under a clock that never goes back, with the readers that were registered,
the collections that were made, and what the clock showed last.  Only counters of the meter are told
increments. -/
inductive Timeline (views : List View) : List Registration → List DatedCollection → Time → Meter → Prop where
  | start (now : Time) : Timeline views [] [] now (.ofViews views)
  | register {gs ks clock m} (i : Instrument) : Timeline views gs ks clock m →
      Timeline views gs ks clock (m.register i).1
  | registerReader {gs ks clock m now} (t : Temporality) : Timeline views gs ks clock m → clock ≤ now →
      Timeline views (⟨m.nextReader, t, now⟩ :: gs) ks now (m.registerReader t now).1
  | dropReader {gs ks clock m} (r : ReaderId) : Timeline views gs ks clock m →
      Timeline views gs ks clock (m.dropReader r)
  | add {gs ks clock m} (i : Increment) : Timeline views gs ks clock m → m.IsCounter i.counter →
      clock ≤ i.time → Timeline views gs ks i.time (m.add i).1
  | collect {gs ks clock m r l} (reports : InstrumentId → Report) (now : Time) : Timeline views gs ks clock m →
      m.ledger? r = some l → (∀ i ∈ m.called reports, m.IsCounter i.counter) →
      (clock :: m.readings reports now).Pairwise (· ≤ ·) →
      Timeline views gs (m.datedCollection r reports now :: ks) now (m.collect r reports now).1

theorem Timeline.course {views : List View} {gs : List Registration} {ks : List DatedCollection} {clock : Time}
    {m : Meter} (h : Timeline views gs ks clock m) : Course views (ks.map (·.toCollection)) m := by
  induction h with
  | start now => exact .start
  | register i _ ih => exact ih.register i
  | registerReader t _ _ ih => exact ih.registerReader t _
  | dropReader r _ ih => exact ih.dropReader r
  | add i _ hc _ ih => exact ih.add i hc
  | collect reports now _ hl hc _ ih => exact ih.collect reports now hl hc

variable {gs : List Registration} {ks : List DatedCollection} {clock now : Time} {m : Meter} {r : ReaderId}
  {l : Ledger} {reports : InstrumentId → Report}

/-- What is read for a collection is between what was read before it and its own time. -/
theorem readings_between (h : (clock :: m.readings reports now).Pairwise (· ≤ ·)) :
    clock ≤ now ∧ (∀ i ∈ m.called reports, clock ≤ i.time ∧ i.time ≤ now) ∧
      ∀ e ∈ m.observed reports, clock ≤ e.2.time ∧ e.2.time ≤ now := by
  obtain ⟨hclock, hrest⟩ := List.pairwise_cons.mp h
  obtain ⟨-, hobserved, hcalled⟩ := List.pairwise_append.mp hrest
  obtain ⟨-, -, hlast⟩ := List.pairwise_append.mp hobserved
  have hnow : now ∈ (m.observed reports).map (·.2.time) ++ [now] :=
    List.mem_append_right _ (List.mem_singleton_self now)
  refine ⟨hclock now (List.mem_append_right _ hnow), fun i hi => ?_, fun e he => ?_⟩
  · have hi := List.mem_map_of_mem (f := (·.time)) hi
    exact ⟨hclock _ (List.mem_append_left _ hi), hcalled _ hi now hnow⟩
  · have he := List.mem_map_of_mem (f := (·.2.time)) he
    exact ⟨hclock _ (List.mem_append_right _ (List.mem_append_left _ he)),
      hlast _ he now (List.mem_singleton_self now)⟩

/-- What increments do to the ledgers of a meter from one time to another. -/
theorem measured_addAll {is : List Increment} (h : ∀ i ∈ is, clock ≤ i.time ∧ i.time ≤ now) :
    ∀ e ∈ (m.addAll is).1.readers, ∃ e₀ ∈ m.readers, e₀.1 = e.1 ∧ e₀.2.Measured clock now e.2 := by
  induction is generalizing m with
  | nil => exact fun e he => ⟨e, he, rfl, .refl ..⟩
  | cons i is ih =>
    intro e he
    obtain ⟨hi, his⟩ := List.forall_mem_cons.mp h
    obtain ⟨e₁, he₁, hid, hm⟩ := ih (m := (m.add i).1) his e he
    cases hneg : i.value.isNegative with
    | true =>
      rw [add_of_negative hneg] at he₁
      exact ⟨e₁, he₁, hid, hm⟩
    | false =>
      rw [Meter.add, if_neg (by rw [hneg]; exact Bool.false_ne_true)] at he₁
      obtain ⟨e₀, he₀, rfl⟩ := mem_mapLedgers.mp he₁
      exact ⟨e₀, he₀, hid,
        Ledger.Measured.trans (.modify (MetricStream.keeps_add _) (fun _ => rfl) hi.1 hi.2) hm⟩

theorem nextReader_addAll (is : List Increment) : (m.addAll is).1.nextReader = m.nextReader := by
  induction is generalizing m with
  | nil => rfl
  | cons i is ih =>
    have hadd : (m.add i).1.nextReader = m.nextReader := by
      unfold Meter.add
      split <;> rfl
    exact ih.trans hadd

/-- What holds at any time: each ledger goes with the collections of its reader, and so do the intervals of
the sums that they report, also when the reader is gone. -/
structure Timely (gs : List Registration) (ks : List DatedCollection) (clock : Time) (m : Meter) : Prop where
  known : ∀ g ∈ gs, g.reader < m.nextReader
  ledgers : ∀ e ∈ m.readers, ∀ g ∈ gs, g.reader = e.1 → e.2.Dated g clock (forReader e.1 ks)
  registered : ∀ e ∈ m.readers, ∃ g ∈ gs, g.reader = e.1
  intervals : ∀ g ∈ gs, ∀ c a, Intervals g.temporality g.time (sums c a (forReader g.reader ks))

theorem Timely.registerReader (h : m.Timely gs ks clock) (hks : ∀ k ∈ ks, k.reader < m.nextReader)
    (t : Temporality) (hle : clock ≤ now) :
    (m.registerReader t now).1.Timely (⟨m.nextReader, t, now⟩ :: gs) ks now := by
  have hnew : forReader m.nextReader ks = [] := forReader_eq_nil fun k hk => Nat.ne_of_lt (hks k hk)
  refine ⟨?_, fun e he => ?_, fun e he => ?_, ?_⟩
  · exact List.forall_mem_cons.mpr ⟨Nat.lt_succ_self _, fun g hg => Nat.lt_succ_of_lt (h.known g hg)⟩
  · rcases List.mem_append.mp he with he | he
    · obtain ⟨g₀, hg₀, hid⟩ := h.registered e he
      refine List.forall_mem_cons.mpr ⟨fun hsame => ?_, fun g hg hr => (h.ledgers e he g hg hr).later hle⟩
      exact absurd (hid.trans hsame.symm) (Nat.ne_of_lt (h.known g₀ hg₀))
    · obtain rfl := List.mem_singleton.mp he
      refine List.forall_mem_cons.mpr ⟨fun _ => hnew ▸ .new .., fun g hg hr => ?_⟩
      exact absurd hr (Nat.ne_of_lt (h.known g hg))
  · rcases List.mem_append.mp he with he | he
    · obtain ⟨g, hg, hid⟩ := h.registered e he
      exact ⟨g, List.mem_cons_of_mem _ hg, hid⟩
    · obtain rfl := List.mem_singleton.mp he
      exact ⟨_, List.mem_cons_self, rfl⟩
  · exact List.forall_mem_cons.mpr ⟨fun c a => hnew ▸ .nil, h.intervals⟩

theorem Timely.dropReader (h : m.Timely gs ks clock) (r : ReaderId) : (m.dropReader r).Timely gs ks clock where
  known := h.known
  ledgers e he := h.ledgers e (List.mem_filter.mp he).1
  registered e he := h.registered e (List.mem_filter.mp he).1
  intervals := h.intervals

theorem Timely.addAll (h : m.Timely gs ks clock) {is : List Increment}
    (his : ∀ i ∈ is, clock ≤ i.time ∧ i.time ≤ now) (hle : clock ≤ now) : (m.addAll is).1.Timely gs ks now where
  known g hg := (nextReader_addAll is).symm ▸ h.known g hg
  ledgers e he g hg hr := by
    obtain ⟨e₀, he₀, hid, hm⟩ := measured_addAll his e he
    rw [← hid] at hr ⊢
    exact (h.ledgers e₀ he₀ g hg hr).measured hm hle
  registered e he := by
    obtain ⟨e₀, he₀, hid, -⟩ := measured_addAll his e he
    exact hid ▸ h.registered e₀ he₀
  intervals := h.intervals

section Collecting

variable {es : List MeterEvent} (h : m.Timely gs ks clock) (hs : m.Sound es) (hl : m.ledger? r = some l)
  (hc : ∀ i ∈ m.called reports, m.IsCounter i.counter)
  (hclock : (clock :: m.readings reports now).Pairwise (· ≤ ·))
include h hs hl hc hclock

/-- The ledger that is collected goes with the collections before, when it has taken all measurements. -/
theorem Timely.asked : ∃ l', (m.addAll (m.called reports)).1.ledger? r = some l' ∧
    (l'.streams.map key).Nodup ∧
    ∀ g ∈ gs, g.reader = r → (l'.takeAll (m.observed reports)).Dated g now (forReader r ks) := by
  obtain ⟨hle, hcalled, hobserved⟩ := readings_between hclock
  obtain ⟨l', hl', -⟩ := exists_ledger?_called hl reports
  have hmem := mem_of_ledger? hl'
  obtain ⟨e₀, he₀, hid, hm⟩ := measured_addAll hcalled _ hmem
  refine ⟨l', hl', ((hs.addAll hc).follows _ hmem).distinct, fun g hg hr => ?_⟩
  have hold := h.ledgers e₀ he₀ g hg (hr.trans hid.symm)
  rw [hid] at hold
  exact hold.measured (hm.trans (.takeAll hobserved)) hle

/-- A collection goes on with the intervals of its reader and does not touch those of others. -/
theorem Timely.collect :
    (m.collect r reports now).1.Timely gs (m.datedCollection r reports now :: ks) now := by
  obtain ⟨hle, hcalled, -⟩ := readings_between hclock
  obtain ⟨l', hl', hdistinct, hasked⟩ := h.asked hs hl hc hclock
  obtain ⟨hcollect, hpoints⟩ := collect_of_ledger hl' now
  have htold := h.addAll hcalled hle
  have hd : ((l'.takeAll (m.observed reports)).streams.map key).Nodup := Ledger.nodup_takeAll hdistinct
  have hown : forReader r (m.datedCollection r reports now :: ks) =
    m.datedCollection r reports now :: forReader r ks := forReader_cons_self rfl
  have hother {q : ReaderId} (hq : q ≠ r) :
    forReader q (m.datedCollection r reports now :: ks) = forReader q ks := forReader_cons_of_ne (Ne.symm hq)
  rw [hcollect]
  refine ⟨htold.known, fun e he g hg hr => ?_, fun e he => ?_, fun g hg c a => ?_⟩
  · obtain ⟨e, hold, rfl⟩ := mem_mapLedgers.mp he
    dsimp only at hr ⊢
    by_cases her : e.1 = r
    · rw [if_pos her, her, hown]
      exact (hasked g hg (hr.trans her)).collect hd hpoints rfl
    · rw [if_neg her, hother her]
      exact htold.ledgers e hold g hg hr
  · obtain ⟨e, hold, rfl⟩ := mem_mapLedgers.mp he
    exact htold.registered e hold
  · by_cases hr : g.reader = r
    · rw [hr, hown]
      exact (hasked g hg hr).intervals hd hpoints (hr ▸ h.intervals g hg c a)
    · rw [hother hr]
      exact h.intervals g hg c a

end Collecting

namespace Timeline

variable {views : List View}

theorem known (h : Timeline views gs ks clock m) : ∀ k ∈ ks, k.reader < m.nextReader :=
  fun _ hk => h.course.recalls.known _ (List.mem_map_of_mem hk)

theorem timely (h : Timeline views gs ks clock m) : m.Timely gs ks clock := by
  induction h with
  | start now => exact ⟨nofun, nofun, nofun, nofun⟩
  | register i _ ih => exact ⟨ih.known, ih.ledgers, ih.registered, ih.intervals⟩
  | registerReader t h hle ih => exact ih.registerReader h.known t hle
  | dropReader r _ ih => exact ih.dropReader r
  | add i _ _ hle ih =>
    have hi : ∀ j ∈ [i], _ ≤ j.time ∧ j.time ≤ i.time := List.forall_mem_singleton.mpr ⟨hle, Int.le_refl _⟩
    exact ih.addAll hi hle
  | collect reports now h hl hc hclock ih =>
    obtain ⟨es, hrun⟩ := h.course.run
    exact ih.collect hrun.sound hl hc hclock

/-- The sums of each stream of each reader have their intervals in order, in every run under a clock that
never goes back: each ends after it starts, and none starts before its reader was registered.  For a reader
of totals they all start at the same time, and for a reader of differences no two of them overlap. -/
theorem sum_intervals (h : Timeline views gs ks clock m) {g : Registration} (hg : g ∈ gs) (c : InstrumentId)
    (a : Attributes) : Intervals g.temporality g.time (sums c a (forReader g.reader ks)) :=
  h.timely.intervals g hg c a

/-- A total that is not observed for one collection, for a reader of differences that is removed afterwards. -/
theorem sum_intervals_of_skipped : ∃ (ks : List DatedCollection) (m : Meter),
    Timeline [] [⟨1, .cumulative, 2⟩, ⟨0, .delta, 1⟩] ks 9 m ∧ m.readers.map (·.1) = [1] ∧
    (sums 0 (.ofList []) (forReader 0 ks)).map (fun s => (s.start, s.time)) = [(6, 9), (4, 5)] ∧
    Intervals .delta 1 (sums 0 (.ofList []) (forReader 0 ks)) := by
  have h := (((@Timeline.start [] 0).register ⟨"bytes", "", "By", .totals⟩).registerReader .delta
    (by decide : (0 : Time) ≤ 1)).registerReader .cumulative (by decide : (1 : Time) ≤ 2)
  have h := h.collect (r := 0) (showing [⟨.i64 10, .ofList [], 4⟩]) 5 rfl
    (isCounter_of_mem_called_showing _ _) (by decide +kernel)
  have h := h.collect (r := 0) (showing []) 6 rfl (isCounter_of_mem_called_showing _ _) (by decide +kernel)
  have h := h.collect (r := 0) (showing [⟨.i64 15, .ofList [], 8⟩]) 9 rfl
    (isCounter_of_mem_called_showing _ _) (by decide +kernel)
  have h := h.dropReader 0
  exact ⟨_, _, h, by decide +kernel, by decide +kernel,
    h.sum_intervals (List.mem_cons_of_mem _ List.mem_cons_self) 0 (.ofList [])⟩

end Timeline

end Meter

end Telemetry
