import Telemetry.Proofs.Metric.Intervals

/-!
# The intervals of differences

A reader of differences is told totals by an observable counter, and reports how far each is from the one
that it saw before, however many collections ago that was.  The interval of such a sum is the one between
two collections of the reader: a stream keeps the total that it saw, but the time of the last collection is
kept once for the whole ledger.  So the interval starts where the earlier sum ended if no collection came in
between, and later if time has passed until one that did not observe the stream
(`Meter.Timeline.difference_intervals`).

To look back at any collection of a run, it is taken for the newest one of a shorter run
(`Meter.Timeline.exists_makes`).
-/

namespace Telemetry

open MetricStream (key sinceSeen)
open DatedCollection (forReader sums)

/-! ## The last collections of a reader -/

theorem Collection.lastSeen_of_skipped {c : InstrumentId} {a : Attributes} {between before : List Collection}
    {k : Collection} {v : Number} (hskipped : ∀ b ∈ between, b.last? c a = none) (hv : k.last? c a = some v) :
    lastSeen c a (between ++ k :: before) = some v := by
  rw [lastSeen, List.findSome?_append, List.findSome?_eq_none_iff.mpr hskipped, Option.none_or,
    List.findSome?_cons, hv]

namespace DatedCollection

theorem map_forReader (r : ReaderId) (ks : List DatedCollection) :
    Collection.forReader r (ks.map (·.toCollection)) = (forReader r ks).map (·.toCollection) :=
  List.filter_map ..

/-- A collection that was made for a reader stands in the whole list of collections. -/
theorem exists_of_forReader {r : ReaderId} {ks later rest : List DatedCollection} {k : DatedCollection}
    (h : forReader r ks = later ++ k :: rest) : ∃ front earlier, ks = front ++ k :: earlier ∧
      k.reader = r ∧ forReader k.reader earlier = rest := by
  obtain ⟨ks₁, ks₂, rfl, -, hks₂⟩ := List.filter_eq_append_iff.mp h
  obtain ⟨ks₃, earlier, rfl, -, hr, hearlier⟩ := List.filter_eq_cons_iff.mp hks₂
  have hr : k.reader = r := eq_of_beq hr
  exact ⟨ks₁ ++ ks₃, earlier, (List.append_assoc ..).symm, hr, hr.symm ▸ hearlier⟩

variable {between before : List DatedCollection} {k : DatedCollection}

/-- The newest of some collections is not made before an earlier one, and at its time just if all of them are. -/
theorem newest_le (h : (between ++ k :: before).Pairwise fun later earlier => earlier.time ≤ later.time) :
    k.time ≤ (between.head?.getD k).time ∧
      ((between.head?.getD k).time ≤ k.time ↔ ∀ b ∈ between, b.time = k.time) := by
  obtain ⟨hbetween, -, hbefore⟩ := List.pairwise_append.mp h
  have hk (b : DatedCollection) (hb : b ∈ between) : k.time ≤ b.time := hbefore b hb k List.mem_cons_self
  cases between with
  | nil => exact ⟨Int.le_refl _, fun _ => nofun, fun _ => Int.le_refl _⟩
  | cons b between =>
    refine ⟨hk b List.mem_cons_self, fun hle => ?_, fun heq => Int.le_of_eq (heq b List.mem_cons_self)⟩
    refine List.forall_mem_cons.mpr ⟨Int.le_antisymm hle (hk b List.mem_cons_self), fun b' hb' => ?_⟩
    have hb := (List.pairwise_cons.mp hbetween).1 b' hb'
    exact Int.le_antisymm (Int.le_trans hb hle) (hk b' (List.mem_cons_of_mem _ hb'))

end DatedCollection

/-- A total that is observed is reported, and what was seen before is taken off for a reader of
differences. -/
theorem Ledger.sum_of_total {l : Ledger} {k : Collection} {c : InstrumentId} {a : Attributes} {i : Instrument}
    {instruments : List Instrument} {before : Option Number} {v : Number} {now : Time}
    (hd : (l.streams.map key).Nodup)
    (h : MetricStream.Recalls instruments[c]? l.temporality (l.stream? c a) before)
    (hi : instruments[c]? = some i) (htotals : i.aggregator = .totals)
    (hk : k.points = (l.takeAll k.observed).reported instruments now) (hv : k.last? c a = some v) :
    ∃ s, k.sums c a = [s] ∧ s.value = sinceSeen l.temporality before v := by
  obtain ⟨began, hstream⟩ := stream?_takeAll.2 v hv
  rw [hi] at h
  have hprevious : l.temporality = .delta → ((l.stream? c a).getD (.new c a began)).previous = before :=
    fun hdelta => (hdelta ▸ h).previous htotals began
  obtain ⟨start, hcollect⟩ := MetricStream.collect_observe_of_totals (v := v) htotals hprevious
    (l.takeAll k.observed).lastCollected now
  rw [Collection.sums, Collection.pointsFor, hk, pointsOf_reported (nodup_takeAll hd), hstream,
    temporality_takeAll, hi, Option.bind_some, MetricStream.collectFor, hcollect]
  exact ⟨_, rfl, rfl⟩

/-! ## Collections of a run -/

namespace Meter

theorem getElem?_of_isPrefix {is js : List Instrument} {c : InstrumentId} {i : Instrument} (h : is <+: js)
    (hi : is[c]? = some i) : js[c]? = some i := by
  obtain ⟨hlt, rfl⟩ := List.getElem?_eq_some_iff.mp hi
  exact List.prefix_iff_getElem?.mp h c hlt

/-- That a collection is made by a meter that has come about. -/
inductive Makes (views : List View) (earlier : List DatedCollection) (m : Meter) : DatedCollection → Prop where
  | intro {gs clock r l} (reports : InstrumentId → Report) (now : Time) : Timeline views gs earlier clock m →
      m.ledger? r = some l → (∀ i ∈ m.called reports, m.IsCounter i.counter) →
      (clock :: m.readings reports now).Pairwise (· ≤ ·) →
      Makes views earlier m (m.datedCollection r reports now)

variable {views : List View} {gs : List Registration} {ks earlier : List DatedCollection} {clock : Time}
  {m : Meter} {k : DatedCollection} {c : InstrumentId} {a : Attributes}

namespace Timeline

/-- Every collection was the newest one, at a time when some of the instruments were there. -/
theorem exists_makes (h : Timeline views gs ks clock m) {later : List DatedCollection}
    (hks : ks = later ++ k :: earlier) :
    ∃ m₀ : Meter, m₀.Makes views earlier k ∧ m₀.instruments <+: m.instruments := by
  induction h generalizing later with
  | start now => exact absurd hks (by simp)
  | register i _ ih =>
    obtain ⟨m₀, hmakes, hprefix⟩ := ih hks
    exact ⟨m₀, hmakes, hprefix.trans (List.prefix_append ..)⟩
  | registerReader t _ _ ih => exact ih hks
  | dropReader r _ ih => exact ih hks
  | add i _ _ _ ih =>
    rw [(Alike.add i).instruments]
    exact ih hks
  | @collect gs ks clock m r l reports now hrun hl hc hclock ih =>
    obtain ⟨l', hl', -⟩ := exists_ledger?_called hl reports
    have hinstruments : (m.collect r reports now).1.instruments = m.instruments := by
      rw [(collect_of_ledger hl' now).1]
      exact (Alike.addAll _).instruments
    rw [hinstruments]
    cases later with
    | nil =>
      obtain ⟨rfl, rfl⟩ := List.cons.inj hks
      exact ⟨m, .intro reports now hrun hl hc hclock, List.prefix_rfl⟩
    | cons b later => exact ih (List.cons.inj hks).2

theorem time_le (h : Timeline views gs ks clock m) : ∀ k ∈ ks, k.time ≤ clock := by
  induction h with
  | start now => exact nofun
  | register i _ ih => exact ih
  | registerReader t _ hle ih => exact fun k hk => Int.le_trans (ih k hk) hle
  | dropReader r _ ih => exact ih
  | add i _ _ hle ih => exact fun k hk => Int.le_trans (ih k hk) hle
  | collect reports now _ _ _ hclock ih =>
    exact List.forall_mem_cons.mpr ⟨Int.le_refl _, fun k hk => Int.le_trans (ih k hk) (readings_between hclock).1⟩

/-- The newest collection was made last. -/
theorem sorted (h : Timeline views gs ks clock m) :
    ks.Pairwise fun later earlier => earlier.time ≤ later.time := by
  induction h with
  | start now => exact .nil
  | register i _ ih | registerReader t _ _ ih | dropReader r _ ih | add i _ _ _ ih => exact ih
  | collect reports now h _ _ hclock ih =>
    exact List.pairwise_cons.mpr ⟨fun k hk => Int.le_trans (h.time_le k hk) (readings_between hclock).1, ih⟩

end Timeline

namespace Makes

/-- A collection is made from a ledger that goes with the collections before. -/
theorem exists_ledger (h : m.Makes views earlier k) : ∃ (g : Registration) (l : Ledger),
    k.points = (l.takeAll k.observed).reported m.instruments k.time ∧ (l.streams.map key).Nodup ∧
    l.Recalls m.instruments ((forReader k.reader earlier).map (·.toCollection)) ∧
    (l.takeAll k.observed).Dated g k.time (forReader k.reader earlier) ∧
    ∀ c a, Intervals g.temporality g.time (sums c a (forReader k.reader earlier)) := by
  cases h with
  | @intro gs clock r l reports now hrun hl hc hclock =>
    obtain ⟨es, hes⟩ := hrun.course.run
    obtain ⟨g, hg, hr⟩ := hrun.timely.registered _ (mem_of_ledger? hl)
    obtain ⟨l', hl', hd, hasked⟩ := hrun.timely.asked hes.sound hl hc hclock
    obtain ⟨l'', hl'', -, -, hrecalls⟩ := hrun.course.recalls.called hes.sound hl hc
    obtain rfl := Option.some.inj (hl'.symm.trans hl'')
    rw [DatedCollection.map_forReader] at hrecalls
    have hintervals := hrun.timely.intervals g hg
    rw [hr] at hintervals
    exact ⟨g, l', (collect_of_ledger hl' now).2, hd, hrecalls, hasked g hg hr, hintervals⟩

theorem timeline (h : m.Makes views earlier k) : ∃ gs clock, Timeline views gs earlier clock m := by
  cases h with
  | intro reports now hrun => exact ⟨_, _, hrun⟩

theorem observable (h : m.Makes views earlier k) {v : Number} (hv : k.last? c a = some v) :
    ∃ i, m.instruments[c]? = some i ∧ i.aggregator.isObservable = true := by
  cases h with
  | intro reports now => exact Ledger.exists_observable (fun e => mem_observed) hv

/-- A sum is the only one of its stream, and ends when the collection is made. -/
theorem single (h : m.Makes views earlier k) {s : Sum} (hs : s ∈ k.toCollection.sums c a) :
    k.toCollection.sums c a = [s] ∧ s.time = k.time := by
  obtain ⟨g, l, hpoints, hd, -⟩ := h.exists_ledger
  obtain ⟨hone, -, htime, -⟩ := Ledger.sum_reported (Ledger.nodup_takeAll hd) hpoints hs
  exact ⟨hone, htime⟩

/-- A total is reported if it is observed, without what was seen before. -/
theorem total (h : m.Makes views earlier k) {i : Instrument} (hi : m.instruments[c]? = some i)
    (htotals : i.aggregator = .totals) :
    (k.last? c a = none → k.toCollection.sums c a = []) ∧
    ∀ v, k.last? c a = some v → ∃ s, k.toCollection.sums c a = [s] ∧ s.value =
      sinceSeen s.temporality (Collection.lastSeen c a ((forReader k.reader earlier).map (·.toCollection))) v := by
  obtain ⟨g, l, hpoints, hd, hrecalls, -⟩ := h.exists_ledger
  have hc : NoCounter m.instruments c := by
    intro j hj hcounter
    obtain rfl := Option.some.inj (hi.symm.trans hj)
    exact nomatch htotals.symm.trans hcounter
  refine ⟨fun hnone => ?_, fun v hv => ?_⟩
  · rw [Collection.sums, hrecalls.points_of_none hd hpoints hc hnone]
    rfl
  · obtain ⟨s, hs, hvalue⟩ := Ledger.sum_of_total hd (hrecalls.streams c hc a) hi htotals hpoints hv
    obtain ⟨-, ht, -⟩ := Ledger.sum_reported (Ledger.nodup_takeAll hd) hpoints (hs ▸ List.mem_singleton_self s)
    exact ⟨s, hs, by rw [hvalue, ht, Ledger.temporality_takeAll]⟩

/-- The next sum of a stream, for a reader of differences, starts with the last collection. -/
theorem start_eq (h : m.Makes views earlier k) {s e : Sum} (hs : s ∈ k.toCollection.sums c a)
    (hdelta : s.temporality = .delta) {last : DatedCollection} (hlast : (forReader k.reader earlier).head? = some last)
    (he : e ∈ sums c a (forReader k.reader earlier)) : s.start = last.time := by
  obtain ⟨g, l, hpoints, hd, -, hdated, hintervals⟩ := h.exists_ledger
  obtain ⟨-, ht, -, began, hbegan, hstart⟩ := Ledger.sum_reported (Ledger.nodup_takeAll hd) hpoints hs
  obtain ⟨began', hbegan', hle, -⟩ := hdated.reported c a e he
  obtain rfl := Option.some.inj (hbegan.symm.trans hbegan')
  have hlatest : (l.takeAll k.observed).lastCollected = last.time := by
    rw [hdated.latest, hlast]
    rfl
  have hended : began ≤ (l.takeAll k.observed).lastCollected :=
    Int.le_trans hle (Int.le_trans ((hintervals c a).forward e he) (hdated.ended c a e he))
  calc s.start = max began (l.takeAll k.observed).lastCollected := by rw [hstart, ← ht, hdelta]; rfl
    _ = (l.takeAll k.observed).lastCollected := Int.max_eq_right hended
    _ = last.time := hlatest

/-- What is taken off for a reader of differences is what it saw last, however long ago. -/
theorem difference (h : m.Makes views earlier k) {i : Instrument} (hi : m.instruments[c]? = some i)
    (htotals : i.aggregator = .totals) {between before : List DatedCollection} {k₀ : DatedCollection}
    (hown : forReader k.reader earlier = between ++ k₀ :: before) {w : Number} (hw : k₀.last? c a = some w)
    (hskipped : ∀ b ∈ between, b.last? c a = none) {s : Sum} (hs : s ∈ k.toCollection.sums c a)
    (hdelta : s.temporality = .delta) : ∃ v, k.last? c a = some v ∧ s.value = v - w := by
  obtain ⟨hquiet, htotal⟩ := h.total (a := a) hi htotals
  have hseen : Collection.lastSeen c a ((forReader k.reader earlier).map (·.toCollection)) = some w := by
    rw [hown, List.map_append, List.map_cons]
    exact Collection.lastSeen_of_skipped (List.forall_mem_map.mpr hskipped) hw
  cases hv : k.last? c a with
  | none => exact absurd hs (by rw [hquiet hv]; exact List.not_mem_nil)
  | some v =>
    obtain ⟨s', hone, hvalue⟩ := htotal v hv
    obtain rfl : s = s' := List.mem_singleton.mp (hone ▸ hs)
    rw [hdelta, hseen] at hvalue
    exact ⟨v, rfl, hvalue⟩

end Makes

/-! ## Differences -/

namespace Timeline

/-- A total is observed for a collection at 5 and for one at 9, and not for the one at 6 in between. -/
theorem exists_skipped : ∃ (m : Meter) (k b k₀ : DatedCollection) (s e : Sum),
    Timeline [] [⟨0, .delta, 1⟩] [k, b, k₀] 9 m ∧ m.instruments[0]? = some ⟨"bytes", "", "By", .totals⟩ ∧
    forReader 0 [k, b, k₀] = [k, b, k₀] ∧ [k, b, k₀].map (·.time) = [9, 6, 5] ∧
    [k, b, k₀].map (·.last? 0 (.ofList [])) = [some (.i64 15), none, some (.i64 10)] ∧
    k.toCollection.sums 0 (.ofList []) = [s] ∧ s = ⟨.delta, true, 6, 9, .i64 5⟩ ∧
    k₀.toCollection.sums 0 (.ofList []) = [e] ∧ e = ⟨.delta, true, 4, 5, .i64 10⟩ := by
  have h := ((@Timeline.start [] 0).register ⟨"bytes", "", "By", .totals⟩).registerReader .delta
    (by decide : (0 : Time) ≤ 1)
  have h := h.collect (r := 0) (showing [⟨.i64 10, .ofList [], 4⟩]) 5 rfl
    (isCounter_of_mem_called_showing _ _) (by decide +kernel)
  have h := h.collect (r := 0) (showing []) 6 rfl (isCounter_of_mem_called_showing _ _) (by decide +kernel)
  have h := h.collect (r := 0) (showing [⟨.i64 15, .ofList [], 8⟩]) 9 rfl
    (isCounter_of_mem_called_showing _ _) (by decide +kernel)
  exact ⟨_, _, _, _, _, _, h, rfl, rfl, rfl, by decide +kernel, by decide +kernel, rfl, by decide +kernel, rfl⟩

/-- The second difference is that between the totals at 5 and at 9, but its interval starts at 6. -/
theorem gap_after_skipped : ∃ (m : Meter) (k b k₀ : DatedCollection) (s e : Sum),
    Timeline [] [⟨0, .delta, 1⟩] [k, b, k₀] 9 m ∧ m.instruments[0]? = some ⟨"bytes", "", "By", .totals⟩ ∧
    forReader 0 [k, b, k₀] = [k, b, k₀] ∧
    [k, b, k₀].map (·.last? 0 (.ofList [])) = [some (.i64 15), none, some (.i64 10)] ∧
    k.toCollection.sums 0 (.ofList []) = [s] ∧ k₀.toCollection.sums 0 (.ofList []) = [e] ∧
    s.value = .i64 15 - .i64 10 ∧ ¬ s.start ≤ e.time := by
  obtain ⟨m, k, b, k₀, s, e, h, hi, hown, -, hlast, hs, rfl, he, rfl⟩ := exists_skipped
  exact ⟨m, k, b, k₀, _, _, h, hi, hown, hlast, hs, he, rfl, by decide⟩

/-- Where the interval of a difference starts.  What is reported of a total to a reader of differences is the
difference to the total that was observed for the last of its collections that observed the stream, and this
one reported a sum.  The interval starts when the reader was last collected.  That is never before the earlier
sum ended, and no later just if all collections in between, which did not observe the stream, were made at
the time when it ended. -/
theorem difference_intervals (h : Timeline views gs ks clock m) {g : Registration} (hg : g ∈ gs)
    (hdelta : g.temporality = .delta) {i : Instrument} (hi : m.instruments[c]? = some i)
    (htotals : i.aggregator = .totals) {later between before : List DatedCollection} {k₀ : DatedCollection}
    (hown : forReader g.reader ks = later ++ k :: (between ++ k₀ :: before)) {w : Number}
    (hw : k₀.last? c a = some w) (hskipped : ∀ b ∈ between, b.last? c a = none) {s : Sum}
    (hs : s ∈ k.toCollection.sums c a) :
    ∃ v e, k.last? c a = some v ∧ s.value = v - w ∧ s.time = k.time ∧
      k₀.toCollection.sums c a = [e] ∧ e.time = k₀.time ∧
      s.start = (between.head?.getD k₀).time ∧ e.time ≤ s.start ∧
      (s.start ≤ e.time ↔ ∀ b ∈ between, b.time = e.time) := by
  -- the collection when it was the newest one, and the earlier one when that was
  obtain ⟨_, earlier, hks, -, hearlier⟩ := DatedCollection.exists_of_forReader hown
  obtain ⟨m₁, hmakes, hprefix⟩ := h.exists_makes hks
  obtain ⟨_, _, hrun⟩ := hmakes.timeline
  obtain ⟨_, _, hks₀, -⟩ := DatedCollection.exists_of_forReader hearlier
  obtain ⟨m₀, hmakes₀, hprefix₀⟩ := hrun.exists_makes hks₀
  -- all three times it is the same instrument
  obtain ⟨j, hi₀, -⟩ := hmakes₀.observable hw
  have hi₁ := getElem?_of_isPrefix hprefix₀ hi₀
  obtain rfl : i = j := Option.some.inj (hi.symm.trans (getElem?_of_isPrefix hprefix hi₁))
  obtain ⟨e, he, -⟩ := (hmakes₀.total hi₀ htotals).2 w hw
  obtain ⟨-, hended⟩ := hmakes₀.single (he ▸ List.mem_singleton_self e)
  have hmem : s ∈ sums c a (forReader g.reader ks) := by
    rw [hown]
    exact List.mem_flatMap.mpr ⟨k, List.mem_append_right _ List.mem_cons_self, hs⟩
  have ht : s.temporality = .delta := ((h.timely.intervals g hg c a).temporality s hmem).trans hdelta
  obtain ⟨v, hv, hvalue⟩ := hmakes.difference hi₁ htotals hearlier hw hskipped hs ht
  have hstart : s.start = (between.head?.getD k₀).time := by
    refine hmakes.start_eq (e := e) hs ht ?_ ?_
    · rw [hearlier]
      cases between <;> rfl
    · rw [hearlier]
      exact List.mem_flatMap.mpr ⟨k₀, List.mem_append_right _ List.mem_cons_self, he ▸ List.mem_singleton_self e⟩
  have hsorted : (forReader k.reader earlier).Pairwise fun later earlier => earlier.time ≤ later.time :=
    hrun.sorted.filter _
  obtain ⟨hle, hiff⟩ := DatedCollection.newest_le (hearlier ▸ hsorted)
  rw [← hstart, ← hended] at hle hiff
  exact ⟨v, e, hv, hvalue, (hmakes.single hs).2, he, hended, hstart, hle, hiff⟩

/-- The total that was not observed for one collection. -/
theorem difference_intervals_of_skipped : ∃ (m : Meter) (k b k₀ : DatedCollection) (v : Number) (s e : Sum),
    Timeline [] [⟨0, .delta, 1⟩] [k, b, k₀] 9 m ∧ k.toCollection.sums 0 (.ofList []) = [s] ∧
    k.last? 0 (.ofList []) = some v ∧ s.value = v - .i64 10 ∧ k₀.toCollection.sums 0 (.ofList []) = [e] ∧
    e.time = k₀.time ∧ s.start = b.time ∧ (s.start ≤ e.time ↔ ∀ x ∈ [b], x.time = e.time) := by
  obtain ⟨m, k, b, k₀, s, _, h, hi, hown, -, hlast, hs, -⟩ := exists_skipped
  have hown : forReader 0 [k, b, k₀] = [] ++ k :: ([b] ++ [k₀]) := hown
  obtain ⟨-, hskipped, hw⟩ : k.last? 0 (.ofList []) = some (.i64 15) ∧ b.last? 0 (.ofList []) = none ∧
      k₀.last? 0 (.ofList []) = some (.i64 10) := by
    simpa using hlast
  obtain ⟨v, e, hv, hvalue, -, he, htime, hstart, -, hiff⟩ := difference_intervals h
    (List.mem_singleton_self _) rfl hi rfl hown hw (List.forall_mem_singleton.mpr hskipped)
    (hs ▸ List.mem_singleton_self s)
  exact ⟨m, k, b, k₀, v, s, e, h, hs, hv, hvalue, he, htime, hstart, hiff⟩

end Timeline

end Meter

end Telemetry
