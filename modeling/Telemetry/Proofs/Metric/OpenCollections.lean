import Telemetry.Proofs.Metric.Counters
import Telemetry.Proofs.Metric.ReaderDeeds

/-!
# Collections that others disturb

A collection begins when it looks which instruments there are, and ends when it reports the ledger of
its reader.  In between the observable instruments are asked.  They may do anything with the meter: add
to counters, but also add instruments and readers, let go of readers and collect for others.  So may
other threads.  `Life` is about meters with any number of collections that have begun and not ended,
and with whatever else happens to a meter between any two steps of theirs.

A collection reports the counters that were there when it began.  What was told before it ends is part
of it, whoever told it.  A counter that came later is left alone: what it is told stays with the reader
for the next collection.  So a collection does not count in the history of a counter that it does not
find (`concerning`).
-/

namespace Telemetry

open MeterEvent (added window sinceCollected Whole)

/-! ## Histories -/

/-- What happens to the readers of a meter and to those of its instruments that were there. -/
inductive MeterIncident where
  | joined (reader : ReaderId) (temporality : Temporality)
  | told (increment : Increment)
  /-- A collection ended that had found so many instruments. -/
  | collected (reader : ReaderId) (found : Nat)

/-- What an incident is to an instrument. -/
def MeterIncident.concerning? (c : InstrumentId) : MeterIncident → Option MeterEvent
  | .joined r t => some (.joined r t)
  | .told i => some (.told i)
  | .collected r found => if c < found then some (.collected r) else none

/-- The history of an instrument. -/
def concerning (c : InstrumentId) (xs : List MeterIncident) : List MeterEvent :=
  xs.filterMap (·.concerning? c)

theorem joined_of_concerning {c : InstrumentId} {xs : List MeterIncident} {r : ReaderId}
    {t : Temporality} (h : .joined r t ∈ concerning c xs) : .joined r t ∈ xs := by
  obtain ⟨x, hx, he⟩ := List.mem_filterMap.mp h
  cases x with
  | joined => cases he; exact hx
  | told => cases he
  | collected =>
      obtain ⟨-, he⟩ := Option.ite_none_right_eq_some.mp he
      cases he

namespace Meter

theorem concerning_collected (found : List Instrument) (r : ReaderId) (xs : List MeterIncident) :
    (fun c => concerning c (.collected r found.length :: xs)) =
      collecting found r fun c => concerning c xs := by
  funext c
  unfold collecting
  by_cases hc : c < found.length
  · rw [if_pos hc]
    exact List.filterMap_cons_some (if_pos hc)
  · rw [if_neg hc]
    exact List.filterMap_cons_none (if_neg hc)

/-! ## Lives -/

/-- A meter that has come about, with its history and the collections that are under way, each with its
reader and the instruments that it has found.  Only counters of the meter are told increments. -/
inductive Life (views : List View) :
    List MeterIncident → List (ReaderId × List Instrument) → Meter → Prop where
  | start : Life views [] [] (.ofViews views)
  | register {xs under m} (i : Instrument) : Life views xs under m →
      Life views xs under (m.register i).1
  | registerReader {xs under m} (t : Temporality) (now : Time) : Life views xs under m →
      Life views (.joined m.nextReader t :: xs) under (m.registerReader t now).1
  | dropReader {xs under m} (r : ReaderId) : Life views xs under m →
      Life views xs under (m.dropReader r)
  | add {xs under m} (i : Increment) : Life views xs under m → m.IsCounter i.counter →
      Life views (.told i :: xs) under (m.add i).1
  | begin {xs under m} (r : ReaderId) : Life views xs under m →
      Life views xs ((r, m.instruments) :: under) m
  | finish {xs under m} (r : ReaderId) (found : List Instrument)
      (reported : InstrumentId → List Observation) (now : Time) : Life views xs under m →
      (r, found) ∈ under → Life views (.collected r found.length :: xs) (under.erase (r, found))
        (m.finish r found reported now).1

variable {views : List View} {xs : List MeterIncident} {under : List (ReaderId × List Instrument)}
  {m : Meter} {r : ReaderId} {l : Ledger} {found : List Instrument}

/-- The instruments that a collection has found stay. -/
theorem Life.stays (h : Life views xs under m) : ∀ o ∈ under, o.2 <+: m.instruments := by
  induction h with
  | start => exact fun _ ho => nomatch ho
  | register i _ ih => exact fun o ho => (ih o ho).trans (List.prefix_append _ _)
  | registerReader | dropReader => assumption
  | add i _ _ ih => rwa [instruments_add]
  | begin r _ ih =>
      intro o ho
      rcases List.mem_cons.mp ho with rfl | ho
      · exact List.prefix_rfl
      · exact ih o ho
  | finish r found reported now _ _ ih =>
      rw [instruments_finish]
      exact fun o ho => ih o (List.mem_of_mem_erase ho)

/-- Each step keeps what the ledgers hold, with a history for each instrument. -/
theorem Life.keeps (h : Life views xs under m) : m.Keeps fun c => concerning c xs := by
  induction h with
  | start => exact .start views
  | register i _ ih => exact ih.register i
  | registerReader t now _ ih => exact ih.registerReader t now
  | dropReader r _ ih => exact ih.dropReader r
  | add i _ hc ih => exact ih.add hc
  | begin _ _ ih => exact ih
  | finish r found reported now h ho ih =>
      rw [concerning_collected]
      exact ih.finish (h.stays _ ho) r reported now

theorem Life.addAll {is : List Increment} (h : Life views xs under m)
    (hc : ∀ i ∈ is, m.IsCounter i.counter) :
    Life views (is.reverse.map .told ++ xs) under (m.addAll is).1 := by
  induction is generalizing m xs with
  | nil => exact h
  | cons i is ih =>
      have hc' : ∀ j ∈ is, (m.add i).1.IsCounter j.counter :=
        fun j hj => (hc j (List.mem_cons_of_mem _ hj)).add i
      rw [List.reverse_cons, List.map_append, List.append_assoc]
      exact ih (h.add i (hc i List.mem_cons_self)) hc'

/-- A collection that nobody disturbs begins, has the observable instruments add what they add, and
ends. -/
theorem Life.undisturbed (h : Life views xs under m) (r : ReaderId) (reports : InstrumentId → Report)
    (now : Time) (hc : ∀ i ∈ m.called reports, m.IsCounter i.counter) :
    ∃ m', Life views ((m.called reports).reverse.map .told ++ xs) ((r, m.instruments) :: under) m' ∧
      ((m.collect r reports now).1, (m.collect r reports now).2.1) =
        m'.finish r m.instruments (fun id => (reports id).observations) now :=
  have he := collect_eq_finish r reports now
  ⟨_, (h.begin r).addAll hc, Prod.ext he.1 he.2⟩

theorem Life.collect (h : Life views xs under m) (r : ReaderId) (reports : InstrumentId → Report)
    (now : Time) (hc : ∀ i ∈ m.called reports, m.IsCounter i.counter) :
    Life views (.collected r m.instruments.length :: ((m.called reports).reverse.map .told ++ xs)) under
      (m.collect r reports now).1 := by
  obtain ⟨m', hm, he⟩ := h.undisturbed r reports now hc
  have hend := hm.finish r m.instruments (fun id => (reports id).observations) now List.mem_cons_self
  rwa [List.erase_cons_head, ← he] at hend

/-! ## What a collection reports -/

/-- The points of a collection that ends, with the instruments that they are of. -/
def ended (m : Meter) (r : ReaderId) (found : List Instrument)
    (reported : InstrumentId → List Observation) (now : Time) : List (InstrumentId × Metric) :=
  match (m.note r found reported).ledger? r with
  | some l => l.reported found now
  | none => []

theorem finish_points (r : ReaderId) (found : List Instrument)
    (reported : InstrumentId → List Observation) (now : Time) :
    (m.finish r found reported now).2 = (m.ended r found reported now).map (·.2) := by
  rw [finish_eq, ended]
  cases (m.note r found reported).ledger? r with
  | none => rfl
  | some l => exact Ledger.collect_metrics ..

theorem lt_of_mem_ended {reported : InstrumentId → List Observation} {now : Time}
    {p : InstrumentId × Metric} (h : p ∈ m.ended r found reported now) : p.1 < found.length := by
  unfold ended at h
  split at h
  next l _ =>
    obtain ⟨s, -, hs⟩ := List.mem_filterMap.mp h
    obtain ⟨metric, hm, rfl⟩ := Option.map_eq_some_iff.mp hs
    unfold Ledger.collectStream at hm
    split at hm
    next i hi => exact (List.getElem?_eq_some_iff.mp hi).1
    next => cases hm
  next => cases h

/-- A collection reports of each counter with integer increments that was there when it began, and for
each set of attributes, what the history of the counter says when the collection ends: to a reader of
totals the sum of all increments since it was registered, and to a reader of differences the sum of
those since the last collection that has found the counter.  All that was told until then counts, also
by the instruments that were asked for this collection, and negative increments never do.  Of
instruments that came later nothing is reported.  A collection that nobody disturbs is such a one: it
ends when the instruments that were asked have added what they add. -/
theorem counters_match_reference (h : Life views xs under m) (ho : (r, found) ∈ under)
    (hr : m.ledger? r = some l) (reported : InstrumentId → List Observation) (now : Time) :
    (∀ reports : InstrumentId → Report, (∀ i ∈ m.called reports, m.IsCounter i.counter) →
      ∃ m', Life views ((m.called reports).reverse.map .told ++ xs) ((r, m.instruments) :: under) m' ∧
        ((m.collect r reports now).1, (m.collect r reports now).2.1) =
          m'.finish r m.instruments (fun id => (reports id).observations) now) ∧
    (m.finish r found reported now).2 = (m.ended r found reported now).map (·.2) ∧
    .joined r l.temporality ∈ xs ∧
    (∀ i : Increment, i.value.isNegative = true → (m.add i).1 = m) ∧
    (found <+: m.instruments ∧ ∀ p ∈ m.ended r found reported now, p.1 < found.length) ∧
    ∀ c i, found[c]? = some i → i.aggregator = .increments → Whole c (concerning c xs) → ∀ a,
      Matches ((pointsOf c a (m.ended r found reported now)).map (·.2)) i a l.temporality now
        (added c a (window l.temporality r (concerning c xs))) := by
  have hf := h.stays _ ho
  have halike := Alike.note (m := m) r found reported
  have hr' := halike.temporality r
  rw [hr, Option.map_some, Option.map_eq_some_iff] at hr'
  obtain ⟨l', hl', ht⟩ := hr'
  refine ⟨fun reports hc => h.undisturbed r reports now hc, finish_points r found reported now, ?_,
    fun i hi => add_of_negative hi, ⟨hf, fun p hp => lt_of_mem_ended hp⟩, fun c i hi hinc hw a => ?_⟩
  · exact joined_of_concerning ((h.keeps.follows _ (mem_of_ledger? hr)).joined 0)
  · have hkeeps := h.keeps.note hf r reported
    have hcounter : (m.note r found reported).IsCounter c :=
      ⟨i, by rw [halike.instruments]; exact getElem?_of_found hf hi, hinc⟩
    rw [ended, hl', ← ht]
    exact (hkeeps.follows _ (mem_of_ledger? hl')).matches_due hcounter.not_observable hi hinc hw a now

/-- While a gauge is asked for a reader of differences it adds to one counter, and then it makes another
one and adds to that.  Neither what was collected before nor a negative increment counts, and of the
new counter nothing is reported. -/
theorem counters_match_reference_of_gauge :
    ∃ (m : Meter) (xs : List MeterIncident) (found : List Instrument) (a : Attributes) (start : Time),
      Life [] xs [(0, found)] m ∧ .told ⟨0, .i64 (-3), a, 3⟩ ∈ xs ∧ .told ⟨2, .i64 9, a, 7⟩ ∈ xs ∧
      (pointsOf 0 a (m.ended 0 found (fun _ => []) 8)).map (·.2) =
        [⟨"requests", "", "", a, .sum ⟨.delta, true, start, 8, .i64 8⟩⟩] ∧
      ∀ p ∈ m.ended 0 found (fun _ => []) 8, p.1 ≠ 2 := by
  obtain ⟨a, ha⟩ : ∃ a : Attributes, a = .ofList [("x", .f64 .nan)] := ⟨_, rfl⟩
  obtain ⟨m, found, h, ⟨l, hl, ht⟩, hlen, hreq⟩ : ∃ (m : Meter) (found : List Instrument),
      Life [] [.told ⟨2, .i64 9, a, 7⟩, .told ⟨0, .i64 1, a, 6⟩, .told ⟨0, .i64 7, a, 5⟩,
        .collected 0 2, .told ⟨0, .i64 (-3), a, 3⟩, .told ⟨0, .i64 5, a, 2⟩, .joined 0 .delta]
        [(0, found)] m ∧ (∃ l, m.ledger? 0 = some l ∧ l.temporality = .delta) ∧ found.length = 2 ∧
      found[0]? = some ⟨"requests", "", "", .increments⟩ := by
    have h := ((((((((((@Life.start []).register ⟨"requests", "", "", .increments⟩).register
      ⟨"queue", "", "", .lastValue⟩).registerReader .delta 1).add ⟨0, .i64 5, a, 2⟩ ⟨_, rfl, rfl⟩).add
        ⟨0, .i64 (-3), a, 3⟩ ⟨_, rfl, rfl⟩).collect 0 (fun _ => .nothing) 4
          (fun i hi => nomatch hi)).add ⟨0, .i64 7, a, 5⟩ ⟨_, rfl, rfl⟩).begin 0).add
            ⟨0, .i64 1, a, 6⟩ ⟨_, rfl, rfl⟩).register ⟨"errors", "", "", .increments⟩ |>.add
              ⟨2, .i64 9, a, 7⟩ ⟨_, rfl, rfl⟩
    exact ⟨_, _, h, ⟨_, rfl, rfl⟩, rfl, rfl⟩
  obtain ⟨-, -, -, -, ⟨-, hknown⟩, hmatch⟩ :=
    counters_match_reference h (List.mem_singleton_self _) hl (fun _ => []) 8
  have hwhole : Whole 0 [.told ⟨2, .i64 9, a, 7⟩, .told ⟨0, .i64 1, a, 6⟩, .told ⟨0, .i64 7, a, 5⟩,
      .collected 0, .told ⟨0, .i64 (-3), a, 3⟩, .told ⟨0, .i64 5, a, 2⟩, .joined 0 .delta] := by
    intro i hi _
    simp only [List.mem_cons, List.not_mem_nil, reduceCtorEq, MeterEvent.told.injEq, or_false,
      false_or] at hi
    rcases hi with rfl | rfl | rfl | rfl | rfl <;> exact ⟨_, rfl⟩
  have hdue := (hmatch 0 _ hreq rfl hwhole a).one
  rw [ht] at hdue
  have hns : added 0 a (window .delta 0 (concerning 0 [.told ⟨2, .i64 9, a, 7⟩, .told ⟨0, .i64 1, a, 6⟩,
      .told ⟨0, .i64 7, a, 5⟩, .collected 0 2, .told ⟨0, .i64 (-3), a, 3⟩, .told ⟨0, .i64 5, a, 2⟩,
      .joined 0 .delta])) = [1, 7] := by
    rw [ha]
    decide +kernel
  obtain ⟨start, n, hpoints, -, hn⟩ := hdue fun hnil => nomatch hns.symm.trans hnil
  have hsum : n.toInt = 8 :=
    (hn (Int.le_trans (Int.le_of_eq (congrArg sumOf hns)) (by decide))).trans (congrArg sumOf hns)
  have hn8 : n = 8 := Int64.toInt_inj.mp hsum
  rw [hn8] at hpoints
  refine ⟨m, _, found, a, start, h, by simp, by simp, hpoints, fun p hp => ?_⟩
  exact Nat.ne_of_lt (hlen ▸ hknown p hp)

/-- A counter that is made while a collection is under way is left out of it, whatever it is told, and
the next collection reports that although nothing was told since.  And what a collection reports of a
reader of totals goes to nobody when the worker that asked for it finds it late. -/
theorem late_counter_left_out :
    (∃ (m : Meter) (xs : List MeterIncident) (found : List Instrument) (a : Attributes),
      Life [] xs [(0, found)] m ∧ m.IsCounter 1 ∧
      (m.ledger? 0).map (·.temporality) = some .delta ∧
      added 1 a (sinceCollected 0 (concerning 1 xs)) = [5] ∧
      (m.finish 0 found (fun _ => []) 3).2 = [] ∧
      ((m.finish 0 found (fun _ => []) 3).1.collect 0 (fun _ => .nothing) 4).2.1 =
        [⟨"errors", "", "", a, .sum ⟨.delta, true, 3, 4, .i64 5⟩⟩]) ∧
    ∃ (m : Meter) (xs : List MeterIncident) (a : Attributes)
      (o : Worker.Office PeriodicReader.Account Unit), Life [] xs [] m ∧
      (m.collect 0 (fun _ => .nothing) 3).2.1 =
        [⟨"requests", "", "", a, .sum ⟨.cumulative, true, 2, 3, .i64 5⟩⟩] ∧
      o.Reachable ∧
      .collected 1 2 (.returned (m.collect 0 (fun _ => .nothing) 3).2.1) ∈ o.machine.deeds ∧
      o.machine.handed = [] := by
  constructor
  · have h := (((((@Life.start []).register ⟨"queue", "", "", .lastValue⟩).registerReader .delta 1).begin
      0).register ⟨"errors", "", "", .increments⟩).add ⟨1, .i64 5, .empty, 2⟩ ⟨_, rfl, rfl⟩
    exact ⟨_, _, _, .empty, h, ⟨_, rfl, rfl⟩, rfl, rfl, rfl, rfl⟩
  · have h := (((@Life.start []).register ⟨"requests", "", "", .increments⟩).registerReader
      .cumulative 1).add ⟨0, .i64 5, .empty, 2⟩ ⟨_, rfl, rfl⟩
    let point : Metric := ⟨"requests", "", "", .empty, .sum ⟨.cumulative, true, 2, 3, .i64 5⟩⟩
    obtain ⟨o, hr, hd⟩ : ∃ o : Worker.Office PeriodicReader.Account Unit, o.Reachable ∧
        o.machine.deeds = [.took ⟨3, .flush (), 1⟩, .asked, .collected 1 2 (.returned [point])] :=
      ⟨_, ⟨⟨.start ⟨0, 5⟩ 0, []⟩, ⟨⟨⟨0, 5⟩, 0, rfl⟩, rfl⟩,
        Worker.Office.steps_of_run? [.flush 3, .step 3 0 1, .step 3 0 1,
          .inside (.wake .control 2), .inside (.collect 2 (.returned [point]))] rfl⟩, rfl⟩
    refine ⟨_, _, .empty, o, h, rfl, hr, ?_, ?_⟩
    · rw [hd]
      exact List.mem_cons_of_mem _ (List.mem_cons_of_mem _ (List.mem_singleton_self _))
    · rw [PeriodicReader.Account.handed, hd]
      rfl

end Meter

end Telemetry
