import Mathlib.Data.Int.ModEq
import Telemetry.Proofs.Metric.ReaderIsolation
import Telemetry.Proofs.Metric.Counters

/-!
# What points add up to

Whoever adds the points of all collections for a reader of differences gets what was added to a counter
before the last of them.  `Totals` says how the result of such an addition goes with increments: it is
their sum as long as that fits, and the same up to wrapping around in any case.

The second part is about what can be done with a meter while one of its readers belongs to somebody
(`MeterMove`).  Only collections for this reader empty its ledger, and none of these moves is one.
-/

namespace Telemetry

open MeterEvent (recent earlier added sinceJoined Whole)

/-! ## Sums of points -/

/-- The integer that is reported. -/
def Metric.amount (m : Metric) : Int :=
  match m.point.value with
  | .i64 n => n.toInt
  | .f64 _ => 0

/-- The sum of the points of one counter and one set of attributes. -/
def pointSum (c : InstrumentId) (a : Attributes) (points : List (InstrumentId × Metric)) : Int :=
  ((Meter.pointsOf c a points).map (·.2.amount)).sum

section Sums

variable {c : InstrumentId} {a : Attributes} {ns ms : List Int64} {x y : Int}

@[simp] theorem pointSum_nil : pointSum c a [] = 0 := rfl

theorem pointSum_append (ps qs : List (InstrumentId × Metric)) :
    pointSum c a (ps ++ qs) = pointSum c a ps + pointSum c a qs := by
  rw [pointSum, Meter.pointsOf, List.filter_append, List.map_append, List.sum_append]
  rfl

/-- An integer is the sum of some increments if that fits, and up to wrapping around in any case. -/
structure Totals (x : Int) (ns : List Int64) : Prop where
  wraps : x ≡ sumOf ns [ZMOD Int64.size]
  exact : sumOf ns ≤ Int64.maxValue.toInt → x = sumOf ns

theorem Totals.nil : Totals 0 [] := ⟨rfl, fun _ => rfl⟩

theorem Totals.sumOf (ns : List Int64) : Totals (Telemetry.sumOf ns) ns := ⟨rfl, fun _ => rfl⟩

theorem Totals.append (hx : Totals x ns) (hy : Totals y ms) (hns : 0 ≤ Telemetry.sumOf ns)
    (hms : 0 ≤ Telemetry.sumOf ms) : Totals (x + y) (ns ++ ms) where
  wraps := by
    rw [sumOf_append]
    exact hx.wraps.add hy.wraps
  exact hle := by
    rw [sumOf_append] at hle ⊢
    rw [hx.exact (by omega), hy.exact (by omega)]

theorem sumOf_added_nonneg {es : List MeterEvent} : 0 ≤ Telemetry.sumOf (added c a es) :=
  sumOf_nonneg fun _ hn => MeterEvent.nonneg_of_mem_added hn

end Sums

namespace Meter

variable {m : Meter} {es : List MeterEvent} {r : ReaderId} {l : Ledger} {c : InstrumentId}
  {a : Attributes}

theorem Matches.totals {points : List (InstrumentId × Metric)} {i : Instrument} {t : Temporality}
    {now : Time} {ns : List Int64} (h : Matches ((pointsOf c a points).map (·.2)) i a t now ns) :
    Totals (pointSum c a points) ns := by
  have hsum : pointSum c a points = (((pointsOf c a points).map (·.2)).map Metric.amount).sum := by
    rw [pointSum, List.map_map]
    rfl
  cases hn : ns with
  | nil =>
      rw [hsum, h.none hn]
      exact .nil
  | cons n rest =>
      obtain ⟨start, k, hp, hk, hexact⟩ := h.one (by rw [hn]; exact List.cons_ne_nil _ _)
      have hone : pointSum c a points = k.toInt := by
        rw [hsum, hp]
        exact Int.add_zero _
      rw [hone, ← hn]
      refine ⟨?_, hexact⟩
      rw [hk]
      exact Int.bmod_emod

/-- What is reported for a reader of differences goes with what was added since its last collection. -/
theorem Sound.totals_reported (h : m.Sound es) (hf : Follows m.instruments (fun _ => es) r l)
    (ht : l.temporality = .delta) (hc : ¬ IsObservable m.instruments c) (hw : Whole c es) (now : Time) :
    Totals (pointSum c a (l.reported m.instruments now)) (recent c a r es) := by
  cases hi : m.instruments[c]? with
  | some i =>
      have hm := (hf.matches_due hc hi (increments_of_found List.prefix_rfl hi hc) hw a now).totals
      rw [ht] at hm
      exact hm
  | none =>
      -- nobody can have added to an instrument that is not there
      have untold : ∀ i, .told i ∈ es → i.counter ≠ c := by
        rintro i hm rfl
        obtain ⟨j, hj, -⟩ := h.told 0 i hm
        rw [hi] at hj
        cases hj
      obtain ⟨hrec, hear⟩ := MeterEvent.recent_earlier_of_untold (a := a) (r := r) untold
      have hold := hf.holds c hc hw a
      have hstream : l.stream? c a = none := by
        cases hs : l.stream? c a with
        | none => rfl
        | some s =>
            rw [hs, hrec, hear] at hold
            exact absurd rfl hold.append_ne_nil
      rw [hrec, pointSum, pointsOf, Ledger.filter_reported hf.distinct, hstream]
      exact .nil

end Meter

/-! ## Moves -/

/-- What is done with a meter. -/
inductive MeterMove where
  | register (i : Instrument)
  | registerReader (t : Temporality) (now : Time)
  | dropReader (r : ReaderId)
  | add (i : Increment)
  | collect (r : ReaderId) (reports : InstrumentId → Report) (now : Time)

/-- The reader that is dropped or collected. -/
def MeterMove.reader? : MeterMove → Option ReaderId
  | .dropReader r | .collect r _ _ => some r
  | .register _ | .registerReader _ _ | .add _ => none

namespace Meter

variable {m : Meter} {es : List MeterEvent} {r : ReaderId} {l : Ledger} {c : InstrumentId}
  {a : Attributes} {e : MeterMove}

/-- Only counters are told increments. -/
def Allows (m : Meter) : MeterMove → Prop
  | .add i => m.IsCounter i.counter
  | .collect _ reports _ => ∀ i ∈ m.called reports, m.IsCounter i.counter
  | .register _ | .registerReader _ _ | .dropReader _ => True

instance (m : Meter) (c : InstrumentId) : Decidable (m.IsCounter c) :=
  decidable_of_iff ((m.instruments[c]?).any (·.aggregator = .increments) = true) (by
    simp [IsCounter, Option.any_eq_true])

instance (m : Meter) (e : MeterMove) : Decidable (m.Allows e) :=
  match e with
  | .add i => inferInstanceAs (Decidable (m.IsCounter i.counter))
  | .collect _ reports _ =>
    inferInstanceAs (Decidable (∀ i ∈ m.called reports, m.IsCounter i.counter))
  | .register _ | .registerReader _ _ | .dropReader _ => inferInstanceAs (Decidable True)

/-- The meter after a move. -/
def moved (m : Meter) : MeterMove → Meter
  | .register i => (m.register i).1
  | .registerReader t now => (m.registerReader t now).1
  | .dropReader r => m.dropReader r
  | .add i => (m.add i).1
  | .collect r reports now => (m.collect r reports now).1

/-- What a move adds to the history of a meter, the newest first. -/
def events (m : Meter) : MeterMove → List MeterEvent
  | .register _ | .dropReader _ => []
  | .registerReader t _ => [.joined m.nextReader t]
  | .add i => [.told i]
  | .collect r reports _ => .collected r :: (m.called reports).reverse.map .told

theorem Run.moved {views : List View} (h : Run views es m) (ha : m.Allows e) :
    Run views (m.events e ++ es) (m.moved e) := by
  cases e with
  | register i => exact .register i h
  | registerReader t now => exact .registerReader t now h
  | dropReader r => exact .dropReader r h
  | add i => exact .add i h ha
  | collect r reports now => exact .collect r reports now h ha

theorem instruments_moved (e : MeterMove) : m.instruments <+: (m.moved e).instruments := by
  cases e with
  | register i => exact List.prefix_append _ _
  | registerReader | dropReader => exact List.prefix_rfl
  | add i =>
      have hsame : (m.moved (.add i)).instruments = m.instruments := instruments_add i
      exact hsame ▸ List.prefix_rfl
  | collect r reports now =>
      have halike := (Alike.asked (m := m) r reports).instruments
      rw [moved, (collect_eq r reports now).1, ← halike]
      split <;> exact List.prefix_rfl

/-- An instrument that is not observable has not been so before. -/
theorem not_observable_of_moved (hc : ¬ IsObservable (m.moved e).instruments c) :
    ¬ IsObservable m.instruments c :=
  fun ⟨i, hi, ho⟩ => hc ⟨i, getElem?_of_found (instruments_moved e) hi, ho⟩

theorem lt_nextReader (h : m.Sound es) (hl : m.ledger? r = some l) : r < m.nextReader :=
  h.fresh _ (mem_of_ledger? hl)

theorem temporality_collect (r' : ReaderId) (reports : InstrumentId → Report) (now : Time) :
    ((m.collect r' reports now).1.ledger? r).map (·.temporality) =
      (m.ledger? r).map (·.temporality) := by
  rw [← (Alike.asked (m := m) r' reports).temporality r, (collect_eq r' reports now).1]
  split
  next => rfl
  next l hl =>
    rw [ledger?_modifyLedger]
    split
    next hr => rw [hr, hl]; rfl
    next => rfl

/-- A reader stays with its temporality until it is dropped. -/
theorem temporality_moved (h : m.Sound es) (hr : e ≠ .dropReader r)
    (hl : m.ledger? r = some l) :
    ((m.moved e).ledger? r).map (·.temporality) = some l.temporality := by
  have hsome : (m.ledger? r).map (·.temporality) = some l.temporality := by rw [hl]; rfl
  cases e with
  | register i => exact hsome
  | registerReader t now =>
      have hnew : m.ledger? m.nextReader = none := by
        cases hn : m.ledger? m.nextReader with
        | none => rfl
        | some l' => exact absurd (lt_nextReader h hn) (Nat.lt_irrefl _)
      rw [moved, ledger?_registerReader hnew, if_neg (Nat.ne_of_lt (lt_nextReader h hl))]
      exact hsome
  | dropReader r' =>
      have hne : r ≠ r' := fun heq => hr (heq ▸ rfl)
      rw [moved, ledger?_dropReader, if_neg hne]
      exact hsome
  | add i => exact ((Alike.add i).temporality r).trans hsome
  | collect r' reports now => exact (temporality_collect r' reports now).trans hsome

end Meter

/-! ## Histories that go on -/

namespace MeterEvent

variable {c : InstrumentId} {a : Attributes} {r : ReaderId} {es fs : List MeterEvent}

/-- Nobody registers a reader or collects for it. -/
def Spares (r : ReaderId) (fs : List MeterEvent) : Prop :=
  ∀ e ∈ fs, e.joins r = false ∧ e.collects r = false

theorem sinceJoined_append (h : ∀ e ∈ fs, e.joins r = false) :
    sinceJoined r (fs ++ es) = fs ++ sinceJoined r es :=
  List.takeWhile_append_of_pos fun e he => by rw [h e he]; rfl

theorem Spares.earlier (h : Spares r fs) : earlier c a r (fs ++ es) = earlier c a r es := by
  induction fs with
  | nil => rfl
  | cons e fs ih =>
      obtain ⟨hj, hc⟩ := h e List.mem_cons_self
      rw [List.cons_append, earlier_cons hj hc, ih fun f hf => h f (List.mem_cons_of_mem _ hf)]

theorem Whole.of_append (h : Whole c (fs ++ es)) : Whole c es :=
  fun i hi => h i (List.mem_append_right _ hi)

theorem spares_told (is : List Increment) : Spares r (is.map .told) := by
  intro e he
  obtain ⟨i, -, rfl⟩ := List.mem_map.mp he
  exact ⟨rfl, rfl⟩

end MeterEvent

namespace Meter

variable {m : Meter} {es : List MeterEvent} {r : ReaderId} {l : Ledger} {e : MeterMove}

theorem spares_events (h : m.Sound es) (hl : m.ledger? r = some l) (hr : e.reader? ≠ some r) :
    MeterEvent.Spares r (m.events e) := by
  intro f hf
  cases e with
  | register | dropReader => cases hf
  | registerReader t now =>
      rw [List.mem_singleton.mp hf]
      exact ⟨beq_false_of_ne (Nat.ne_of_gt (lt_nextReader h hl)), rfl⟩
  | add i =>
      rw [List.mem_singleton.mp hf]
      exact ⟨rfl, rfl⟩
  | collect r' reports now =>
      rcases List.mem_cons.mp hf with rfl | hf
      · exact ⟨rfl, beq_false_of_ne fun heq => hr (congrArg some heq)⟩
      · exact MeterEvent.spares_told _ f hf

end Meter

end Telemetry
