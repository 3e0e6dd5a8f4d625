import Mathlib.Data.List.TakeWhile
import Telemetry.Proofs.Metric.ReaderRuns
import Telemetry.Proofs.Metric.Windows

/-!
# Readers that collect from a meter

A periodic reader may collect from a reader of a meter, which it then owns: nobody else drops it or
collects for it.  Everything else may happen to the meter at any time.  A collection empties the
ledger before the worker looks at the clock.  Points that are late are dropped, and later collections
know nothing of them, so that there are three places where an increment can be: in points that were
handed to the exporter, in points that were dropped, and in the ledger (`Balanced`).  A flush that
returns well has emptied the ledger since it was asked for (`collected_for_flush`), and if nothing was
late and nothing is added meanwhile, then all increments have been handed over (`Accounted`).
-/

namespace Telemetry

open Worker (CallerId Desk Request Order Attends Staffed Office)
open MeterEvent (recent earlier added sinceJoined Whole)
open PeriodicReader (Account Deed)

/-- A collection that returned, when it should have and when it did. -/
structure Gathered where
  deadline : Nat
  finish : Nat
  points : List (InstrumentId × Metric)

def Gathered.isTimely (g : Gathered) : Bool := g.finish < g.deadline

/-- The points of collections that ended before their deadline. -/
def timelyPoints (gs : List Gathered) : List (InstrumentId × Metric) :=
  (gs.filter (·.isTimely)).flatMap (·.points)

/-- The points of collections that ended too late. -/
def latePoints (gs : List Gathered) : List (InstrumentId × Metric) :=
  (gs.filter (!·.isTimely)).flatMap (·.points)

section Gathered

variable (gs : List Gathered) (g : Gathered)

theorem timelyPoints_concat :
    timelyPoints (gs ++ [g]) = timelyPoints gs ++ if g.isTimely then g.points else [] := by
  rw [timelyPoints, List.filter_append, List.flatMap_append]
  cases h : g.isTimely <;> simp [timelyPoints, h]

theorem latePoints_concat :
    latePoints (gs ++ [g]) = latePoints gs ++ if g.isTimely then [] else g.points := by
  rw [latePoints, List.filter_append, List.flatMap_append]
  cases h : g.isTimely <;> simp [latePoints, h]

/-- Points are in time or late. -/
theorem pointSum_timely_add_late (c : InstrumentId) (a : Attributes) :
    pointSum c a (timelyPoints gs) + pointSum c a (latePoints gs) =
      pointSum c a (gs.flatMap (·.points)) := by
  induction gs with
  | nil => rfl
  | cons g gs ih =>
      rw [List.flatMap_cons, pointSum_append, ← ih]
      cases h : g.isTimely <;>
        simp only [timelyPoints, latePoints, h, List.filter_cons, Bool.not_false, Bool.not_true,
          Bool.false_eq_true, ↓reduceIte, List.flatMap_cons, pointSum_append] <;>
        omega

end Gathered

/-- A periodic reader and the meter that it collects from, with what has happened to them. -/
structure MeteredReader where
  account : Account
  meter : Meter
  /-- The reader of the meter that the periodic reader collects for. -/
  handle : ReaderId
  /-- What has happened to the readers of the meter, the newest first. -/
  history : List MeterEvent
  /-- The collections that have returned, oldest first. -/
  gathered : List Gathered

namespace MeteredReader

/-- What can happen: the worker does something else than to end a collection with points, such a
collection ends, or something is done with the meter. -/
inductive Event where
  | worker (e : PeriodicReader.Event)
  | collect (now : Nat) (time : Time) (reports : InstrumentId → Report)
  | move (e : MeterMove)

/-- What is done with the meter. -/
def moved (s : MeteredReader) (e : MeterMove) : MeteredReader :=
  { s with meter := s.meter.moved e, history := s.meter.events e ++ s.history }

/-- The reader after an event, if it is possible, with the request that the worker takes up. -/
def perform? (e : Event) (s : MeteredReader) : Option (MeteredReader × Option (Request Unit)) :=
  match e with
  | .worker e =>
    if e.isReturn then none
    else match Account.perform? e s.account with
      | none => none
      | some (b, x) => some ({ s with account := b }, x)
  | .collect now time reports =>
    let metrics := (s.meter.collect s.handle reports time).2.1
    if s.meter.Allows (.collect s.handle reports time) then
      match s.account.reader.activity, Account.perform? (.collect now (.returned metrics)) s.account with
      | .collecting _ deadline, some (b, x) => some ({ s.moved (.collect s.handle reports time) with
          account := b
          gathered := s.gathered ++ [⟨deadline, now, s.meter.reported s.handle reports time⟩] }, x)
      | _, _ => none
    else none
  | .move e =>
    if s.meter.Allows e ∧ e.reader? ≠ some s.handle then some (s.moved e, none) else none

/-- What can become of a reader in one event. -/
inductive Moves (s : MeteredReader) : MeteredReader → Option (Request Unit) → Prop where
  | worker {e b x} : e.isReturn = false → Account.perform? e s.account = some (b, x) →
      Moves s { s with account := b } x
  | collect {now time reports occasion deadline b x} :
      s.account.reader.activity = .collecting occasion deadline →
      s.meter.Allows (.collect s.handle reports time) →
      Account.perform? (.collect now (.returned (s.meter.collect s.handle reports time).2.1))
        s.account = some (b, x) →
      Moves s { s.moved (.collect s.handle reports time) with
        account := b
        gathered := s.gathered ++ [⟨deadline, now, s.meter.reported s.handle reports time⟩] } x
  | move {e} : s.meter.Allows e → e.reader? ≠ some s.handle → Moves s (s.moved e) none

theorem Moves.of_perform? {e : Event} {s t : MeteredReader} {x : Option (Request Unit)}
    (h : perform? e s = some (t, x)) : Moves s t x := by
  cases e with
  | worker e =>
      simp only [perform?] at h
      split at h
      next => cases h
      next he =>
        split at h
        next => cases h
        next b y hb => cases h; exact .worker (by simpa using he) hb
  | collect now time reports =>
      simp only [perform?] at h
      split at h
      next ha =>
        split at h
        next occasion deadline b y hi hb => cases h; exact .collect hi ha hb
        next => cases h
      next => cases h
  | move e =>
      simp only [perform?] at h
      split at h
      next ha => cases h; exact .move ha.1 ha.2
      next => cases h

/-- A reader that was built of valid settings for a reader of differences for which nobody has
collected yet. -/
structure Opens (s : MeteredReader) : Prop where
  account : s.account.Opens
  run : ∃ views, Meter.Run views s.history s.meter
  delta : (s.meter.ledger? s.handle).map (·.temporality) = some .delta
  untouched : .collected s.handle ∉ s.history
  nothing : s.gathered = []

theorem attends_of_perform? {e : Event} {s t : MeteredReader} {x : Option (Request Unit)}
    (h : perform? e s = some (t, x)) (hs : s.account.reader.Sound) :
    t.account.reader.Sound ∧ Attends (Staffed.desk s.account) (Staffed.status s.account) x
      (Staffed.desk t.account) (Staffed.status t.account) := by
  cases Moves.of_perform? h with
  | worker _ hb =>
      exact ⟨Staffed.sound_perform? (α := Account) _ _ _ _ hb hs, Staffed.attends _ _ _ _ hb hs⟩
  | collect _ _ hb =>
      exact ⟨Staffed.sound_perform? (α := Account) _ _ _ _ hb hs, Staffed.attends _ _ _ _ hb hs⟩
  | move => exact ⟨hs, .elsewhere⟩

/-- What the worker of an account does by itself, it does here. -/
theorem perform?_worker {e : PeriodicReader.Event} {s : MeteredReader} {b : Account}
    {x : Option (Request Unit)} (he : e.isReturn = false)
    (h : Account.perform? e s.account = some (b, x)) :
    perform? (.worker e) s = some ({ s with account := b }, x) := by
  simp only [perform?, he, h, Bool.false_eq_true, ↓reduceIte]

instance : Staffed MeteredReader Unit Event where
  desk s := s.account.reader.desk
  withDesk d s := { s with account := Staffed.withDesk d s.account }
  mark _ := ()
  perform? := perform?
  status s := s.account.reader.activity.status
  Opens := Opens
  Sound s := s.account.reader.Sound
  desk_withDesk _ _ := rfl
  withDesk_desk _ := rfl
  status_withDesk _ _ := rfl
  sound_withDesk _ _ h := ⟨h.held, h.truthful⟩
  desk_of_opens s h := Staffed.desk_of_opens s.account h.account
  status_of_opens s h := Staffed.status_of_opens s.account h.account
  sound_of_opens s h := Staffed.sound_of_opens s.account h.account
  sound_perform? _ _ _ _ h hs := (attends_of_perform? h hs).1
  attends _ _ _ _ h hs := (attends_of_perform? h hs).2
  bow s k h := by
    obtain ⟨result, ha⟩ := ReaderActivity.eq_of_closed h
    exact ⟨.worker (.work 0), _, perform?_worker rfl (Account.perform?_of_reader
      (PeriodicReader.perform?_work (by simp [ha])
        (by simp only [PeriodicReader.advance?, ha]; rfl))), rfl⟩
  leave s h := by
    have ha := ReaderActivity.eq_of_leaving h
    exact ⟨.worker (.work 0), _, perform?_worker rfl (Account.perform?_of_reader
      (PeriodicReader.perform?_work (by simp [ha])
        (by simp only [PeriodicReader.advance?, ha]; rfl))), rfl⟩

/-! ## The account by itself -/

/-- The office without the meter. -/
def unmetered (o : Office MeteredReader Unit) : Office Account Unit :=
  ⟨o.machine.account, o.callers, o.handled⟩

theorem unmetered_come? (o : Office MeteredReader Unit) (k : CallerId) (order : Order Unit) :
    (unmetered o).come? k order = (o.come? k order).map unmetered := by
  unfold Office.come?
  cases h : o.callers k <;> simp [unmetered, h]

theorem unmetered_step (o : Office MeteredReader Unit) (k : CallerId) (timeout now : Nat) :
    (unmetered o).perform? (.step k timeout now) =
      (o.perform? (.step k timeout now)).map unmetered := by
  have hc : (unmetered o).callers k = o.callers k := rfl
  have hd : Staffed.desk (unmetered o).machine = Staffed.desk o.machine := rfl
  simp only [Office.perform?, hc, hd]
  cases o.callers k with
  | none => rfl
  | some c =>
      dsimp only
      cases c.phase.step? (Staffed.desk o.machine) k timeout now <;> rfl

theorem unmetered_giveUp (o : Office MeteredReader Unit) (k : CallerId) :
    (unmetered o).perform? (.giveUp k) = (o.perform? (.giveUp k)).map unmetered := by
  have hc : (unmetered o).callers k = o.callers k := rfl
  simp only [Office.perform?, hc]
  cases o.callers k with
  | none => rfl
  | some c =>
      dsimp only
      cases c.phase.giveUp? <;> rfl

theorem unmetered_inside {o : Office MeteredReader Unit} {e : PeriodicReader.Event} {b : Account}
    {x : Option (Request Unit)} (h : Account.perform? e o.machine.account = some (b, x)) :
    (unmetered o).Steps ⟨b, o.callers, o.handled ++ x.toList⟩ := by
  have hb : Staffed.perform? e (unmetered o).machine = some (b, x) := h
  refine .single ⟨.inside e, ?_⟩
  simp only [Office.perform?, hb]
  rfl

/-- The worker and its callers know nothing of the meter. -/
theorem unmetered_steps {o o' : Office MeteredReader Unit} (h : o.Step o') :
    (unmetered o).Steps (unmetered o') := by
  obtain ⟨e, he⟩ := h
  cases e with
  | inside e =>
      simp only [Office.perform?] at he
      split at he
      next => cases he
      next t x ht =>
        cases he
        cases Moves.of_perform? ht with
        | worker _ hb | collect _ _ hb => exact unmetered_inside hb
        | move =>
            simp only [unmetered, Option.toList_none, List.append_nil]
            exact .refl
  | flush k => exact .single ⟨.flush k, (unmetered_come? o k _).trans (congrArg _ he)⟩
  | shutdown k => exact .single ⟨.shutdown k, (unmetered_come? o k _).trans (congrArg _ he)⟩
  | step k timeout now =>
      exact .single ⟨.step k timeout now, (unmetered_step o k timeout now).trans (congrArg _ he)⟩
  | giveUp k => exact .single ⟨.giveUp k, (unmetered_giveUp o k).trans (congrArg _ he)⟩

theorem unmetered_reachable {o : Office MeteredReader Unit} (h : o.Reachable) :
    (unmetered o).Reachable := by
  obtain ⟨s, hs, hsteps⟩ := h
  refine ⟨s.account, hs.account, ?_⟩
  induction hsteps with
  | refl => exact .refl
  | tail _ step ih => exact ih.trans (unmetered_steps step)

/-! ## Where an increment can be -/

/-- What holds of a reader and its meter. -/
structure Balanced (s : MeteredReader) : Prop where
  run : ∃ views, Meter.Run views s.history s.meter
  delta : (s.meter.ledger? s.handle).map (·.temporality) = some .delta
  /-- All points together are what was added before the last collection. -/
  gathered : ∀ c, ¬ Meter.IsObservable s.meter.instruments c → Whole c s.history → ∀ a,
    Totals (pointSum c a (s.gathered.flatMap (·.points))) (earlier c a s.handle s.history)
  timely : s.account.timely.flatten = (timelyPoints s.gathered).map (·.2)
  late : s.account.late.flatten = (latePoints s.gathered).map (·.2)

theorem Opens.balanced {s : MeteredReader} (h : s.Opens) : s.Balanced where
  run := h.run
  delta := h.delta
  gathered c _ _ a := by
    have hnone : (sinceJoined s.handle s.history).dropWhile (!·.collects s.handle) = [] := by
      refine List.dropWhile_eq_nil_iff.2 fun e he => ?_
      cases hc : e.collects s.handle with
      | false => rfl
      | true =>
          cases e with
          | collected r =>
              obtain rfl := eq_of_beq hc
              exact absurd ((List.takeWhile_sublist _).subset he) h.untouched
          | joined | told => cases hc
    rw [h.nothing, earlier, hnone]
    exact .nil
  timely := by rw [h.nothing, Account.timely, h.account.2]; rfl
  late := by rw [h.nothing, Account.late, h.account.2]; rfl

section Balanced

variable {s : MeteredReader} {e : MeterMove}

theorem Balanced.sound (h : s.Balanced) : s.meter.Sound s.history := by
  obtain ⟨views, hr⟩ := h.run
  exact hr.sound

theorem Balanced.ledger (h : s.Balanced) :
    ∃ l, s.meter.ledger? s.handle = some l ∧ l.temporality = .delta :=
  Option.map_eq_some_iff.1 h.delta

theorem Balanced.moved (h : s.Balanced) (ha : s.meter.Allows e) (hr : e.reader? ≠ some s.handle) :
    (s.moved e).Balanced where
  run := by
    obtain ⟨views, hrun⟩ := h.run
    exact ⟨views, hrun.moved ha⟩
  delta := by
    obtain ⟨l, hl, ht⟩ := h.ledger
    rw [← ht]
    exact Meter.temporality_moved h.sound (fun heq => hr (heq ▸ rfl)) hl
  gathered c hc hw a := by
    obtain ⟨l, hl, -⟩ := h.ledger
    have hold := h.gathered c (Meter.not_observable_of_moved hc) hw.of_append a
    rwa [← (Meter.spares_events h.sound hl hr).earlier] at hold
  timely := h.timely
  late := h.late

/-- Points go with what was recent before the collection. -/
theorem Balanced.totals_reported (h : s.Balanced) {reports : InstrumentId → Report} {time : Time}
    (ha : s.meter.Allows (.collect s.handle reports time)) {c : InstrumentId}
    (hc : ¬ Meter.IsObservable s.meter.instruments c)
    (hw : Whole c ((s.meter.called reports).reverse.map .told ++ s.history)) (a : Attributes) :
    Totals (pointSum c a (s.meter.reported s.handle reports time))
      (recent c a s.handle ((s.meter.called reports).reverse.map .told ++ s.history)) := by
  have hsound : (s.meter.asked s.handle reports).Sound _ := Meter.Keeps.asked h.sound s.handle ha
  have halike := Meter.Alike.asked (m := s.meter) s.handle reports
  have hdelta := (halike.temporality s.handle).trans h.delta
  obtain ⟨l, hl, ht⟩ := Option.map_eq_some_iff.1 hdelta
  rw [Meter.reported, hl]
  rw [← halike.instruments] at hc
  exact hsound.totals_reported (hsound.follows _ (Meter.mem_of_ledger? hl)) ht hc hw time

theorem Balanced.collected (h : s.Balanced) {reports : InstrumentId → Report} {time : Time}
    {occasion : Occasion} {deadline now : Nat} {b : Account} {x : Option (Request Unit)}
    (hi : s.account.reader.activity = .collecting occasion deadline)
    (ha : s.meter.Allows (.collect s.handle reports time))
    (hb : Account.perform? (.collect now (.returned (s.meter.collect s.handle reports time).2.1))
      s.account = some (b, x)) :
    Balanced { s.moved (.collect s.handle reports time) with
      account := b
      gathered := s.gathered ++ [⟨deadline, now, s.meter.reported s.handle reports time⟩] } where
  run := by
    obtain ⟨views, hrun⟩ := h.run
    exact ⟨views, hrun.moved ha⟩
  delta := (Meter.temporality_collect s.handle reports time).trans h.delta
  gathered c hc hw a := by
    have hc' := Meter.not_observable_of_moved hc
    have hw' : Whole c ((s.meter.called reports).reverse.map .told ++ s.history) := hw.tail
    have hold := h.gathered c hc' hw'.of_append a
    have hnew := h.totals_reported ha hc' hw' a
    change Totals (pointSum c a (List.flatMap Gathered.points (s.gathered ++ [_])))
      (earlier c a s.handle
        (.collected s.handle :: ((s.meter.called reports).reverse.map .told ++ s.history)))
    rw [MeterEvent.earlier_collected, (MeterEvent.spares_told _).earlier, List.flatMap_append,
      pointSum_append, Int.add_comm, List.flatMap_singleton]
    exact hnew.append hold sumOf_added_nonneg sumOf_added_nonneg
  timely := by
    change _ = (timelyPoints (s.gathered ++ [_])).map _
    rw [(Account.timely_of_returned hi hb).1, h.timely, (Meter.collect_eq s.handle reports time).2,
      timelyPoints_concat, List.map_append]
    by_cases hl : now < deadline <;> simp [Gathered.isTimely, hl]
  late := by
    change _ = (latePoints (s.gathered ++ [_])).map _
    rw [(Account.timely_of_returned hi hb).2, h.late, (Meter.collect_eq s.handle reports time).2,
      latePoints_concat, List.map_append]
    by_cases hl : now < deadline <;> simp [Gathered.isTimely, hl]

theorem Balanced.moves {t : MeteredReader} {x : Option (Request Unit)} (h : s.Balanced)
    (hm : Moves s t x) : t.Balanced := by
  cases hm with
  | worker he hb =>
      obtain ⟨ht, hl⟩ := Account.timely_of_quiet he hb
      exact ⟨h.run, h.delta, h.gathered, by rw [ht]; exact h.timely, by rw [hl]; exact h.late⟩
  | collect hi ha hb => exact h.collected hi ha hb
  | move ha hr => exact h.moved ha hr

end Balanced

theorem balanced_of_reachable {o : Office MeteredReader Unit} (h : o.Reachable) :
    o.machine.Balanced := by
  obtain ⟨s, hs, hsteps⟩ := h
  exact (hsteps.keeps (fun _ _ _ _ hp _ hb => hb.moves (.of_perform? hp))
    (fun _ _ hb => ⟨hb.run, hb.delta, hb.gathered, hb.timely, hb.late⟩)
    (Staffed.sound_of_opens s hs) hs.balanced).1

/-- What was collected in time, what was dropped, and what is still in the ledger. -/
theorem Balanced.totals {s : MeteredReader} (h : s.Balanced) {c : InstrumentId}
    (hc : s.meter.IsCounter c) (hw : Whole c s.history) (a : Attributes) :
    Totals (pointSum c a (timelyPoints s.gathered) + pointSum c a (latePoints s.gathered) +
      sumOf (recent c a s.handle s.history)) (added c a (sinceJoined s.handle s.history)) := by
  have hold := h.gathered c hc.not_observable hw a
  rw [pointSum_timely_add_late, Int.add_comm, ← MeterEvent.recent_append_earlier]
  exact (Totals.sumOf _).append hold sumOf_added_nonneg sumOf_added_nonneg

/-! ## Flushes -/

/-- How a reader goes on: what happens to its meter, and what its worker does. -/
structure Grows (s t : MeteredReader) (newer : List MeterEvent) (ds : List Deed) : Prop where
  handle : t.handle = s.handle
  history : t.history = newer ++ s.history
  deeds : t.account.deeds = s.account.deeds ++ ds
  stays : ∀ e ∈ newer, e.joins s.handle = false
  collects : (∃ d ∈ ds, d.isReturn = true) → .collected s.handle ∈ newer

theorem Grows.refl (s : MeteredReader) : Grows s s [] [] :=
  ⟨rfl, rfl, (List.append_nil _).symm, fun e he => (by cases he), fun ⟨d, hd, _⟩ => (by cases hd)⟩

theorem Grows.trans {s t u : MeteredReader} {newer newer' : List MeterEvent} {ds ds' : List Deed}
    (h : Grows s t newer ds) (h' : Grows t u newer' ds') : Grows s u (newer' ++ newer) (ds ++ ds') where
  handle := h'.handle.trans h.handle
  history := by rw [h'.history, h.history, List.append_assoc]
  deeds := by rw [h'.deeds, h.deeds, List.append_assoc]
  stays e he := by
    rcases List.mem_append.1 he with he | he
    · exact h.handle ▸ h'.stays e he
    · exact h.stays e he
  collects := by
    rintro ⟨d, hd, hr⟩
    rcases List.mem_append.1 hd with hd | hd
    · exact List.mem_append_right _ (h.collects ⟨d, hd, hr⟩)
    · exact List.mem_append_left _ (h.handle ▸ h'.collects ⟨d, hd, hr⟩)

theorem Moves.grows {s t : MeteredReader} {x : Option (Request Unit)} (h : s.Balanced)
    (hm : Moves s t x) : ∃ newer ds, Grows s t newer ds := by
  cases hm with
  | @worker e b x he hb =>
      have hd := (Account.perform?_eq_some hb).2
      refine ⟨[], _, rfl, rfl, hd, fun e he => (by cases he), fun ⟨d, hm, hr⟩ => ?_⟩
      rw [PeriodicReader.isReturn_deeds he d hm] at hr
      cases hr
  | @collect now time reports _ _ b _ _ _ hb =>
      have hd := (Account.perform?_eq_some hb).2
      refine ⟨_, _, rfl, rfl, hd, fun e he => ?_, fun _ => List.mem_cons_self⟩
      rcases List.mem_cons.1 he with rfl | he
      · rfl
      · exact (MeterEvent.spares_told _ e he).1
  | @move e _ hr =>
      obtain ⟨l, hl, -⟩ := h.ledger
      exact ⟨_, [], rfl, rfl, (List.append_nil _).symm,
        fun e he => (Meter.spares_events h.sound hl hr e he).1, fun ⟨d, hm, _⟩ => (by cases hm)⟩

theorem grows_of_steps {o o' : Office MeteredReader Unit} (h : o.Reachable) (hs : o.Steps o') :
    ∃ newer ds, Grows o.machine o'.machine newer ds := by
  induction hs with
  | refl => exact ⟨_, _, .refl _⟩
  | @tail p q hs step ih =>
      obtain ⟨newer, ds, hg⟩ := ih
      have hb := balanced_of_reachable (h.steps hs)
      cases step.moves with
      | inside hp =>
          obtain ⟨newer', ds', hg'⟩ := (Moves.of_perform? hp).grows hb
          exact ⟨_, _, hg.trans hg'⟩
      | come | call => exact ⟨newer, ds, ⟨hg.handle, hg.history, hg.deeds, hg.stays, hg.collects⟩⟩

/-- What is recent after a collection was added after what was there before it. -/
theorem Grows.recent {s t : MeteredReader} {newer : List MeterEvent} {ds : List Deed}
    (h : Grows s t newer ds) (hc : .collected s.handle ∈ newer) (c : InstrumentId) (a : Attributes) :
    recent c a t.handle t.history <+: added c a newer := by
  have hshort : (newer.takeWhile (!·.collects s.handle)).length ≠ newer.length := by
    intro hl
    have hall := List.takeWhile_eq_self_iff.1
      ((List.takeWhile_prefix _).eq_of_length hl) _ hc
    simp [MeterEvent.collects] at hall
  rw [MeterEvent.recent, MeterEvent.sinceCollected, h.handle, h.history,
    MeterEvent.sinceJoined_append h.stays, List.takeWhile_append, if_neg hshort]
  exact (List.takeWhile_prefix _).filterMap _

/-- What is not in the first part of a list begins in the second. -/
theorem suffix_of_append_eq {α : Type} {xs ys as bs : List α} {x : α}
    (h : xs ++ ys = as ++ x :: bs) (hx : x ∉ xs) : x :: bs <:+ ys := by
  rcases List.append_eq_append_iff.1 h with ⟨es, -, hys⟩ | ⟨es, hxs, hys⟩
  · exact ⟨es, hys.symm⟩
  · cases es with
    | nil => exact ⟨[], hys⟩
    | cons y es =>
        obtain ⟨rfl, -⟩ := List.cons.inj hys
        exact absurd (hxs ▸ List.mem_append_right _ List.mem_cons_self) hx

/-- Nothing has been done for who asks for the first time. -/
theorem not_took_of_flush {o o' : Office MeteredReader Unit} {k : CallerId} (h : o.Reachable)
    (hf : o.perform? (.flush k) = some o') (order : Order Unit) (deadline : Nat) :
    .took ⟨k, order, deadline⟩ ∉ o.machine.account.deeds := by
  intro hm
  have ht : o.handled = o.machine.account.requests :=
    (PeriodicReader.recorded_of_reachable (unmetered_reachable h)).taken
  have hreq : (⟨k, order, deadline⟩ : Request Unit) ∈ o.handled := by
    rw [ht]
    exact List.mem_filterMap.2 ⟨_, hm, rfl⟩
  have hnew : o.callers k = none := (Office.come?_eq_some hf).1
  obtain ⟨c, hc, -⟩ := h.lawful.filed.sent _ (List.mem_append_left _ hreq)
  cases hnew.symm.trans hc

/-- A flush that goes well collects after it was asked for. -/
theorem collected_for_flush {o o₁ o₂ : Office MeteredReader Unit} {k : CallerId} (h : o.Reachable)
    (hf : o.perform? (.flush k) = some o₁) (hs : o₁.Steps o₂) {newer : List MeterEvent}
    {ds : List Deed} (hg : Grows o.machine o₂.machine newer ds)
    (hans : .answered k (.ok ()) ∈ o₂.machine.account.deeds) : .collected o.machine.handle ∈ newer := by
  have h₂ : o₂.Reachable := h.steps (.head ⟨_, hf⟩ hs)
  obtain ⟨rounds, part, hk⟩ := PeriodicReader.kept_of_reachable (unmetered_reachable h₂)
  have hd₂ : o₂.machine.account.deeds = rounds.flatMap PeriodicReader.Round.deeds ++ part := hk.deeds
  have hdone : .answered k (.ok ()) ∈ rounds.flatMap PeriodicReader.Round.deeds := by
    rw [hd₂] at hans
    refine (List.mem_append.1 hans).resolve_right fun hm => ?_
    have hmem : k ∈ part.filterMap PeriodicReader.Deed.answered? :=
      List.mem_filterMap.2 ⟨_, hm, rfl⟩
    rw [hk.underway.unanswered] at hmem
    cases hmem
  obtain ⟨round, hr, hm⟩ := List.mem_flatMap.1 hdone
  obtain ⟨before, after, rfl⟩ := List.append_of_mem hr
  obtain ⟨order, deadline, now, metrics, rest, hround⟩ := round.of_answered_ok hm
  rw [hg.deeds, List.flatMap_append, List.flatMap_cons, hround, List.append_assoc] at hd₂
  have hsuf := suffix_of_append_eq hd₂ (not_took_of_flush h hf order deadline)
  exact hg.collects ⟨.collected deadline now (.returned metrics), hsuf.subset (by simp), rfl⟩

/-! ## A hasty flush -/

/-- A reader of a meter with one counter, which was told 5. -/
def ofFive : MeteredReader where
  account := ⟨.start ⟨10, 5⟩ 0, []⟩
  meter := ((((Meter.ofViews []).register ⟨"requests", "", "", .increments⟩).1.registerReader
    .delta 1).1.add ⟨0, .i64 5, .empty, 2⟩).1
  handle := 0
  history := [.told ⟨0, .i64 5, .empty, 2⟩, .joined 0 .delta]
  gathered := []

theorem ofFive_opens : ofFive.Opens where
  account := ⟨⟨⟨10, 5⟩, 0, rfl⟩, rfl⟩
  run := ⟨[], .add _ (.registerReader .delta 1 (.register _ .start)) ⟨_, rfl, rfl⟩⟩
  delta := rfl
  untouched := by simp [ofFive]
  nothing := rfl

/-- A caller without any time asks for a flush, which the worker gets to too late. -/
def hastyFlush (k : CallerId) (now : Nat) : List (Office.Event Event) :=
  [.flush k, .step k 0 now, .step k 0 now, .inside (.worker (.wake .control now)),
    .inside (.collect now 3 fun _ => .nothing), .inside (.worker (.work now)),
    .inside (.worker (.conclude (.returned (.ok ())))), .inside (.worker (.work now))]

/-! ## All of it -/

/-- What becomes of the increments of a reader's meter. -/
structure Accounted (o : Office MeteredReader Unit) : Prop where
  /-- The points that were collected in time are those that were handed to the exporter. -/
  handed : o.machine.account.handed.flatten = (timelyPoints o.machine.gathered).map (·.2)
  /-- The points that were collected too late are those that were dropped. -/
  dropped : o.machine.account.late.flatten = (latePoints o.machine.gathered).map (·.2)
  /-- Increments are in points that were handed over, in points that were dropped, or they wait for
  the next collection. -/
  totals : ∀ c, o.machine.meter.IsCounter c → Whole c o.machine.history → ∀ a,
    Totals (pointSum c a (timelyPoints o.machine.gathered) +
        pointSum c a (latePoints o.machine.gathered) +
        sumOf (recent c a o.machine.handle o.machine.history))
      (added c a (sinceJoined o.machine.handle o.machine.history))
  /-- When a flush has returned well, only what came after it was asked for can wait. -/
  flushed : ∀ k o₁ o₂, o.perform? (.flush k) = some o₁ → o₁.Steps o₂ →
    o₂.callers k = some ⟨.flush (), .done (.ok ())⟩ →
    ∃ newer, o₂.machine.history = newer ++ o.machine.history ∧
      ∀ c a, recent c a o₂.machine.handle o₂.machine.history <+: added c a newer
  /-- If nothing has been added since then, all increments are in points, and all of these were
  handed over unless some that were there came too late. -/
  settled : ∀ k o₁ o₂, o.perform? (.flush k) = some o₁ → o₁.Steps o₂ →
    o₂.callers k = some ⟨.flush (), .done (.ok ())⟩ →
    ∀ c, o₂.machine.meter.IsCounter c → Whole c o₂.machine.history → ∀ a,
      added c a o₂.machine.history = added c a o.machine.history →
      Totals (pointSum c a (timelyPoints o₂.machine.gathered) +
          pointSum c a (latePoints o₂.machine.gathered))
        (added c a (sinceJoined o₂.machine.handle o₂.machine.history)) ∧
      (o₂.machine.account.late = [] →
        Totals (pointSum c a (timelyPoints o₂.machine.gathered))
          (added c a (sinceJoined o₂.machine.handle o₂.machine.history)))

theorem flushed_of_reachable {o o₁ o₂ : Office MeteredReader Unit} {k : CallerId} (h : o.Reachable)
    (hf : o.perform? (.flush k) = some o₁) (hs : o₁.Steps o₂)
    (hk : o₂.callers k = some ⟨.flush (), .done (.ok ())⟩) :
    ∃ newer, o₂.machine.history = newer ++ o.machine.history ∧
      ∀ c a, recent c a o₂.machine.handle o₂.machine.history <+: added c a newer := by
  have hsteps : o.Steps o₂ := .head ⟨_, hf⟩ hs
  have hans : .answered k (.ok ()) ∈ o₂.machine.account.deeds :=
    (PeriodicReader.heard_of_reachable (unmetered_reachable (h.steps hsteps))).flushed hk
  obtain ⟨newer, ds, hg⟩ := grows_of_steps h hsteps
  exact ⟨newer, hg.history, hg.recent (collected_for_flush h hf hs hg hans)⟩

theorem Balanced.latePoints_eq_nil {s : MeteredReader} (h : s.Balanced) (hl : s.account.late = []) :
    latePoints s.gathered = [] := by
  have hlate := h.late
  rw [hl] at hlate
  exact List.map_eq_nil_iff.1 hlate.symm

theorem only_late_points_lost {o : Office MeteredReader Unit} (h : o.Reachable) : Accounted o where
  handed := by
    have hh : o.machine.account.handed = o.machine.account.timely :=
      PeriodicReader.handed_of_reachable (unmetered_reachable h)
    rw [hh, (balanced_of_reachable h).timely]
  dropped := (balanced_of_reachable h).late
  totals _ hc hw a := (balanced_of_reachable h).totals hc hw a
  flushed _ _ _ hf hs hk := flushed_of_reachable h hf hs hk
  settled k o₁ o₂ hf hs hk c hc hw a hadd := by
    have hb := balanced_of_reachable (h.steps (.head ⟨_, hf⟩ hs))
    obtain ⟨newer, hnew, hrecent⟩ := flushed_of_reachable h hf hs hk
    have hnone : added c a newer = [] := by
      rw [hnew, added, List.filterMap_append] at hadd
      exact List.append_left_eq_self.1 hadd
    have hempty : recent c a o₂.machine.handle o₂.machine.history = [] :=
      List.prefix_nil.1 (hnone ▸ hrecent c a)
    have htotal := hb.totals hc hw a
    rw [hempty, sumOf, Int.add_zero] at htotal
    refine ⟨htotal, fun hl => ?_⟩
    rwa [hb.latePoints_eq_nil hl, pointSum_nil, Int.add_zero] at htotal

/-- After a flush that was late the counter is told 3, which the next flush brings. -/
theorem only_late_points_lost_of_hasty : ∃ o o₁ o₂ : Office MeteredReader Unit, Accounted o ∧
    o.perform? (.flush 2) = some o₁ ∧ o₁.Steps o₂ ∧
    o.callers 1 = some ⟨.flush (), .done (.error .timeout)⟩ ∧
    o₂.callers 2 = some ⟨.flush (), .done (.ok ())⟩ ∧
    pointSum 0 .empty (timelyPoints o₂.machine.gathered) = 3 ∧
    pointSum 0 .empty (latePoints o₂.machine.gathered) = 5 := by
  have ho : Office.Reachable (α := MeteredReader) _ := ⟨ofFive, ofFive_opens,
    Office.steps_of_run? (hastyFlush 1 0 ++ [.inside (.move (.add ⟨0, .i64 3, .empty, 4⟩))]) rfl⟩
  exact ⟨_, _, _, only_late_points_lost ho, rfl, Office.steps_of_run? [.step 2 4 1, .step 2 4 1,
    .inside (.worker (.wake .control 2)), .inside (.collect 2 5 fun _ => .nothing),
    .inside (.worker (.conclude (.returned (.ok ())))), .inside (.worker (.work 2)),
    .inside (.worker (.conclude (.returned (.ok ())))), .inside (.worker (.work 2)), .step 2 4 3] rfl,
    rfl, rfl, rfl, rfl⟩

/-- A flush that is late drops what it collects, and a flush in time does not bring it back, whatever
the exporter accepts. -/
theorem late_points_lost : ∃ o : Office MeteredReader Unit, o.Reachable ∧
    o.callers 1 = some ⟨.flush (), .done (.error .timeout)⟩ ∧
    o.callers 2 = some ⟨.flush (), .done (.ok ())⟩ ∧
    (∀ call outcome, .ended call outcome ∈ o.machine.account.deeds → outcome = .returned (.ok ())) ∧
    added 0 .empty (sinceJoined o.machine.handle o.machine.history) = [5] ∧
    o.machine.account.handed = [] ∧ pointSum 0 .empty (timelyPoints o.machine.gathered) = 0 := by
  let m : Metric := ⟨"requests", "", "", .empty, .sum ⟨.delta, true, 2, 3, .i64 5⟩⟩
  have ho : Office.Reachable (α := MeteredReader) _ := ⟨ofFive, ofFive_opens,
    Office.steps_of_run? (hastyFlush 1 0 ++ [.flush 2, .step 2 4 1, .step 2 4 1,
      .inside (.worker (.wake .control 2)), .inside (.collect 2 4 fun _ => .nothing),
      .inside (.worker (.work 2)), .inside (.worker (.conclude (.returned (.ok ())))),
      .inside (.worker (.work 2)), .step 2 4 3]) rfl⟩
  refine ⟨_, ho, rfl, rfl, fun call outcome h => ?_, rfl, rfl, rfl⟩
  have hdeeds : .ended call outcome ∈ [.took ⟨1, .flush (), 0⟩, .asked,
      .collected 0 0 (.returned [m]), .began .flush, .ended .flush (.returned (.ok ())),
      .answered 1 (.error .timeout), .took ⟨2, .flush (), 5⟩, .asked, .collected 5 2 (.returned []),
      .began .flush, .ended .flush (.returned (.ok ())), Deed.answered 2 (.ok ())] := h
  simp only [List.mem_cons, reduceCtorEq, Deed.ended.injEq, List.not_mem_nil, or_false, false_or,
    or_self] at hdeeds
  exact hdeeds.2

end MeteredReader

end Telemetry
