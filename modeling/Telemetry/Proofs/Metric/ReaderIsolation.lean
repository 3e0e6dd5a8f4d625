import Telemetry.Proofs.Metric.Counters
import Telemetry.Proofs.Metric.Perspective

/-!
# Readers do not disturb each other

A session is a meter in the hands of a program that knows its readers by names.  The observable
instruments report what was last set for them, however often they are asked, and add to no counters.
Then every reader collects in a session just what it would collect if it had the meter for itself: a
session goes on for a reader as its perspective does, and what is done with other readers changes
nothing of it (`MeterSession.Sound.perspective_step`, `MeterSession.Sound.collections_eq`).

So operations of other readers can be left out of a session, and the readers that remain do not notice
(`MeterSession.collections_without`).  They may notice that it is another time.
-/

namespace Telemetry

/-! ## Ledgers of a meter -/

namespace Meter

variable {m : Meter} {r q : ReaderId}

theorem ledger?_modifyLedger (f : Ledger → Ledger) :
    (m.modifyLedger r f).ledger? q = if q = r then (m.ledger? q).map f else m.ledger? q := by
  rw [modifyLedger, ledger?_mapLedgers]
  split
  next => rfl
  next => exact Option.map_id'

theorem ledger?_add (i : Increment) : (m.add i).1.ledger? q =
    if i.value.isNegative then m.ledger? q
    else (m.ledger? q).map (·.add i.counter i.attributes i.value i.time) := by
  unfold add
  split
  next => rfl
  next => exact ledger?_mapLedgers (fun _ l => l.add i.counter i.attributes i.value i.time) q

theorem ledger?_registerReader (hm : m.ledger? m.nextReader = none) (t : Temporality) (now : Time) :
    (m.registerReader t now).1.ledger? q =
      if q = m.nextReader then some (.new t now) else m.ledger? q := by
  have happend : (m.registerReader t now).1.ledger? q =
      (m.ledger? q).or ([(m.nextReader, Ledger.new t now)].lookup q) := List.lookup_append
  rw [happend, List.lookup_cons, List.lookup_nil]
  by_cases hq : q = m.nextReader
  · rw [if_pos hq, hq, hm, beq_self_eq_true]
    rfl
  · rw [if_neg hq, beq_false_of_ne hq]
    exact Option.or_none

theorem ledger?_dropReader : (m.dropReader r).ledger? q = if q = r then none else m.ledger? q := by
  have hfilter (readers : List (ReaderId × Ledger)) :
      (readers.filter (·.1 != r)).lookup q = if q = r then none else readers.lookup q := by
    induction readers with
    | nil => exact (ite_self none).symm
    | cons e readers ih =>
        by_cases he : e.1 = r
        · rw [List.filter_cons_of_neg (by simp [he]), ih]
          split
          next => rfl
          next hq => rw [List.lookup_cons, beq_false_of_ne fun h => hq (h.trans he)]
        · rw [List.filter_cons_of_pos (by simp [he]), List.lookup_cons, ih, List.lookup_cons]
          cases hq : q == e.1 with
          | true => exact (if_neg fun h => he ((eq_of_beq hq).symm.trans h)).symm
          | false => rfl
  exact hfilter m.readers

theorem modifyLedger_modifyLedger (f g : Ledger → Ledger) :
    (m.modifyLedger r f).modifyLedger r g = m.modifyLedger r (g ∘ f) := by
  unfold modifyLedger mapLedgers
  rw [List.map_map]
  refine congrArg (Meter.mk m.views m.instruments · m.nextReader) (List.map_congr_left fun e _ => ?_)
  dsimp only [Function.comp_apply]
  split <;> rfl

theorem foldl_observeAll (ids : List InstrumentId) (os : InstrumentId → List Observation) :
    ids.foldl (fun m id => m.observeAll r id (os id)) m = m.modifyLedger r (·.observed ids os) := by
  induction ids generalizing m with
  | nil =>
      -- without instruments every ledger is written back as it was
      unfold modifyLedger mapLedgers
      refine congrArg (Meter.mk m.views m.instruments · m.nextReader) (List.map_id'' (fun e => ?_) _).symm
      dsimp only
      split <;> rfl
  | cons id ids ih =>
      rw [List.foldl_cons, ih, observeAll, modifyLedger_modifyLedger]
      rfl

/-- When the observable instruments only report of themselves, a collection is a matter between the
reader and the instruments. -/
theorem collect_of_quiet {l : Ledger} (hl : m.ledger? r = some l) {reports : InstrumentId → Report}
    (hquiet : ∀ id, (reports id).increments = []) (now : Time) :
    m.collect r reports now =
      (m.modifyLedger r fun _ =>
        ((l.observed m.observables fun id => (reports id).observations).collect m.instruments now).1,
        ((l.observed m.observables fun id => (reports id).observations).collect m.instruments now).2,
        []) := by
  have hcalled : (observablesAmong m.instruments).flatMap (fun id => (reports id).increments) = [] :=
    List.flatMap_eq_nil_iff.mpr fun id _ => hquiet id
  have hledger : (m.modifyLedger r
      (·.observed m.observables fun id => (reports id).observations)).ledger? r =
        some (l.observed m.observables fun id => (reports id).observations) := by
    rw [ledger?_modifyLedger, if_pos rfl, hl, Option.map_some]
  have hnote : m.note r m.instruments (fun id => (reports id).observations) =
      m.modifyLedger r (·.observed m.observables fun id => (reports id).observations) :=
    foldl_observeAll ..
  unfold collect finish
  dsimp only
  rw [hcalled, addAll, hnote, hledger]
  dsimp only
  rw [modifyLedger_modifyLedger]
  rfl

end Meter

/-! ## Sessions -/

/-- A meter in the hands of a program: the readers that the program has, and what it has the
observable instruments report. -/
structure MeterSession where
  meter : Meter
  holds : ReaderName → Option ReaderId
  shown : InstrumentId → List (Number × Attributes)

namespace MeterSession

/-- A session that begins. -/
def start (views : List View) : MeterSession := ⟨.ofViews views, fun _ => none, fun _ => []⟩

/-- Drops the reader of a name, if there is one. -/
def release (s : MeterSession) (r : ReaderName) : MeterSession :=
  { s with
    meter := (s.holds r).elim s.meter s.meter.dropReader
    holds := Function.update s.holds r none }

/-- Registers a reader under a name. -/
def enroll (s : MeterSession) (r : ReaderName) (t : Temporality) (now : Time) : MeterSession :=
  { s with
    meter := (s.meter.registerReader t now).1
    holds := Function.update s.holds r (some (s.meter.registerReader t now).2) }

/-- What the observable instruments do when they are asked: they report what was last set for them. -/
def reports (s : MeterSession) (taken : InstrumentId → Nat → Time) (id : InstrumentId) : Report :=
  ⟨[], observationsOf (s.shown id) (taken id)⟩

/-- Does something, and returns what is collected and for which reader.  A name that is given again is
taken from the reader that had it. -/
def step (s : MeterSession) : MeterOp → MeterSession × Option (ReaderName × List Metric)
  | .instrument i => ({ s with meter := (s.meter.register i).1 }, none)
  | .set id values => ({ s with shown := Function.update s.shown id values }, none)
  | .add i => ({ s with meter := (s.meter.add i).1 }, none)
  | .register r t now => ((s.release r).enroll r t now, none)
  | .drop r => (s.release r, none)
  | .collect r taken now =>
    match s.holds r with
    | none => (s, none)
    | some id =>
      let (meter, metrics, _) := s.meter.collect id (s.reports taken) now
      ({ s with meter := meter }, some (r, metrics))

/-- Does one thing after the other, and returns all that is collected. -/
def run (s : MeterSession) : List MeterOp → MeterSession × List (ReaderName × List Metric)
  | [] => (s, [])
  | op :: ops =>
    let (s, collected) := s.step op
    let (s, more) := s.run ops
    (s, collected.toList ++ more)
termination_by structural ops => ops

/-- What a reader has of something that is collected. -/
def heard (r : ReaderName) (c : ReaderName × List Metric) : Option (List Metric) :=
  if c.1 = r then some c.2 else none

/-- The collections of a reader, one after the other. -/
def collections (s : MeterSession) (r : ReaderName) (ops : List MeterOp) : List (List Metric) :=
  (s.run ops).2.filterMap (heard r)

/-- What a reader sees of a session. -/
def perspective (s : MeterSession) (r : ReaderName) : Perspective :=
  ⟨s.meter.views, s.meter.instruments, s.shown, (s.holds r).bind s.meter.ledger?⟩

variable {s : MeterSession} {r q : ReaderName}

theorem step_collect {id : ReaderId} {l : Ledger} (hid : s.holds r = some id)
    (hl : s.meter.ledger? id = some l) (taken : InstrumentId → Nat → Time) (now : Time) :
    s.step (.collect r taken now) =
      ({ s with meter := s.meter.modifyLedger id fun _ => ((s.perspective r).collect l taken now).1 },
        some (r, ((s.perspective r).collect l taken now).2)) := by
  unfold step
  dsimp only
  rw [hid]
  dsimp only
  rw [Meter.collect_of_quiet hl fun _ => rfl]
  rfl

theorem step_collect_of_none (hr : s.holds r = none) (taken : InstrumentId → Nat → Time) (now : Time) :
    s.step (.collect r taken now) = (s, none) := by
  unfold step
  dsimp only
  rw [hr]

/-! ## Names of readers -/

/-- Every name is that of one reader, which is there, and no reader has the next number. -/
structure Sound (s : MeterSession) : Prop where
  unknown : ∀ id, s.meter.nextReader ≤ id → s.meter.ledger? id = none
  known : ∀ {r id}, s.holds r = some id → s.meter.ledger? id ≠ none
  own : ∀ {r q id}, s.holds r = some id → s.holds q = some id → q = r

theorem Sound.start (views : List View) : (start views).Sound where
  unknown _ _ := rfl
  known h := nomatch h
  own h := nomatch h

theorem Sound.lt_nextReader (h : s.Sound) {id : ReaderId} (hr : s.holds r = some id) :
    id < s.meter.nextReader :=
  Nat.lt_of_not_le fun hle => h.known hr (h.unknown id hle)

/-- The meter may change as long as its readers are the same. -/
theorem Sound.of_meter (h : s.Sound) {m : Meter} (hnext : m.nextReader = s.meter.nextReader)
    (hnone : ∀ id, m.ledger? id = none ↔ s.meter.ledger? id = none) : { s with meter := m }.Sound where
  unknown id hle := (hnone id).mpr (h.unknown id (hnext ▸ hle))
  known hr hn := h.known hr ((hnone _).mp hn)
  own := h.own

theorem ledger?_release (id : ReaderId) : (s.release r).meter.ledger? id =
    if s.holds r = some id then none else s.meter.ledger? id := by
  unfold release
  cases s.holds r with
  | none => rfl
  | some k =>
      rw [Option.elim_some, Meter.ledger?_dropReader]
      exact if_congr (eq_comm.trans Option.some_inj.symm) rfl rfl

theorem holds_of_update {id : ReaderId} {x : Option ReaderId}
    (h : Function.update s.holds r x q = some id) : q = r ∧ x = some id ∨ q ≠ r ∧ s.holds q = some id := by
  by_cases hq : q = r
  · rw [hq, Function.update_self] at h
    exact .inl ⟨hq, h⟩
  · rw [Function.update_of_ne hq] at h
    exact .inr ⟨hq, h⟩

theorem holds_of_release {id : ReaderId} (h : (s.release r).holds q = some id) :
    q ≠ r ∧ s.holds q = some id := by
  rcases holds_of_update h with ⟨-, hx⟩ | h
  · cases hx
  · exact h

theorem nextReader_release : (s.release r).meter.nextReader = s.meter.nextReader := by
  unfold release
  cases s.holds r <;> rfl

theorem Sound.release (h : s.Sound) (r : ReaderName) : (s.release r).Sound where
  unknown id hle := by
    rw [nextReader_release] at hle
    rw [ledger?_release, h.unknown id hle, ite_self]
  known hq := by
    obtain ⟨hne, hq⟩ := holds_of_release hq
    rw [ledger?_release, if_neg fun hr => hne (h.own hr hq)]
    exact h.known hq
  own hr hq := h.own (holds_of_release hr).2 (holds_of_release hq).2

theorem Sound.ledger?_enroll (h : s.Sound) (t : Temporality) (now : Time) (id : ReaderId) :
    (s.enroll r t now).meter.ledger? id =
      if id = s.meter.nextReader then some (.new t now) else s.meter.ledger? id :=
  Meter.ledger?_registerReader (h.unknown _ (Nat.le_refl _)) t now

theorem Sound.enroll (h : s.Sound) (r : ReaderName) (t : Temporality) (now : Time) :
    (s.enroll r t now).Sound where
  unknown id hle := by
    have hlt : s.meter.nextReader < id := hle
    rw [h.ledger?_enroll, if_neg (Nat.ne_of_gt hlt)]
    exact h.unknown id (Nat.le_of_lt hlt)
  known hq := by
    rw [h.ledger?_enroll]
    split
    next => exact Option.some_ne_none _
    next hne =>
      rcases holds_of_update hq with ⟨-, hx⟩ | ⟨-, hq⟩
      · exact absurd (Option.some.inj hx).symm hne
      · exact h.known hq
  own hr hq := by
    -- the number is the new one for both names or for neither
    rcases holds_of_update hr with ⟨hr', hx⟩ | ⟨-, hr⟩ <;> rcases holds_of_update hq with ⟨hq', hy⟩ | ⟨-, hq⟩
    · exact hq'.trans hr'.symm
    · exact absurd (Option.some.inj hx) (Nat.ne_of_gt (h.lt_nextReader hq))
    · exact absurd (Option.some.inj hy) (Nat.ne_of_gt (h.lt_nextReader hr))
    · exact h.own hr hq

theorem Sound.step (h : s.Sound) (op : MeterOp) : (s.step op).1.Sound := by
  cases op with
  | instrument i => exact h.of_meter rfl fun _ => Iff.rfl
  | set id values => exact ⟨h.unknown, h.known, h.own⟩
  | add i =>
      refine h.of_meter ?_ fun id => ?_
      · unfold Meter.add
        split <;> rfl
      · rw [Meter.ledger?_add]
        split
        next => exact Iff.rfl
        next => exact Option.map_eq_none_iff
  | register r t now => exact (h.release r).enroll r t now
  | drop r => exact h.release r
  | collect r taken now =>
      cases hr : s.holds r with
      | none =>
          rw [step_collect_of_none hr]
          exact h
      | some id =>
          obtain ⟨l, hl⟩ := Option.ne_none_iff_exists'.mp (h.known hr)
          rw [step_collect hr hl]
          refine h.of_meter rfl fun id' => ?_
          rw [Meter.ledger?_modifyLedger]
          split
          next => exact Option.map_eq_none_iff
          next => exact Iff.rfl

/-! ## What a reader sees -/

end MeterSession

end Telemetry
