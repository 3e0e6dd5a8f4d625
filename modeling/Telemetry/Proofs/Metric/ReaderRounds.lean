import Telemetry.Proofs.Metric.ReaderDeeds

/-!
# Rounds of a reader

A worker turns to one thing at a time, and what it does for a tick, a flush or a shutdown is a
*round*.  Each begins with a collection.  Its result is the first failure among its deeds, and does
not keep the worker from the deeds that are still to come.  `Kept` tells which rounds a worker has
behind it and how far it is with the one that is under way.
-/

namespace Telemetry

open Worker (CallerId Desk Request Order Staffed Office Front)

/-! ## Activities -/

/-- The result so far, which is good as long as there is none. -/
def ReaderActivity.soFar (x : ReaderActivity) : PipelineResult := x.result?.getD (.ok ())

/-- A bound for the steps that a worker does until it sleeps or is gone. -/
def ReaderActivity.remaining : ReaderActivity → Nat
  | .idle | .gone => 0
  | .leaving => 1
  | .answering _ _ _ => 2
  | .flushingExporter _ _ | .stopping _ _ => 3
  | .closingExporter _ _ _ => 4
  | .exported _ _ _ => 5
  | .exporting _ _ _ => 6
  | .collecting _ _ => 7

namespace PeriodicReader

variable {r q : PeriodicReader} {x : Option (Request Unit)} {ds es part : List Deed}
  {timeout deadline : Nat}

/-! ## The first failure -/

/-- The result of some deeds: the first failure among them, if any. -/
def firstFailure (ds : List Deed) : PipelineResult :=
  match ds.findSome? Deed.failure? with
  | none => .ok ()
  | some e => .error e

theorem firstFailure_append (ds es : List Deed) :
    firstFailure (ds ++ es) = (firstFailure ds).and (firstFailure es) := by
  unfold firstFailure
  rw [List.findSome?_append]
  cases ds.findSome? Deed.failure? <;> rfl

theorem firstFailure_cons (d : Deed) (ds : List Deed) :
    firstFailure (d :: ds) = (firstFailure [d]).and (firstFailure ds) :=
  firstFailure_append [d] ds

theorem firstFailure_ended (call : ExporterCall Metric) (o : Outcome ExportResult) :
    firstFailure [.ended call o] = (o.result call.name).lift := by
  unfold firstFailure
  cases h : o.result call.name <;> simp [Deed.failure?, ExportResult.lift, h]

theorem firstFailure_late {metrics : List Metric} {now : Nat} (hm : metrics ≠ [])
    (hl : deadline ≤ now) :
    firstFailure [.collected deadline now (.returned metrics)] = .error .timeout := by
  simp [firstFailure, Deed.failure?, hm, hl]

theorem firstFailure_timely {metrics : List Metric} {now : Nat} (hl : now < deadline) :
    firstFailure [.collected deadline now (.returned metrics)] = .ok () := by
  simp [firstFailure, Deed.failure?, Nat.not_le.2 hl]

theorem firstFailure_eq_ok_iff : firstFailure ds = .ok () ↔ ∀ d ∈ ds, d.failure? = none := by
  rw [← List.findSome?_eq_none_iff]
  unfold firstFailure
  cases ds.findSome? Deed.failure? <;> simp

/-! ## Rounds -/

/-- A collection that should end before a deadline, and what came of it. -/
inductive Gathering (deadline : Nat) where
  | panicked (now : Nat)
  | nothing (now : Nat)
  | late (now : Nat) (metrics : List Metric) : metrics ≠ [] → deadline ≤ now → Gathering deadline
  /-- The metrics were handed to the exporter, and that call has ended. -/
  | handed (now : Nat) (metrics : List Metric) (o : Outcome ExportResult) :
      metrics ≠ [] → now < deadline → Gathering deadline

def Gathering.deeds : Gathering deadline → List Deed
  | .panicked now => [.asked, .collected deadline now .panicked]
  | .nothing now => [.asked, .collected deadline now (.returned [])]
  | .late now metrics _ _ => [.asked, .collected deadline now (.returned metrics)]
  | .handed now metrics o _ _ => [.asked, .collected deadline now (.returned metrics),
      .began (.deliver metrics), .ended (.deliver metrics) o]

/-- The deeds for a request until its answer is due: a collection and one more exporter call. -/
def served (x : Request Unit) (g : Gathering x.deadline) (call : ExporterCall Metric)
    (o : Outcome ExportResult) : List Deed :=
  .took x :: (g.deeds ++ [.began call, .ended call o])

/-- What a worker with a timeout for its own collections turns to, and does about it. -/
inductive Round (timeout : Nat) where
  | tick (now : Nat) (g : Gathering (now + timeout))
  | flush (k : CallerId) (deadline : Nat) (g : Gathering deadline) (o : Outcome ExportResult)
  | shutdown (k : CallerId) (deadline : Nat) (g : Gathering deadline) (now : Nat)
      (o : Outcome ExportResult)

namespace Round

def isShutdown : Round timeout → Bool
  | .shutdown _ _ _ _ _ => true
  | _ => false

/-- The deeds of a round.  A request is answered with the first failure of what was done for it. -/
def deeds : Round timeout → List Deed
  | .tick now g => .ticked now :: g.deeds
  | .flush k deadline g o =>
    let work := served ⟨k, .flush (), deadline⟩ g .flush o
    work ++ [.answered k (firstFailure work)]
  | .shutdown k deadline g now o =>
    let work := served ⟨k, .shutdown, deadline⟩ g (.shutdown (deadline - now)) o
    work ++ [.answered k (firstFailure work)]

end Round

theorem Gathering.not_answered (g : Gathering deadline) (k : CallerId) (result : PipelineResult) :
    .answered k result ∉ g.deeds := by
  cases g <;> simp [deeds]

theorem mem_served_append {x : Request Unit} {g : Gathering x.deadline}
    {call : ExporterCall Metric} {o : Outcome ExportResult} {j k : CallerId}
    {result s : PipelineResult} (h : .answered j result ∈ served x g call o ++ [.answered k s]) :
    j = k ∧ result = s := by
  simp only [served, List.cons_append, List.append_assoc, List.mem_cons, List.mem_append] at h
  simpa [g.not_answered] using h

/-- A request is answered well if nothing failed in its round. -/
theorem Round.answer_eq_ok_iff (round : Round timeout) {k : CallerId} {result : PipelineResult}
    (h : .answered k result ∈ round.deeds) :
    result = .ok () ↔ ∀ d ∈ round.deeds, d.failure? = none := by
  cases round with
  | tick now g => simp [deeds, g.not_answered] at h
  | flush j deadline g o | shutdown j deadline g now o =>
      rw [(mem_served_append h).2, firstFailure_eq_ok_iff]
      simp [deeds, Deed.failure?, or_imp, forall_and]

/-- A collection goes well only if it returns. -/
theorem Gathering.of_firstFailure_served {x : Request Unit} {g : Gathering x.deadline}
    {call : ExporterCall Metric} {o : Outcome ExportResult}
    (h : firstFailure (served x g call o) = .ok ()) :
    ∃ now metrics rest, g.deeds = .asked :: .collected x.deadline now (.returned metrics) :: rest := by
  cases g with
  | panicked now =>
      have hbad := firstFailure_eq_ok_iff.1 h (.collected x.deadline now .panicked)
        (by simp [served, deeds])
      cases hbad
  | nothing now => exact ⟨now, [], [], rfl⟩
  | late now metrics | handed now metrics => exact ⟨now, metrics, _, rfl⟩

/-- A round that goes well for a caller begins with its request and a collection that returns. -/
theorem Round.of_answered_ok (round : Round timeout) {k : CallerId}
    (h : .answered k (.ok ()) ∈ round.deeds) : ∃ order deadline now metrics rest,
      round.deeds = .took ⟨k, order, deadline⟩ :: .asked ::
        .collected deadline now (.returned metrics) :: rest := by
  cases round with
  | tick now g => simp [deeds, g.not_answered] at h
  | flush j deadline g o | shutdown j deadline g now o =>
      obtain ⟨rfl, hr⟩ := mem_served_append h
      obtain ⟨now, metrics, rest, hg⟩ := Gathering.of_firstFailure_served hr.symm
      simp only [deeds, served, hg, List.cons_append]
      exact ⟨_, _, now, metrics, _, rfl⟩

/-! ## The round under way -/

/-- The deed with which a collection for an occasion begins, and the deadline that it sets. -/
def Begins (timeout : Nat) (occasion : Occasion) (deadline : Nat) (d : Deed) : Prop :=
  match occasion with
  | .tick => ∃ now, d = .ticked now ∧ deadline = now + timeout
  | .flush k => d = .took ⟨k, .flush (), deadline⟩
  | .shutdown k => d = .took ⟨k, .shutdown, deadline⟩

/-- The deeds of the round under way. -/
def Underway (timeout : Nat) (x : ReaderActivity) (part : List Deed) : Prop :=
  match x with
  | .idle | .leaving | .gone => part = []
  | .collecting occasion deadline =>
    ∃ d, Begins timeout occasion deadline d ∧ part = [d, .asked]
  | .exporting metrics occasion deadline =>
    ∃ d now, Begins timeout occasion deadline d ∧ metrics ≠ [] ∧ now < deadline ∧
      part = [d, .asked, .collected deadline now (.returned metrics), .began (.deliver metrics)]
  | .exported _ occasion deadline =>
    ∃ d, ∃ g : Gathering deadline, Begins timeout occasion deadline d ∧ part = d :: g.deeds
  | .flushingExporter k _ =>
    ∃ deadline, ∃ g : Gathering deadline,
      part = .took ⟨k, .flush (), deadline⟩ :: (g.deeds ++ [.began .flush])
  | .answering k _ false =>
    ∃ deadline, ∃ g : Gathering deadline, ∃ o, part = served ⟨k, .flush (), deadline⟩ g .flush o
  | .closingExporter k t _ =>
    ∃ deadline, ∃ g : Gathering deadline, ∃ now, t = deadline - now ∧
      part = .took ⟨k, .shutdown, deadline⟩ :: (g.deeds ++ [.began (.shutdown t)])
  | .stopping k _ | .answering k _ true =>
    ∃ deadline, ∃ g : Gathering deadline, ∃ now o,
      part = served ⟨k, .shutdown, deadline⟩ g (.shutdown (deadline - now)) o

/-- A shutdown is behind the worker when it leaves, and not before. -/
def Ended (x : ReaderActivity) (rounds : List (Round timeout)) : Prop :=
  match x with
  | .leaving | .gone =>
    ∃ before last, rounds = before ++ [last] ∧ (∀ r ∈ before, r.isShutdown = false) ∧
      last.isShutdown = true
  | _ => ∀ r ∈ rounds, r.isShutdown = false

/-- The rounds behind a worker, and the deeds of the one under way. -/
structure Kept (a : Account) (rounds : List (Round a.reader.config.exportTimeout))
    (part : List Deed) : Prop where
  deeds : a.deeds = rounds.flatMap Round.deeds ++ part
  underway : Underway a.reader.config.exportTimeout a.reader.activity part
  result : a.reader.activity.soFar = firstFailure part
  ended : Ended a.reader.activity rounds

theorem begins_serving (x : Request Unit) :
    Begins timeout (.serving x) x.deadline (.took x) := by
  obtain ⟨k, order, deadline⟩ := x
  cases order <;> rfl

/-- A round begins well. -/
theorem firstFailure_of_begins {occasion : Occasion} {first : Deed}
    (h : Begins timeout occasion deadline first) : firstFailure [first, .asked] = .ok () := by
  cases occasion with
  | tick =>
      obtain ⟨now, rfl, -⟩ := h
      rfl
  | flush | shutdown =>
      obtain rfl := h
      rfl

section Kept

variable {a : Account} {rounds : List (Round a.reader.config.exportTimeout)} {d : Desk Unit}
  {y z : ReaderActivity} {occasion : Occasion} {metrics : List Metric} {result : PipelineResult}
  {k : CallerId} {now : Nat}

/-- What is kept of a worker whose activity is known. -/
theorem Kept.at (h : Kept a rounds part) (hi : a.reader.activity = y) :
    Underway a.reader.config.exportTimeout y part ∧ y.soFar = firstFailure part ∧ Ended y rounds :=
  hi ▸ ⟨h.underway, h.result, h.ended⟩

/-- The round under way goes on. -/
theorem Kept.goes (h : Kept a rounds part) (hi : a.reader.activity = y)
    (hu : Underway a.reader.config.exportTimeout z (part ++ ds))
    (hr : z.soFar = y.soFar.and (firstFailure ds)) (he : Ended z rounds) :
    Kept ⟨{ a.reader with desk := d, activity := z }, a.deeds ++ ds⟩ rounds (part ++ ds) where
  deeds := by
    change a.deeds ++ ds = _
    rw [h.deeds, List.append_assoc]
  underway := hu
  result := by rw [firstFailure_append, ← (h.at hi).2.1]; exact hr
  ended := he

/-- The round under way ends. -/
theorem Kept.completes {next : Nat} (h : Kept a rounds part)
    (round : Round a.reader.config.exportTimeout) (hp : part ++ ds = round.deeds)
    (hy : y = if round.isShutdown then .leaving else .idle)
    (ho : ∀ r ∈ rounds, r.isShutdown = false) :
    Kept ⟨{ a.reader with desk := d, activity := y, nextCollection := next }, a.deeds ++ ds⟩
      (rounds ++ [round]) [] where
  deeds := by
    change a.deeds ++ ds = _
    rw [h.deeds, List.append_assoc, hp]
    simp
  underway := by
    change Underway _ y []
    rw [hy]
    split <;> rfl
  result := by
    change y.soFar = _
    rw [hy]
    split <;> rfl
  ended := by
    change Ended y _
    rw [hy]
    split
    next hs => exact ⟨rounds, round, rfl, ho, hs⟩
    next hs =>
      intro r hr
      rcases List.mem_append.1 hr with hr | hr
      · exact ho r hr
      · rw [List.mem_singleton.1 hr]
        exact Bool.not_eq_true _ ▸ hs

theorem Kept.begins (h : Kept a rounds part) (hi : a.reader.activity = .idle) {first : Deed}
    (hb : Begins a.reader.config.exportTimeout occasion deadline first) :
    ∃ part, Kept ⟨{ a.reader with desk := d, activity := .collecting occasion deadline },
      a.deeds ++ [first, .asked]⟩ rounds part := by
  obtain ⟨rfl, -, he⟩ := h.at hi
  exact ⟨_, h.goes hi ⟨first, hb, rfl⟩ (firstFailure_of_begins hb).symm he⟩

/-- A collection ends, and there is nothing to export. -/
theorem Kept.gathers (h : Kept a rounds part) (hi : a.reader.activity = .collecting occasion deadline)
    (g : Gathering deadline) (hg : g.deeds = .asked :: ds) (hr : result = firstFailure ds) :
    ∃ part, Kept ⟨{ a.reader with activity := .exported result occasion deadline },
      a.deeds ++ ds⟩ rounds part := by
  obtain ⟨⟨first, hb, rfl⟩, -, he⟩ := h.at hi
  refine ⟨_, h.goes hi ⟨first, g, hb, ?_⟩ hr he⟩
  rw [hg]
  rfl

theorem Kept.hands (h : Kept a rounds part) (hi : a.reader.activity = .collecting occasion deadline)
    (hm : metrics ≠ []) (hl : now < deadline) :
    ∃ part, Kept ⟨{ a.reader with activity := .exporting metrics occasion deadline }, a.deeds ++
      [.collected deadline now (.returned metrics), .began (.deliver metrics)]⟩ rounds part := by
  obtain ⟨⟨first, hb, rfl⟩, -, he⟩ := h.at hi
  refine ⟨_, h.goes hi ⟨first, now, hb, hm, hl, rfl⟩ ?_ he⟩
  rw [firstFailure_cons, firstFailure_timely hl]
  rfl

theorem Kept.exported (h : Kept a rounds part)
    (hi : a.reader.activity = .exporting metrics occasion deadline) (o : Outcome ExportResult) :
    ∃ part, Kept ⟨{ a.reader with
        activity := .exported (o.result "export").lift occasion deadline },
      a.deeds ++ [.ended (.deliver metrics) o]⟩ rounds part := by
  obtain ⟨⟨first, now, hb, hm, hl, rfl⟩, -, he⟩ := h.at hi
  refine ⟨_, h.goes hi ⟨first, .handed now metrics o hm hl, hb, rfl⟩ ?_ he⟩
  rw [firstFailure_ended]
  rfl

theorem Kept.rests {next : Nat} (h : Kept a rounds part)
    (hi : a.reader.activity = .exported result .tick deadline) :
    ∃ round, Kept ⟨{ a.reader with activity := .idle, nextCollection := next }, a.deeds ++ []⟩
      (rounds ++ [round]) [] := by
  obtain ⟨⟨first, g, ⟨now, rfl, rfl⟩, rfl⟩, -, he⟩ := h.at hi
  exact ⟨_, h.completes (.tick now g) (List.append_nil _) rfl he⟩

/-- Calling the exporter once more does not change the result of the collection. -/
theorem Kept.calls (h : Kept a rounds part)
    (hi : a.reader.activity = .exported result occasion deadline) {call : ExporterCall Metric}
    (hz : z.soFar = result) (he : Ended z rounds)
    (hu : ∀ first, ∀ g : Gathering deadline,
      Begins a.reader.config.exportTimeout occasion deadline first →
      Underway a.reader.config.exportTimeout z (first :: (g.deeds ++ [.began call]))) :
    ∃ part, Kept ⟨{ a.reader with activity := z }, a.deeds ++ [.began call]⟩ rounds part := by
  obtain ⟨⟨first, g, hb, rfl⟩, -, -⟩ := h.at hi
  refine ⟨_, h.goes hi (hu first g hb) ?_ he⟩
  rw [hz]
  exact (PipelineResult.and_ok result).symm

theorem Kept.exporterFlushed (h : Kept a rounds part)
    (hi : a.reader.activity = .flushingExporter k result) (o : Outcome ExportResult) :
    ∃ part, Kept ⟨{ a.reader with
        activity := .answering k (result.and (o.result "flush").lift) false },
      a.deeds ++ [.ended .flush o]⟩ rounds part := by
  obtain ⟨⟨deadline, g, rfl⟩, -, he⟩ := h.at hi
  refine ⟨_, h.goes hi ⟨deadline, g, o, by simp [served]⟩ ?_ he⟩
  rw [firstFailure_ended]
  rfl

theorem Kept.exporterClosed {t : Nat} (h : Kept a rounds part)
    (hi : a.reader.activity = .closingExporter k t result) (o : Outcome ExportResult) :
    ∃ part, Kept ⟨{ a.reader with
        activity := .stopping k (result.and (o.result "shutdown").lift) },
      a.deeds ++ [.ended (.shutdown t) o]⟩ rounds part := by
  obtain ⟨⟨deadline, g, now, rfl, rfl⟩, -, he⟩ := h.at hi
  refine ⟨_, h.goes hi ⟨deadline, g, now, o, by simp [served]⟩ ?_ he⟩
  rw [firstFailure_ended]
  rfl

theorem Kept.stops (h : Kept a rounds part) (hi : a.reader.activity = .stopping k result) :
    ∃ part, Kept ⟨{ a.reader with desk := d, activity := .answering k result true },
      a.deeds ++ []⟩ rounds part := by
  obtain ⟨hu, -, he⟩ := h.at hi
  refine ⟨_, h.goes hi ?_ (PipelineResult.and_ok result).symm he⟩
  rw [List.append_nil]
  exact hu

/-- The answer ends the round of a flush: it is the first failure of the round. -/
theorem Kept.answers (h : Kept a rounds part) (hi : a.reader.activity = .answering k result false) :
    ∃ round, Kept ⟨{ a.reader with desk := d, activity := .idle },
      a.deeds ++ [.answered k result]⟩ (rounds ++ [round]) [] := by
  obtain ⟨⟨deadline, g, o, rfl⟩, hr, he⟩ := h.at hi
  obtain rfl : result = firstFailure _ := hr
  exact ⟨_, h.completes (.flush k deadline g o) rfl rfl he⟩

theorem Kept.bows (h : Kept a rounds part) (hi : a.reader.activity = .answering k result true) :
    ∃ round, Kept ⟨{ a.reader with desk := d, activity := .leaving },
      a.deeds ++ [.answered k result]⟩ (rounds ++ [round]) [] := by
  obtain ⟨⟨deadline, g, now, o, rfl⟩, hr, he⟩ := h.at hi
  obtain rfl : result = firstFailure _ := hr
  exact ⟨_, h.completes (.shutdown k deadline g now o) rfl rfl he⟩

theorem Kept.leaves (h : Kept a rounds part) (hi : a.reader.activity = .leaving) :
    ∃ part, Kept ⟨{ a.reader with desk := d, activity := .gone }, a.deeds ++ []⟩ rounds part := by
  obtain ⟨rfl, -, he⟩ := h.at hi
  exact ⟨_, h.goes hi rfl rfl he⟩

/-- What one step keeps. -/
theorem Kept.acts (h : Kept a rounds part) (hw : Acts a.reader x ds q) :
    ∃ (rounds : List (Round q.config.exportTimeout)) (part : List Deed),
      Kept ⟨q, a.deeds ++ ds⟩ rounds part := by
  cases hw with
  | @take x _ hi => exact ⟨_, h.begins hi (begins_serving x)⟩
  | tick hi => exact ⟨_, h.begins hi ⟨_, rfl, rfl⟩⟩
  | @panic _ _ now hi => exact ⟨_, h.gathers hi (.panicked now) rfl rfl⟩
  | @nothing _ _ now hi => exact ⟨_, h.gathers hi (.nothing now) rfl rfl⟩
  | @overrun metrics _ _ now hi hm hl =>
      exact ⟨_, h.gathers hi (.late now metrics hm hl) rfl (firstFailure_late hm hl).symm⟩
  | hand hi hm hl => exact ⟨_, h.hands hi hm hl⟩
  | @exported _ _ _ o hi => exact ⟨_, h.exported hi o⟩
  | rest hi =>
      obtain ⟨round, hk⟩ := h.rests hi
      exact ⟨_, _, hk⟩
  | @flush _ _ deadline hi =>
      refine ⟨_, h.calls hi rfl (h.at hi).2.2 ?_⟩
      rintro _ g rfl
      exact ⟨deadline, g, rfl⟩
  | @flushed _ _ o hi => exact ⟨_, h.exporterFlushed hi o⟩
  | @close _ _ deadline now hi =>
      refine ⟨_, h.calls hi rfl (h.at hi).2.2 ?_⟩
      rintro _ g rfl
      exact ⟨deadline, g, now, rfl, rfl⟩
  | @closed _ _ _ o hi => exact ⟨_, h.exporterClosed hi o⟩
  | stop hi => exact ⟨_, h.stops hi⟩
  | answer hi =>
      obtain ⟨round, hk⟩ := h.answers hi
      exact ⟨_, _, hk⟩
  | bow hi =>
      obtain ⟨round, hk⟩ := h.bows hi
      exact ⟨_, _, hk⟩
  | leave hi => exact ⟨_, h.leaves hi⟩

end Kept

theorem kept_of_reachable {o : Office Account Unit} (h : o.Reachable) :
    ∃ rounds part, Kept o.machine rounds part := by
  refine account_of_reachable (P := fun a => ∃ rounds part, Kept a rounds part) ?_ ?_ ?_ h
  · intro config now
    exact ⟨[], [], rfl, rfl, rfl, fun r hr => by cases hr⟩
  · rintro a x ds q ⟨rounds, part, hk⟩ hw
    exact hk.acts hw
  · rintro a d ⟨rounds, part, hk⟩
    exact ⟨rounds, part, hk.deeds, hk.underway, hk.result, hk.ended⟩

/-! ## What the rounds tell -/

theorem begins_prefix {occasion : Occasion} {d : Deed} (g : Gathering deadline)
    (h : Begins timeout occasion deadline d) :
    ∃ round : Round timeout, d :: g.deeds <+: round.deeds := by
  cases occasion with
  | tick =>
      obtain ⟨now, rfl, rfl⟩ := h
      exact ⟨.tick now g, List.prefix_rfl⟩
  | flush k =>
      obtain rfl := h
      refine ⟨.flush k deadline g .panicked, ?_⟩
      simp [Round.deeds, served]
  | shutdown k =>
      obtain rfl := h
      refine ⟨.shutdown k deadline g 0 .panicked, ?_⟩
      simp [Round.deeds, served]

/-- The deeds of the round under way are the first ones of some round. -/
theorem Underway.isPrefix {y : ReaderActivity} (h : Underway timeout y part) :
    ∃ round : Round timeout, part <+: round.deeds := by
  cases y with
  | idle | leaving | gone =>
      obtain rfl : part = [] := h
      exact ⟨.tick 0 (.nothing 0), List.nil_prefix⟩
  | collecting occasion deadline =>
      obtain ⟨d, hd, rfl⟩ := h
      obtain ⟨round, hr⟩ := begins_prefix (.nothing 0) hd
      exact ⟨round, List.IsPrefix.trans (by simp [Gathering.deeds]) hr⟩
  | exporting metrics occasion deadline =>
      obtain ⟨d, now, hd, hm, hl, rfl⟩ := h
      obtain ⟨round, hr⟩ := begins_prefix (.handed now metrics .panicked hm hl) hd
      exact ⟨round, List.IsPrefix.trans (by simp [Gathering.deeds]) hr⟩
  | exported result occasion deadline =>
      obtain ⟨d, g, hd, rfl⟩ := h
      exact begins_prefix g hd
  | flushingExporter k result =>
      obtain ⟨deadline, g, rfl⟩ := h
      exact ⟨.flush k deadline g .panicked, by simp [Round.deeds, served]⟩
  | closingExporter k t result =>
      obtain ⟨deadline, g, now, rfl, rfl⟩ := h
      exact ⟨.shutdown k deadline g now .panicked, by simp [Round.deeds, served]⟩
  | stopping k result =>
      obtain ⟨deadline, g, now, o, rfl⟩ := h
      exact ⟨.shutdown k deadline g now o, List.prefix_append _ _⟩
  | answering k result last =>
      cases last with
      | false =>
          obtain ⟨deadline, g, o, rfl⟩ := h
          exact ⟨.flush k deadline g o, List.prefix_append _ _⟩
      | true =>
          obtain ⟨deadline, g, now, o, rfl⟩ := h
          exact ⟨.shutdown k deadline g now o, List.prefix_append _ _⟩

/-! Who is owed an answer -/

@[simp] theorem Gathering.request?_deeds (g : Gathering deadline) :
    g.deeds.filterMap Deed.request? = [] := by
  cases g <;> rfl

@[simp] theorem Gathering.answered?_deeds (g : Gathering deadline) :
    g.deeds.filterMap Deed.answered? = [] := by
  cases g <;> rfl

/-- A round answers the request that it takes up, if it does. -/
theorem Round.answered?_deeds (round : Round timeout) :
    round.deeds.filterMap Deed.answered? =
      (round.deeds.filterMap Deed.request?).map (·.caller) := by
  cases round <;> simp [Round.deeds, served, List.filterMap_cons, Deed.answered?, Deed.request?]

theorem answered?_of_begins {occasion : Occasion} {d : Deed}
    (h : Begins timeout occasion deadline d) : d.answered? = none := by
  cases occasion with
  | tick => obtain ⟨_, rfl, _⟩ := h; rfl
  | flush | shutdown => obtain rfl := h; rfl

theorem Underway.unanswered {y : ReaderActivity} (h : Underway timeout y part) :
    part.filterMap Deed.answered? = [] := by
  cases y with
  | idle | leaving | gone => obtain rfl : part = [] := h; rfl
  | collecting =>
      obtain ⟨d, hd, rfl⟩ := h
      exact List.filterMap_cons_none (answered?_of_begins hd)
  | exporting =>
      obtain ⟨d, now, hd, _, _, rfl⟩ := h
      exact List.filterMap_cons_none (answered?_of_begins hd)
  | exported =>
      obtain ⟨d, g, hd, rfl⟩ := h
      rw [List.filterMap_cons_none (answered?_of_begins hd), Gathering.answered?_deeds]
  | flushingExporter =>
      obtain ⟨deadline, g, rfl⟩ := h
      simp [List.filterMap_cons, Deed.answered?]
  | closingExporter =>
      obtain ⟨deadline, g, now, rfl, rfl⟩ := h
      simp [List.filterMap_cons, Deed.answered?]
  | stopping =>
      obtain ⟨deadline, g, now, o, rfl⟩ := h
      simp [served, List.filterMap_cons, Deed.answered?]
  | answering k result last =>
      cases last with
      | false =>
          obtain ⟨deadline, g, o, rfl⟩ := h
          simp [served, List.filterMap_cons, Deed.answered?]
      | true =>
          obtain ⟨deadline, g, now, o, rfl⟩ := h
          simp [served, List.filterMap_cons, Deed.answered?]

section Kept

variable {a : Account} {rounds : List (Round a.reader.config.exportTimeout)}

theorem Kept.answered (h : Kept a rounds part) : a.requests.map (·.caller) =
    a.answered ++ (part.filterMap Deed.request?).map (·.caller) := by
  rw [Account.requests, Account.answered, h.deeds, List.filterMap_append, List.filterMap_append,
    h.underway.unanswered, List.append_nil, List.map_append, List.filterMap_flatMap,
    List.filterMap_flatMap, List.map_flatMap]
  simp only [Round.answered?_deeds]

/-- A caller that is about to be answered has no answer yet. -/
theorem Kept.answering {k : CallerId} {result : PipelineResult} {last : Bool}
    (h : Kept a rounds part) (hi : a.reader.activity = .answering k result last) :
    a.requests.map (·.caller) = a.answered ++ [k] := by
  have hu := h.underway
  rw [h.answered]
  rw [hi] at hu
  cases last with
  | false =>
      obtain ⟨deadline, g, o, rfl⟩ := hu
      simp [served, List.filterMap_cons, Deed.request?]
  | true =>
      obtain ⟨deadline, g, now, o, rfl⟩ := hu
      simp [served, List.filterMap_cons, Deed.request?]

/-- Nothing comes after a shutdown. -/
theorem Kept.final (h : Kept a rounds part) {before after : List (Round a.reader.config.exportTimeout)}
    {round : Round a.reader.config.exportTimeout} (hr : rounds = before ++ round :: after)
    (hs : round.isShutdown = true) : after = [] ∧ part = [] := by
  have hu := h.underway
  have he := h.ended
  have hno : ∀ {rs : List (Round a.reader.config.exportTimeout)},
      (∀ r ∈ rs, r.isShutdown = false) → round ∉ rs := by
    intro rs hrs hm
    rw [hrs round hm] at hs
    cases hs
  cases hy : a.reader.activity with
  | leaving | gone =>
      rw [hy] at hu he
      obtain ⟨earlier, last, hl, ho, _⟩ := he
      refine ⟨?_, hu⟩
      rcases List.eq_nil_or_concat after with rfl | ⟨init, z, rfl⟩
      · rfl
      · rw [hr, List.concat_eq_append, ← List.cons_append, ← List.append_assoc] at hl
        have hm : round ∈ earlier := by
          rw [← List.append_inj_left' hl rfl]
          simp
        exact absurd hm (hno ho)
  | _ =>
      rw [hy] at he
      exact absurd (hr ▸ by simp) (hno he)

/-- A worker that has left has taken up a shutdown. -/
theorem Kept.closed (h : Kept a rounds part) (hg : a.reader.activity = .gone) :
    ∃ y ∈ a.requests, y.order = .shutdown := by
  have he := h.ended
  rw [hg] at he
  obtain ⟨before, last, rfl, -, hl⟩ := he
  cases last with
  | tick | flush => cases hl
  | shutdown k deadline g now o =>
      refine ⟨⟨k, .shutdown, deadline⟩, ?_, rfl⟩
      rw [Account.requests, h.deeds]
      simp [Round.deeds, served, List.filterMap_cons, Deed.request?]

end Kept

end PeriodicReader

end Telemetry
