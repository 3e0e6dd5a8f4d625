import Telemetry.Proofs.Batch.Chronicle

/-!
# What a flush guarantees

A flush is about the records that were accepted before it was asked for.  Their number is its
*target*, which the caller notes before it sends the request, so that other exports may come between
and more records may be accepted.  `Flushing` follows the worker through a flush: its deeds since it
has taken up the request, the result so far, and how the number of records that were handed to the
exporter compares to the target.  While the worker exports for a flush that number stays within the
target, and it reaches the target when there is nothing more to export.
-/

namespace Telemetry.Batch

open Worker (CallerId Desk Request Order Staffed Office Front)

variable {ρ : Type} {config : BatchConfig} {p q : Processor ρ} {ds before : List (Deed ρ)}
  {k : CallerId} {target : Nat} {result : PipelineResult} {xs : List (Export ρ)}

/-! ## The worker during a flush -/

/-- The number of records that were handed to the exporter. -/
def handedCount (ds : List (Deed ρ)) : Nat := (ds.filterMap Deed.batch?).flatten.length

/-- A flush that has exported something has not gone beyond its target. -/
def Within (ds : List (Deed ρ)) (target : Nat) (xs : List (Export ρ)) : Prop :=
  xs = [] ∨ handedCount ds ≤ target

/-- How a flush ends: the exporter was flushed after all batches, or the deadline had passed. -/
inductive FlushEnds (ds before : List (Deed ρ)) (r : Request Nat) (target : Nat)
    (xs : List (Export ρ)) : PipelineResult → Prop where
  | inTime {o} : Follows ds before r xs [.began .flush, .ended .flush o] → Within ds target xs →
      target ≤ handedCount ds →
      FlushEnds ds before r target xs (.first (xs.map Export.result ++ [(o.result "flush").lift]))
  | late : Follows ds before r xs [.late []] → FlushEnds ds before r target xs (.error .timeout)

/-- What a worker has done for the flush that it serves. -/
def Flushing (x : Activity ρ) (ds : List (Deed ρ)) : Prop :=
  match x with
  | .going (.flushing k target deadline result) =>
    ∃ before xs, Follows ds before ⟨k, .flush target, deadline⟩ xs [] ∧
      result = .first (xs.map Export.result) ∧ Within ds target xs
  | .exporting batch (.flushing k target deadline result) =>
    ∃ before xs, Follows ds before ⟨k, .flush target, deadline⟩ xs [.began (.deliver batch)] ∧
      result = .first (xs.map Export.result) ∧ handedCount ds ≤ target
  | .flushingExporter k result =>
    ∃ before target deadline xs, Follows ds before ⟨k, .flush target, deadline⟩ xs [.began .flush] ∧
      result = .first (xs.map Export.result) ∧ Within ds target xs ∧ target ≤ handedCount ds
  | .answering k result false =>
    ∃ before target deadline xs, FlushEnds ds before ⟨k, .flush target, deadline⟩ target xs result
  | _ => True

theorem handedCount_append (ds es : List (Deed ρ)) (h : es.filterMap Deed.batch? = []) :
    handedCount (ds ++ es) = handedCount ds := by
  rw [handedCount, List.filterMap_append, h, List.append_nil, handedCount]

theorem Within.append {es : List (Deed ρ)} (h : Within ds target xs)
    (he : es.filterMap Deed.batch? = []) : Within (ds ++ es) target xs := by
  rw [Within, handedCount_append _ _ he]
  exact h

/-- While nothing was discarded, the queue knows how many records were handed over. -/
theorem Balanced.popped_eq {a : Account ρ} (h : Balanced config a) (hs : Sealed a.processor)
    (hd : ¬ a.processor.activity.HasDrained) :
    a.discarded = [] ∧ a.processor.queue.popped = handedCount a.deeds := by
  have hn : a.discarded = [] := by
    cases hr : a.discarded with
    | nil => rfl
    | cons r rs => exact absurd (hs.1 (h.closed (by simp [hr]))) hd
  refine ⟨hn, ?_⟩
  have hp := h.popped
  rw [hn] at hp
  exact hp

/-- A flush can end when the queue is empty or as many records were popped as were accepted for it. -/
theorem Balanced.target_le {a : Account ρ} (h : Balanced config a) (hs : Sealed a.processor)
    (hd : ¬ a.processor.activity.HasDrained) (hm : target ≤ a.processor.queue.pushed)
    (ht : a.processor.queue.items = [] ∨ target ≤ a.processor.queue.popped) :
    target ≤ handedCount a.deeds := by
  obtain ⟨hn, hp⟩ := h.popped_eq hs hd
  rcases ht with he | hle
  · have hc := h.conserved
    rw [hn, he, List.append_nil, List.append_nil] at hc
    rw [h.pushed, ← hc] at hm
    exact hm
  · exact hp ▸ hle

/-! ### One activity after the other -/

section Flushing

variable {deadline : Nat} {batch : List ρ} {next : Resumption}

theorem Flushing.took (r : Request Nat) : Flushing (.going (.serving r)) (ds ++ [.took r]) := by
  obtain ⟨k, order, deadline⟩ := r
  cases order with
  | shutdown => exact trivial
  | flush m => exact ⟨ds, [], rfl, rfl, .inl rfl⟩

/-- The request is among the deeds as long as there may be something to export for it. -/
theorem Flushing.request (h : Flushing (.going (.flushing k target deadline result)) ds) :
    ⟨k, .flush target, deadline⟩ ∈ ds.filterMap Deed.request? := by
  obtain ⟨before, xs, hf, _⟩ := h
  exact hf.request

/-- A batch that is not larger than what is left of the target stays within it. -/
theorem Flushing.hands (h : Flushing (.going (.flushing k target deadline result)) ds)
    (hn : batch ≠ []) (hle : batch.length ≤ target - handedCount ds) :
    Flushing (.exporting batch (.flushing k target deadline result))
      (ds ++ [.began (.deliver batch)]) := by
  obtain ⟨before, xs, hf, hr, _⟩ := h
  refine ⟨before, xs, hf.append _, hr, ?_⟩
  have hpos := List.length_pos_iff.2 hn
  have hsum : handedCount (ds ++ [.began (.deliver batch)]) = handedCount ds + batch.length := by
    simp [handedCount, Deed.batch?]
  omega

theorem Flushing.exported (h : Flushing (.exporting batch next) ds) (o : Outcome ExportResult) :
    Flushing (.going (next.noting (o.result "export"))) (ds ++ [.ended (.deliver batch) o]) := by
  cases next with
  | passing | draining => exact trivial
  | flushing k target deadline result =>
      obtain ⟨before, xs, hf, hr, hle⟩ := h
      refine ⟨before, _, hf.export o, ?_, .inr ?_⟩
      · rw [List.map_append, List.map_singleton, PipelineResult.first_concat, hr]
        rfl
      · rw [handedCount_append _ _ rfl]
        exact hle

theorem Flushing.late (h : Flushing (.going (.flushing k target deadline result)) ds) :
    Flushing (.answering k (.error .timeout) false) (ds ++ [.late []]) := by
  obtain ⟨before, xs, hf, _⟩ := h
  exact ⟨before, target, deadline, xs, .late (hf.append _)⟩

/-- The exporter is flushed when the batches have reached the target. -/
theorem Flushing.calls (h : Flushing (.going (.flushing k target deadline result)) ds)
    (hle : target ≤ handedCount ds) :
    Flushing (.flushingExporter k result) (ds ++ [.began .flush]) := by
  obtain ⟨before, xs, hf, hr, hwi⟩ := h
  refine ⟨before, target, deadline, xs, hf.append _, hr, hwi.append rfl, ?_⟩
  rw [handedCount_append _ _ rfl]
  exact hle

theorem Flushing.flushed (h : Flushing (.flushingExporter k result) ds)
    (o : Outcome ExportResult) :
    Flushing (.answering k (result.and (o.result "flush").lift) false)
      (ds ++ [.ended .flush o]) := by
  obtain ⟨before, target, deadline, xs, hf, hr, hwi, hle⟩ := h
  refine ⟨before, target, deadline, xs, ?_⟩
  rw [hr, ← PipelineResult.first_concat]
  refine .inTime (hf.append _) (hwi.append rfl) ?_
  rw [handedCount_append _ _ rfl]
  exact hle

end Flushing

theorem Flushing.works {a : Account ρ} (h : Flushing a.processor.activity a.deeds)
    (hb : Balanced config a) (hs : Sealed a.processor)
    (hm : ∀ r ∈ a.deeds.filterMap Deed.request?, ∀ m, r.order = .flush m →
      m ≤ a.processor.queue.pushed)
    (hw : Works a.processor ds q) : Flushing q.activity (a.deeds ++ ds) := by
  cases hw with
  | @take r => exact .took r
  | report | tick | rest | drainLate | drained | closed | stop | answer | bow | leave =>
      exact trivial
  | @hand n next hr hn hmax hsize ht =>
      cases next with
      | passing | draining => exact trivial
      | flushing k target deadline result =>
          have hi : a.processor.activity = .going (.flushing k target deadline result) := by
            rcases hr with ⟨_, hf⟩ | hi
            · cases hf
            · exact hi
          have hp := (hb.popped_eq hs (by rw [hi]; exact id)).2
          rw [hi] at h
          refine h.hands hn ?_
          rw [length_handOut hsize, ← hp]
          exact ht k target deadline result rfl
  | @exported batch next o hi =>
      rw [hi] at h
      exact h.exported o
  | flushLate hi =>
      rw [hi] at h
      exact h.late
  | flush hi hd =>
      rw [hi] at h
      exact h.calls (hb.target_le hs (by rw [hi]; exact id) (hm _ h.request _ rfl) hd)
  | @flushed k result o hi =>
      rw [hi] at h
      exact h.flushed o

/-! ## Reachable processors -/

/-- A request of which the deeds tell is what its caller asks for. -/
theorem Orderly.caller {o : Office (Account ρ) Nat} (h : Orderly o) (hl : o.front.Lawful)
    {r : Request Nat} (hr : r ∈ o.machine.deeds.filterMap Deed.request?) :
    ∃ c, o.callers r.caller = some c ∧ c.order = r.order := by
  rw [← h.posted.taken] at hr
  obtain ⟨c, hc, ho, _⟩ := hl.filed.sent r (List.mem_append_left _ hr)
  exact ⟨c, hc, ho⟩

theorem flushing_of_reachable {o : Office (Account ρ) Nat} (h : o.Reachable) :
    Flushing o.machine.processor.activity o.machine.deeds := by
  refine deeds_of_reachable trivial (fun {o} _ _ hr ih hw => ?_) h
  have ho := orderly_of_reachable hr
  refine ih.works ho.balanced ho.sealed (fun r hm m hf => ?_) hw
  obtain ⟨⟨_, phase⟩, hc, hco⟩ := ho.caller hr.lawful hm
  obtain rfl := hco.trans hf
  exact ho.posted.marks _ _ _ hc

theorem accepted_of_steps {o o' : Office (Account ρ) Nat} (h : o.Reachable) (hs : o.Steps o') :
    o.machine.accepted <+: o'.machine.accepted := by
  induction hs with
  | refl => exact List.prefix_rfl
  | tail hs step ih =>
      refine ih.trans ?_
      cases step.moves with
      | inside hp => exact (Account.Moves.of_perform? hp (h.steps hs).sound).grows.1
      | come => exact List.prefix_rfl
      | call => exact List.prefix_rfl

/-! ## The guarantee -/

/-- What a flush that was asked for when some records had been accepted has done when the worker is
about to answer it, and its result. -/
inductive FlushGuarantee (a : Account ρ) (owed : List ρ) (before : List (Deed ρ)) (r : Request Nat)
    (xs : List (Export ρ)) (result : PipelineResult) : Prop where
  /-- The deadline was not found to have passed.  The exporter was flushed once, after the exports.
  The export of every record that was owed has ended, and the flush exported what was owed and had
  not been handed over before, and nothing else.  The result is the first failure, if any. -/
  | inTime {o} :
      a.deeds = before ++ .took r :: (report xs ++ [.began .flush, .ended .flush o]) →
      owed <+: a.exported.flatten →
      (xs.map Export.batch).flatten = owed.drop (handedCount before) →
      result = .first (xs.map Export.result ++ [(o.result "flush").lift]) →
      (result = .ok () ↔ (∀ x ∈ xs, x.outcome = .returned (.ok ())) ∧ o = .returned (.ok ())) →
      FlushGuarantee a owed before r xs result
  /-- The deadline was found to have passed.  The exporter was not flushed, and whatever was accepted
  and not exported waits in the same order. -/
  | late :
      a.deeds = before ++ .took r :: (report xs ++ [.late []]) →
      a.exported.flatten ++ a.processor.queue.items = a.accepted →
      result = .error .timeout →
      FlushGuarantee a owed before r xs result

theorem FlushEnds.guarantee {a : Account ρ} {owed : List ρ} {r : Request Nat}
    (h : FlushEnds a.deeds before r owed.length xs result) (hb : Balanced config a)
    (hacc : Accounted a) (hs : Sealed a.processor) (hd : ¬ a.processor.activity.HasDrained)
    (hu : a.processor.activity.underway = []) (ho : owed <+: a.accepted) :
    FlushGuarantee a owed before r xs result := by
  have hnil := (hb.popped_eq hs hd).1
  have hex : a.handed = a.exported := by rw [hacc, hu, List.append_nil]
  have hc : a.exported.flatten ++ a.processor.queue.items = a.accepted := by
    rw [← hex, ← hb.conserved, hnil, List.append_nil]
  cases h with
  | late hf => exact .late hf hc rfl
  | @inTime o hf hwi hle =>
      have hhanded : a.handed = before.filterMap Deed.batch? ++ xs.map Export.batch :=
        hf.batches.trans (List.append_nil _)
      have hle' : owed.length ≤ a.exported.flatten.length := hex ▸ hle
      have hpre : owed <+: a.exported.flatten := by
        rw [← hc] at ho
        exact List.prefix_of_prefix_length_le ho (List.prefix_append _ _) hle'
      refine .inTime hf hpre ?_ rfl (first_report_eq_ok_iff xs o "flush")
      rcases hwi with rfl | hge
      · -- nothing was left to do, since all that was owed had been handed over before
        rw [List.map_nil, List.append_nil] at hhanded
        rw [List.map_nil, List.flatten_nil, eq_comm, List.drop_eq_nil_iff, handedCount, ← hhanded,
          hex]
        exact hle'
      · have heq : owed = a.exported.flatten :=
          hpre.eq_of_length (Nat.le_antisymm hle' (hex ▸ hge))
        rw [heq, ← hex, hhanded, List.flatten_append, handedCount, List.drop_left]

theorem flush_guarantee {o₀ o₁ o : Office (Account ρ) Nat} (h : o₀.Reachable)
    (hc : o₀.perform? (.flush k) = some o₁) (hs : o₁.Steps o)
    (ha : o.machine.processor.activity = .answering k result false) :
    ∃ before deadline xs, FlushGuarantee o.machine o₀.machine.accepted before
      ⟨k, .flush o₀.machine.accepted.length, deadline⟩ xs result := by
  have h₁ : o₁.Reachable := h.steps (.single ⟨_, hc⟩)
  have hr : o.Reachable := h₁.steps hs
  have ho := orderly_of_reachable hr
  have hf := flushing_of_reachable hr
  rw [ha] at hf
  obtain ⟨before, target, deadline, xs, he⟩ := hf
  -- the request that the worker has taken up is the one of this call
  have hpush := (orderly_of_reachable h).balanced.pushed
  have htarget : target = o₀.machine.accepted.length := by
    have hreq : ⟨k, .flush target, deadline⟩ ∈ o.machine.deeds.filterMap Deed.request? := by
      cases he with
      | inTime hf => exact hf.request
      | late hf => exact hf.request
    obtain ⟨c, hck, hco⟩ := ho.caller hr.lawful hreq
    obtain ⟨_, rfl⟩ := Office.come?_eq_some hc
    obtain ⟨c', hck', hco'⟩ := Front.order_steps (Front.seat_self _ _ _) (h₁.front_steps hs)
    obtain rfl : c = c' := Option.some.inj (hck.symm.trans hck')
    rw [hco] at hco'
    exact (Order.flush.inj hco').trans hpush
  subst htarget
  have hpre := accepted_of_steps h (.head ⟨_, hc⟩ hs)
  exact ⟨before, deadline, xs,
    he.guarantee ho.balanced ho.accounted ho.sealed (by rw [ha]; exact id) (by rw [ha]; rfl) hpre⟩

/-- One record is accepted before the flush and one while it is under way, and the exporter panics
when it is flushed. -/
theorem flush_guarantee_of_one :
    ∃ (o : Office (Account Nat) Nat) (before : List (Deed Nat)) (deadline : Nat)
      (xs : List (Export Nat)), FlushGuarantee o.machine [1] before ⟨3, .flush 1, deadline⟩ xs
        (.error (.exporter (.other "exporter panicked during flush"))) ∧
      o.machine.accepted = [1, 2] ∧ o.machine.handed = [[1]] := by
  have hr : Office.Reachable (α := Account Nat) _ :=
    ⟨.opened (Processor.start ⟨4, 0, 2, 5⟩ 0), ⟨⟨4, 0, 2, 5⟩, 0, _, rfl, rfl⟩,
      Office.steps_of_run? [.inside (.offer 1), .inside (.settle 0)] rfl⟩
  obtain ⟨before, deadline, xs, hg⟩ := flush_guarantee (k := 3) hr rfl (Office.steps_of_run?
    [.step 3 5 0, .inside (.offer 2), .step 3 5 0, .inside (.wake .control 1), .inside (.work 1),
      .inside (.conclude (.returned (.ok ()))), .inside (.work 2), .inside (.conclude .panicked)] rfl)
    rfl
  exact ⟨_, before, deadline, xs, hg, rfl, rfl⟩

end Telemetry.Batch
