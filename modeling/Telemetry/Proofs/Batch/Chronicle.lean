import Telemetry.Proofs.Batch.Conservation

/-!
# What the deeds tell

The deeds of a worker are its only trace, and most of what can be said about a run is said about
them.  The exports of a worker come one after the other, so that its deeds hold *reports* of exports
that have ended, and possibly one that is under way (`Account.handed_eq`).  The queue is closed from
the moment when the worker asks the exporter to shut down (`Sealed`).  Every request of which the
deeds tell comes from a caller, and a flush is about records that were accepted before
(`Posted`).
-/

namespace Telemetry

/-! ## Activities -/

/-- The batch that is being exported. -/
def Activity.underway {ρ : Type} : Activity ρ → List (List ρ)
  | .exporting batch _ => [batch]
  | _ => []

/-- The worker has asked the exporter to shut down, or is done with that. -/
def Activity.HasDrained {ρ : Type} : Activity ρ → Prop
  | .closingExporter _ _ _ | .stopping _ _ | .answering _ _ true | .leaving | .gone => True
  | .idle | .going _ | .exporting _ _ | .flushingExporter _ _ | .answering _ _ false => False

namespace Batch

open Worker (CallerId Desk Request Order Staffed Office Front)

variable {ρ : Type} {config : BatchConfig} {p q : Processor ρ} {ds : List (Deed ρ)}

/-! ## Exports -/

/-- An export that has ended. -/
structure Export (ρ : Type) where
  batch : List ρ
  outcome : Outcome ExportResult

def Export.result (x : Export ρ) : PipelineResult := (x.outcome.result "export").lift

/-- A request that makes some exporter calls in order goes well if all of them do. -/
theorem first_report_eq_ok_iff (xs : List (Export ρ)) (o : Outcome ExportResult) (call : String) :
    PipelineResult.first (xs.map Export.result ++ [(o.result call).lift]) = .ok () ↔
      (∀ x ∈ xs, x.outcome = .returned (.ok ())) ∧ o = .returned (.ok ()) := by
  rw [PipelineResult.first_eq_ok_iff]
  constructor
  · intro h
    refine ⟨fun x hx => ?_, ?_⟩
    · exact (PipelineResult.lift_eq_ok_iff _ "export").1
        (h _ (List.mem_append_left _ (List.mem_map_of_mem hx)))
    · exact (PipelineResult.lift_eq_ok_iff _ call).1
        (h _ (List.mem_append_right _ (List.mem_singleton_self _)))
  · rintro ⟨hx, ho⟩ r hr
    rcases List.mem_append.1 hr with hr | hr
    · obtain ⟨x, hm, rfl⟩ := List.mem_map.1 hr
      exact (PipelineResult.lift_eq_ok_iff _ "export").2 (hx x hm)
    · rw [List.mem_singleton.1 hr]
      exact (PipelineResult.lift_eq_ok_iff _ call).2 ho

/-- The deeds of some exports, one after the other. -/
def report (xs : List (Export ρ)) : List (Deed ρ) :=
  xs.flatMap fun x => [.began (.deliver x.batch), .ended (.deliver x.batch) x.outcome]

theorem report_concat (xs : List (Export ρ)) (x : Export ρ) :
    report (xs ++ [x]) =
      report xs ++ [.began (.deliver x.batch), .ended (.deliver x.batch) x.outcome] := by
  simp [report]

theorem filterMap_batch?_report (xs : List (Export ρ)) :
    (report xs).filterMap Deed.batch? = xs.map Export.batch := by
  induction xs with
  | nil => rfl
  | cons x xs ih =>
      rw [report, List.flatMap_cons, List.filterMap_append, List.map_cons]
      exact congrArg (x.batch :: ·) ih

theorem flatMap_discarded_report (xs : List (Export ρ)) :
    (report xs).flatMap Deed.discarded = [] := by
  induction xs with
  | nil => rfl
  | cons x xs ih =>
      rw [report, List.flatMap_cons, List.flatMap_append]
      exact ih

theorem filterMap_call?_report (xs : List (Export ρ)) :
    (report xs).filterMap Deed.call? = xs.map fun x => .deliver x.batch := by
  induction xs with
  | nil => rfl
  | cons x xs ih =>
      rw [report, List.flatMap_cons, List.filterMap_append, List.map_cons]
      exact congrArg (.deliver x.batch :: ·) ih

/-- Some deeds end with a request that was taken up, reports of exports, and other deeds. -/
def Follows (ds before : List (Deed ρ)) (r : Request Nat) (xs : List (Export ρ))
    (tail : List (Deed ρ)) : Prop :=
  ds = before ++ .took r :: (report xs ++ tail)

section Follows

variable {before tail : List (Deed ρ)} {r : Request Nat} {xs : List (Export ρ)}

theorem Follows.append (h : Follows ds before r xs tail) (more : List (Deed ρ)) :
    Follows (ds ++ more) before r xs (tail ++ more) := by
  rw [Follows, h]
  simp

theorem Follows.export {batch : List ρ} (h : Follows ds before r xs [.began (.deliver batch)])
    (o : Outcome ExportResult) :
    Follows (ds ++ [.ended (.deliver batch) o]) before r (xs ++ [⟨batch, o⟩]) [] := by
  rw [Follows, h, report_concat]
  simp

theorem Follows.request (h : Follows ds before r xs tail) : r ∈ ds.filterMap Deed.request? := by
  rw [h, List.filterMap_append]
  exact List.mem_append_right _ List.mem_cons_self

/-- The batches that were handed over: those of before, those of the exports, and the last one. -/
theorem Follows.batches (h : Follows ds before r xs tail) : ds.filterMap Deed.batch? =
    before.filterMap Deed.batch? ++ xs.map Export.batch ++ tail.filterMap Deed.batch? := by
  rw [h, List.filterMap_append, List.append_assoc]
  simp only [List.filterMap_cons, Deed.batch?, List.filterMap_append, filterMap_batch?_report]

end Follows

/-- Whatever was handed to the exporter has been exported, apart from what is under way. -/
def Accounted (a : Account ρ) : Prop := a.handed = a.exported ++ a.processor.activity.underway

theorem Works.accounted (h : Works p ds q) : p.activity.underway ++ ds.filterMap Deed.batch? =
    ds.filterMap Deed.exported? ++ q.activity.underway := by
  cases h with
  | hand hr =>
      rcases hr with ⟨hi, _⟩ | hi <;> rw [hi] <;> rfl
  | take hi | report hi | tick hi | exported hi | rest hi | flushLate hi | flush hi | flushed hi
  | drainLate hi | drained hi | closed hi | stop hi | answer hi | bow hi | leave hi => rw [hi]; rfl

theorem exported_noting (a : Account ρ) :
    (a.noting q ds).exported = a.exported ++ ds.filterMap Deed.exported? := List.filterMap_append

theorem Accounted.moves {a b : Account ρ} {r : Option (Request Nat)} (h : Accounted a)
    (hm : Account.Moves a b r) : Accounted b := by
  cases hm with
  | @offer x => rcases a.offer_cases x with he | ⟨_, _, s, _, he⟩ <;> rw [he] <;> exact h
  | @settle i s => cases s <;> exact h
  | @works q ds hw =>
      have hq : (a.noting q ds).processor = q := rfl
      rw [Accounted, handed_noting, exported_noting, hq, h, List.append_assoc, hw.accounted,
        List.append_assoc]

/-! ## The end of the queue -/

/-- The queue is closed when the worker has asked the exporter to shut down, and not before. -/
def Sealed (p : Processor ρ) : Prop := p.queue.closed = true ↔ p.activity.HasDrained

theorem Works.sealed (h : Sealed p) (hw : Works p ds q) : Sealed q := by
  unfold Sealed at h ⊢
  cases hw with
  | hand hr =>
      rcases hr with ⟨hi, _⟩ | hi <;> rw [hi] at h <;> exact h
  | drainLate | drained => exact iff_of_true rfl trivial
  | take hi | report hi | tick hi | exported hi | rest hi | flushLate hi | flush hi | flushed hi
  | closed hi | stop hi | answer hi | bow hi | leave hi => rw [hi] at h; exact h

theorem Sealed.moves {a b : Account ρ} {r : Option (Request Nat)} (h : Sealed a.processor)
    (hm : Account.Moves a b r) : Sealed b.processor := by
  cases hm with
  | @offer x => rcases a.offer_cases x with he | ⟨_, _, s, _, he⟩ <;> rw [he] <;> exact h
  | @settle i s => cases s <;> exact h
  | works hw => exact hw.sealed h

/-! ## Requests -/

theorem Works.pushed (hw : Works p ds q) : q.queue.pushed = p.queue.pushed := by
  cases hw <;> rfl

theorem Works.requests (hw : Works p ds q) :
    ds.filterMap Deed.request? = (ds.findSome? Deed.request?).toList := by
  cases hw <;> rfl

/-- A step adds to the deeds, and to the accepted records, at their end. -/
theorem Account.Moves.grows {a b : Account ρ} {r : Option (Request Nat)} (hm : Account.Moves a b r) :
    a.accepted <+: b.accepted ∧ a.processor.queue.pushed ≤ b.processor.queue.pushed ∧
      ∃ ds, b.deeds = a.deeds ++ ds ∧ ds.filterMap Deed.request? = r.toList := by
  cases hm with
  | @offer x =>
      rcases a.offer_cases x with he | ⟨_, _, s, _, he⟩ <;> rw [he]
      · exact ⟨List.prefix_rfl, Nat.le_refl _, [], (List.append_nil _).symm, rfl⟩
      · exact ⟨List.prefix_append _ _, Nat.le_succ _, [], (List.append_nil _).symm, rfl⟩
  | @settle i s =>
      cases s <;> exact ⟨List.prefix_rfl, Nat.le_refl _, [], (List.append_nil _).symm, rfl⟩
  | works hw => exact ⟨List.prefix_rfl, Nat.le_of_eq hw.pushed.symm, _, rfl, hw.requests⟩

/-- Every request of which the deeds tell comes from a caller, and no flush is about records that
are yet to come. -/
structure Posted (o : Office (Account ρ) Nat) : Prop where
  marks : ∀ k m p, o.callers k = some ⟨.flush m, p⟩ → m ≤ o.machine.processor.queue.pushed
  taken : o.handled = o.machine.deeds.filterMap Deed.request?

theorem Posted.step {o o' : Office (Account ρ) Nat} (h : Posted o) (ho : o.machine.Sound)
    (hs : o.Step o') : Posted o' := by
  cases hs.moves with
  | inside ha =>
      obtain ⟨_, hle, ds, hds, hr⟩ := (Account.Moves.of_perform? ha ho).grows
      refine ⟨fun k m p hk => Nat.le_trans (h.marks k m p hk) hle, ?_⟩
      rw [hds, List.filterMap_append, hr, h.taken]
  | @come k order hk hm =>
      refine ⟨fun j m p hj => ?_, h.taken⟩
      rcases Front.seat_eq_some hj with ⟨_, he⟩ | ⟨_, hb⟩
      · exact Nat.le_of_eq (hm m (congrArg Worker.Call.order he).symm)
      · exact h.marks j m p hb
  | @call k order p d p' hk hc =>
      refine ⟨fun j m p hj => ?_, h.taken⟩
      rcases Front.seat_eq_some hj with ⟨_, he⟩ | ⟨_, hb⟩
      · have ho : .flush m = order := congrArg Worker.Call.order he
        subst ho
        exact h.marks k m _ hk
      · exact h.marks j m p hb

/-! ## All of them -/

/-- What holds of the account and the callers of every processor. -/
structure Orderly (o : Office (Account ρ) Nat) : Prop where
  balanced : Balanced o.machine.processor.config o.machine
  accounted : Accounted o.machine
  sealed : Sealed o.machine.processor
  posted : Posted o

theorem Orderly.step {o o' : Office (Account ρ) Nat} (h : Orderly o) (ho : o.machine.Sound)
    (hs : o.Step o') : Orderly o' := by
  have hp := h.posted.step ho hs
  cases hs.moves with
  | inside ha =>
      have hm := Account.Moves.of_perform? ha ho
      have hb := h.balanced.moves hm
      exact ⟨hb.settings.symm ▸ hb, h.accounted.moves hm, h.sealed.moves hm, hp⟩
  | come => exact ⟨h.balanced, h.accounted, h.sealed, hp⟩
  | call => exact ⟨h.balanced.withDesk _, h.accounted, h.sealed, hp⟩

theorem orderly_of_reachable {o : Office (Account ρ) Nat} (h : o.Reachable) : Orderly o := by
  obtain ⟨a, ha, hs⟩ := h
  induction hs with
  | refl =>
      obtain ⟨config, now, p, hb, rfl⟩ := ha
      obtain ⟨hv, rfl⟩ := Account.build_eq_ok_iff.1 hb
      refine ⟨.opened now, rfl, ?_, ?_, rfl⟩
      · exact iff_of_false (by simp [Office.opened, Account.opened, Processor.start,
          BoundedQueue.ofCapacity]) id
      · intro k m p hk
        cases hk
  | tail hs step ih => exact ih.step (Office.Reachable.sound ⟨a, ha, hs⟩) step

/-- What is kept by everything that workers do holds of the deeds of every processor. -/
theorem deeds_of_reachable {P : Activity ρ → List (Deed ρ) → Prop} (hi : P .idle [])
    (hw : ∀ {o : Office (Account ρ) Nat} {ds q}, o.Reachable →
      P o.machine.processor.activity o.machine.deeds → Works o.machine.processor ds q →
      P q.activity (o.machine.deeds ++ ds))
    {o : Office (Account ρ) Nat} (h : o.Reachable) :
    P o.machine.processor.activity o.machine.deeds := by
  obtain ⟨a, ha, hs⟩ := h
  induction hs with
  | refl =>
      obtain ⟨config, now, p, hb, rfl⟩ := ha
      obtain ⟨hv, rfl⟩ := Account.build_eq_ok_iff.1 hb
      exact hi
  | @tail o o' hs step ih =>
      have hr : o.Reachable := ⟨a, ha, hs⟩
      cases step.moves with
      | inside hp =>
          cases Account.Moves.of_perform? hp hr.sound with
          | @offer x =>
              rcases o.machine.offer_cases x with he | ⟨_, _, s, _, he⟩ <;> rw [he] <;> exact ih
          | @settle i s => cases s <;> exact ih
          | works h => exact hw hr ih h
      | come => exact ih
      | call => exact ih

end Batch

end Telemetry
