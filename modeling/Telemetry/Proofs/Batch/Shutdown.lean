import Telemetry.Proofs.Batch.Chronicle

/-!
# What a shutdown guarantees

A shutdown exports what is in the queue until the queue is empty or the deadline is found to have
passed, and closes the queue in that moment, so that no producer can come between.  `Draining`
follows the worker through it, as `Flushing` does for a flush.  Until then the worker does nothing
that only a shutdown may do (`Quiet`), and after it has answered it does nothing at all.
-/

namespace Telemetry.Batch

open Worker (CallerId Desk Request Order Staffed Office Front)

variable {ρ : Type} {config : BatchConfig} {p q : Processor ρ} {ds es before : List (Deed ρ)}
  {k : CallerId} {result : PipelineResult} {xs : List (Export ρ)}

/-! ## Before the end -/

/-- Not only a shutdown may do this. -/
def Deed.IsQuiet : Deed ρ → Prop
  | .began (.shutdown _) => False
  | .late discarded => discarded = []
  | _ => True

def Quiet (ds : List (Deed ρ)) : Prop := ∀ d ∈ ds, d.IsQuiet

theorem Quiet.append (h : Quiet ds) (he : Quiet es) : Quiet (ds ++ es) := by
  intro d hd
  rcases List.mem_append.1 hd with hd | hd
  · exact h d hd
  · exact he d hd

theorem Quiet.singleton {d : Deed ρ} (h : d.IsQuiet) : Quiet [d] := by
  intro e he
  rw [List.mem_singleton.1 he]
  exact h

theorem Quiet.discarded (h : Quiet ds) : ds.flatMap Deed.discarded = [] := by
  rw [List.flatMap_eq_nil_iff]
  intro d hd
  have hq := h d hd
  cases d with
  | late discarded => exact hq
  | _ => rfl

theorem Quiet.calls (h : Quiet ds) (timeout : Nat) :
    .shutdown timeout ∉ ds.filterMap Deed.call? := by
  intro hm
  obtain ⟨d, hd, hc⟩ := List.mem_filterMap.1 hm
  have hq := h d hd
  cases d with
  | began call => cases hc; exact hq
  | _ => cases hc

/-! ## The worker during a shutdown -/

/-- The deed of a worker that finds its deadline passed, and what it makes of the result. -/
def lateDeeds (late : Option (List ρ)) : List (Deed ρ) := (late.map .late).toList

def lateResults (late : Option (List ρ)) : List PipelineResult :=
  (late.map fun _ => .error .timeout).toList

/-- How a shutdown ends: the exporter was shut down, and something more was done. -/
inductive ShutdownEnds (ds : List (Deed ρ)) (k : CallerId) (result : PipelineResult)
    (more : List (Deed ρ)) : Prop where
  | intro {before deadline xs late timeout o} : Quiet before →
      Follows ds before ⟨k, .shutdown, deadline⟩ xs
        (lateDeeds late ++ [.began (.shutdown timeout), .ended (.shutdown timeout) o] ++ more) →
      result = .first (xs.map Export.result ++ lateResults late ++ [(o.result "shutdown").lift]) →
      ShutdownEnds ds k result more

theorem ShutdownEnds.append {more : List (Deed ρ)} (h : ShutdownEnds ds k result more)
    (es : List (Deed ρ)) : ShutdownEnds (ds ++ es) k result (more ++ es) := by
  obtain ⟨hq, hf, hr⟩ := h
  exact ⟨hq, List.append_assoc _ more es ▸ hf.append es, hr⟩

/-- What a worker has done for the shutdown that it serves or has served. -/
def Draining (x : Activity ρ) (ds : List (Deed ρ)) : Prop :=
  match x with
  | .going (.draining k deadline result) =>
    ∃ before xs, Quiet before ∧ Follows ds before ⟨k, .shutdown, deadline⟩ xs [] ∧
      result = .first (xs.map Export.result)
  | .exporting batch (.draining k deadline result) =>
    ∃ before xs, Quiet before ∧
      Follows ds before ⟨k, .shutdown, deadline⟩ xs [.began (.deliver batch)] ∧
      result = .first (xs.map Export.result)
  | .closingExporter k timeout result =>
    ∃ before deadline xs late, Quiet before ∧ Follows ds before ⟨k, .shutdown, deadline⟩ xs
      (lateDeeds late ++ [.began (.shutdown timeout)]) ∧
      result = .first (xs.map Export.result ++ lateResults late)
  | .stopping k result => ShutdownEnds ds k result []
  | .answering k result true => ShutdownEnds ds k result [.stopped]
  | .leaving | .gone => ∃ k result, ShutdownEnds ds k result [.stopped, .answered k result]
  | _ => Quiet ds

section Draining

variable {deadline timeout : Nat} {batch : List ρ} {next : Resumption}

theorem Draining.took (h : Quiet ds) (r : Request Nat) :
    Draining (.going (.serving r)) (ds ++ [.took r]) := by
  obtain ⟨k, order, deadline⟩ := r
  cases order with
  | flush m => exact h.append (.singleton trivial)
  | shutdown => exact ⟨ds, [], h, rfl, rfl⟩

theorem Draining.hands (h : Draining (.going next) ds) (batch : List ρ) :
    Draining (.exporting batch next) (ds ++ [.began (.deliver batch)]) := by
  cases next with
  | passing | flushing => exact Quiet.append h (.singleton trivial)
  | draining k deadline result =>
      obtain ⟨before, xs, hq, hf, hr⟩ := h
      exact ⟨before, xs, hq, hf.append _, hr⟩

theorem Draining.exported (h : Draining (.exporting batch next) ds) (o : Outcome ExportResult) :
    Draining (.going (next.noting (o.result "export"))) (ds ++ [.ended (.deliver batch) o]) := by
  cases next with
  | passing | flushing => exact Quiet.append h (.singleton trivial)
  | draining k deadline result =>
      obtain ⟨before, xs, hq, hf, hr⟩ := h
      refine ⟨before, _, hq, hf.export o, ?_⟩
      rw [List.map_append, List.map_singleton, PipelineResult.first_concat, hr]
      rfl

/-- The deadline is found to have passed. -/
theorem Draining.late (h : Draining (.going (.draining k deadline result)) ds) (left : List ρ) :
    Draining (.closingExporter k timeout (result.and (.error .timeout)))
      (ds ++ [.late left, .began (.shutdown timeout)]) := by
  obtain ⟨before, xs, hq, hf, hr⟩ := h
  refine ⟨before, deadline, xs, some left, hq, hf.append _, ?_⟩
  rw [hr, ← PipelineResult.first_concat]
  rfl

/-- Nothing is left to export. -/
theorem Draining.drained (h : Draining (.going (.draining k deadline result)) ds) :
    Draining (.closingExporter k timeout result) (ds ++ [.began (.shutdown timeout)]) := by
  obtain ⟨before, xs, hq, hf, hr⟩ := h
  refine ⟨before, deadline, xs, none, hq, hf.append _, ?_⟩
  rw [hr]
  exact congrArg _ (List.append_nil _).symm

theorem Draining.closed (h : Draining (.closingExporter k timeout result) ds)
    (o : Outcome ExportResult) :
    Draining (.stopping k (result.and (o.result "shutdown").lift))
      (ds ++ [.ended (.shutdown timeout) o]) := by
  obtain ⟨before, deadline, xs, late, hq, hf, hr⟩ := h
  have hf' := hf.append [.ended (.shutdown timeout) o]
  rw [List.append_assoc, ← List.append_nil ([_] ++ [_]), ← List.append_assoc] at hf'
  exact ⟨hq, hf', by rw [hr, ← PipelineResult.first_concat]⟩

end Draining

theorem Draining.works (h : Draining p.activity ds) (hw : Works p es q) :
    Draining q.activity (ds ++ es) := by
  cases hw with
  | @take r d hi =>
      rw [hi] at h
      exact .took h r
  | report hi | tick hi | rest hi =>
      rw [hi] at h
      rw [List.append_nil]
      exact h
  | flush hi | flushed hi | answer hi => rw [hi] at h; exact Quiet.append h (.singleton trivial)
  | flushLate hi => rw [hi] at h; exact Quiet.append h (.singleton rfl)
  | @hand n next hr =>
      have hgoing : Draining (.going next) ds := by
        rcases hr with ⟨hi, rfl⟩ | hi <;> rw [hi] at h <;> exact h
      exact hgoing.hands _
  | @exported batch next o hi =>
      rw [hi] at h
      exact h.exported o
  | drainLate hi =>
      rw [hi] at h
      exact h.late _
  | drained hi =>
      rw [hi] at h
      exact h.drained
  | @closed k timeout result o hi =>
      rw [hi] at h
      exact h.closed o
  | stop hi => rw [hi] at h; exact h.append _
  | bow hi => rw [hi] at h; exact ⟨_, _, h.append _⟩
  | leave hi =>
      rw [hi] at h
      rw [List.append_nil]
      exact h

theorem draining_of_reachable {o : Office (Account ρ) Nat} (h : o.Reachable) :
    Draining o.machine.processor.activity o.machine.deeds :=
  deeds_of_reachable (fun _ hd => by cases hd) (fun _ ih hw => ih.works hw) h

/-! ## The guarantee -/

/-- Nothing waits and nothing will: every record that was accepted has been exported or discarded,
and every one that was offered has been exported or dropped, or is about to be counted as dropped. -/
structure Settled (a : Account ρ) : Prop where
  closed : a.processor.queue.closed = true
  empty : a.processor.queue.items = []
  sequence : a.exported.flatten ++ a.discarded = a.accepted
  total : a.offered =
    a.exported.flatten.length + a.processor.dropped + a.halfway.count .count

/-- What a shutdown has done, from the request that the worker has taken up to its answer. -/
structure ShutdownGuarantee (a : Account ρ) (before : List (Deed ρ)) (r : Request Nat)
    (xs : List (Export ρ)) (late : Option (List ρ)) (timeout : Nat) (o : Outcome ExportResult)
    (result : PipelineResult) : Prop where
  order : r.order = .shutdown
  /-- The exporter was shut down after the exports, and then the worker noted that it had stopped.
  The answer is about to be given, or was the last thing that the worker did. -/
  deeds : ∃ more, a.deeds = before ++ .took r :: (report xs ++ (lateDeeds late ++
      [.began (.shutdown timeout), .ended (.shutdown timeout) o] ++ .stopped :: more)) ∧
    (more = [] ∧ a.processor.activity = .answering r.caller result true ∨
      more = [.answered r.caller result])
  /-- No other call of the exporter shut it down, and none came later. -/
  once : ∃ calls, a.calls = calls ++ [.shutdown timeout] ∧ ∀ t, .shutdown t ∉ calls
  /-- Nothing was discarded but what waited when the deadline was found to have passed. -/
  discarded : a.discarded = late.getD []
  answer : result =
    .first (xs.map Export.result ++ lateResults late ++ [(o.result "shutdown").lift])
  ok : result = .ok () ↔
    late = none ∧ (∀ x ∈ xs, x.outcome = .returned (.ok ())) ∧ o = .returned (.ok ())

theorem Orderly.settled {o : Office (Account ρ) Nat} (h : Orderly o)
    (hd : o.machine.processor.activity.HasDrained) : Settled o.machine := by
  have hc := h.sealed.2 hd
  have hi := h.balanced.emptied hc
  have hu : o.machine.processor.activity.underway = [] := by
    cases ha : o.machine.processor.activity with
    | exporting => rw [ha] at hd; exact hd.elim
    | _ => rfl
  have hex : o.machine.handed = o.machine.exported := by
    rw [h.accounted, hu, List.append_nil]
  have hseq := h.balanced.conserved
  rw [hi, List.append_nil, hex] at hseq
  refine ⟨hc, hi, hseq, ?_⟩
  have h₁ := h.balanced.offers
  have h₂ := h.balanced.drops
  rw [← hseq, List.length_append] at h₁
  omega

theorem ShutdownEnds.guarantee {a : Account ρ} {more : List (Deed ρ)}
    (h : ShutdownEnds a.deeds k result (.stopped :: more))
    (hm : more = [] ∧ a.processor.activity = .answering k result true ∨
      more = [.answered k result]) :
    ∃ before r xs late timeout o, ShutdownGuarantee a before r xs late timeout o result := by
  obtain @⟨before, deadline, xs, late, timeout, o, hq, hf, hr⟩ := h
  refine ⟨before, ⟨k, .shutdown, deadline⟩, xs, late, timeout, o, rfl, ⟨more, hf, hm⟩, ?_, ?_, hr, ?_⟩
  · refine ⟨before.filterMap Deed.call? ++ xs.map fun x => .deliver x.batch, ?_, ?_⟩
    · have hmore : more.filterMap Deed.call? = [] := by rcases hm with ⟨rfl, _⟩ | rfl <;> rfl
      have hlate : (lateDeeds late).filterMap Deed.call? = [] := by cases late <;> rfl
      rw [Account.calls, hf]
      simp only [List.filterMap_cons, Deed.call?, List.filterMap_append, filterMap_call?_report,
        hmore, hlate, List.nil_append, List.append_nil, List.filterMap_nil, List.append_assoc]
    · intro t ht
      rcases List.mem_append.1 ht with ht | ht
      · exact hq.calls t ht
      · obtain ⟨x, _, hx⟩ := List.mem_map.1 ht
        cases hx
  · have hmore : more.flatMap Deed.discarded = [] := by rcases hm with ⟨rfl, _⟩ | rfl <;> rfl
    rw [Account.discarded, hf, List.flatMap_append, hq.discarded, List.nil_append]
    simp only [List.flatMap_cons, Deed.discarded, List.flatMap_append, flatMap_discarded_report,
      hmore, List.nil_append, List.append_nil, List.flatMap_nil]
    cases late with
    | none => rfl
    | some rs => exact List.append_nil rs
  · rw [hr]
    cases late with
    | none =>
        simp only [lateResults, Option.map_none, Option.toList_none, List.append_nil, true_and]
        exact first_report_eq_ok_iff xs o "shutdown"
    | some rs =>
        refine iff_of_false (fun hok => ?_) (fun hn => by cases hn.1)
        have := PipelineResult.first_eq_ok_iff.1 hok (.error .timeout)
          (by simp [lateResults])
        cases this

theorem shutdown_guarantee {o : Office (Account ρ) Nat} (h : o.Reachable)
    (hl : o.machine.processor.desk.lifecycle = .stopped) :
    (∀ o', o.Steps o' → Settled o'.machine) ∧
      ∃ before r xs late timeout out result,
        ShutdownGuarantee o.machine before r xs late timeout out result := by
  constructor
  · intro o' hs
    have hr := h.steps hs
    have hst := hr.lawful.aligned.stopped.1 (h.lawful.stays_stopped (h.front_steps hs) hl)
    refine (orderly_of_reachable hr).settled ?_
    rcases Activity.of_hasStopped hst with ⟨k, result, ha⟩ | ha | ha <;> rw [ha] <;> exact trivial
  · have hst := h.lawful.aligned.stopped.1 hl
    have hd := draining_of_reachable h
    rcases Activity.of_hasStopped hst with ⟨k, result, ha⟩ | ha
    · rw [ha] at hd
      obtain ⟨before, r, xs, late, timeout, out, hg⟩ := hd.guarantee (.inl ⟨rfl, ha⟩)
      exact ⟨before, r, xs, late, timeout, out, result, hg⟩
    · have he : ∃ k result, ShutdownEnds o.machine.deeds k result [.stopped, .answered k result] := by
        rcases ha with ha | ha <;> rw [ha] at hd <;> exact hd
      obtain ⟨k, result, he⟩ := he
      obtain ⟨before, r, xs, late, timeout, out, hg⟩ := he.guarantee (.inr rfl)
      exact ⟨before, r, xs, late, timeout, out, result, hg⟩

/-- The only export of the drain panics, and the exporter is shut down all the same. -/
theorem shutdown_guarantee_after_panic :
    ∃ o : Office (Account Nat) Nat, o.machine.processor.desk.lifecycle = .stopped ∧
      o.machine.accepted = [1] ∧ o.machine.calls = [.deliver [1], .shutdown 2] ∧
      (∀ o', o.Steps o' → Settled o'.machine) ∧
      ∃ before r xs late timeout out result,
        ShutdownGuarantee o.machine before r xs late timeout out result := by
  have hr : Office.Reachable (α := Account Nat) _ :=
    ⟨.opened (Processor.start ⟨2, 0, 1, 5⟩ 0), ⟨⟨2, 0, 1, 5⟩, 0, _, rfl, rfl⟩,
      Office.steps_of_run? [.inside (.offer 1), .inside (.settle 0), .shutdown 7, .step 7 5 0,
        .step 7 5 0, .step 7 5 0, .step 7 5 0, .inside (.wake .control 1), .inside (.work 2),
        .inside (.conclude .panicked), .inside (.work 3), .inside (.conclude (.returned (.ok ()))),
        .inside (.work 4)] rfl⟩
  have h := shutdown_guarantee hr rfl
  exact ⟨_, by rfl, by rfl, by rfl, h.1, h.2⟩

end Telemetry.Batch
