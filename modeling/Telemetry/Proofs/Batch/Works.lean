import Telemetry.Batch.Processor
import Telemetry.Proofs.PipelineResult
import Telemetry.Proofs.Worker.Front

/-!
# What the worker of a processor does

A *deed* is something that the worker does and others may notice: a call of the exporter that begins
or ends, a request that it takes up or answers, the discovery that a deadline has passed, and the
note that it has stopped.  The deeds are read off the processor before and after a step.

`Works` lists what a worker can do, one case for each, and everything about workers is derived from
it.  What the processor computes is one of these cases (`Works.of_rouse?`, `Works.of_advance?` and
`Works.of_returned`), as long as somebody holds the processor and its settings are valid.
-/

namespace Telemetry

open Worker (CallerId Desk Request Attends)

variable {ρ : Type}

/-! ## How far the worker has got with its requests -/

def Resumption.status : Resumption → Worker.Status
  | .passing => .free
  | .flushing k _ _ _ => .serving k
  | .draining k _ _ => .closing k

/-- The result so far of the request that is served. -/
def Resumption.result? : Resumption → Option PipelineResult
  | .passing => none
  | .flushing _ _ _ result | .draining _ _ result => some result

def Activity.status : Activity ρ → Worker.Status
  | .idle => .free
  | .going next | .exporting _ next => next.status
  | .flushingExporter k _ | .answering k _ false => .serving k
  | .closingExporter k _ _ | .stopping k _ => .closing k
  | .answering k _ true => .closed k
  | .leaving => .leaving
  | .gone => .gone

def Activity.result? : Activity ρ → Option PipelineResult
  | .idle | .leaving | .gone => none
  | .going next | .exporting _ next => next.result?
  | .flushingExporter _ result | .closingExporter _ _ result | .stopping _ result
  | .answering _ result _ => some result

@[simp] theorem Resumption.status_noting (r : ExportResult) (next : Resumption) :
    (next.noting r).status = next.status := by
  cases next <;> rfl

theorem Activity.eq_of_closed {x : Activity ρ} {k : CallerId} (h : x.status = .closed k) :
    ∃ result, x = .answering k result true := by
  cases x with
  | answering j result last =>
      cases last with
      | false => cases h
      | true => cases h; exact ⟨result, rfl⟩
  | going next | exporting _ next => cases next <;> cases h
  | _ => cases h

theorem Activity.eq_of_leaving {x : Activity ρ} (h : x.status = .leaving) : x = .leaving := by
  cases x with
  | leaving => rfl
  | answering j result last => cases last <;> cases h
  | going next | exporting _ next => cases next <;> cases h
  | _ => cases h

theorem Activity.of_hasStopped {x : Activity ρ} (h : x.status.HasStopped) :
    (∃ k result, x = .answering k result true) ∨ x = .leaving ∨ x = .gone := by
  cases x with
  | answering k result last =>
      cases last with
      | false => exact h.elim
      | true => exact .inl ⟨k, result, rfl⟩
  | leaving => exact .inr (.inl rfl)
  | gone => exact .inr (.inr rfl)
  | going next | exporting _ next => cases next <;> exact h.elim
  | _ => exact h.elim

namespace Batch

/-! ## Deeds -/

/-- What a worker does that others may notice. -/
inductive Deed (ρ : Type) where
  | took (r : Request Nat)
  /-- A deadline was found to have passed, and records were discarded. -/
  | late (discarded : List ρ)
  | began (call : ExporterCall ρ)
  | ended (call : ExporterCall ρ) (outcome : Outcome ExportResult)
  | stopped
  | answered (caller : CallerId) (result : PipelineResult)

namespace Deed

/-- The batch that is handed to the exporter. -/
def batch? : Deed ρ → Option (List ρ)
  | .began (.deliver batch) => some batch
  | _ => none

/-- The batch whose export has ended. -/
def exported? : Deed ρ → Option (List ρ)
  | .ended (.deliver batch) _ => some batch
  | _ => none

/-- The records that are discarded. -/
def discarded : Deed ρ → List ρ
  | .late discarded => discarded
  | _ => []

/-- The exporter call that begins. -/
def call? : Deed ρ → Option (ExporterCall ρ)
  | .began call => some call
  | _ => none

/-- The request that is taken up. -/
def request? : Deed ρ → Option (Request Nat)
  | .took r => some r
  | _ => none

end Deed

/-- The deeds of a worker in a step of a processor, in which it takes up a request or none. -/
def deeds (p : Processor ρ) (now : Nat) (r : Option (Request Nat)) (q : Processor ρ) : List (Deed ρ) :=
  (match p.activity with
    | .going (.flushing _ _ deadline _) => if deadline ≤ now then [.late []] else []
    | .going (.draining _ deadline _) => if deadline ≤ now then [.late p.queue.items] else []
    | .stopping _ _ => [.stopped]
    | .answering k result _ => [.answered k result]
    | _ => (r.map .took).toList) ++ (q.call?.map .began).toList

/-! ## What a worker can do -/

/-- The worker is about to hand a batch to the exporter and to go on with something. -/
def Readies (p : Processor ρ) (next : Resumption) : Prop :=
  p.activity = .idle ∧ next = .passing ∨ p.activity = .going next

/-- The steps of a worker with its deeds in them. -/
inductive Works (p : Processor ρ) : List (Deed ρ) → Processor ρ → Prop where
  | take {r d} : p.activity = .idle → p.desk.take? = some (r, d) →
      Works p [.took r] { p with desk := d, activity := .going (.serving r) }
  | report : p.activity = .idle → Works p [] { p with permit := false, activity := .going .passing }
  | tick : p.activity = .idle → Works p [] { p with activity := .going .passing }
  | hand {n next} : Readies p next → (p.queue.handOut n).2 ≠ [] → n ≤ p.config.maxBatchSize →
      n ≤ p.queue.size →
      (∀ k target deadline result, next = .flushing k target deadline result →
        n ≤ target - p.queue.popped) →
      Works p [.began (.deliver (p.queue.handOut n).2)] { p with
        queue := (p.queue.handOut n).1, activity := .exporting (p.queue.handOut n).2 next }
  | exported {batch next o} : p.activity = .exporting batch next →
      Works p [.ended (.deliver batch) o] { p with activity := .going (next.noting (o.result "export")) }
  | rest {now} : p.activity = .going .passing → p.queue.size < p.config.maxBatchSize →
      Works p [] (p.sleep now)
  | flushLate {k target deadline result} : p.activity = .going (.flushing k target deadline result) →
      Works p [.late []] { p with activity := .answering k (.error .timeout) false }
  | flush {k target deadline result} : p.activity = .going (.flushing k target deadline result) →
      p.queue.items = [] ∨ target ≤ p.queue.popped →
      Works p [.began .flush] { p with activity := .flushingExporter k result }
  | flushed {k result o} : p.activity = .flushingExporter k result →
      Works p [.ended .flush o]
        { p with activity := .answering k (result.and (o.result "flush").lift) false }
  | drainLate {k deadline result timeout} : p.activity = .going (.draining k deadline result) →
      Works p [.late p.queue.items, .began (.shutdown timeout)] { p with
        queue := p.queue.close.1
        dropped := p.dropped + p.queue.size
        activity := .closingExporter k timeout (result.and (.error .timeout)) }
  | drained {k deadline result timeout} : p.activity = .going (.draining k deadline result) →
      p.queue.items = [] →
      Works p [.began (.shutdown timeout)] { p with
        queue := p.queue.close.1, activity := .closingExporter k timeout result }
  | closed {k timeout result o} : p.activity = .closingExporter k timeout result →
      Works p [.ended (.shutdown timeout) o]
        { p with activity := .stopping k (result.and (o.result "shutdown").lift) }
  | stop {k result} : p.activity = .stopping k result →
      Works p [.stopped] { p with
        desk := p.desk.mark .stopped, activity := .answering k result true }
  | answer {k result now} : p.activity = .answering k result false →
      Works p [.answered k result] ({ p with desk := p.desk.answer k result }.sleep now)
  | bow {k result} : p.activity = .answering k result true →
      Works p [.answered k result] { p with
        desk := p.desk.answer k result, activity := .leaving }
  | leave : p.activity = .leaving → Works p [] { p with desk := p.desk.leave, activity := .gone }

/-- The request that a waking worker takes up. -/
def taken? (p : Processor ρ) : Processor.Waking → Option (Request Nat)
  | .control => p.desk.take?.map (·.1)
  | .report | .timer => none

theorem hand_cases (p : Processor ρ) (popped : BoundedQueue ρ × List ρ) (next : Resumption)
    (otherwise : Processor ρ) :
    popped.2 = [] ∧ p.hand popped next otherwise = otherwise ∨
      popped.2 ≠ [] ∧ p.hand popped next otherwise =
        { p with queue := popped.1, activity := .exporting popped.2 next } := by
  unfold Processor.hand
  cases hb : popped.2 with
  | nil => exact .inl ⟨rfl, rfl⟩
  | cons r rs => exact .inr ⟨by simp, rfl⟩

theorem Works.of_rouse? {p q : Processor ρ} {now : Nat} {cause : Processor.Waking}
    {logs : List LogEntry} (hi : p.activity = .idle) (ho : p.isOrphan = false)
    (h : p.rouse? now cause = some (q, logs)) : Works p (deeds p now (taken? p cause) q) q := by
  cases cause with
  | control =>
      simp only [Processor.rouse?] at h
      split at h
      next r d hd =>
        cases h
        simpa [deeds, taken?, hi, hd, Processor.call?] using Works.take hi hd
      next => simp [ho] at h
  | report =>
      simp only [Processor.rouse?] at h
      split at h
      next => cases h; simpa [deeds, taken?, hi, Processor.call?] using Works.report hi
      next => cases h
  | timer =>
      simp only [Processor.rouse?] at h
      split at h
      next =>
        cases h
        rcases hand_cases p (p.queue.popBatch p.config.maxBatchSize) .passing
          { p with activity := .going .passing } with ⟨hn, he⟩ | ⟨hn, he⟩
        · rw [he]
          simpa [deeds, taken?, hi, Processor.call?] using Works.tick hi
        · rw [he]
          simp only [deeds, taken?, hi, Processor.call?, Option.map_none, Option.toList_none,
            Option.map_some, Option.toList_some, List.nil_append]
          exact .hand (.inl ⟨hi, rfl⟩) hn (Nat.min_le_left _ _) (Nat.min_le_right _ _)
            (fun _ _ _ _ he => by cases he)
      next => cases h

theorem handOut_eq_nil {q : BoundedQueue ρ} {n : Nat} (h : (q.handOut n).2 = []) :
    n = 0 ∨ q.items = [] := by
  simpa [BoundedQueue.handOut] using h

section Going

variable {p : Processor ρ} (hv : 0 < p.config.maxBatchSize) (now : Nat)
include hv

theorem Works.of_pass (ha : p.activity = .going .passing) :
    Works p (deeds p now none (p.pass now)) (p.pass now) := by
  unfold Processor.pass
  split
  next hs => simpa [deeds, ha, Processor.call?, Processor.sleep] using Works.rest ha hs
  next hs =>
    simp only [deeds, ha, Processor.call?, Option.map_none, Option.toList_none, Option.map_some,
      Option.toList_some, List.nil_append]
    refine .hand (.inr ha) ?_ (Nat.min_le_left _ _) (Nat.min_le_right _ _)
      (fun _ _ _ _ he => by cases he)
    intro hn
    rcases handOut_eq_nil hn with hn | hn
    · omega
    · simp only [BoundedQueue.size, hn, List.length_nil] at hs
      omega

theorem Works.of_flushStep {k : CallerId} {target deadline : Nat} {result : PipelineResult}
    (ha : p.activity = .going (.flushing k target deadline result)) :
    Works p (deeds p now none (p.flushStep now k target deadline result))
      (p.flushStep now k target deadline result) := by
  unfold Processor.flushStep
  split
  next hl => simpa [deeds, ha, hl, Processor.call?] using Works.flushLate ha
  next hl =>
    rcases hand_cases p (p.queue.popUntil p.config.maxBatchSize target)
      (.flushing k target deadline result)
      { p with activity := .flushingExporter k result } with ⟨hn, he⟩ | ⟨hn, he⟩ <;> rw [he]
    · have hd : p.queue.items = [] ∨ target ≤ p.queue.popped := by
        rcases handOut_eq_nil hn with hn | hn
        · simp only [BoundedQueue.size] at hn
          rw [← List.length_eq_zero_iff]
          omega
        · exact .inl hn
      simpa [deeds, ha, hl, Processor.call?] using Works.flush ha hd
    · simp only [deeds, ha, hl, Processor.call?, ↓reduceIte, Option.map_some, Option.toList_some,
        List.nil_append]
      exact .hand (.inr ha) hn (Nat.le_trans (Nat.min_le_left _ _) (Nat.min_le_left _ _))
        (Nat.le_trans (Nat.min_le_left _ _) (Nat.min_le_right _ _))
        (fun _ _ _ _ he => by cases he; exact Nat.min_le_right _ _)

theorem Works.of_drainStep {k : CallerId} {deadline : Nat} {result : PipelineResult}
    (ha : p.activity = .going (.draining k deadline result)) :
    Works p (deeds p now none (p.drainStep now k deadline result).1)
      (p.drainStep now k deadline result).1 := by
  unfold Processor.drainStep
  split
  next hl =>
    simp only [deeds, ha, hl, Processor.call?, ↓reduceIte, Option.map_some, Option.toList_some,
      List.singleton_append]
    exact .drainLate ha
  next hl =>
    rcases hand_cases p (p.queue.popBatch p.config.maxBatchSize) (.draining k deadline result)
      { p with
        queue := p.queue.close.1
        activity := .closingExporter k (deadline - now) result } with ⟨hn, he⟩ | ⟨hn, he⟩ <;>
      simp only [he]
    · have hd : p.queue.items = [] := by
        rcases handOut_eq_nil hn with hn | hn
        · simp only [BoundedQueue.size] at hn
          rw [← List.length_eq_zero_iff]
          omega
        · exact hn
      simpa only [deeds, ha, hl, Processor.call?, ↓reduceIte, Option.map_some,
        Option.toList_some, List.nil_append] using Works.drained ha hd
    · simp only [deeds, ha, hl, Processor.call?, ↓reduceIte, Option.map_some, Option.toList_some,
        List.nil_append]
      exact .hand (.inr ha) hn (Nat.min_le_left _ _) (Nat.min_le_right _ _)
        (fun _ _ _ _ he => by cases he)

end Going

theorem Works.of_advance? {p q : Processor ρ} {now : Nat} {logs : List LogEntry}
    (hi : p.activity ≠ .idle) (hv : 0 < p.config.maxBatchSize) (h : p.advance? now = some (q, logs)) :
    Works p (deeds p now none q) q := by
  cases ha : p.activity with
  | idle => exact absurd ha hi
  | going next =>
      cases next with
      | passing => simp only [Processor.advance?, ha] at h; cases h; exact .of_pass hv now ha
      | flushing k target deadline result =>
          simp only [Processor.advance?, ha] at h
          cases h
          exact .of_flushStep hv now ha
      | draining k deadline result =>
          simp only [Processor.advance?, ha, Option.some.injEq] at h
          obtain rfl : (p.drainStep now k deadline result).1 = q := congrArg Prod.fst h
          exact .of_drainStep hv now ha
  | stopping k result =>
      simp only [Processor.advance?, ha] at h
      cases h
      simpa [deeds, ha, Processor.call?] using Works.stop ha
  | answering k result last =>
      simp only [Processor.advance?, ha] at h
      cases h
      cases last with
      | false => simpa [deeds, ha, Processor.call?, Processor.sleep] using Works.answer ha
      | true => simpa [deeds, ha, Processor.call?] using Works.bow ha
  | leaving =>
      simp only [Processor.advance?, ha] at h
      cases h
      simpa [deeds, ha, Processor.call?] using Works.leave ha
  | exporting | flushingExporter | closingExporter | gone =>
      simp only [Processor.advance?, ha] at h
      cases h

theorem Works.of_returned {p : Processor ρ} {c : ExporterCall ρ} (o : Outcome ExportResult)
    (h : p.call? = some c) : Works p [.ended c o] (p.returned o).1 := by
  unfold Processor.call? at h
  split at h
  next batch next ha =>
    cases h
    simpa only [Processor.returned, ha] using Works.exported ha
  next k result ha =>
    cases h
    simpa only [Processor.returned, ha] using Works.flushed ha
  next k timeout result ha =>
    cases h
    simpa only [Processor.returned, ha] using Works.closed ha
  next => cases h

/-! ## The worker at its desk -/

theorem status_serving (r : Request Nat) : (Resumption.serving r).status = r.status := by
  obtain ⟨k, order, deadline⟩ := r
  cases order <;> rfl

/-- What a worker does is a step at its desk. -/
theorem Works.attends {p q : Processor ρ} {ds : List (Deed ρ)} (h : Works p ds q)
    (ht : ∀ r, p.activity.result? = some r → r ≠ .error .workerGone) :
    Attends p.desk p.activity.status (ds.findSome? Deed.request?) q.desk q.activity.status := by
  cases h with
  | take hi hd =>
      simpa [hi, Activity.status, status_serving, Deed.request?] using Attends.take hd
  | report hi | tick hi => simpa [hi, Activity.status, Resumption.status] using Attends.elsewhere
  | hand hr =>
      rcases hr with ⟨hi, rfl⟩ | hi
      · simpa [hi, Activity.status, Resumption.status, Deed.request?] using Attends.elsewhere
      · simpa [hi, Activity.status, Deed.request?] using Attends.elsewhere
  | exported hi | flushed hi | closed hi =>
      simpa [hi, Activity.status, Deed.request?] using Attends.elsewhere
  | rest hi =>
      simpa [hi, Activity.status, Resumption.status, Processor.sleep] using Attends.elsewhere
  | flushLate hi | flush hi | drainLate hi | drained hi =>
      simpa [hi, Activity.status, Resumption.status, Deed.request?, List.findSome?] using
        Attends.elsewhere
  | stop hi => simpa [hi, Activity.status, Deed.request?] using Attends.stop
  | answer hi =>
      have hne := ht _ (by rw [hi]; rfl)
      simpa [hi, Activity.status, Deed.request?, Processor.sleep] using Attends.answer hne
  | bow hi =>
      have hne := ht _ (by rw [hi]; rfl)
      simpa [hi, Activity.status, Deed.request?] using Attends.bow hne
  | leave hi => simpa [hi, Activity.status] using Attends.leave

/-- No result that the worker comes by says that it is gone. -/
theorem Works.truthful {p q : Processor ρ} {ds : List (Deed ρ)} (h : Works p ds q)
    (ht : ∀ r, p.activity.result? = some r → r ≠ .error .workerGone) :
    ∀ r, q.activity.result? = some r → r ≠ .error .workerGone := by
  intro r hr
  cases h with
  | @take q d hi hd =>
      simp only [Activity.result?, Resumption.serving] at hr
      split at hr <;> cases hr <;> simp
  | report | tick | rest | leave | bow | answer => cases hr
  | hand hn =>
      rcases hn with ⟨hi, rfl⟩ | hi
      · cases hr
      · exact ht r (by rw [hi]; exact hr)
  | @exported batch next o hi =>
      cases next with
      | passing => cases hr
      | flushing k target deadline result =>
          cases hr
          exact PipelineResult.and_ne_gone (ht _ (by rw [hi]; rfl)) (ExportResult.lift_ne_gone _)
      | draining k deadline result =>
          cases hr
          exact PipelineResult.and_ne_gone (ht _ (by rw [hi]; rfl)) (ExportResult.lift_ne_gone _)
  | flushLate => cases hr; simp
  | flush hi => exact ht r (by rw [hi]; exact hr)
  | drained hi => exact ht r (by rw [hi]; exact hr)
  | stop hi => exact ht r (by rw [hi]; exact hr)
  | flushed hi =>
      cases hr
      exact PipelineResult.and_ne_gone (ht _ (by rw [hi]; rfl)) (ExportResult.lift_ne_gone _)
  | closed hi =>
      cases hr
      exact PipelineResult.and_ne_gone (ht _ (by rw [hi]; rfl)) (ExportResult.lift_ne_gone _)
  | drainLate hi =>
      cases hr
      exact PipelineResult.and_ne_gone (ht _ (by rw [hi]; rfl)) (by simp)

/-- The settings stay, and so does who holds the processor. -/
theorem Works.frame {p q : Processor ρ} {ds : List (Deed ρ)} (h : Works p ds q) :
    q.config = p.config ∧ q.isOrphan = p.isOrphan := by
  cases h <;> exact ⟨rfl, rfl⟩

end Batch

end Telemetry
