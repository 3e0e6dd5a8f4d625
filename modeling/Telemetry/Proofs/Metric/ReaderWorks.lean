import Telemetry.Metric.PeriodicReader
import Telemetry.Proofs.PipelineResult
import Telemetry.Proofs.Worker.Office

/-!
# The reader at its desk

`Works` lists what the worker of a periodic reader can do, one case for each, as the relation of the
same name does for processors.  A collection or an exporter call may end in any way and at any time.
A reader is a machine that serves a desk, so that offices of readers are readers with everybody who
uses them.
-/

namespace Telemetry

open Worker (CallerId Desk Request Attends Staffed)

/-! ## How far the worker has got with its requests -/

def Occasion.status : Occasion → Worker.Status
  | .tick => .free
  | .flush k => .serving k
  | .shutdown k => .closing k

def ReaderActivity.status : ReaderActivity → Worker.Status
  | .idle => .free
  | .collecting occasion _ | .exporting _ occasion _ | .exported _ occasion _ => occasion.status
  | .flushingExporter k _ | .answering k _ false => .serving k
  | .closingExporter k _ _ | .stopping k _ => .closing k
  | .answering k _ true => .closed k
  | .leaving => .leaving
  | .gone => .gone

/-- The result so far of what the worker is doing. -/
def ReaderActivity.result? : ReaderActivity → Option PipelineResult
  | .exported result _ _ | .flushingExporter _ result | .closingExporter _ _ result
  | .stopping _ result | .answering _ result _ => some result
  | .idle | .collecting _ _ | .exporting _ _ _ | .leaving | .gone => none

theorem Occasion.status_serving (x : Request Unit) : (Occasion.serving x).status = x.status := by
  obtain ⟨k, order, deadline⟩ := x
  cases order <;> rfl

theorem ReaderActivity.eq_of_closed {x : ReaderActivity} {k : CallerId}
    (h : x.status = .closed k) : ∃ result, x = .answering k result true := by
  cases x with
  | answering j result last =>
      cases last with
      | false => cases h
      | true => cases h; exact ⟨result, rfl⟩
  | collecting occasion _ | exporting _ occasion _ | exported _ occasion _ =>
      cases occasion <;> cases h
  | _ => cases h

theorem ReaderActivity.eq_of_leaving {x : ReaderActivity} (h : x.status = .leaving) :
    x = .leaving := by
  cases x with
  | leaving => rfl
  | answering j result last => cases last <;> cases h
  | collecting occasion _ | exporting _ occasion _ | exported _ occasion _ =>
      cases occasion <;> cases h
  | _ => cases h

namespace PeriodicReader

variable {r q : PeriodicReader} {x : Option (Request Unit)}

/-! ## What the worker can do -/

/-- The steps of a reader's worker with the requests that it takes up in them. -/
inductive Works (r : PeriodicReader) : Option (Request Unit) → PeriodicReader → Prop where
  | take {x d} : r.activity = .idle → r.desk.take? = some (x, d) →
      Works r (some x) { r with desk := d, activity := .collecting (.serving x) x.deadline }
  | tick {deadline} : r.activity = .idle →
      Works r none { r with activity := .collecting .tick deadline }
  | panic {occasion deadline} : r.activity = .collecting occasion deadline →
      Works r none { r with
        activity := .exported (.error (.exporter (.other collectionPanic))) occasion deadline }
  | nothing {occasion deadline} : r.activity = .collecting occasion deadline →
      Works r none { r with activity := .exported (.ok ()) occasion deadline }
  | overrun {occasion deadline} : r.activity = .collecting occasion deadline →
      Works r none { r with activity := .exported (.error .timeout) occasion deadline }
  | hand {metrics occasion deadline} : r.activity = .collecting occasion deadline → metrics ≠ [] →
      Works r none { r with activity := .exporting metrics occasion deadline }
  | exported {metrics occasion deadline o} : r.activity = .exporting metrics occasion deadline →
      Works r none { r with
        activity := .exported (Outcome.result o "export").lift occasion deadline }
  | rest {result deadline next} : r.activity = .exported result .tick deadline →
      Works r none { r with activity := .idle, nextCollection := next }
  | flush {k result deadline} : r.activity = .exported result (.flush k) deadline →
      Works r none { r with activity := .flushingExporter k result }
  | flushed {k result o} : r.activity = .flushingExporter k result →
      Works r none { r with
        activity := .answering k (result.and (Outcome.result o "flush").lift) false }
  | close {k result deadline timeout} : r.activity = .exported result (.shutdown k) deadline →
      Works r none { r with activity := .closingExporter k timeout result }
  | closed {k timeout result o} : r.activity = .closingExporter k timeout result →
      Works r none { r with
        activity := .stopping k (result.and (Outcome.result o "shutdown").lift) }
  | stop {k result} : r.activity = .stopping k result →
      Works r none { r with desk := r.desk.mark .stopped, activity := .answering k result true }
  | answer {k result} : r.activity = .answering k result false →
      Works r none { r with desk := r.desk.answer k result, activity := .idle }
  | bow {k result} : r.activity = .answering k result true →
      Works r none { r with desk := r.desk.answer k result, activity := .leaving }
  | leave : r.activity = .leaving → Works r none { r with desk := r.desk.leave, activity := .gone }

/-- A worker wakes only if the clock could tell the time of its next collection. -/
theorem tells_of_rouse? {now : Nat} {cause : Waking} {logs : List LogEntry}
    (h : r.rouse? now cause = some (q, logs)) : Clock.Tells r.nextCollection := by
  unfold rouse? at h
  split at h
  next ht => exact ht
  next => cases h

/-- The request that a waking worker takes up. -/
def taken? (r : PeriodicReader) : Waking → Option (Request Unit)
  | .control => r.desk.take?.map (·.1)
  | .timer => none

theorem Works.of_rouse? {now : Nat} {cause : Waking} {logs : List LogEntry}
    (hi : r.activity = .idle) (ho : r.isOrphan = false)
    (h : r.rouse? now cause = some (q, logs)) : Works r (r.taken? cause) q := by
  have ht := tells_of_rouse? h
  cases cause with
  | control =>
      simp only [rouse?, if_pos ht] at h
      split at h
      next x d hd =>
        cases h
        simpa only [taken?, hd, Option.map_some] using Works.take hi hd
      next => simp [ho] at h
  | timer =>
      simp only [rouse?, if_pos ht] at h
      split at h
      next => cases h; exact .tick hi
      next => cases h

theorem Works.of_advance? {now : Nat} {logs : List LogEntry} (hi : r.activity ≠ .idle)
    (h : r.advance? now = some (q, logs)) : Works r none q := by
  cases ha : r.activity with
  | idle => exact absurd ha hi
  | exported result occasion deadline =>
      cases occasion with
      | tick => simp only [advance?, ha] at h; cases h; exact .rest ha
      | flush k => simp only [advance?, ha] at h; cases h; exact .flush ha
      | shutdown k => simp only [advance?, ha] at h; cases h; exact .close ha
  | stopping k result => simp only [advance?, ha] at h; cases h; exact .stop ha
  | answering k result last =>
      cases last with
      | false => simp only [advance?, ha] at h; cases h; exact .answer ha
      | true => simp only [advance?, ha] at h; cases h; exact .bow ha
  | leaving => simp only [advance?, ha] at h; cases h; exact .leave ha
  | collecting | exporting | flushingExporter | closingExporter | gone =>
      simp only [advance?, ha] at h
      cases h

theorem Works.of_collected (now : Nat) (o : Outcome (List Metric))
    (h : r.isCollecting = true) : Works r none (r.collected now o).1 := by
  unfold isCollecting at h
  split at h
  next occasion deadline ha =>
    cases o with
    | panicked => simp only [collected, ha]; exact .panic ha
    | returned metrics =>
        simp only [collected, ha]
        split
        next => exact .nothing ha
        next hm =>
          split
          next => exact .overrun ha
          next => exact .hand ha (by simpa using hm)
  next => cases h

theorem Works.of_returned (o : Outcome ExportResult) {c : ExporterCall Metric}
    (h : r.call? = some c) : Works r none (r.returned o).1 := by
  unfold call? at h
  split at h
  next metrics occasion deadline ha => simpa only [returned, ha] using Works.exported ha
  next k result ha => simpa only [returned, ha] using Works.flushed ha
  next k timeout result ha => simpa only [returned, ha] using Works.closed ha
  next => cases h

/-! ## The worker at its desk -/

theorem Works.attends (h : Works r x q)
    (ht : ∀ s, r.activity.result? = some s → s ≠ .error .workerGone) :
    Attends r.desk r.activity.status x q.desk q.activity.status := by
  cases h with
  | take hi hd =>
      rw [hi]
      simpa only [ReaderActivity.status, Occasion.status_serving] using Attends.take hd
  | stop hi => rw [hi]; exact .stop
  | answer hi => rw [hi]; exact .answer (ht _ (by rw [hi]; rfl))
  | bow hi => rw [hi]; exact .bow (ht _ (by rw [hi]; rfl))
  | leave hi => rw [hi]; exact .leave
  | tick hi | panic hi | nothing hi | overrun hi | hand hi | exported hi | rest hi | flush hi
  | flushed hi | close hi | closed hi => rw [hi]; exact .elsewhere

theorem Works.truthful (h : Works r x q)
    (ht : ∀ s, r.activity.result? = some s → s ≠ .error .workerGone) :
    ∀ s, q.activity.result? = some s → s ≠ .error .workerGone := by
  intro s hs
  cases h with
  | take | tick | hand | rest | answer | bow | leave => cases hs
  | panic | nothing | overrun => cases hs; simp
  | exported => cases hs; exact ExportResult.lift_ne_gone _
  | flush hi | close hi | stop hi => exact ht s (by rw [hi]; exact hs)
  | flushed hi | closed hi =>
      cases hs
      exact PipelineResult.and_ne_gone (ht _ (by rw [hi]; rfl)) (ExportResult.lift_ne_gone _)

theorem Works.isOrphan (h : Works r x q) : q.isOrphan = r.isOrphan := by
  cases h <;> rfl

/-! ## The reader as a machine -/

/-- What can happen to a reader apart from its desk. -/
inductive Event where
  | wake (cause : Waking) (now : Nat)
  | work (now : Nat)
  | collect (now : Nat) (o : Outcome (List Metric))
  | conclude (o : Outcome ExportResult)

/-- The reader after an event, if it is possible, with the request that the worker takes up. -/
def perform? (e : Event) (r : PeriodicReader) : Option (PeriodicReader × Option (Request Unit)) :=
  match e with
  | .wake cause now =>
    match r.activity, r.rouse? now cause with
    | .idle, some (q, _) => some (q, r.taken? cause)
    | _, _ => none
  | .work now =>
    match r.activity, r.advance? now with
    | .idle, _ => none
    | _, some (q, _) => some (q, none)
    | _, none => none
  | .collect now o => if r.isCollecting then some ((r.collected now o).1, none) else none
  | .conclude o =>
    match r.call? with
    | none => none
    | some _ => some ((r.returned o).1, none)

/-- Somebody holds the reader, and no result says that it is gone. -/
structure Sound (r : PeriodicReader) : Prop where
  held : r.isOrphan = false
  truthful : ∀ s, r.activity.result? = some s → s ≠ .error .workerGone

theorem Works.of_perform? {e : Event} (h : perform? e r = some (q, x)) (hs : r.Sound) :
    Works r x q := by
  cases e with
  | wake cause now =>
      simp only [perform?] at h
      split at h
      next q _ hi hq => cases h; exact .of_rouse? hi hs.held hq
      next => cases h
  | work now =>
      simp only [perform?] at h
      split at h
      next => cases h
      next q _ hq hi => cases h; exact .of_advance? hi hq
      next => cases h
  | collect now o =>
      simp only [perform?] at h
      split at h
      next hc => cases h; exact .of_collected now o hc
      next => cases h
  | conclude o =>
      simp only [perform?] at h
      split at h
      next => cases h
      next c hc => cases h; exact .of_returned o hc

theorem Sound.works (h : r.Sound) (hw : Works r x q) : q.Sound :=
  ⟨hw.isOrphan.trans h.held, hw.truthful h.truthful⟩

theorem perform?_work {now : Nat} {logs : List LogEntry} (hi : r.activity ≠ .idle)
    (h : r.advance? now = some (q, logs)) : perform? (.work now) r = some (q, none) := by
  simp only [perform?]
  split
  next ha => exact absurd ha hi
  next q' logs' hq _ => rw [h] at hq; cases hq; rfl
  next hq _ => rw [h] at hq; cases hq

/-- The events cover whatever the worker does by itself. -/
theorem perform?_of_advance? {now : Nat} {logs : List LogEntry}
    (h : r.advance? now = some (q, logs)) : ∃ e x, perform? e r = some (q, x) := by
  cases ha : r.activity with
  | idle =>
      simp only [advance?, ha, wake?] at h
      obtain ⟨cause, _, hc⟩ := List.exists_of_findSome?_eq_some h
      exact ⟨.wake cause now, r.taken? cause, by simp only [perform?, ha, hc]⟩
  | _ => exact ⟨.work now, none, perform?_work (by simp [ha]) h⟩

/-- The reader that was built of valid settings, before anything happens. -/
def Opens (r : PeriodicReader) : Prop := ∃ config now, build config now = .ok r

theorem Opens.eq_start (h : r.Opens) : ∃ config now, r = start config now := by
  obtain ⟨config, now, hb⟩ := h
  unfold build at hb
  split at hb
  next => cases hb; exact ⟨config, now, rfl⟩
  next => cases hb

instance : Staffed PeriodicReader Unit Event where
  desk := desk
  withDesk d r := { r with desk := d }
  mark _ := ()
  perform? := perform?
  status r := r.activity.status
  Opens := Opens
  Sound := Sound
  desk_withDesk _ _ := rfl
  withDesk_desk _ := rfl
  status_withDesk _ _ := rfl
  sound_withDesk _ _ h := ⟨h.held, h.truthful⟩
  desk_of_opens _ h := by obtain ⟨config, now, rfl⟩ := h.eq_start; rfl
  status_of_opens _ h := by obtain ⟨config, now, rfl⟩ := h.eq_start; rfl
  sound_of_opens _ h := by
    obtain ⟨config, now, rfl⟩ := h.eq_start
    exact ⟨rfl, fun s hs => by cases hs⟩
  sound_perform? _ _ _ _ h hs := hs.works (.of_perform? h hs)
  attends _ _ _ _ h hs := (Works.of_perform? h hs).attends hs.truthful
  bow r k h := by
    obtain ⟨result, ha⟩ := ReaderActivity.eq_of_closed h
    exact ⟨.work 0, _, perform?_work (by simp [ha]) (by simp only [advance?, ha]; rfl), rfl⟩
  leave r h := by
    have ha := ReaderActivity.eq_of_leaving h
    exact ⟨.work 0, _, perform?_work (by simp [ha]) (by simp only [advance?, ha]; rfl), rfl⟩

end PeriodicReader

end Telemetry
