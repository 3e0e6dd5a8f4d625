import Mathlib.Data.List.Perm.Basic
import Telemetry.Proofs.Batch.Account

/-!
# No full batch is left asleep

A producer whose record makes up a full batch reports it, and a report wakes a worker that sleeps.
Reports are not counted: there is one permit, which many producers may have set, and the worker takes
it before it looks at the queue.  Flushes, timed exports and shutdowns take records out of the queue
and leave the permit alone.  A record is in the queue before its producer reports it, and a record
that is refused is not reported.

A batch could be forgotten if the permit was taken by a pass that has looked at the queue for the last
time.  It is not, since the queue is looked at in the step in which the worker goes to sleep, and a
record that comes later is reported anew.
-/

namespace Telemetry

open Worker (CallerId Desk Request Staffed Office)

variable {ρ : Type}

/-- The worker exports full batches as long as there are any. -/
def Activity.IsPassing : Activity ρ → Prop
  | .going .passing | .exporting _ .passing => True
  | _ => False

namespace Batch

variable {p q : Processor ρ} {ds : List (Deed ρ)} {a b : Account ρ} {r : Option (Request Nat)}

/-- Whatever happens, the worker compares the queue with a full batch before it sleeps: in its next
step, or in the one after the end of the exporter call that is under way. -/
def Retests (p : Processor ρ) : Prop :=
  (∀ now, p.advance? now = some (p.pass now, [])) ∨
    p.call?.isSome = true ∧
      ∀ o now, (p.returned o).1.advance? now = some ((p.returned o).1.pass now, [])

theorem retests_of_isPassing (h : p.activity.IsPassing) : Retests p := by
  cases ha : p.activity with
  | going next =>
      cases next with
      | passing => exact .inl fun now => by simp only [Processor.advance?, ha]
      | flushing | draining => rw [ha] at h; exact h.elim
  | exporting batch next =>
      cases next with
      | passing =>
          refine .inr ⟨by simp only [Processor.call?, ha, Option.isSome_some], fun o now => ?_⟩
          simp only [Processor.returned, ha, Resumption.noting, Processor.advance?]
      | flushing | draining => rw [ha] at h; exact h.elim
  | _ => rw [ha] at h; exact h.elim

/-- Somebody knows of a full batch that is in the queue: the permit is set, the worker will look, or a
producer is about to report. -/
def Noticed (a : Account ρ) : Prop :=
  a.processor.config.maxBatchSize ≤ a.processor.queue.size →
    a.processor.permit = true ∨ a.processor.activity.IsPassing ∨ .report ∈ a.halfway

/-- A record that makes up a full batch leaves its producer with the report to do. -/
theorem Noticed.offer (h : Noticed a) (x : ρ) : Noticed (a.offer x) := by
  intro hf
  simp only [Account.offer, Processor.offer, BoundedQueue.push] at hf ⊢
  split at hf
  next hr =>
    rw [if_pos hr]
    rcases h hf with hp | hp | hp
    · exact .inl hp
    · exact .inr (.inl hp)
    · exact .inr (.inr (List.mem_append_left _ hp))
  next hr =>
    rw [if_neg hr]
    have hsize : a.processor.config.maxBatchSize ≤ a.processor.queue.size + 1 := by
      simpa [BoundedQueue.size] using hf
    simp [hsize]

/-- A report that is still to be made stays so until it is made. -/
theorem Noticed.settle {i : Nat} {s : Processor.Aftermath} (h : Noticed a) (hi : a.halfway[i]? = some s) :
    Noticed { a with processor := a.processor.settle s, halfway := a.halfway.eraseIdx i } := by
  have hstays (hs : s ≠ .report) (hm : .report ∈ a.halfway) : .report ∈ a.halfway.eraseIdx i := by
    obtain ⟨hlt, rfl⟩ := List.getElem?_eq_some_iff.1 hi
    rw [← (List.getElem_cons_eraseIdx_perm hlt).mem_iff] at hm
    exact (List.mem_cons.1 hm).resolve_left (Ne.symm hs)
  intro hf
  cases s with
  | report => exact .inl rfl
  | nothing | count => exact (h hf).imp_right (Or.imp_right (hstays (by simp)))

/-- A worker that takes records out leaves a smaller queue, and gives the permit up only for a pass. -/
theorem Noticed.works (h : Noticed a) (hs : a.Sound) (hw : Works a.processor ds q) :
    Noticed (a.noting q ds) := by
  have hpos := hs.valid.batch_pos
  intro hf
  have hother (hn : ¬ a.processor.activity.IsPassing)
      (hq : a.processor.config.maxBatchSize ≤ a.processor.queue.size) :
      a.processor.permit = true ∨ .report ∈ a.halfway := by
    rcases h hq with hp | hp | hp
    · exact .inl hp
    · exact absurd hp hn
    · exact .inr hp
  cases hw with
  | report | tick => exact .inr (.inl trivial)
  | @hand n next hr hn hmax hsize ht =>
      cases next with
      | passing => exact .inr (.inl trivial)
      | flushing | draining =>
          have hi := hr.resolve_left fun hp => by cases hp.2
          have hq : a.processor.config.maxBatchSize ≤ a.processor.queue.size := by
            simp only [Account.noting, BoundedQueue.size, BoundedQueue.handOut,
              List.length_drop] at hf ⊢
            omega
          exact (hother (by rw [hi]; exact id) hq).imp_right .inr
  | @exported batch next o hi =>
      cases next with
      | passing => exact .inr (.inl trivial)
      | flushing | draining => exact (hother (by rw [hi]; exact id) hf).imp_right .inr
  | rest hi hlt => exact absurd hf (Nat.not_le.2 hlt)
  | drainLate | drained => exact absurd hf (Nat.not_le.2 hpos)
  | take hi | flushLate hi | flush hi | flushed hi | closed hi | stop hi | answer hi | bow hi | leave hi =>
      exact (hother (by rw [hi]; exact id) hf).imp_right .inr

theorem Noticed.moves (h : Noticed a) (hs : a.Sound) (hm : Account.Moves a b r) : Noticed b := by
  cases hm with
  | offer => exact h.offer _
  | settle hi => exact h.settle hi
  | works hw => exact h.works hs hw

/-- At every moment of every run, with any producers and callers. -/
theorem full_batch_noticed {o : Office (Account ρ) Nat} (h : o.Reachable)
    (hf : o.machine.processor.config.maxBatchSize ≤ o.machine.processor.queue.size) :
    o.machine.processor.permit = true ∨ Retests o.machine.processor ∨ .report ∈ o.machine.halfway := by
  have hn : Noticed o.machine := by
    obtain ⟨a, ha, hs⟩ := h
    refine (hs.keeps (P := Noticed) (fun _ _ _ _ hp hs hn => hn.moves hs (.of_perform? hp hs))
      (fun _ _ hn => hn) (Staffed.sound_of_opens a ha) ?_).1
    -- a processor opens with an empty queue
    have hpos := (Account.Opens.sound ha).valid.batch_pos
    obtain ⟨config, now, p, hb, rfl⟩ := ha
    obtain ⟨-, rfl⟩ := Account.build_eq_ok_iff.1 hb
    exact fun hle => absurd hle (Nat.not_le.2 hpos)
  exact (hn hf).imp_right (Or.imp_left retests_of_isPassing)

/-- The permit was taken for a batch that a flush had exported before, and the worker sleeps again when
two more records come; the producer of the second one has not reported them yet. -/
theorem full_batch_noticed_of_stale_permit :
    ∃ o : Office (Account Nat) Nat, o.machine.processor.config.maxBatchSize ≤ o.machine.processor.queue.size ∧
      o.machine.handed = [[1, 2]] ∧ o.machine.processor.queue.items = [3, 4] ∧
      o.machine.processor.activity = .idle ∧ o.machine.processor.permit = false ∧
      o.machine.halfway = [.report] ∧
      (o.machine.processor.permit = true ∨ Retests o.machine.processor ∨ .report ∈ o.machine.halfway) := by
  have hr : Office.Reachable (α := Account Nat) _ :=
    ⟨.opened (Processor.start ⟨4, 0, 2, 5⟩ 0), ⟨⟨4, 0, 2, 5⟩, 0, _, rfl, rfl⟩,
      Office.steps_of_run? [.inside (.offer 1), .inside (.settle 0), .inside (.offer 2),
        .inside (.settle 0), .flush 7, .step 7 5 0, .step 7 5 0, .inside (.wake .control 1),
        .inside (.work 1), .inside (.conclude (.returned (.ok ()))), .inside (.work 1),
        .inside (.conclude (.returned (.ok ()))), .inside (.work 1), .inside (.wake .report 2),
        .inside (.work 2), .inside (.offer 3), .inside (.settle 0), .inside (.offer 4)] rfl⟩
  exact ⟨_, by decide, rfl, rfl, rfl, rfl, rfl, full_batch_noticed hr (by decide)⟩

end Batch

end Telemetry
