import Telemetry.Proofs.Batch.Works
import Telemetry.Proofs.Worker.Office

/-!
# Processors and their accounts

An *account* is a processor together with what has been seen of it: how many records were offered
and which were accepted, and the deeds of its worker.  Its events are the steps that the processor
has, taken in any order in which they are possible.  An `enqueue` is two of them, since its record is
in the queue or refused before the producer reports a full batch or counts the record as dropped.  A
worker that sleeps may be woken by anything that is the case, also by what would not come first.
Whatever the worker does by itself is among the events (`perform?_of_advance?`).  Nobody lets go of
the processor as long as it is in use, so that is not one of them.

An account is a machine that serves a desk, so that offices of accounts are processors with
everybody who uses them.
-/

namespace Telemetry.Batch

open Worker (CallerId Desk Request Attends Staffed)

variable {ρ : Type}

/-! ## Accounts -/

/-- A processor and what has been seen of it. -/
structure Account (ρ : Type) where
  processor : Processor ρ
  /-- How many calls of `enqueue` have been made. -/
  offered : Nat
  /-- What is still to do in those calls of `enqueue` that have not ended. -/
  halfway : List Processor.Aftermath
  accepted : List ρ
  /-- How many records were refused. -/
  rejected : Nat
  deeds : List (Deed ρ)

/-- What can happen to a processor apart from its desk. -/
inductive Event (ρ : Type) where
  | offer (r : ρ)
  | settle (i : Nat)
  | wake (cause : Processor.Waking) (now : Nat)
  | work (now : Nat)
  | conclude (o : Outcome ExportResult)

namespace Account

/-- The account of a processor of which nothing was seen. -/
def opened (p : Processor ρ) : Account ρ := ⟨p, 0, [], [], 0, []⟩

/-- The batches that were handed to the exporter, oldest first. -/
def handed (a : Account ρ) : List (List ρ) := a.deeds.filterMap Deed.batch?

/-- The batches whose export has ended. -/
def exported (a : Account ρ) : List (List ρ) := a.deeds.filterMap Deed.exported?

/-- The records that were discarded. -/
def discarded (a : Account ρ) : List ρ := a.deeds.flatMap Deed.discarded

/-- The calls of the exporter that have begun. -/
def calls (a : Account ρ) : List (ExporterCall ρ) := a.deeds.filterMap Deed.call?

/-- The account after the first half of an `enqueue`. -/
def offer (a : Account ρ) (r : ρ) : Account ρ :=
  let (p, s) := a.processor.offer r
  { a with
    processor := p
    offered := a.offered + 1
    halfway := a.halfway ++ [s]
    accepted := if s = .count then a.accepted else a.accepted ++ [r]
    rejected := if s = .count then a.rejected + 1 else a.rejected }

/-- The account after a step of the worker. -/
def noting (a : Account ρ) (p : Processor ρ) (ds : List (Deed ρ)) : Account ρ :=
  { a with processor := p, deeds := a.deeds ++ ds }

/-- The account after an event, if it is possible, with the request that the worker takes up. -/
def perform? (e : Event ρ) (a : Account ρ) : Option (Account ρ × Option (Request Nat)) :=
  match e with
  | .offer r => some (a.offer r, none)
  | .settle i =>
    match a.halfway[i]? with
    | none => none
    | some s =>
      some ({ a with processor := a.processor.settle s, halfway := a.halfway.eraseIdx i }, none)
  | .wake cause now =>
    match a.processor.activity, a.processor.rouse? now cause with
    | .idle, some (p, _) =>
      let r := taken? a.processor cause
      some (a.noting p (Batch.deeds a.processor now r p), r)
    | _, _ => none
  | .work now =>
    match a.processor.activity, a.processor.advance? now with
    | .idle, _ => none
    | _, some (p, _) => some (a.noting p (Batch.deeds a.processor now none p), none)
    | _, none => none
  | .conclude o =>
    match a.processor.call? with
    | none => none
    | some c => some (a.noting (a.processor.returned o).1 [.ended c o], none)

/-- What can become of an account in one event. -/
inductive Moves (a : Account ρ) : Account ρ → Option (Request Nat) → Prop where
  | offer {r} : Moves a (a.offer r) none
  | settle {i s} : a.halfway[i]? = some s → Moves a
      { a with processor := a.processor.settle s, halfway := a.halfway.eraseIdx i } none
  | works {p ds} : Works a.processor ds p → Moves a (a.noting p ds) (ds.findSome? Deed.request?)

theorem request?_deeds (p q : Processor ρ) (now : Nat) (r : Option (Request Nat))
    (h : p.activity = .idle ∨ r = none) : (Batch.deeds p now r q).findSome? Deed.request? = r := by
  have hq : (q.call?.map (.began)).toList.findSome? (Deed.request? (ρ := ρ)) = none := by
    cases q.call? <;> rfl
  rw [Batch.deeds, List.findSome?_append, hq, Option.or_none]
  rcases h with hi | rfl
  · rw [hi]
    cases r <;> rfl
  · split
    next => split <;> rfl
    next => split <;> rfl
    all_goals rfl

/-- The settings are valid, somebody holds the processor, and no result says that it is gone. -/
structure Sound (a : Account ρ) : Prop where
  valid : a.processor.config.Valid
  held : a.processor.isOrphan = false
  truthful : ∀ r, a.processor.activity.result? = some r → r ≠ .error .workerGone

theorem Moves.of_perform? {e : Event ρ} {a b : Account ρ} {r : Option (Request Nat)}
    (h : perform? e a = some (b, r)) (hs : a.Sound) : Moves a b r := by
  cases e with
  | offer x => cases h; exact .offer
  | settle i =>
      simp only [perform?] at h
      split at h
      next => cases h
      next s hi => cases h; exact .settle hi
  | wake cause now =>
      simp only [perform?] at h
      split at h
      next p _ hi hr =>
        cases h
        have hm := Moves.works (.of_rouse? hi hs.held hr)
        rwa [request?_deeds _ _ _ _ (.inl hi)] at hm
      next => cases h
  | work now =>
      simp only [perform?] at h
      split at h
      next => cases h
      next p _ hp hi =>
        cases h
        have hm := Moves.works (.of_advance? hi hs.valid.batch_pos hp)
        rwa [request?_deeds _ _ _ _ (.inr rfl)] at hm
      next => cases h
  | conclude o =>
      simp only [perform?] at h
      split at h
      next => cases h
      next c hc => cases h; exact .works (.of_returned o hc)

theorem Sound.moves {a b : Account ρ} {r : Option (Request Nat)} (h : a.Sound) (hm : Moves a b r) :
    b.Sound := by
  cases hm with
  | offer => exact ⟨h.valid, h.held, h.truthful⟩
  | @settle i s => cases s <;> exact ⟨h.valid, h.held, h.truthful⟩
  | works hw =>
      refine ⟨?_, ?_, hw.truthful h.truthful⟩
      · rw [noting, hw.frame.1]; exact h.valid
      · rw [noting, hw.frame.2]; exact h.held

theorem Moves.attends {a b : Account ρ} {r : Option (Request Nat)} (hm : Moves a b r)
    (h : a.Sound) : Attends a.processor.desk a.processor.activity.status r b.processor.desk
      b.processor.activity.status := by
  cases hm with
  | offer => exact .elsewhere
  | @settle i s => cases s <;> exact .elsewhere
  | works hw => exact hw.attends h.truthful

/-- The account of a processor that was built of valid settings, before anything happens. -/
def Opens (a : Account ρ) : Prop :=
  ∃ config now p, Processor.build config now = .ok p ∧ a = opened p

theorem build_eq_ok_iff {config : BatchConfig} {now : Nat} {p : Processor ρ} :
    Processor.build config now = .ok p ↔
      config.validate = .ok () ∧ p = Processor.start config now := by
  unfold Processor.build
  split
  next hv =>
    constructor
    · intro h
      cases h
      exact ⟨hv, rfl⟩
    · rintro ⟨_, rfl⟩
      rfl
  next e hv =>
    rw [hv]
    constructor
    · intro h
      cases h
    · rintro ⟨h, _⟩
      cases h

theorem Opens.sound {a : Account ρ} (h : a.Opens) : a.Sound := by
  obtain ⟨config, now, p, hb, rfl⟩ := h
  obtain ⟨hv, rfl⟩ := build_eq_ok_iff.1 hb
  exact ⟨BatchConfig.validate_eq_ok_iff.1 hv, rfl, fun r hr => by cases hr⟩

theorem perform?_work {a : Account ρ} {p : Processor ρ} {now : Nat} {logs : List LogEntry}
    (hi : a.processor.activity ≠ .idle) (h : a.processor.advance? now = some (p, logs)) :
    perform? (.work now) a = some (a.noting p (Batch.deeds a.processor now none p), none) := by
  simp only [perform?]
  split
  next ha => exact absurd ha hi
  next p' logs' hp _ => rw [h] at hp; cases hp; rfl
  next hp _ => rw [h] at hp; cases hp

/-- The events cover whatever the worker does by itself. -/
theorem perform?_of_advance? {a : Account ρ} {p : Processor ρ} {now : Nat} {logs : List LogEntry}
    (h : a.processor.advance? now = some (p, logs)) :
    ∃ e b r, perform? e a = some (b, r) ∧ b.processor = p := by
  cases ha : a.processor.activity with
  | idle =>
      simp only [Processor.advance?, ha, Processor.wake?] at h
      obtain ⟨cause, _, hc⟩ := List.exists_of_findSome?_eq_some h
      refine ⟨.wake cause now, a.noting p (Batch.deeds a.processor now (taken? a.processor cause) p),
        taken? a.processor cause, ?_, rfl⟩
      simp only [perform?, ha, hc]
  | _ => exact ⟨.work now, _, _, perform?_work (by simp [ha]) h, rfl⟩

instance : Staffed (Account ρ) Nat (Event ρ) where
  desk a := a.processor.desk
  withDesk d a := { a with processor := { a.processor with desk := d } }
  mark a := a.processor.queue.pushed
  perform? := perform?
  status a := a.processor.activity.status
  Opens := Opens
  Sound := Sound
  desk_withDesk _ _ := rfl
  withDesk_desk _ := rfl
  status_withDesk _ _ := rfl
  sound_withDesk _ _ h := ⟨h.valid, h.held, h.truthful⟩
  desk_of_opens a h := by
    obtain ⟨config, now, p, hb, rfl⟩ := h
    rw [(build_eq_ok_iff.1 hb).2]
    rfl
  status_of_opens a h := by
    obtain ⟨config, now, p, hb, rfl⟩ := h
    rw [(build_eq_ok_iff.1 hb).2]
    rfl
  sound_of_opens _ h := h.sound
  sound_perform? _ _ _ _ h hs := hs.moves (.of_perform? h hs)
  attends _ _ _ _ h hs := (Moves.of_perform? h hs).attends hs
  bow a k h := by
    obtain ⟨result, ha⟩ := Activity.eq_of_closed h
    exact ⟨.work 0, _, perform?_work (by simp [ha]) (by simp only [Processor.advance?, ha]; rfl), rfl⟩
  leave a h := by
    have ha := Activity.eq_of_leaving h
    exact ⟨.work 0, _, perform?_work (by simp [ha]) (by simp only [Processor.advance?, ha]; rfl), rfl⟩

end Account

end Telemetry.Batch
