import Mathlib.Data.List.Perm.Basic
import Telemetry.Proofs.Batch.Account

/-!
# Conservation of records

Whatever producers, callers and the exporter do, no record that was accepted is lost, doubled or
moved: the batches that were handed to the exporter, what was discarded, and what waits make up the
accepted records in the order of their acceptance.  An export that fails or panics changes nothing
about that.

All the ways in which a worker takes records out of the queue come down to three (`Works.pops`).  It
takes none, it hands some of the oldest ones to the exporter, or it closes the queue and discards
what is left.  `Balanced` is the invariant that relates the queue and the counters to the deeds.
-/

namespace Telemetry.Batch

open Worker (CallerId Desk Request Staffed Office)

variable {ρ : Type} {config : BatchConfig} {p q : Processor ρ} {ds : List (Deed ρ)}

/-! ## What a step does to the queue -/

/-- What a worker takes out of the queue: the batches that it hands over and what it discards, then
the queue that is left and the count of dropped records. -/
inductive Pops (p : Processor ρ) : List (List ρ) → List ρ → BoundedQueue ρ → Nat → Prop where
  | nothing : Pops p [] [] p.queue p.dropped
  | batch {n} : (p.queue.handOut n).2 ≠ [] → n ≤ p.config.maxBatchSize → n ≤ p.queue.size →
      Pops p [(p.queue.handOut n).2] [] (p.queue.handOut n).1 p.dropped
  | rest : Pops p [] p.queue.items p.queue.close.1 (p.dropped + p.queue.size)

theorem Works.pops (h : Works p ds q) :
    Pops p (ds.filterMap Deed.batch?) (ds.flatMap Deed.discarded) q.queue q.dropped := by
  cases h with
  | hand _ hn hm hs _ => exact .batch hn hm hs
  | drainLate =>
      have hr := Pops.rest (p := p)
      rw [← List.append_nil p.queue.items] at hr
      exact hr
  | @drained k deadline result timeout _ hi =>
      have hr := Pops.rest (p := p)
      simp only [hi, BoundedQueue.size, List.length_nil, Nat.add_zero] at hr
      exact hr
  | _ => exact .nothing

/-! ## The invariant -/

/-- What the queue, the counters and the deeds of an account have to do with one another. -/
structure Balanced (config : BatchConfig) (a : Account ρ) : Prop where
  settings : a.processor.config = config
  capacity : a.processor.queue.capacity = config.maxQueueSize
  conserved : a.handed.flatten ++ a.discarded ++ a.processor.queue.items = a.accepted
  pushed : a.processor.queue.pushed = a.accepted.length
  popped : a.processor.queue.popped = a.handed.flatten.length + a.discarded.length
  bounded : a.processor.queue.size ≤ config.maxQueueSize
  batches : ∀ b ∈ a.handed, 1 ≤ b.length ∧ b.length ≤ config.maxBatchSize
  offers : a.offered = a.accepted.length + a.rejected
  drops : a.processor.dropped + a.halfway.count .count = a.rejected + a.discarded.length
  emptied : a.processor.queue.closed = true → a.processor.queue.items = []
  closed : a.discarded ≠ [] → a.processor.queue.closed = true

theorem Balanced.opened (now : Nat) :
    Balanced config (.opened (Processor.start config now) : Account ρ) := by
  constructor <;>
    simp [Account.opened, Processor.start, BoundedQueue.ofCapacity, Account.handed,
      Account.discarded, BoundedQueue.size]

/-! ## Producers -/

/-- A record that is offered is refused, or it is the last one in the queue. -/
theorem offer_cases (p : Processor ρ) (r : ρ) :
    p.offer r = (p, .count) ∨
      p.queue.closed = false ∧ p.queue.size < p.queue.capacity ∧ ∃ s, s ≠ .count ∧
        p.offer r = ({ p with queue := { p.queue with
          items := p.queue.items ++ [r], pushed := p.queue.pushed + 1 } }, s) := by
  by_cases h : p.queue.closed = true ∨ p.queue.capacity ≤ p.queue.size
  · exact .inl (by rw [Processor.offer, BoundedQueue.push, if_pos h])
  · have hc : p.queue.closed = false := by
      cases hq : p.queue.closed with
      | false => rfl
      | true => exact absurd (.inl hq) h
    refine .inr ⟨hc, Nat.lt_of_not_le fun hl => h (.inr hl), ?_⟩
    refine ⟨if p.config.maxBatchSize ≤ p.queue.size + 1 then .report else .nothing, ?_, ?_⟩
    · split <;> simp
    · rw [Processor.offer, BoundedQueue.push, if_neg h]

theorem Account.offer_cases (a : Account ρ) (r : ρ) :
    a.offer r = { a with
        offered := a.offered + 1
        halfway := a.halfway ++ [.count]
        rejected := a.rejected + 1 } ∨
      a.processor.queue.closed = false ∧ a.processor.queue.size < a.processor.queue.capacity ∧
        ∃ s, s ≠ .count ∧ a.offer r = { a with
          processor := { a.processor with queue := { a.processor.queue with
            items := a.processor.queue.items ++ [r], pushed := a.processor.queue.pushed + 1 } }
          offered := a.offered + 1
          halfway := a.halfway ++ [s]
          accepted := a.accepted ++ [r] } := by
  rcases Batch.offer_cases a.processor r with he | ⟨hc, hs, s, hne, he⟩
  · exact .inl (by simp only [offer, he, ↓reduceIte])
  · exact .inr ⟨hc, hs, s, hne, by simp only [offer, he, hne, ↓reduceIte]⟩

theorem Balanced.offer {a : Account ρ} (h : Balanced config a) (r : ρ) :
    Balanced config (a.offer r) := by
  have ho := h.offers
  rcases a.offer_cases r with he | ⟨hc, hs, s, hne, he⟩ <;> rw [he]
  · refine ⟨h.settings, h.capacity, h.conserved, h.pushed, h.popped, h.bounded, h.batches, ?_, ?_,
      h.emptied, h.closed⟩
    · simp only
      omega
    · have := h.drops
      simp only [List.count_append, List.count_singleton_self]
      show a.processor.dropped + (a.halfway.count .count + 1) = a.rejected + 1 + a.discarded.length
      omega
  · refine ⟨h.settings, h.capacity, ?_, ?_, h.popped, ?_, h.batches, ?_, ?_, ?_, h.closed⟩
    · rw [← h.conserved]
      simp [Account.handed, Account.discarded]
    · simp [h.pushed]
    · rw [h.capacity] at hs
      simp only [BoundedQueue.size, List.length_append, List.length_singleton] at hs ⊢
      omega
    · simp only [List.length_append, List.length_singleton]
      omega
    · simpa [Account.discarded, List.count_singleton, hne] using h.drops
    · intro hcl
      rw [hc] at hcl
      cases hcl

theorem count_eraseIdx {l : List Processor.Aftermath} {i : Nat} {s : Processor.Aftermath}
    (hi : l[i]? = some s) : l.count .count =
      (l.eraseIdx i).count .count + if s = .count then 1 else 0 := by
  obtain ⟨hlt, rfl⟩ := List.getElem?_eq_some_iff.1 hi
  rw [← (List.getElem_cons_eraseIdx_perm hlt).count_eq, List.count_cons]
  simp only [beq_iff_eq]

theorem Balanced.settle {a : Account ρ} (h : Balanced config a) {i : Nat}
    {s : Processor.Aftermath} (hi : a.halfway[i]? = some s) :
    Balanced config
      { a with processor := a.processor.settle s, halfway := a.halfway.eraseIdx i } := by
  have hd := h.drops
  rw [count_eraseIdx hi] at hd
  cases s with
  | report | nothing =>
      exact ⟨h.settings, h.capacity, h.conserved, h.pushed, h.popped, h.bounded, h.batches,
        h.offers, hd, h.emptied, h.closed⟩
  | count =>
      refine ⟨h.settings, h.capacity, h.conserved, h.pushed, h.popped, h.bounded, h.batches,
        h.offers, ?_, h.emptied, h.closed⟩
      simp only [↓reduceIte] at hd
      simp only [Processor.settle]
      show _ = a.rejected + a.discarded.length
      omega

/-! ## Whole calls of `enqueue` -/

/-- A call of `enqueue` in which nobody comes between its halves takes a record that the queue has a
place for, and counts any other one. -/
theorem Account.exists_enqueued (a : Account ρ) (r : ρ) :
    ∃ a₁ a₂, perform? (.offer r) a = some (a₁, none) ∧
      perform? (.settle a.halfway.length) a₁ = some (a₂, none) ∧
      a₂.processor = a.processor.enqueue r ∧ a₂.halfway = a.halfway ∧ a₂.deeds = a.deeds ∧
      a₂.offered = a.offered + 1 ∧
      (a₂.accepted = a.accepted ++ [r] ∧ a₂.processor.dropped = a.processor.dropped ∨
        a₂.accepted = a.accepted ∧ a₂.processor.dropped = a.processor.dropped + 1) := by
  have hlast : (a.offer r).halfway[a.halfway.length]? = some (a.processor.offer r).2 :=
    List.getElem?_concat_length
  refine ⟨a.offer r, { a.offer r with
      processor := a.processor.enqueue r
      halfway := (a.offer r).halfway.eraseIdx a.halfway.length },
    rfl, by simp only [perform?, hlast]; rfl, rfl, ?_, rfl, rfl, ?_⟩
  · exact (List.eraseIdx_append_of_length_le (Nat.le_refl _) _).trans (by simp)
  · rcases Batch.offer_cases a.processor r with he | ⟨-, -, s, hne, he⟩
    · exact .inr ⟨by simp [offer, he], by simp [Processor.enqueue, he, Processor.settle]⟩
    · refine .inl ⟨by simp [offer, he, hne], ?_⟩
      cases s <;> simp_all [Processor.enqueue, Processor.settle]

/-- What becomes of an office when some records are enqueued in it and nobody else does anything. -/
structure Enqueued (rs : List ρ) (o o' : Office (Account ρ) Nat) : Prop where
  processor : o'.machine.processor = rs.foldl Processor.enqueue o.machine.processor
  callers : o'.callers = o.callers
  handled : o'.handled = o.handled
  halfway : o'.machine.halfway = o.machine.halfway
  deeds : o'.machine.deeds = o.machine.deeds
  offered : o'.machine.offered = o.machine.offered + rs.length
  /-- Some of the records are accepted, in order, and the others are counted as dropped. -/
  accepted : ∃ taken, taken.Sublist rs ∧ o'.machine.accepted = o.machine.accepted ++ taken ∧
    o'.machine.processor.dropped + taken.length = o.machine.processor.dropped + rs.length

/-- Records can be enqueued at any time, each in one go. -/
theorem exists_enqueued (o : Office (Account ρ) Nat) (rs : List ρ) :
    ∃ o', o.Steps o' ∧ Enqueued rs o o' := by
  induction rs generalizing o with
  | nil => exact ⟨o, .refl, rfl, rfl, rfl, rfl, rfl, rfl, [], .slnil, by simp, rfl⟩
  | cons r rs ih =>
      obtain ⟨a₁, a₂, h₁, h₂, hp, hh, hd, ho, hr⟩ := o.machine.exists_enqueued r
      obtain ⟨o', hs, h'⟩ := ih { o with machine := a₂ }
      obtain ⟨taken, hsub, hacc, hdrop⟩ := h'.accepted
      have hsteps : o.Steps { o with machine := a₂ } :=
        (Office.steps_inside h₁).trans (Office.steps_inside (o := { o with machine := a₁ }) h₂)
      refine ⟨o', hsteps.trans hs, h'.processor.trans (by rw [hp]; rfl), h'.callers, h'.handled,
        h'.halfway.trans hh, h'.deeds.trans hd, ?_, ?_⟩
      · rw [h'.offered, ho, List.length_cons]
        omega
      · rw [List.length_cons]
        rcases hr with ⟨ha, hn⟩ | ⟨ha, hn⟩ <;> simp only [ha, hn] at hacc hdrop
        · exact ⟨r :: taken, hsub.cons_cons r, by rw [hacc]; simp, by rw [List.length_cons]; omega⟩
        · exact ⟨taken, hsub.cons r, hacc, by omega⟩

/-! ## The worker -/

@[simp] theorem handed_noting (a : Account ρ) :
    (a.noting q ds).handed = a.handed ++ ds.filterMap Deed.batch? := List.filterMap_append

@[simp] theorem discarded_noting (a : Account ρ) :
    (a.noting q ds).discarded = a.discarded ++ ds.flatMap Deed.discarded := List.flatMap_append

theorem length_handOut {b : BoundedQueue ρ} {n : Nat} (h : n ≤ b.size) :
    (b.handOut n).2.length = n := List.length_take_of_le h

/-- A queue that holds something has discarded nothing so far. -/
theorem Balanced.discarded_eq_nil {a : Account ρ} (h : Balanced config a)
    (hq : a.processor.queue.items ≠ []) : a.discarded = [] := by
  cases hd : a.discarded with
  | nil => rfl
  | cons r rs => exact absurd (h.emptied (h.closed (by simp [hd]))) hq

section Works

variable {a : Account ρ} (hset : q.config = config)
include hset

/-- A step that takes nothing out of the queue keeps the invariant. -/
theorem Balanced.untouched (h : Balanced config a) (hq : q.queue = a.processor.queue)
    (hdr : q.dropped = a.processor.dropped) (hb : ds.filterMap Deed.batch? = [])
    (hr : ds.flatMap Deed.discarded = []) : Balanced config (a.noting q ds) := by
  have hh : (a.noting q ds).handed = a.handed := by rw [handed_noting, hb, List.append_nil]
  have hd : (a.noting q ds).discarded = a.discarded := by rw [discarded_noting, hr, List.append_nil]
  have hpr : (a.noting q ds).processor = q := rfl
  refine ⟨hset, ?_, ?_, ?_, ?_, ?_, ?_, h.offers, ?_, ?_, ?_⟩
  · rw [hpr, hq]; exact h.capacity
  · rw [hpr, hq, hh, hd]; exact h.conserved
  · rw [hpr, hq]; exact h.pushed
  · rw [hpr, hq, hh, hd]; exact h.popped
  · rw [hpr, hq]; exact h.bounded
  · rw [hh]; exact h.batches
  · rw [hpr, hdr, hd]; exact h.drops
  · rw [hpr, hq]; exact h.emptied
  · rw [hpr, hq, hd]; exact h.closed

/-- A batch that is handed over moves records from the front of the queue to the end of what was
handed over.  Nothing was discarded by then, since the queue holds something. -/
theorem Balanced.handedOver {n : Nat} (h : Balanced config a)
    (hn : (a.processor.queue.handOut n).2 ≠ []) (hm : n ≤ config.maxBatchSize)
    (hs : n ≤ a.processor.queue.size) (hq : q.queue = (a.processor.queue.handOut n).1)
    (hdr : q.dropped = a.processor.dropped)
    (hb : ds.filterMap Deed.batch? = [(a.processor.queue.handOut n).2])
    (hr : ds.flatMap Deed.discarded = []) : Balanced config (a.noting q ds) := by
  have hh : (a.noting q ds).handed = a.handed ++ [(a.processor.queue.handOut n).2] := by
    rw [handed_noting, hb]
  have hd : (a.noting q ds).discarded = a.discarded := by rw [discarded_noting, hr, List.append_nil]
  have hpr : (a.noting q ds).processor = q := rfl
  have hlen := length_handOut hs
  have hnil : a.discarded = [] := by
    refine h.discarded_eq_nil fun hi => hn ?_
    simp [BoundedQueue.handOut, hi]
  have happ : (a.handed ++ [(a.processor.queue.handOut n).2]).flatten =
      a.handed.flatten ++ (a.processor.queue.handOut n).2 := by simp
  refine ⟨hset, ?_, ?_, ?_, ?_, ?_, ?_, h.offers, ?_, ?_, ?_⟩
  · rw [hpr, hq]; exact h.capacity
  · have hc := h.conserved
    rw [hpr, hq, hh, hd, hnil, happ]
    rw [hnil, List.append_nil] at hc
    rw [List.append_nil, List.append_assoc, BoundedQueue.handOut, List.take_append_drop]
    exact hc
  · rw [hpr, hq]; exact h.pushed
  · rw [hpr, hq, hh, hd, happ, List.length_append, hlen]
    have := h.popped
    simp only [BoundedQueue.handOut]
    omega
  · rw [hpr, hq]
    have := h.bounded
    simp only [BoundedQueue.size, BoundedQueue.handOut, List.length_drop] at this ⊢
    omega
  · rw [hh]
    intro b hb
    rcases List.mem_append.1 hb with hb | hb
    · exact h.batches b hb
    · have hpos := List.length_pos_iff.2 hn
      rw [List.mem_singleton.1 hb, hlen]
      omega
  · rw [hpr, hdr, hd]; exact h.drops
  · rw [hpr, hq]
    intro hcl
    simp only [BoundedQueue.handOut] at hcl ⊢
    rw [h.emptied hcl, List.drop_nil]
  · rw [hpr, hq, hd]; exact h.closed

/-- Closing the queue moves what is left of it to what was discarded. -/
theorem Balanced.shut (h : Balanced config a) (hq : q.queue = a.processor.queue.close.1)
    (hdr : q.dropped = a.processor.dropped + a.processor.queue.size)
    (hb : ds.filterMap Deed.batch? = [])
    (hr : ds.flatMap Deed.discarded = a.processor.queue.items) : Balanced config (a.noting q ds) := by
  have hh : (a.noting q ds).handed = a.handed := by rw [handed_noting, hb, List.append_nil]
  have hd : (a.noting q ds).discarded = a.discarded ++ a.processor.queue.items := by
    rw [discarded_noting, hr]
  have hpr : (a.noting q ds).processor = q := rfl
  refine ⟨hset, ?_, ?_, ?_, ?_, ?_, ?_, h.offers, ?_, ?_, ?_⟩
  · rw [hpr, hq]; exact h.capacity
  · rw [hpr, hq, hh, hd, BoundedQueue.close, List.append_nil, ← List.append_assoc]
    exact h.conserved
  · rw [hpr, hq]; exact h.pushed
  · rw [hpr, hq, hh, hd, List.length_append, ← Nat.add_assoc, ← h.popped]
    rfl
  · rw [hpr, hq]; exact Nat.zero_le _
  · rw [hh]; exact h.batches
  · rw [hpr, hdr, hd, List.length_append]
    have := h.drops
    simp only [BoundedQueue.size]
    show _ + a.halfway.count .count = a.rejected + _
    omega
  · rw [hpr, hq]; exact fun _ => rfl
  · rw [hpr, hq]; exact fun _ => rfl

end Works

theorem Balanced.works {a : Account ρ} (h : Balanced config a) (hw : Works a.processor ds q) :
    Balanced config (a.noting q ds) := by
  have hset : q.config = config := hw.frame.1.trans h.settings
  have hp := hw.pops
  generalize hb : ds.filterMap Deed.batch? = bs at hp
  generalize hr : ds.flatMap Deed.discarded = rs at hp
  generalize hq : q.queue = queue at hp
  generalize hdr : q.dropped = dropped at hp
  cases hp with
  | nothing => exact h.untouched hset hq hdr hb hr
  | batch hn hm hs => exact h.handedOver hset hn (h.settings ▸ hm) hs hq hdr hb hr
  | rest => exact h.shut hset hq hdr hb hr

theorem Balanced.moves {a b : Account ρ} {r : Option (Request Nat)} (h : Balanced config a)
    (hm : Account.Moves a b r) : Balanced config b := by
  cases hm with
  | offer => exact h.offer _
  | settle hi => exact h.settle hi
  | works hw => exact h.works hw

/-- Callers leave the account alone. -/
theorem Balanced.withDesk {a : Account ρ} (h : Balanced config a) (d : Desk Nat) :
    Balanced config (Staffed.withDesk d a) :=
  ⟨h.settings, h.capacity, h.conserved, h.pushed, h.popped, h.bounded, h.batches, h.offers, h.drops,
    h.emptied, h.closed⟩

theorem Balanced.steps {o o' : Office (Account ρ) Nat} (h : Balanced config o.machine)
    (hs : o.Steps o') (ho : o.machine.Sound) : Balanced config o'.machine :=
  (hs.keeps (P := Balanced config) (fun _ _ _ _ hp hs hb => hb.moves (.of_perform? hp hs))
    (fun d _ hb => hb.withDesk d) ho h).1

/-! ## Conservation -/

/-- What a reader of the deeds and the counters can tell at any time.  The refused records of calls
of `enqueue` that are half way have not been counted as dropped yet. -/
structure Conserved (config : BatchConfig) (a : Account ρ) : Prop where
  sequence : a.handed.flatten ++ a.discarded ++ a.processor.queue.items = a.accepted
  batches : ∀ b ∈ a.handed, 1 ≤ b.length ∧ b.length ≤ config.maxBatchSize
  bounded : a.processor.queue.size ≤ config.maxQueueSize
  offers : a.offered = a.accepted.length + a.rejected
  drops : a.processor.dropped + a.halfway.count .count = a.rejected + a.discarded.length

theorem records_conserved {now : Nat} {p : Processor ρ} (hb : Processor.build config now = .ok p)
    {o : Office (Account ρ) Nat} (hs : Office.Steps (.opened (.opened p)) o) :
    Conserved config o.machine := by
  obtain ⟨hv, rfl⟩ := Account.build_eq_ok_iff.1 hb
  have ho : (Account.opened (Processor.start config now : Processor ρ)).Sound :=
    Account.Opens.sound ⟨config, now, _, hb, rfl⟩
  have h := (Balanced.opened now).steps hs ho
  exact ⟨h.conserved, h.batches, h.bounded, h.offers, h.drops⟩

/-- The first export panics, the third record finds the queue full, and the second one is discarded by
a shutdown that comes too late. -/
theorem records_conserved_after_panic :
    ∃ o : Office (Account Nat) Nat, o.machine.handed = [[1]] ∧ o.machine.discarded = [2] ∧
      o.machine.accepted = [1, 2] ∧ o.machine.processor.dropped = 2 ∧ o.machine.halfway = [] ∧
      Conserved ⟨2, 0, 1, 5⟩ o.machine := by
  have hb : Processor.build ⟨2, 0, 1, 5⟩ 0 = .ok (Processor.start ⟨2, 0, 1, 5⟩ 0 : Processor Nat) :=
    rfl
  have h := records_conserved hb (Office.steps_of_run?
    [.inside (.offer 1), .shutdown 7, .inside (.offer 2), .inside (.settle 1), .inside (.offer 3),
      .inside (.settle 0), .inside (.settle 0), .step 7 5 0, .step 7 5 0, .step 7 5 0, .step 7 5 0,
      .inside (.wake .control 1), .inside (.work 2), .inside (.conclude .panicked),
      .inside (.work 9)] rfl)
  exact ⟨_, rfl, rfl, rfl, rfl, rfl, h⟩

end Telemetry.Batch
