import Mathlib.Data.List.Induction
import Telemetry.Batch.Queue

/-!
# What a queue stands for

A queue with its two counters stands for a sequence of accepted records that is cut in two: what was
handed out, and what still waits (`Represents`).  Whatever is done with a queue, this sequence only
grows at its end, and the cut only moves towards the end.  So the number of records that were handed
out is where the cut is, and a target for this number tells which of the waiting records lie before it.

Counters are natural numbers here.  As long as a queue has accepted fewer records than a word of
64 bits can count, neither of them leaves this range, and a pop without a target is one with the
greatest word as its target.
-/

namespace Telemetry.BoundedQueue

variable {ρ : Type}

/-! ## Histories -/

/-- What is done with a queue. -/
inductive Act (ρ : Type) where
  | push (r : ρ)
  | popBatch (max : Nat)
  | popUntil (max target : Nat)
  | close
deriving DecidableEq

/-- A queue with the records that it has accepted, and those that it has handed out. -/
structure History (ρ : Type) where
  queue : BoundedQueue ρ
  accepted : List ρ
  handed : List ρ

namespace History

/-- The history of a queue that was not used. -/
def opened (capacity : Nat) : History ρ := ⟨.ofCapacity capacity, [], []⟩

/-- The history after some records were handed out. -/
def handing (h : History ρ) (popped : BoundedQueue ρ × List ρ) : History ρ :=
  { h with queue := popped.1, handed := h.handed ++ popped.2 }

def perform (h : History ρ) : Act ρ → History ρ
  | .push r =>
    match h.queue.push r with
    | (q, .ok _) => { h with queue := q, accepted := h.accepted ++ [r] }
    | (q, .error _) => { h with queue := q }
  | .popBatch max => h.handing (h.queue.popBatch max)
  | .popUntil max target => h.handing (h.queue.popUntil max target)
  | .close => h.handing h.queue.close

/-- The history of a queue with which some things were done. -/
def after (capacity : Nat) (acts : List (Act ρ)) : History ρ := acts.foldl perform (opened capacity)

theorem after_concat (capacity : Nat) (acts : List (Act ρ)) (a : Act ρ) :
    after capacity (acts ++ [a]) = (after capacity acts).perform a := List.foldl_append

end History

/-! ## Single steps -/

theorem push_of_refused {q : BoundedQueue ρ} (hq : q.closed = true ∨ q.capacity ≤ q.size) (r : ρ) :
    q.push r = (q, .error r) := if_pos hq

theorem push_of_accepted {q : BoundedQueue ρ} (hq : ¬ (q.closed = true ∨ q.capacity ≤ q.size)) (r : ρ) :
    q.push r = ({ q with items := q.items ++ [r], pushed := q.pushed + 1 }, .ok (q.size + 1)) := if_neg hq

/-- Closing hands out everything. -/
theorem close_eq (q : BoundedQueue ρ) :
    q.close = ({ (q.handOut q.size).1 with closed := true }, (q.handOut q.size).2) := by
  rw [close, handOut, size, List.drop_length, List.take_length]

theorem closed_perform (h : History ρ) (a : Act ρ) :
    (h.perform a).queue.closed = true ↔ h.queue.closed = true ∨ a = .close := by
  cases a with
  | push r =>
    by_cases hq : h.queue.closed = true ∨ h.queue.capacity ≤ h.queue.size
    · rw [History.perform, push_of_refused hq]
      simp
    · rw [History.perform, push_of_accepted hq]
      simp
  | popBatch | popUntil => simp [History.perform, History.handing, popBatch, popUntil, handOut]
  | close => simp [History.perform, History.handing, close]

/-- A queue is closed just if it was ever told to close. -/
theorem closed_after_iff (capacity : Nat) (acts : List (Act ρ)) :
    (History.after capacity acts).queue.closed = true ↔ .close ∈ acts := by
  induction acts using List.reverseRecOn with
  | nil => simp [History.after, History.opened, ofCapacity]
  | append_singleton acts a ih =>
    rw [History.after_concat, closed_perform, ih, List.mem_append, List.mem_singleton, eq_comm]

/-! ## The invariant -/

/-- The accepted records are those that were handed out and those that wait, and the counters count them. -/
structure Represents (capacity : Nat) (h : History ρ) : Prop where
  limit : h.queue.capacity = capacity
  conserved : h.handed ++ h.queue.items = h.accepted
  pushed : h.queue.pushed = h.accepted.length
  popped : h.queue.popped = h.handed.length
  bounded : h.queue.size ≤ capacity

namespace Represents

variable {capacity : Nat} {h : History ρ}

theorem opened (capacity : Nat) : Represents capacity (.opened capacity : History ρ) :=
  ⟨rfl, rfl, rfl, rfl, Nat.zero_le _⟩

theorem popped_add_size (hr : Represents capacity h) : h.queue.popped + h.queue.size = h.queue.pushed := by
  rw [hr.pushed, hr.popped, ← hr.conserved, List.length_append, size]

theorem push (hr : Represents capacity h) (r : ρ) : Represents capacity (h.perform (.push r)) := by
  by_cases hq : h.queue.closed = true ∨ h.queue.capacity ≤ h.queue.size
  · rw [History.perform, push_of_refused hq]
    exact hr
  · rw [History.perform, push_of_accepted hq]
    refine ⟨hr.limit, ?_, ?_, hr.popped, ?_⟩
    · dsimp only
      rw [← List.append_assoc, hr.conserved]
    · dsimp only
      rw [hr.pushed, List.length_append, List.length_singleton]
    · have hroom : h.queue.size < capacity := hr.limit ▸ Nat.lt_of_not_le fun hle => hq (.inr hle)
      rw [size, List.length_append, List.length_singleton]
      exact hroom

/-- The cut moves towards the end. -/
theorem handOut (hr : Represents capacity h) {count : Nat} (hc : count ≤ h.queue.size) :
    Represents capacity (h.handing (h.queue.handOut count)) := by
  refine ⟨hr.limit, ?_, hr.pushed, ?_, ?_⟩
  · have hcut : h.queue.items.take count ++ h.queue.items.drop count = h.queue.items :=
      List.take_append_drop ..
    rw [History.handing, BoundedQueue.handOut, List.append_assoc, hcut]
    exact hr.conserved
  · rw [History.handing, BoundedQueue.handOut, List.length_append, List.length_take_of_le hc, hr.popped]
  · exact Nat.le_trans (List.drop_suffix count h.queue.items).length_le hr.bounded

theorem close (hr : Represents capacity h) : Represents capacity (h.handing h.queue.close) := by
  have hall := hr.handOut (Nat.le_refl h.queue.size)
  rw [close_eq]
  exact ⟨hall.limit, hall.conserved, hall.pushed, hall.popped, hall.bounded⟩

theorem perform (hr : Represents capacity h) (a : Act ρ) : Represents capacity (h.perform a) := by
  cases a with
  | push r => exact hr.push r
  | popBatch max => exact hr.handOut (Nat.min_le_right ..)
  | popUntil max target => exact hr.handOut (Nat.le_trans (Nat.min_le_left ..) (Nat.min_le_right ..))
  | close => exact hr.close

theorem after (capacity : Nat) (acts : List (Act ρ)) : Represents capacity (.after capacity acts) := by
  induction acts using List.reverseRecOn with
  | nil => exact opened capacity
  | append_singleton acts a ih =>
    rw [History.after_concat]
    exact ih.perform a

/-! ## Pops -/

/-- A record that waits is the one of its number among the accepted ones. -/
theorem getElem?_items (hr : Represents capacity h) (i : Nat) :
    h.queue.items[i]? = h.accepted[h.queue.popped + i]? := by
  rw [← hr.conserved, hr.popped, List.getElem?_append_right (Nat.le_add_right ..), Nat.add_sub_cancel_left]

/-- What is handed out for a target are accepted records with the next numbers, none above the target. -/
theorem popUntil_getElem? (hr : Represents capacity h) {max target i : Nat} {r : ρ}
    (hi : (h.queue.popUntil max target).2[i]? = some r) :
    h.accepted[h.queue.popped + i]? = some r ∧ h.queue.popped + i + 1 ≤ target := by
  have hlt : i < min (min max h.queue.size) (target - h.queue.popped) := by
    obtain ⟨hlt, -⟩ := List.getElem?_eq_some_iff.mp hi
    rwa [length_popUntil] at hlt
  constructor
  · rw [BoundedQueue.popUntil, BoundedQueue.handOut, List.getElem?_take_of_lt hlt, hr.getElem?_items] at hi
    exact hi
  · have hleft := Nat.lt_of_lt_of_le hlt (Nat.min_le_right ..)
    omega

/-- With counters of 64 bits, a pop without a target is one with the greatest target there is. -/
theorem popBatch_eq (hr : Represents capacity h) (hfew : h.accepted.length < UInt64.size) (max : Nat) :
    h.queue.popBatch max = h.queue.popUntil max (UInt64.size - 1) := by
  refine (popUntil_eq_popBatch max ?_).symm
  rw [hr.popped_add_size, hr.pushed]
  exact Nat.le_pred_of_lt hfew

end Represents

/-! ## What a queue answers -/

/-- What a queue does next when some things were done with it. -/
structure Answers (capacity : Nat) (acts : List (Act ρ)) (h : History ρ) : Prop where
  /-- It refuses a record just if it was closed or is full, -/
  refuses_iff : ∀ r, (∃ s, (h.queue.push r).2 = .error s) ↔ .close ∈ acts ∨ h.queue.size = capacity
  /-- and then gives this record back and stays as it is. -/
  refused : ∀ r s, (h.queue.push r).2 = .error s → s = r ∧ (h.queue.push r).1 = h.queue
  /-- Any other record is the last one from then on. -/
  accepted : ∀ r n, (h.queue.push r).2 = .ok n → n = h.queue.size + 1 ∧
    (h.queue.push r).1.items = h.queue.items ++ [r] ∧ (h.perform (.push r)).accepted = h.accepted ++ [r]
  /-- It hands out the oldest records, as many as wait and may be handed out for the target, -/
  handed : ∀ max target, (h.queue.popUntil max target).2 =
    h.queue.items.take (min max (min h.queue.size (target - h.queue.popped)))
  /-- none if the target is reached, -/
  reached : ∀ max target, target ≤ h.queue.popped → (h.queue.popUntil max target).2 = []
  /-- and never one whose number among the accepted records is above the target. -/
  below : ∀ max target i r, (h.queue.popUntil max target).2[i]? = some r →
    h.accepted[h.queue.popped + i]? = some r ∧ h.queue.popped + i + 1 ≤ target
  /-- Without a target it does as for the greatest one. -/
  untargeted : ∀ max, h.queue.popBatch max = h.queue.popUntil max (UInt64.size - 1)
  /-- When it is closed it hands out what waits. -/
  rest : h.queue.close.2 = h.queue.items ∧ h.queue.close.1.items = []

theorem Represents.answers {capacity : Nat} {acts : List (Act ρ)}
    (hr : Represents capacity (.after capacity acts)) (hfew : (History.after capacity acts).accepted.length < UInt64.size) :
    Answers capacity acts (.after capacity acts) := by
  have hclosed := closed_after_iff capacity acts
  generalize History.after capacity acts = h at hr hfew hclosed ⊢
  have hfull : h.queue.closed = true ∨ h.queue.capacity ≤ h.queue.size ↔ .close ∈ acts ∨ h.queue.size = capacity := by
    have hbounded := hr.bounded
    rw [hclosed, hr.limit]
    exact or_congr_right ⟨fun hle => Nat.le_antisymm hbounded hle, Nat.le_of_eq ∘ Eq.symm⟩
  constructor
  case refuses_iff =>
    intro r
    rw [← hfull]
    simp only [push_eq_error_iff, exists_eq_left]
  case refused =>
    intro r s hs
    obtain ⟨rfl, hq⟩ := push_eq_error_iff.mp hs
    exact ⟨rfl, congrArg Prod.fst (push_of_refused hq s)⟩
  case accepted =>
    intro r n hn
    by_cases hq : h.queue.closed = true ∨ h.queue.capacity ≤ h.queue.size
    · rw [push_of_refused hq] at hn
      cases hn
    · rw [push_of_accepted hq] at hn
      cases hn
      rw [History.perform, push_of_accepted hq]
      exact ⟨rfl, rfl, rfl⟩
  case handed =>
    intro max target
    rw [BoundedQueue.popUntil, BoundedQueue.handOut, Nat.min_assoc]
  case reached =>
    intro max target hle
    rw [BoundedQueue.popUntil, Nat.sub_eq_zero_of_le hle, Nat.min_zero, BoundedQueue.handOut, List.take_zero]
  case below => exact fun max target i r hi => hr.popUntil_getElem? hi
  case untargeted => exact hr.popBatch_eq hfew
  case rest => exact ⟨rfl, rfl⟩

/-- Whatever is done with a queue of any capacity, what was handed out and what waits are the accepted
records in order, and the counters tell how many there are.  It refuses a record just if it is closed or
full, and it hands out the oldest records up to a target and no further. -/
theorem queue_represents (capacity : Nat) (acts : List (Act ρ))
    (hfew : (History.after capacity acts).accepted.length < UInt64.size) :
    Represents capacity (.after capacity acts) ∧
    (History.after capacity acts).queue.popped + (History.after capacity acts).queue.size =
      (History.after capacity acts).queue.pushed ∧
    (History.after capacity acts).queue.pushed < UInt64.size ∧
    ((History.after capacity acts).queue.closed = true ↔ .close ∈ acts) ∧
    Answers capacity acts (.after capacity acts) := by
  have hr := Represents.after capacity acts
  exact ⟨hr, hr.popped_add_size, hr.pushed ▸ hfew, closed_after_iff capacity acts, hr.answers hfew⟩

/-- A record is refused by a full queue.  A pop without a target passes the target of another one, which
then hands out nothing, and a third one stops between two records that wait. -/
theorem queue_represents_of_passed_target :
    ∃ acts : List (Act Nat), ∃ h : History Nat, h = .after 3 acts ∧ h.handed = [1, 2, 3] ∧ h.accepted = [1, 2, 3, 5, 6] ∧
      Represents 3 h ∧ Answers 3 acts h ∧ (h.queue.popUntil 9 2).2 = [] ∧ (h.queue.popUntil 9 4).2 = [5] := by
  have h := queue_represents 3 [.push 1, .push 2, .push 3, .push (4 : Nat), .popUntil 9 1, .popBatch 2, .push 5,
    .push 6, .popUntil 9 2] (by decide)
  obtain ⟨hr, -, -, -, ha⟩ := h
  exact ⟨_, _, rfl, rfl, rfl, hr, ha, ha.reached 9 2 (by decide), by rw [ha.handed]; rfl⟩

end Telemetry.BoundedQueue
