import Mathlib.Data.Nat.Find
import Telemetry.Proofs.Batch.Conservation

/-!
# Runs that never end

To say that the worker comes to the end of something, whatever goes on around it, takes runs without an
end.  At each moment of a run one event happens or none does, so that producers and callers may stop or
go on for ever (`Runs`).  In an unending run the worker is not held up for ever: if it is busy it takes
its next step at some time, and an exporter call that has begun ends.  Nothing else is assumed, and in
particular nothing about how many records come in between.

Between two of its steps the worker finds that records may have been added at the end of the queue, and
nothing else that concerns it has changed (`Beside`).  So a run can be told step of the worker by step
of the worker (`Unending.works`, `Unending.concludes`).

Runs are made by trying something at each moment (`played`).
-/

namespace Telemetry

open Worker (CallerId Desk Request Staffed Office)

variable {ρ : Type}

/-- The worker neither sleeps nor has left. -/
def Activity.IsBusy : Activity ρ → Prop
  | .idle | .gone => False
  | _ => True

namespace Batch

/-- The worker or the exporter does this. -/
def Event.IsWorkers : Event ρ → Prop
  | .wake _ _ | .work _ | .conclude _ => True
  | .offer _ | .settle _ => False

/-- The run of an office with what happens in each moment of it, if anything does. -/
structure Runs (o : ℕ → Office (Account ρ) Nat) (e : ℕ → Option (Office.Event (Event ρ))) : Prop where
  goes : ∀ i x, e i = some x → (o i).perform? x = some (o (i + 1))
  stays : ∀ i, e i = none → o (i + 1) = o i

/-- The worker takes a step, or a call that it has made ends. -/
def Stirs (e : ℕ → Option (Office.Event (Event ρ))) (i : ℕ) : Prop :=
  ∃ x, e i = some (.inside x) ∧ x.IsWorkers

/-- A run of a processor in which the worker is never held up for ever. -/
structure Unending (o : ℕ → Office (Account ρ) Nat) (e : ℕ → Option (Office.Event (Event ρ))) : Prop
    extends Runs o e where
  reachable : (o 0).Reachable
  fair : ∀ i, (o i).machine.processor.activity.IsBusy → ∃ j, i ≤ j ∧ Stirs e j

/-! ## Between two steps of the worker -/

/-- What producers and callers leave alone. -/
structure Beside (a b : Account ρ) : Prop where
  activity : b.processor.activity = a.processor.activity
  config : b.processor.config = a.processor.config
  deeds : b.deeds = a.deeds
  popped : b.processor.queue.popped = a.processor.queue.popped
  pushed : a.processor.queue.pushed ≤ b.processor.queue.pushed

namespace Beside

variable {a b c : Account ρ}

theorem refl : Beside a a := ⟨rfl, rfl, rfl, rfl, Nat.le_refl _⟩

theorem trans (h : Beside a b) (h' : Beside b c) : Beside a c :=
  ⟨h'.activity.trans h.activity, h'.config.trans h.config, h'.deeds.trans h.deeds,
    h'.popped.trans h.popped, Nat.le_trans h.pushed h'.pushed⟩

theorem of_perform? {o o' : Office (Account ρ) Nat} {x : Office.Event (Event ρ)}
    (h : o.perform? x = some o') (hx : ∀ y, x = .inside y → ¬ y.IsWorkers) :
    Beside o.machine o'.machine := by
  cases x with
  | inside y =>
      simp only [Office.perform?] at h
      split at h
      next => cases h
      next b r hb =>
        cases h
        cases y with
        | offer r =>
            cases hb
            rcases o.machine.offer_cases r with he | ⟨_, _, s, _, he⟩ <;> rw [he]
            · exact ⟨rfl, rfl, rfl, rfl, Nat.le_refl _⟩
            · exact ⟨rfl, rfl, rfl, rfl, Nat.le_succ _⟩
        | settle i =>
            simp only [Staffed.perform?, Account.perform?] at hb
            split at hb
            next => cases hb
            next s _ => cases hb; cases s <;> exact ⟨rfl, rfl, rfl, rfl, Nat.le_refl _⟩
        | wake | work | conclude => exact absurd trivial (hx _ rfl)
  | flush k | shutdown k => obtain ⟨_, rfl⟩ := Office.come?_eq_some h; exact .refl
  | step k timeout now =>
      simp only [Office.perform?] at h
      split at h
      next => cases h
      next =>
        split at h
        next => cases h
        next => cases h; exact ⟨rfl, rfl, rfl, rfl, Nat.le_refl _⟩
  | giveUp k =>
      simp only [Office.perform?] at h
      split at h
      next => cases h
      next =>
        split at h
        next => cases h
        next => cases h; exact .refl

end Beside

section Runs

variable {o : ℕ → Office (Account ρ) Nat} {e : ℕ → Option (Office.Event (Event ρ))} {i : ℕ}

theorem Runs.beside_succ (h : Runs o e) (hi : ¬ Stirs e i) : Beside (o i).machine (o (i + 1)).machine := by
  cases he : e i with
  | none => rw [h.stays i he]; exact .refl
  | some x =>
      refine .of_perform? (h.goes i x he) fun y hy hw => hi ⟨y, ?_, hw⟩
      rw [he, hy]

/-- As long as the worker does nothing, nothing that concerns it changes. -/
theorem Runs.beside (h : Runs o e) {j : ℕ} (hij : i ≤ j) (hq : ∀ m, i ≤ m → m < j → ¬ Stirs e m) :
    Beside (o i).machine (o j).machine := by
  induction j, hij using Nat.le_induction with
  | base => exact .refl
  | succ j hij ih =>
      exact (ih fun m hm hlt => hq m hm (Nat.lt_succ_of_lt hlt)).trans
        (h.beside_succ (hq j hij (Nat.lt_succ_self j)))

theorem Runs.steps (h : Runs o e) (i : ℕ) : (o 0).Steps (o i) := by
  induction i with
  | zero => exact .refl
  | succ i ih =>
      cases he : e i with
      | none => rw [h.stays i he]; exact ih
      | some x => exact .tail ih ⟨x, h.goes i x he⟩

namespace Unending

theorem reachable_at (h : Unending o e) (i : ℕ) : (o i).Reachable := h.reachable.steps (h.steps i)

/-- A busy worker takes its next step, and until then others may come and go. -/
theorem next (h : Unending o e) (hi : (o i).machine.processor.activity.IsBusy) :
    ∃ j, i ≤ j ∧ Stirs e j ∧ Beside (o i).machine (o j).machine := by
  classical
  have hex := h.fair i hi
  have hj := Nat.find_spec hex
  refine ⟨Nat.find hex, hj.1, hj.2, h.beside hj.1 fun m hm hlt hs => ?_⟩
  exact Nat.find_min hex hlt ⟨hm, hs⟩

theorem perform?_inside {o o' : Office (Account ρ) Nat} {x : Event ρ}
    (h : o.perform? (.inside x) = some o') :
    ∃ r, Account.perform? x o.machine = some (o'.machine, r) := by
  simp only [Office.perform?] at h
  split at h
  next => cases h
  next b r hb => cases h; exact ⟨r, hb⟩

/-- A worker that is about to do something does it at some time. -/
theorem works (h : Unending o e) {next : Resumption}
    (hi : (o i).machine.processor.activity = .going next) :
    ∃ j now, i ≤ j ∧ e j = some (.inside (.work now)) ∧ Beside (o i).machine (o j).machine := by
  obtain ⟨j, hij, ⟨x, hx, hw⟩, hb⟩ := h.next (by rw [hi]; trivial)
  have ha := hb.activity.trans hi
  obtain ⟨r, hp⟩ := perform?_inside (h.goes j _ hx)
  cases x with
  | offer | settle => exact hw.elim
  | wake cause now => simp [Account.perform?, ha] at hp
  | conclude out => simp [Account.perform?, Processor.call?, ha] at hp
  | work now => exact ⟨j, now, hij, hx, hb⟩

/-- What becomes of the account when the worker does something by itself. -/
theorem machine_work (h : Runs o e) {now : ℕ} {next : Resumption} {p : Processor ρ} {logs : List LogEntry}
    (he : e i = some (.inside (.work now))) (ha : (o i).machine.processor.activity = .going next)
    (hp : (o i).machine.processor.advance? now = some (p, logs)) :
    (o (i + 1)).machine = (o i).machine.noting p (Batch.deeds (o i).machine.processor now none p) := by
  obtain ⟨r, hr⟩ := perform?_inside (h.goes i _ he)
  rw [Account.perform?_work (by simp [ha]) hp] at hr
  exact (Prod.mk.inj (Option.some.inj hr)).1.symm

/-- An exporter call that has begun ends. -/
theorem concludes (h : Unending o e) {c : ExporterCall ρ} (hi : (o i).machine.processor.call? = some c) :
    ∃ j out, i ≤ j ∧ Beside (o i).machine (o j).machine ∧
      (o (j + 1)).machine =
        (o j).machine.noting ((o j).machine.processor.returned out).1 [.ended c out] := by
  have hbusy : (o i).machine.processor.activity.IsBusy := by
    cases ha : (o i).machine.processor.activity <;> simp [Processor.call?, ha] at hi <;> trivial
  obtain ⟨j, hij, ⟨x, hx, hw⟩, hb⟩ := h.next hbusy
  have hc : (o j).machine.processor.call? = some c := by
    rw [Processor.call?, hb.activity]
    exact hi
  obtain ⟨r, hp⟩ := perform?_inside (h.goes j _ hx)
  cases x with
  | offer | settle => exact hw.elim
  | wake cause now =>
      cases ha : (o j).machine.processor.activity <;> simp [Account.perform?, Processor.call?, ha] at hp hc
  | work now =>
      cases ha : (o j).machine.processor.activity <;>
        simp [Account.perform?, Processor.call?, Processor.advance?, ha] at hp hc
  | conclude out =>
      simp only [Account.perform?, hc] at hp
      exact ⟨j, out, hij, hb, (Prod.mk.inj (Option.some.inj hp)).1.symm⟩

end Unending

end Runs

/-! ## Runs by a plan -/

/-- The office after something was tried.  What is not possible changes nothing. -/
def attempt (o : Office (Account ρ) Nat) (x : Option (Office.Event (Event ρ))) : Office (Account ρ) Nat :=
  (x.bind o.perform?).getD o

variable (plan : ℕ → Office (Account ρ) Nat → Option (Office.Event (Event ρ))) (start : Office (Account ρ) Nat)

/-- The run in which at each moment something is tried, in view of what has become of the office. -/
def played : ℕ → Office (Account ρ) Nat
  | 0 => start
  | i + 1 => attempt (played i) (plan i (played i))

/-- What happens in that run. -/
def playing (i : ℕ) : Option (Office.Event (Event ρ)) :=
  (plan i (played plan start i)).filter fun x => ((played plan start i).perform? x).isSome

theorem runs_played : Runs (played plan start) (playing plan start) where
  goes i x hx := by
    obtain ⟨hp, hs⟩ := Option.filter_eq_some_iff.1 hx
    obtain ⟨o', ho⟩ := Option.isSome_iff_exists.1 hs
    rw [played, attempt, hp, Option.bind_some, ho, Option.getD_some]
  stays i hx := by
    rw [played, attempt]
    cases hp : plan i (played plan start i) with
    | none => rfl
    | some x =>
        have hs := Option.filter_eq_none_iff.1 hx x hp
        rw [Option.bind_some, Option.not_isSome_iff_eq_none.1 hs, Option.getD_none]

theorem played_succ (i : ℕ) : played plan start (i + 1) =
    played (fun j => plan (j + 1)) (attempt start (plan 0 start)) i := by
  induction i with
  | zero => rfl
  | succ i ih => rw [played, ih, played]

/-- Events that are possible one after the other are played as they are. -/
theorem played_of_run? {start o' : Office (Account ρ) Nat} (es : List (Office.Event (Event ρ))) (i : ℕ)
    (hi : i ≤ es.length) (h : start.run? (es.take i) = some o') :
    played (fun i _ => es[i]?) start i = o' := by
  induction es generalizing start i with
  | nil =>
      obtain rfl := Nat.le_zero.1 hi
      exact Option.some.inj h
  | cons x es ih =>
      cases i with
      | zero => exact Option.some.inj h
      | succ i =>
          rw [List.take_succ_cons, Office.run?] at h
          split at h
          next => cases h
          next o₁ ho =>
            rw [played_succ, List.getElem?_cons_zero, attempt, Option.bind_some, ho]
            exact ih i (Nat.le_of_succ_le_succ hi) h

/-- Some events, and nothing any more when the worker has come to rest. -/
theorem unending_of_run? {start : Office (Account ρ) Nat} (es : List (Office.Event (Event ρ)))
    (h : start.Reachable)
    (hes : ∃ o', start.run? es = some o' ∧ ¬ o'.machine.processor.activity.IsBusy) :
    Unending (played (fun i _ => es[i]?) start) (playing (fun i _ => es[i]?) start) where
  toRuns := runs_played _ _
  reachable := h
  fair i hi := by
    obtain ⟨o', hrun, hrest⟩ := hes
    by_contra hnever
    have hover (j : ℕ) (hj : es.length ≤ j) : played (fun i _ => es[i]?) start j = o' := by
      induction j, hj using Nat.le_induction with
      | base => exact played_of_run? es es.length (Nat.le_refl _) (by rw [List.take_length]; exact hrun)
      | succ j hj ih =>
          rw [played, ih, List.getElem?_eq_none hj, attempt, Option.bind_none, Option.getD_none]
    have hb := (runs_played _ _).beside (Nat.le_max_left i es.length)
      fun m hm _ hs => hnever ⟨m, hm, hs⟩
    rw [hover _ (Nat.le_max_right i es.length)] at hb
    rw [hb.activity] at hrest
    exact hrest hi

end Batch

end Telemetry
