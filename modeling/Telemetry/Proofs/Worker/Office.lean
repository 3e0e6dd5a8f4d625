import Telemetry.Proofs.Worker.Promises

/-!
# Offices

A machine has a desk and a worker behind it.  `Staffed` says what the protocol of requests needs to
know of it: which steps it does by itself, that these are steps of a worker at its desk, and that a
worker that has noted that it has stopped is free to leave.  An *office* is such a machine with its
callers, and with the requests that the worker has taken up so far.

The events of an office are the steps of the machine, those of the callers, and calls that begin.
Each caller's step comes with its own timeout and its own time, so that nothing depends on clocks,
and any caller may give up waiting at any time.  What holds of every front holds of every office that
events lead to.
-/

namespace Telemetry.Worker

/-! ## Machines with a worker -/

/-- A machine whose worker serves a desk.  It leaves only after it has served a shutdown. -/
class Staffed (α : Type) (μ ε : outParam Type) where
  desk : α → Desk μ
  withDesk : Desk μ → α → α
  /-- What a flush that begins is about. -/
  mark : α → μ
  /-- One step, if it is possible, with the request that the worker takes up in it. -/
  perform? : ε → α → Option (α × Option (Request μ))
  status : α → Status
  Opens : α → Prop
  Sound : α → Prop
  desk_withDesk : ∀ d a, desk (withDesk d a) = d
  withDesk_desk : ∀ a, withDesk (desk a) a = a
  status_withDesk : ∀ d a, status (withDesk d a) = status a
  sound_withDesk : ∀ d a, Sound a → Sound (withDesk d a)
  desk_of_opens : ∀ a, Opens a → desk a = .initial
  status_of_opens : ∀ a, Opens a → status a = .free
  sound_of_opens : ∀ a, Opens a → Sound a
  sound_perform? : ∀ e a b r, perform? e a = some (b, r) → Sound a → Sound b
  attends : ∀ e a b r, perform? e a = some (b, r) → Sound a →
    Attends (desk a) (status a) r (desk b) (status b)
  bow : ∀ a k, status a = .closed k → ∃ e b, perform? e a = some (b, none) ∧ status b = .leaving
  leave : ∀ a, status a = .leaving → ∃ e b, perform? e a = some (b, none) ∧ status b = .gone

/-- A machine, its callers, and the requests that its worker has taken up so far. -/
structure Office (α μ : Type) where
  machine : α
  callers : CallerId → Option (Call μ)
  handled : List (Request μ)

namespace Office

variable {α μ ε : Type}

/-! ## Events -/

/-- What can happen in an office. -/
inductive Event (ε : Type) where
  | inside (e : ε)
  | flush (k : CallerId)
  | shutdown (k : CallerId)
  | step (k : CallerId) (timeout now : Nat)
  | giveUp (k : CallerId)

/-- The office of a machine before anybody has come. -/
def opened (a : α) : Office α μ := ⟨a, fun _ => none, []⟩

/-- The office with another call, unless the caller is there already. -/
def come? (o : Office α μ) (k : CallerId) (order : Order μ) : Option (Office α μ) :=
  match o.callers k with
  | none => some { o with callers := Front.seat o.callers k (.opening order) }
  | some _ => none

variable [Staffed α μ ε]

/-- The office after an event, if it is possible. -/
def perform? (o : Office α μ) : Event ε → Option (Office α μ)
  | .inside e =>
    match Staffed.perform? e o.machine with
    | none => none
    | some (a, r) => some { o with machine := a, handled := o.handled ++ r.toList }
  | .flush k => o.come? k (.flush (Staffed.mark o.machine))
  | .shutdown k => o.come? k .shutdown
  | .step k timeout now =>
    match o.callers k with
    | none => none
    | some c =>
      match c.phase.step? (Staffed.desk o.machine) k timeout now with
      | none => none
      | some (d, p) => some { o with
          machine := Staffed.withDesk d o.machine
          callers := Front.seat o.callers k ⟨c.order, p⟩ }
  | .giveUp k =>
    match o.callers k with
    | none => none
    | some c =>
      match c.phase.giveUp? with
      | none => none
      | some p => some { o with callers := Front.seat o.callers k ⟨c.order, p⟩ }

/-- The office after some events, if they are possible. -/
def run? (o : Office α μ) : List (Event ε) → Option (Office α μ)
  | [] => some o
  | e :: es =>
    match o.perform? e with
    | none => none
    | some o' => o'.run? es

/-- One event leads from an office to another one. -/
def Step (o o' : Office α μ) : Prop := ∃ e, o.perform? e = some o'

/-- Some events lead from an office to another one. -/
def Steps : Office α μ → Office α μ → Prop := Relation.ReflTransGen Step

/-- Some events lead to an office from one whose machine opens. -/
def Reachable (o : Office α μ) : Prop := ∃ a, Staffed.Opens a ∧ Steps (opened a) o

theorem steps_of_run? (es : List (Event ε)) {o o' : Office α μ} (h : o.run? es = some o') :
    Steps o o' := by
  induction es generalizing o with
  | nil => cases h; exact .refl
  | cons e es ih =>
      simp only [run?] at h
      split at h
      next => cases h
      next o₁ he => exact .head ⟨e, he⟩ (ih h)

theorem Reachable.steps {o o' : Office α μ} (h : o.Reachable) (hs : Steps o o') : o'.Reachable := by
  obtain ⟨a, ha, hr⟩ := h
  exact ⟨a, ha, hr.trans hs⟩

/-! ## What an event does -/

/-- What can become of an office in one event: the machine does a step, another caller comes, or a
caller does a step at the desk. -/
inductive Moves (o : Office α μ) : Office α μ → Prop where
  | inside {e a r} : Staffed.perform? e o.machine = some (a, r) →
      Moves o { o with machine := a, handled := o.handled ++ r.toList }
  | come {k order} : o.callers k = none → (∀ m, order = .flush m → m = Staffed.mark o.machine) →
      Moves o { o with callers := Front.seat o.callers k (.opening order) }
  | call {k order p d p'} : o.callers k = some ⟨order, p⟩ → Calls (Staffed.desk o.machine) k p d p' →
      Moves o { o with
        machine := Staffed.withDesk d o.machine
        callers := Front.seat o.callers k ⟨order, p'⟩ }

theorem come?_eq_some {o o' : Office α μ} {k : CallerId} {order : Order μ}
    (h : o.come? k order = some o') :
    o.callers k = none ∧ o' = { o with callers := Front.seat o.callers k (.opening order) } := by
  unfold come? at h
  split at h
  next hk => cases h; exact ⟨hk, rfl⟩
  next => cases h

theorem Step.moves {o o' : Office α μ} (h : Step o o') : Moves o o' := by
  obtain ⟨e, he⟩ := h
  cases e with
  | inside e =>
      simp only [perform?] at he
      split at he
      next => cases he
      next a r ha => cases he; exact .inside ha
  | flush k =>
      obtain ⟨hk, rfl⟩ := come?_eq_some he
      exact .come hk fun m hm => by cases hm; rfl
  | shutdown k =>
      obtain ⟨hk, rfl⟩ := come?_eq_some he
      exact .come hk fun m hm => by cases hm
  | step k timeout now =>
      simp only [perform?] at he
      split at he
      next => cases he
      next c hc =>
        split at he
        next => cases he
        next d p hp => cases he; exact .call hc (Calls.of_step? hp)
  | giveUp k =>
      simp only [perform?] at he
      split at he
      next => cases he
      next c hc =>
        split at he
        next => cases he
        next p hp =>
          cases he
          have hm := Moves.call hc (Calls.of_giveUp? (d := Staffed.desk o.machine) hp)
          rwa [Staffed.withDesk_desk] at hm

/-- What holds of machines that open, and is kept by machines and by callers, holds of all. -/
theorem Steps.keeps {P : α → Prop}
    (hp : ∀ e a b r, Staffed.perform? e a = some (b, r) → Staffed.Sound a → P a → P b)
    (hd : ∀ d a, P a → P (Staffed.withDesk d a)) {o o' : Office α μ} (h : Steps o o')
    (hs : Staffed.Sound o.machine) (ho : P o.machine) : P o'.machine ∧ Staffed.Sound o'.machine := by
  induction h with
  | refl => exact ⟨ho, hs⟩
  | tail _ step ih =>
      cases step.moves with
      | inside ha => exact ⟨hp _ _ _ _ ha ih.2 ih.1, Staffed.sound_perform? _ _ _ _ ha ih.2⟩
      | come => exact ih
      | call => exact ⟨hd _ _ ih.1, Staffed.sound_withDesk _ _ ih.2⟩

/-! ## The front of an office -/

/-- What the protocol sees of an office. -/
def front (o : Office α μ) : Front μ :=
  ⟨Staffed.desk o.machine, Staffed.status o.machine, o.callers, o.handled⟩

/-- An event of an office is a step of its front. -/
theorem front_step {o o' : Office α μ} (h : Step o o') (hs : Staffed.Sound o.machine) :
    Front.Step o.front o'.front := by
  cases h.moves with
  | inside ha => exact .attend (Staffed.attends _ _ _ _ ha hs)
  | come hk => exact .come hk
  | call hk hc =>
      have hcall : Front.Step o.front _ := .call hk hc
      simpa only [front, Staffed.desk_withDesk, Staffed.status_withDesk] using hcall

theorem Reachable.sound {o : Office α μ} (h : o.Reachable) : Staffed.Sound o.machine := by
  obtain ⟨a, ha, hs⟩ := h
  exact (hs.keeps (P := fun _ => True) (fun _ _ _ _ _ _ _ => trivial) (fun _ _ _ => trivial)
    (Staffed.sound_of_opens a ha) trivial).2

theorem Reachable.front_steps {o o' : Office α μ} (h : o.Reachable) (hs : Steps o o') :
    Front.Steps o.front o'.front := by
  induction hs with
  | refl => exact .refl
  | tail hs step ih => exact ih.tail (front_step step (h.steps hs).sound)

theorem Reachable.lawful {o : Office α μ} (h : o.Reachable) : o.front.Lawful := by
  obtain ⟨a, ha, hs⟩ := h
  have hf := Reachable.front_steps ⟨a, ha, .refl⟩ hs
  have ho : (opened a).front = Front.opened := by
    simp only [front, opened, Front.opened, Staffed.desk_of_opens a ha, Staffed.status_of_opens a ha]
  rw [ho] at hf
  exact Front.Lawful.opened.steps hf

/-! ## What callers may rely on -/

theorem steps_inside {o : Office α μ} {e : ε} {a : α} (h : Staffed.perform? e o.machine = some (a, none)) :
    Steps o { o with machine := a } := by
  refine .single ⟨.inside e, ?_⟩
  simp only [perform?, h, Option.toList_none, List.append_nil]

/-- A worker that has stopped can leave without anybody else. -/
theorem Reachable.leaves {o : Office α μ} (h : o.Reachable)
    (hl : (Staffed.desk o.machine).lifecycle = .stopped) :
    ∃ o', Steps o o' ∧ (Staffed.desk o'.machine).hasLeft = true ∧ o'.callers = o.callers := by
  have gone : ∀ o₁ : Office α μ, Staffed.status o₁.machine = .leaving →
      ∃ o', Steps o₁ o' ∧ Staffed.status o'.machine = .gone ∧ o'.callers = o₁.callers := by
    intro o₁ h₁
    obtain ⟨e, b, he, hb⟩ := Staffed.leave _ h₁
    exact ⟨_, steps_inside he, hb, rfl⟩
  have hst : (Staffed.status o.machine).HasStopped := h.lawful.aligned.stopped.1 hl
  obtain ⟨o', hs, hg, hc⟩ : ∃ o', Steps o o' ∧ Staffed.status o'.machine = .gone ∧
      o'.callers = o.callers := by
    cases hs : Staffed.status o.machine with
    | free | serving k | closing k => rw [hs] at hst; exact hst.elim
    | closed k =>
        obtain ⟨e, b, he, hb⟩ := Staffed.bow _ k hs
        obtain ⟨o', hs', hg, hc⟩ := gone { o with machine := b } hb
        exact ⟨o', (steps_inside he).trans hs', hg, hc⟩
    | leaving => exact gone o hs
    | gone => exact ⟨o, .refl, hs, rfl⟩
  exact ⟨o', hs, (h.steps hs).lawful.aligned.left.2 hg, hc⟩

/-- When the callers of a list do a step each, one after the other, a shutdown has returned with a
result and nobody has the lock. -/
def EndsBy (o : Office α μ) (turns : List CallerId) (k : CallerId) (r : PipelineResult) : Prop :=
  ∀ timeout now, ∃ o', o.run? (turns.map fun i => .step i timeout now) = some o' ∧
    o'.callers k = some ⟨.shutdown, .done r⟩ ∧ (Staffed.desk o'.machine).lock = none

theorem run?_cons {o o₁ : Office α μ} {e : Event ε} (h : o.perform? e = some o₁)
    (es : List (Event ε)) : o.run? (e :: es) = o₁.run? es := by
  simp only [run?, h]

section Verdict

variable {o : Office α μ} {i k : CallerId} {r : PipelineResult}

/-- A shutdown that has the lock when there is a verdict gives the lock back and returns. -/
theorem exists_learned (hv : (Staffed.desk o.machine).verdict = some r)
    (hk : o.callers k = some ⟨.shutdown, .consulting⟩) (timeout now : Nat) :
    ∃ o₁, o.perform? (.step k timeout now) = some o₁ ∧
      Staffed.desk o₁.machine = (Staffed.desk o.machine).release ∧
      o₁.callers = Front.seat o.callers k ⟨.shutdown, .done r⟩ := by
  refine ⟨_, by simp only [perform?, hk, Phase.step?, hv]; rfl, ?_, rfl⟩
  exact Staffed.desk_withDesk _ _

/-- A shutdown takes a lock that is free. -/
theorem exists_locked (hl : (Staffed.desk o.machine).lock = none)
    (hk : o.callers k = some ⟨.shutdown, .locking⟩) (timeout now : Nat) :
    ∃ o₁, o.perform? (.step k timeout now) = some o₁ ∧
      Staffed.desk o₁.machine = { Staffed.desk o.machine with lock := some k } ∧
      o₁.callers = Front.seat o.callers k ⟨.shutdown, .consulting⟩ := by
  refine ⟨_, by simp only [perform?, hk, Phase.step?, Desk.acquire?, hl]; rfl, ?_, rfl⟩
  exact Staffed.desk_withDesk _ _

theorem endsBy_of_consulting (hv : (Staffed.desk o.machine).verdict = some r)
    (hk : o.callers k = some ⟨.shutdown, .consulting⟩) : o.EndsBy [k] k r := by
  intro timeout now
  obtain ⟨o₁, hstep, hd, hc⟩ := exists_learned hv hk timeout now
  refine ⟨o₁, run?_cons hstep [], ?_, ?_⟩
  · rw [hc, Front.seat_self]
  · rw [hd]
    rfl

theorem endsBy_of_locking (hv : (Staffed.desk o.machine).verdict = some r)
    (hl : (Staffed.desk o.machine).lock = none)
    (hk : o.callers k = some ⟨.shutdown, .locking⟩) : o.EndsBy [k, k] k r := by
  intro timeout now
  obtain ⟨o₁, hstep, hd, hc⟩ := exists_locked hl hk timeout now
  have hv₁ : (Staffed.desk o₁.machine).verdict = some r := by rw [hd]; exact hv
  have hk₁ : o₁.callers k = some ⟨.shutdown, .consulting⟩ := by rw [hc, Front.seat_self]
  obtain ⟨o', hrun, hend⟩ := endsBy_of_consulting hv₁ hk₁ timeout now
  exact ⟨o', (run?_cons hstep _).trans hrun, hend⟩

/-- A shutdown that waits for the lock goes on when the one that has it has returned. -/
theorem endsBy_of_held (hv : (Staffed.desk o.machine).verdict = some r)
    (hi : o.callers i = some ⟨.shutdown, .consulting⟩)
    (hk : o.callers k = some ⟨.shutdown, .locking⟩) : o.EndsBy [i, k, k] k r := by
  intro timeout now
  obtain ⟨o₁, hstep, hd, hc⟩ := exists_learned hv hi timeout now
  have hv₁ : (Staffed.desk o₁.machine).verdict = some r := by rw [hd]; exact hv
  have hl₁ : (Staffed.desk o₁.machine).lock = none := by rw [hd]; rfl
  have hk₁ : o₁.callers k = some ⟨.shutdown, .locking⟩ := by
    rw [hc, Front.seat_of_ne _ _ ?_, hk]
    rintro rfl
    rw [hi] at hk
    cases hk
  obtain ⟨o', hrun, hend⟩ := endsBy_of_locking hv₁ hl₁ hk₁ timeout now
  exact ⟨o', (run?_cons hstep _).trans hrun, hend⟩

/-- Shutdowns after the verdict wait for nothing but each other. -/
theorem Reachable.endsBy (h : o.Reachable) (hv : (Staffed.desk o.machine).verdict = some r)
    {p : Phase μ} (hk : o.callers k = some ⟨.shutdown, p⟩) :
    p = .done r ∨ p = .consulting ∧ o.EndsBy [k] k r ∨
      p = .locking ∧ ((Staffed.desk o.machine).lock = none ∧ o.EndsBy [k, k] k r ∨
        ∃ i, (Staffed.desk o.machine).lock = some i ∧ o.EndsBy [i, k, k] k r) := by
  rcases h.lawful.phase_of_verdict hv hk with rfl | rfl | rfl
  · refine .inr (.inr ⟨rfl, ?_⟩)
    rcases h.lawful.lock_of_verdict hv with hl | ⟨i, hl, hi⟩
    · exact .inl ⟨hl, endsBy_of_locking hv hl hk⟩
    · exact .inr ⟨i, hl, endsBy_of_held hv hi hk⟩
  · exact .inr (.inl ⟨rfl, endsBy_of_consulting hv hk⟩)
  · exact .inl rfl

end Verdict

/-- The promises that an office keeps from some state on. -/
structure Promises (o : Office α μ) : Prop where
  /-- All shutdowns return the same result. -/
  agree : ∀ j k r r', o.callers j = some ⟨.shutdown, .done r⟩ →
    o.callers k = some ⟨.shutdown, .done r'⟩ → r = r'
  /-- Once a shutdown has returned, the lock is free or will be with the next step of the shutdown
  that has it, and every other shutdown returns the same result by steps of callers alone: one that
  has the lock with its next step, one that waits for the lock when it is free and it has done two. -/
  settled : ∀ j r o', o.callers j = some ⟨.shutdown, .done r⟩ → Steps o o' →
    ((Staffed.desk o'.machine).lock = none ∨ ∃ i, (Staffed.desk o'.machine).lock = some i ∧
      o'.callers i = some ⟨.shutdown, .consulting⟩ ∧ o'.EndsBy [i] i r) ∧
    ∀ k p, o'.callers k = some ⟨.shutdown, p⟩ → p = .done r ∨
      p = .consulting ∧ o'.EndsBy [k] k r ∨
      p = .locking ∧ ((Staffed.desk o'.machine).lock = none ∧ o'.EndsBy [k, k] k r ∨
        ∃ i, (Staffed.desk o'.machine).lock = some i ∧ o'.EndsBy [i, k, k] k r)
  /-- The worker takes up one shutdown at most. -/
  once : (o.handled.filter (·.order.isShutdown)).length ≤ 1
  /-- A flush that begins when a shutdown has returned is refused, or will be in its next step. -/
  refused : ∀ j k r o₁ o₂, o.callers j = some ⟨.shutdown, .done r⟩ →
    o.perform? (.flush k) = some o₁ → Steps o₁ o₂ → ∃ m p, o₂.callers k = some ⟨.flush m, p⟩ ∧
      (p = .done (.error .shutdown) ∨ ∀ timeout now,
        p.step? (Staffed.desk o₂.machine) k timeout now =
          some (Staffed.desk o₂.machine, .done (.error .shutdown)))
  /-- A flush that has no answer when the worker stops ends with a shutdown or in time, if it ends.
  The worker can leave, and then such a flush ends with its next step. -/
  dismissed : ∀ k, (Staffed.desk o.machine).lifecycle = .stopped → o.front.Unanswered k →
    (∀ o', Steps o o' → o'.front.Dismissed k ∨ o'.front.Unanswered k ∧
      ((Staffed.desk o'.machine).hasLeft = true → ∃ m p, o'.callers k = some ⟨.flush m, p⟩ ∧
        ∀ timeout now, p.step? (Staffed.desk o'.machine) k timeout now =
          some (Staffed.desk o'.machine, .done (.error .shutdown)))) ∧
    ∃ o', Steps o o' ∧ (Staffed.desk o'.machine).hasLeft = true ∧ o'.callers = o.callers
  /-- No call returns that the worker is gone. -/
  truthful : ∀ k order r, o.callers k = some ⟨order, .done r⟩ → r ≠ .error .workerGone
  /-- The lifecycle stays or goes on by one place. -/
  forward : ∀ o', Step o o' →
    (Staffed.desk o'.machine).lifecycle = (Staffed.desk o.machine).lifecycle ∨
      (Staffed.desk o'.machine).lifecycle.rank = (Staffed.desk o.machine).lifecycle.rank + 1

theorem Reachable.promises {o : Office α μ} (h : o.Reachable) : o.Promises where
  agree j k r r' hj hk := h.lawful.shutdowns_agree hj hk
  settled j r o' hj hs := by
    have ho' := h.steps hs
    have hv : (Staffed.desk o'.machine).verdict = some r :=
      (ho'.lawful.seated j _ (Front.done_steps hj (h.front_steps hs))).verdict r rfl rfl
    refine ⟨?_, fun k p hk => ho'.endsBy hv hk⟩
    exact (ho'.lawful.lock_of_verdict hv).imp_right fun ⟨i, hl, hi⟩ =>
      ⟨i, hl, hi, endsBy_of_consulting hv hi⟩
  once := h.lawful.handled_once
  refused j k r o₁ o₂ hj hc hs := by
    have h₁ : o₁.Reachable := h.steps (.single ⟨_, hc⟩)
    have hn := h.lawful.not_running hj
    have hr : o₁.front.Refused k := by
      obtain ⟨_, rfl⟩ := come?_eq_some hc
      exact ⟨_, .inl (Front.seat_self _ _ _)⟩
    have hn₁ : o₁.front.desk.lifecycle ≠ .running := by
      obtain ⟨_, rfl⟩ := come?_eq_some hc
      exact hn
    obtain ⟨h₂, hn₂⟩ := hr.steps h₁.lawful hn₁ (h₁.front_steps hs)
    exact h₂.turned_away hn₂
  dismissed k hl hu := by
    refine ⟨fun o' hs => ?_, h.leaves hl⟩
    rcases hu.steps h.lawful hl (h.front_steps hs) with hu' | hd
    · exact .inr ⟨hu', hu'.turned_away (h.steps hs).lawful⟩
    · exact .inl hd
  truthful k order r hk := h.lawful.truthful.outcome k _ r hk rfl
  forward o' hs := h.lawful.lifecycle_step (front_step hs h.sound)

end Office

end Telemetry.Worker
