import Mathlib.Logic.Function.Basic
import Telemetry.Proofs.Context.Lifetimes

/-!
# Threads at their places

A runtime is the stacks of all threads and scopes together with the places at which the threads are.
A thread that polls a wrapped task is in its scope until the poll ends, and as a task is polled by one
thread at a time and not within itself, no scope is entered twice.  All else may happen in any order:
threads start, futures are wrapped, contexts are attached and guards dropped wherever a thread is.  A
guard may be dropped on any thread, and nothing here keeps it from being dropped again.

A runtime notes what each stack began with and what was done with it.  A drop is a use of the stack in
which the guard is looked for, if there is one.  `Sound` says what holds of all runtimes that can come
about, above all that the stacks are what their histories make of them, and that no guard belongs to
two stacks.
-/

namespace Telemetry

/-- The slot of what is attached on the stack of an owner. -/
def Owner.slot : Owner → Slot
  | .thread _ => .thread
  | .scope _ => .scope

theorem Place.slot_owner (p : Place) : p.owner.slot = p.slot := by
  obtain ⟨t, scopes⟩ := p
  cases scopes <;> rfl

theorem Place.ownerOf?_eq_some {p : Place} {s : Slot} {o : Owner} (h : p.ownerOf? s = some o) :
    o.slot = s := by
  cases s with
  | scope =>
      obtain ⟨k, -, rfl⟩ := Option.map_eq_some_iff.mp h
      rfl
  | thread =>
      cases h
      rfl

theorem Place.ownerOf?_slot (p : Place) : p.ownerOf? p.slot = some p.owner := by
  obtain ⟨t, scopes⟩ := p
  cases scopes <;> rfl

/-- Threads that run code, each at its place. -/
structure Runtime where
  execution : Execution
  /-- The scopes that each thread is in, innermost first. -/
  polling : Nat → List Nat
  /-- The context that each stack began with. -/
  began : Owner → Context
  /-- What was done with each stack, the newest first. -/
  uses : Owner → List StackUse

/-- What can happen in a runtime.  A drop tells on whose stack the guard was attached. -/
inductive Happening where
  | spawn
  | wrap (cx : Context)
  | enter (thread scope : Nat)
  | leave (thread : Nat)
  | attach (thread : Nat) (cx : Context)
  | drop (thread : Nat) (guard : ContextGuard) (home : Owner)

namespace Runtime

/-- Only the main thread, which has done nothing. -/
def initial : Runtime := ⟨.initial, fun _ => [], fun _ => .empty, fun _ => []⟩

def place (w : Runtime) (t : Nat) : Place := ⟨t, w.polling t⟩

/-- The current context on a thread. -/
def current (w : Runtime) (t : Nat) : Context := w.execution.current (w.place t)

/-- The guard that the next attaching on a thread gives. -/
def nextGuard (w : Runtime) (t : Nat) : ContextGuard := ⟨w.execution.nextGuard, (w.place t).slot⟩

/-- Whether the stack of an owner is in use. -/
def Knows (w : Runtime) : Owner → Prop
  | .thread t => t < w.execution.nextThread
  | .scope s => s < w.execution.nextScope

/-- Whether a guard was attached on the stack of an owner. -/
def Issued (w : Runtime) (g : ContextGuard) (home : Owner) : Prop :=
  g.slot = home.slot ∧ g.id ∈ StackUse.guards (w.uses home)

/-! ## Steps -/

def spawn (w : Runtime) : Runtime := { w with execution := w.execution.startThread.1 }

def wrap (w : Runtime) (cx : Context) : Runtime :=
  { w with
    execution := (w.execution.openScope cx).1
    began := Function.update w.began (.scope w.execution.nextScope) cx }

def enter (w : Runtime) (t s : Nat) : Runtime :=
  { w with polling := Function.update w.polling t (s :: w.polling t) }

def leave (w : Runtime) (t : Nat) : Runtime :=
  { w with polling := Function.update w.polling t (w.polling t).tail }

def noting (w : Runtime) (o : Owner) (u : StackUse) : Owner → List StackUse :=
  Function.update w.uses o (u :: w.uses o)

def attach (w : Runtime) (t : Nat) (cx : Context) : Runtime :=
  { w with
    execution := (w.execution.attach (w.place t) cx).1
    uses := w.noting (w.place t).owner (.attach w.execution.nextGuard cx) }

def drop (w : Runtime) (t : Nat) (g : ContextGuard) : Runtime :=
  { w with
    execution := (w.execution.detach (w.place t) g).1
    uses := match (w.place t).ownerOf? g.slot with
      | none => w.uses
      | some o => w.noting o (.drop g.id) }

/-- One thing happens. -/
inductive Step : Runtime → Happening → Runtime → Prop where
  | spawn {w} : Step w .spawn w.spawn
  | wrap {w cx} : Step w (.wrap cx) (w.wrap cx)
  | enter {w t s} : t < w.execution.nextThread → s < w.execution.nextScope →
      (∀ u, s ∉ w.polling u) → Step w (.enter t s) (w.enter t s)
  | leave {w t} : w.polling t ≠ [] → Step w (.leave t) (w.leave t)
  | attach {w t cx} : t < w.execution.nextThread → Step w (.attach t cx) (w.attach t cx)
  | drop {w t g o} : t < w.execution.nextThread → w.Issued g o → Step w (.drop t g o) (w.drop t g)

/-- Several things happen, the last of them in front. -/
inductive Run (w : Runtime) : List Happening → Runtime → Prop where
  | none : Run w [] w
  | step {es w₁ e w₂} : Run w es w₁ → Step w₁ e w₂ → Run w (e :: es) w₂

/-- Something that can come about. -/
def Reachable (w : Runtime) : Prop := ∃ es, Run initial es w

/-! ## What each step does to a stack -/

section Stacks

variable {w : Runtime} {o : Owner}

theorem stack_attach (t : Nat) (cx : Context) : (w.attach t cx).execution.stack o =
    if o = (w.place t).owner then (w.execution.stack o).attach w.execution.nextGuard cx
    else w.execution.stack o := by
  split
  next h => simp only [attach, Execution.attach, Execution.update, h, if_true]
  next h => exact Execution.stack_attach_of_ne _ _ _ h

theorem stack_drop (t : Nat) (g : ContextGuard) : (w.drop t g).execution.stack o =
    if (w.place t).ownerOf? g.slot = some o then ((w.execution.stack o).detach g.id).1
    else w.execution.stack o := by
  split
  next h => simp only [drop, Execution.detach, h, Execution.stack_update_self]
  next h => exact Execution.stack_detach_of_ne _ _ _ h

/-- Dropping a guard numbers nothing. -/
theorem counters_drop (t : Nat) (g : ContextGuard) :
    (w.drop t g).execution.nextGuard = w.execution.nextGuard ∧
      (w.drop t g).execution.nextScope = w.execution.nextScope ∧
      (w.drop t g).execution.nextThread = w.execution.nextThread := by
  unfold drop Execution.detach
  cases (w.place t).ownerOf? g.slot <;> exact ⟨rfl, rfl, rfl⟩

theorem knows_drop (t : Nat) (g : ContextGuard) : (w.drop t g).Knows o ↔ w.Knows o := by
  obtain ⟨-, hs, ht⟩ := counters_drop (w := w) t g
  cases o with
  | thread u => rw [Knows, Knows, ht]
  | scope s => rw [Knows, Knows, hs]

theorem uses_attach (t : Nat) (cx : Context) : (w.attach t cx).uses o =
    if o = (w.place t).owner then .attach w.execution.nextGuard cx :: w.uses o else w.uses o := by
  split
  next h => rw [h]; exact Function.update_self ..
  next h => exact Function.update_of_ne h ..

theorem uses_drop (t : Nat) (g : ContextGuard) : (w.drop t g).uses o =
    if (w.place t).ownerOf? g.slot = some o then .drop g.id :: w.uses o else w.uses o := by
  unfold drop
  cases hp : (w.place t).ownerOf? g.slot with
  | none => rfl
  | some p =>
      by_cases h : p = o
      · subst h
        rw [if_pos rfl]
        exact Function.update_self ..
      · rw [if_neg (fun he => h (Option.some.inj he))]
        exact Function.update_of_ne (Ne.symm h) ..

theorem guards_attach (t : Nat) (cx : Context) : StackUse.guards ((w.attach t cx).uses o) =
    if o = (w.place t).owner then w.execution.nextGuard :: StackUse.guards (w.uses o)
    else StackUse.guards (w.uses o) := by
  rw [uses_attach]
  split <;> rfl

theorem guards_drop (t : Nat) (g : ContextGuard) :
    StackUse.guards ((w.drop t g).uses o) = StackUse.guards (w.uses o) := by
  rw [uses_drop]
  split <;> rfl

theorem began_wrap (cx : Context) : (w.wrap cx).began o =
    if o = .scope w.execution.nextScope then cx else w.began o := by
  split
  next h => rw [h]; exact Function.update_self ..
  next h => exact Function.update_of_ne h ..

theorem stack_wrap (cx : Context) : (w.wrap cx).execution.stack o =
    if o = .scope w.execution.nextScope then .starting cx else w.execution.stack o := rfl

theorem stack_spawn : w.spawn.execution.stack o =
    if o = .thread w.execution.nextThread then .starting .empty else w.execution.stack o := rfl

theorem polling_enter (t s u : Nat) : (w.enter t s).polling u =
    if u = t then s :: w.polling u else w.polling u := by
  split
  next h => rw [h]; exact Function.update_self ..
  next h => exact Function.update_of_ne h ..

theorem polling_leave (t u : Nat) : (w.leave t).polling u =
    if u = t then (w.polling u).tail else w.polling u := by
  split
  next h => rw [h]; exact Function.update_self ..
  next h => exact Function.update_of_ne h ..

end Stacks

/-! ## Sound runtimes -/

/-- What holds of every runtime that can come about. -/
structure Sound (w : Runtime) : Prop where
  stack_eq : ∀ o, w.execution.stack o = .after (w.began o) (w.uses o)
  untouched : ∀ o, ¬ w.Knows o → w.uses o = [] ∧ w.began o = .empty
  fresh : ∀ o, ∀ g ∈ StackUse.guards (w.uses o), g < w.execution.nextGuard
  /-- No guard belongs to two stacks. -/
  apart : ∀ o p g, g ∈ StackUse.guards (w.uses o) → g ∈ StackUse.guards (w.uses p) → o = p
  nodup : ∀ o, (StackUse.guards (w.uses o)).Nodup
  opened : ∀ t, ∀ s ∈ w.polling t, s < w.execution.nextScope
  exclusive : ∀ t u s, s ∈ w.polling t → s ∈ w.polling u → t = u
  once : ∀ t, (w.polling t).Nodup

namespace Sound

variable {w : Runtime}

theorem initial : Runtime.initial.Sound where
  stack_eq _ := rfl
  untouched _ _ := ⟨rfl, rfl⟩
  fresh _ _ h := nomatch h
  apart _ _ _ h := nomatch h
  nodup _ := List.nodup_nil
  opened _ _ h := nomatch h
  exclusive _ _ _ h := nomatch h
  once _ := List.nodup_nil

theorem knows_ownerOf? (h : w.Sound) {t : Nat} (ht : t < w.execution.nextThread) {s : Slot} {o : Owner}
    (ho : (w.place t).ownerOf? s = some o) : w.Knows o := by
  cases s with
  | scope =>
      obtain ⟨k, hk, rfl⟩ := Option.map_eq_some_iff.mp ho
      exact h.opened t k (List.mem_of_head? hk)
  | thread =>
      cases ho
      exact ht

theorem knows_owner (h : w.Sound) {t : Nat} (ht : t < w.execution.nextThread) :
    w.Knows (w.place t).owner := h.knows_ownerOf? ht (Place.ownerOf?_slot _)

theorem spawn (h : w.Sound) : w.spawn.Sound where
  stack_eq o := by
    rw [stack_spawn]
    split
    next ho =>
      have hno : ¬ w.Knows (.thread w.execution.nextThread) := Nat.lt_irrefl _
      have hu := h.untouched _ hno
      subst ho
      rw [show w.spawn.uses _ = _ from hu.1, show w.spawn.began _ = _ from hu.2]
      rfl
    next => exact h.stack_eq o
  untouched o ho := h.untouched o fun hk => ho <| by
    cases o with
    | thread t => exact Nat.lt_succ_of_lt hk
    | scope s => exact hk
  fresh := h.fresh
  apart := h.apart
  nodup := h.nodup
  opened := h.opened
  exclusive := h.exclusive
  once := h.once

theorem wrap (h : w.Sound) (cx : Context) : (w.wrap cx).Sound where
  stack_eq o := by
    rw [stack_wrap, began_wrap]
    split
    next ho =>
      have hno : ¬ w.Knows (.scope w.execution.nextScope) := Nat.lt_irrefl _
      subst ho
      rw [show (w.wrap cx).uses _ = _ from (h.untouched _ hno).1]
      rfl
    next => exact h.stack_eq o
  untouched o ho := by
    have hk : ¬ w.Knows o := fun hk => ho <| by
      cases o with
      | thread t => exact hk
      | scope s => exact Nat.lt_succ_of_lt hk
    have hne : o ≠ .scope w.execution.nextScope := by
      rintro rfl
      exact ho (Nat.lt_succ_self _)
    rw [began_wrap, if_neg hne]
    exact h.untouched o hk
  fresh := h.fresh
  apart := h.apart
  nodup := h.nodup
  opened t s hs := Nat.lt_succ_of_lt (h.opened t s hs)
  exclusive := h.exclusive
  once := h.once

theorem enter (h : w.Sound) {t s : Nat} (hs : s < w.execution.nextScope)
    (hfree : ∀ u, s ∉ w.polling u) : (w.enter t s).Sound where
  stack_eq := h.stack_eq
  untouched := h.untouched
  fresh := h.fresh
  apart := h.apart
  nodup := h.nodup
  opened u k hk := by
    rw [polling_enter] at hk
    split at hk
    next =>
      rcases List.mem_cons.mp hk with rfl | hk
      · exact hs
      · exact h.opened u k hk
    next => exact h.opened u k hk
  exclusive u v k hu hv := by
    have entered : ∀ x, k ∈ (w.enter t s).polling x → k ∈ w.polling x ∨ x = t ∧ k = s := by
      intro x hx
      rw [polling_enter] at hx
      split at hx
      next hxt =>
        rcases List.mem_cons.mp hx with hk | hx
        · exact .inr ⟨hxt, hk⟩
        · exact .inl hx
      next => exact .inl hx
    rcases entered u hu with hu | ⟨hut, hk⟩
    · rcases entered v hv with hv | ⟨_, hk⟩
      · exact h.exclusive u v k hu hv
      · exact absurd (hk ▸ hu) (hfree u)
    · rcases entered v hv with hv | ⟨hvt, _⟩
      · exact absurd (hk ▸ hv) (hfree v)
      · exact hut.trans hvt.symm
  once u := by
    rw [polling_enter]
    split
    next => exact List.nodup_cons.mpr ⟨hfree u, h.once u⟩
    next => exact h.once u

theorem leave (h : w.Sound) (t : Nat) : (w.leave t).Sound := by
  have inside : ∀ u, ((w.leave t).polling u).Sublist (w.polling u) := by
    intro u
    rw [polling_leave]
    split
    next => exact List.tail_sublist _
    next => exact List.Sublist.refl _
  exact
    { stack_eq := h.stack_eq
      untouched := h.untouched
      fresh := h.fresh
      apart := h.apart
      nodup := h.nodup
      opened := fun u s hs => h.opened u s ((inside u).subset hs)
      exclusive := fun u v s hu hv => h.exclusive u v s ((inside u).subset hu) ((inside v).subset hv)
      once := fun u => (h.once u).sublist (inside u) }

theorem attach (h : w.Sound) {t : Nat} (ht : t < w.execution.nextThread) (cx : Context) :
    (w.attach t cx).Sound := by
  -- a guard of the new history is an old one or the one just attached
  have known : ∀ o g, g ∈ StackUse.guards ((w.attach t cx).uses o) →
      g ∈ StackUse.guards (w.uses o) ∨ g = w.execution.nextGuard ∧ o = (w.place t).owner := by
    intro o g hg
    rw [guards_attach] at hg
    split at hg
    next ho =>
      rcases List.mem_cons.mp hg with hg | hg
      · exact .inr ⟨hg, ho⟩
      · exact .inl hg
    next => exact .inl hg
  exact
    { stack_eq := fun o => by
        rw [stack_attach, uses_attach, h.stack_eq o]
        split <;> rfl
      untouched := fun o ho => by
        have hne : o ≠ (w.place t).owner := fun he => ho (he ▸ h.knows_owner ht)
        rw [uses_attach, if_neg hne]
        exact h.untouched o ho
      fresh := fun o g hg => by
        rcases known o g hg with hg | ⟨rfl, _⟩
        · exact Nat.lt_succ_of_lt (h.fresh o g hg)
        · exact Nat.lt_succ_self _
      apart := fun o p g ho hp => by
        rcases known o g ho with ho | ⟨hg, hoo⟩
        · rcases known p g hp with hp | ⟨hg, _⟩
          · exact h.apart o p g ho hp
          · exact absurd (h.fresh o g ho) (hg ▸ Nat.lt_irrefl _)
        · rcases known p g hp with hp | ⟨_, hpo⟩
          · exact absurd (h.fresh p g hp) (hg ▸ Nat.lt_irrefl _)
          · exact hoo.trans hpo.symm
      nodup := fun o => by
        rw [guards_attach]
        split
        next =>
          exact List.nodup_cons.mpr ⟨fun hg => Nat.lt_irrefl _ (h.fresh o _ hg), h.nodup o⟩
        next => exact h.nodup o
      opened := h.opened
      exclusive := h.exclusive
      once := h.once }

theorem drop (h : w.Sound) {t : Nat} (ht : t < w.execution.nextThread) (g : ContextGuard) :
    (w.drop t g).Sound where
  stack_eq o := by
    rw [stack_drop, uses_drop, h.stack_eq o]
    split <;> rfl
  untouched o ho := by
    rw [knows_drop] at ho
    rw [uses_drop, if_neg (fun he => ho (h.knows_ownerOf? ht he))]
    exact h.untouched o ho
  fresh o k hk := by
    rw [guards_drop] at hk
    rw [(counters_drop t g).1]
    exact h.fresh o k hk
  apart o p k ho hp := by
    rw [guards_drop] at ho hp
    exact h.apart o p k ho hp
  nodup o := by
    rw [guards_drop]
    exact h.nodup o
  opened u s hs := by
    rw [(counters_drop t g).2.1]
    exact h.opened u s hs
  exclusive := h.exclusive
  once := h.once

theorem step {w' : Runtime} {e : Happening} (h : w.Sound) (hs : Step w e w') : w'.Sound := by
  cases hs with
  | spawn => exact h.spawn
  | wrap => exact h.wrap _
  | enter _ hs hfree => exact h.enter hs hfree
  | leave => exact h.leave _
  | attach ht => exact h.attach ht _
  | drop ht _ => exact h.drop ht _

theorem run {w' : Runtime} {es : List Happening} (h : w.Sound) (hr : Run w es w') : w'.Sound := by
  induction hr with
  | none => exact h
  | step _ hs ih => exact ih.step hs

end Sound

theorem Reachable.sound {w : Runtime} (h : w.Reachable) : w.Sound := by
  obtain ⟨es, hr⟩ := h
  exact Sound.initial.run hr

end Runtime

end Telemetry
