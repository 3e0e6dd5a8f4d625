import Telemetry.Proofs.Context.Runtime

/-!
# What a drop restores

The history of a stack only grows, so the attaching of every guard is a moment of the run that can be
gone back to.  When a live guard is dropped, its stack is again what it was at that moment, with all
that it saves for the guards that were live then.  Every other guard finds nothing: it changes no
stack, and so nothing that happens later either.
-/

namespace Telemetry

theorem Execution.update_stack (e : Execution) (o : Owner) : e.update o (e.stack o) = e := by
  have hs : (fun p => if p = o then e.stack o else e.stack p) = e.stack := by
    funext p
    split
    next h => rw [h]
    next => rfl
  rw [Execution.update, hs]

namespace Runtime

open StackUse (guards live)

variable {w : Runtime} {o : Owner} {g : ContextGuard}

/-! ## Going on -/

theorem Step.knows {w' : Runtime} {e : Happening} (hs : Step w e w') (ho : w.Knows o) : w'.Knows o := by
  cases hs with
  | spawn =>
      cases o with
      | thread t => exact Nat.lt_succ_of_lt ho
      | scope s => exact ho
  | wrap =>
      cases o with
      | thread t => exact ho
      | scope s => exact Nat.lt_succ_of_lt ho
  | enter | leave | attach => exact ho
  | drop => exact (knows_drop _ _).2 ho

/-- A stack keeps the context that it began with, and its history. -/
theorem Step.grows {w' : Runtime} {e : Happening} (hs : Step w e w') (ho : w.Knows o) :
    w'.began o = w.began o ∧ ∃ newer, w'.uses o = newer ++ w.uses o := by
  cases hs with
  | spawn | enter | leave => exact ⟨rfl, [], rfl⟩
  | wrap =>
      refine ⟨?_, [], rfl⟩
      rw [began_wrap, if_neg]
      rintro rfl
      exact Nat.lt_irrefl _ ho
  | attach =>
      refine ⟨rfl, ?_⟩
      rw [uses_attach]
      split
      next => exact ⟨[_], rfl⟩
      next => exact ⟨[], rfl⟩
  | drop =>
      refine ⟨rfl, ?_⟩
      rw [uses_drop]
      split
      next => exact ⟨[_], rfl⟩
      next => exact ⟨[], rfl⟩

theorem Run.knows {w' : Runtime} {es : List Happening} (hr : Run w es w') (ho : w.Knows o) :
    w'.Knows o := by
  induction hr with
  | none => exact ho
  | step _ hs ih => exact hs.knows ih

theorem Run.grows {w' : Runtime} {es : List Happening} (hr : Run w es w') (ho : w.Knows o) :
    w'.began o = w.began o ∧ ∃ newer, w'.uses o = newer ++ w.uses o := by
  induction hr with
  | none => exact ⟨rfl, [], rfl⟩
  | step hr hs ih =>
      obtain ⟨hb, newer, hu⟩ := ih
      obtain ⟨hb', newer', hu'⟩ := hs.grows (hr.knows ho)
      exact ⟨hb'.trans hb, newer' ++ newer, by rw [hu', hu, List.append_assoc]⟩

/-- Every guard was attached at some moment. -/
theorem Reachable.attached (h : w.Reachable) {k : GuardId} (hk : k ∈ guards (w.uses o)) :
    ∃ (w₁ : Runtime) (t₁ : Nat) (cx : Context) (es : List Happening), w₁.Reachable ∧
      t₁ < w₁.execution.nextThread ∧ (w₁.place t₁).owner = o ∧ w₁.execution.nextGuard = k ∧
      Run (w₁.attach t₁ cx) es w := by
  obtain ⟨es, hr⟩ := h
  induction hr with
  | none => exact nomatch hk
  | @step es w₁ e w₂ hr hs ih =>
      by_cases hold : k ∈ guards (w₁.uses o)
      · obtain ⟨w₀, t₀, cx, es₀, h₀, ht, ho, hg, hr₀⟩ := ih hold
        exact ⟨w₀, t₀, cx, e :: es₀, h₀, ht, ho, hg, hr₀.step hs⟩
      · cases hs with
        | spawn | wrap | enter | leave => exact absurd hk hold
        | @attach t cx ht =>
            rw [guards_attach] at hk
            split at hk
            next ho =>
              have hnew := (List.mem_cons.mp hk).resolve_right hold
              exact ⟨w₁, t, cx, [], ⟨es, hr⟩, ht, ho.symm, hnew.symm, .none⟩
            next => exact absurd hk hold
        | drop =>
            rw [guards_drop] at hk
            exact absurd hk hold

/-! ## Drops -/

/-- How a drop goes. -/
def dropped (w : Runtime) (t : Nat) (g : ContextGuard) : Detached :=
  (w.execution.detach (w.place t) g).2

theorem dropped_eq {t : Nat} (hp : (w.place t).ownerOf? g.slot = some o) :
    w.dropped t g = ((w.execution.stack o).detach g.id).2 := by
  simp only [dropped, Execution.detach, hp]

theorem dropped_eq_notFound_iff (h : w.Sound) {t : Nat} (hp : (w.place t).ownerOf? g.slot = some o) :
    w.dropped t g = .notFound ↔ g.id ∉ (live (w.uses o)).map (·.1) := by
  rw [dropped_eq hp, ContextStack.detach_eq_notFound_iff, h.stack_eq, ContextStack.guards_after]

/-- A guard that is not found changes no stack. -/
theorem execution_drop_of_notFound {t : Nat} (hd : w.dropped t g = .notFound) :
    (w.drop t g).execution = w.execution := by
  unfold Runtime.drop Execution.detach
  cases hp : (w.place t).ownerOf? g.slot with
  | none => rfl
  | some o =>
      rw [dropped_eq hp, ContextStack.detach_eq_notFound_iff] at hd
      simp only [ContextStack.detach_of_not_mem hd, Execution.update_stack]

/-- A live guard brings back the stack on which it was attached. -/
theorem Sound.stack_drop_of_live (h : w.Sound) {t t₁ : Nat} {w₁ : Runtime} {cx : Context}
    {es : List Happening} (h₁ : w₁.Sound) (ht₁ : t₁ < w₁.execution.nextThread)
    (ho : (w₁.place t₁).owner = o) (hg : w₁.execution.nextGuard = g.id)
    (hr : Run (w₁.attach t₁ cx) es w) (hp : (w.place t).ownerOf? g.slot = some o)
    (hl : g.id ∈ (live (w.uses o)).map (·.1)) :
    (w.drop t g).execution.stack o = w₁.execution.stack o := by
  obtain ⟨hb, newer, hu⟩ := hr.grows (o := o) (ho ▸ h₁.knows_owner ht₁)
  rw [uses_attach, if_pos ho.symm, hg] at hu
  have hn : (guards (newer ++ .attach g.id cx :: w₁.uses o)).Nodup := hu ▸ h.nodup o
  have hold : g.id ∉ guards (w₁.uses o) := fun hm => Nat.lt_irrefl _ (hg ▸ h₁.fresh o _ hm)
  have hnew : g.id ∉ guards newer := by
    rw [guards, List.filterMap_append] at hn
    intro hm
    exact (List.nodup_append.mp hn).2.2 _ hm _ List.mem_cons_self rfl
  rw [hu] at hl
  rw [stack_drop, if_pos hp, h.stack_eq, h₁.stack_eq, ContextStack.after_eq_built,
    ContextStack.after_eq_built, ContextStack.detach_built, hu, StackUse.ended_live hnew hold hl, hb]
  rfl

theorem logs_dropped_eq_nil_iff (h : w.Sound) {t : Nat} (hp : (w.place t).ownerOf? g.slot = some o) :
    (w.dropped t g).logs = [] ↔ (live (w.uses o)).head?.map (·.1) = some g.id := by
  rw [dropped_eq hp, ContextStack.logs_detach_eq_nil_iff, ← List.head?_map, ← List.head?_map,
    h.stack_eq, ContextStack.guards_after]

/-- What a thread sees and what its drops do, in terms of the live guards of a stack.  The current
context is that of the newest live guard.  A live guard brings back the stack as it was just before
its attaching, any other guard changes nothing at all, and only the newest live guard goes without a
warning. -/
theorem guards_restore (h : w.Reachable) (t : Nat) (o : Owner) :
    ((w.place t).owner = o →
      w.current t = ((live (w.uses o)).head?.map (·.2)).getD (w.began o)) ∧
    ∀ g : ContextGuard, (w.place t).ownerOf? g.slot = some o →
      (g.id ∈ (live (w.uses o)).map (·.1) → ∃ (w₁ : Runtime) (t₁ : Nat) (cx : Context) (es : List Happening),
        w₁.Reachable ∧ (w₁.place t₁).owner = o ∧ w₁.nextGuard t₁ = g ∧ Run (w₁.attach t₁ cx) es w ∧
        (w.drop t g).execution.stack o = w₁.execution.stack o ∧
        ((w.drop t g).execution.stack o).current = w₁.current t₁) ∧
      (g.id ∉ (live (w.uses o)).map (·.1) → (w.drop t g).execution = w.execution) ∧
      ((w.dropped t g).logs = [] ↔ (live (w.uses o)).head?.map (·.1) = some g.id) := by
  refine ⟨fun ho => ?_, fun g hp => ⟨fun hl => ?_, fun hl => ?_, logs_dropped_eq_nil_iff h.sound hp⟩⟩
  · rw [current, Execution.current, ho, h.sound.stack_eq, ContextStack.after_eq_built,
      ContextStack.current_built]
  · obtain ⟨w₁, t₁, cx, es, h₁, ht₁, ho, hg, hr⟩ :=
      h.attached ((StackUse.live_sublist _).subset hl)
    have hslot : (w₁.place t₁).slot = g.slot := by
      rw [← Place.slot_owner, ho, Place.ownerOf?_eq_some hp]
    have hs := h.sound.stack_drop_of_live h₁.sound ht₁ ho hg hr hp hl
    refine ⟨w₁, t₁, cx, es, h₁, ho, ?_, hr, hs, ?_⟩
    · rw [Runtime.nextGuard, hg, hslot]
    · rw [hs, current, Execution.current, ho]
  · exact execution_drop_of_notFound ((dropped_eq_notFound_iff h.sound hp).mpr hl)

/-- In a scope, on a thread that has a guard of its own, the older of two guards is dropped first. -/
theorem guards_restore_out_of_order :
    ∃ w : Runtime, w.Reachable ∧ w.current 0 = Context.empty.withSpan .invalid ∧
      live (w.uses (.scope 0)) = [(2, Context.empty.withSpan .invalid), (1, .empty)] ∧
      (w.dropped 0 ⟨1, .scope⟩).logs ≠ [] ∧
      ∃ (w₁ : Runtime) (t₁ : Nat), w₁.nextGuard t₁ = ⟨1, .scope⟩ ∧
        (w.drop 0 ⟨1, .scope⟩).execution.stack (.scope 0) = w₁.execution.stack (.scope 0) := by
  have main : ∀ {w : Runtime}, w.execution.nextThread = 1 → 0 < w.execution.nextThread :=
    fun h => by omega
  have h : Reachable (((((initial.attach 0 .empty).wrap (Context.empty.withBaggage .empty)).enter 0
      0).attach 0 .empty).attach 0 (Context.empty.withSpan .invalid)) :=
    ⟨_, ((((Run.none.step (.attach (main rfl))).step .wrap).step
      (.enter (main rfl) (by decide) (fun _ => List.not_mem_nil))).step (.attach (main rfl))).step
      (.attach (main rfl))⟩
  obtain ⟨hcur, hdrop⟩ := guards_restore h 0 (.scope 0)
  obtain ⟨hlive, -, hlogs⟩ := hdrop ⟨1, .scope⟩ rfl
  obtain ⟨w₁, t₁, _, _, _, _, hg, _, hs, _⟩ := hlive (by decide)
  exact ⟨_, h, hcur rfl, rfl, fun he => absurd (hlogs.mp he) (by decide), w₁, t₁, hg, hs⟩

end Runtime

end Telemetry
