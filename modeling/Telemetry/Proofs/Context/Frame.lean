import Telemetry.Proofs.Context.Restoration

/-!
# Which stack is touched

An attaching is a matter of the stack that is seen where it happens.  A drop looks at one stack only,
and as no guard belongs to two, it does something exactly if that is the stack of the guard and the
guard is live.

What lies outside of a scope is out of reach as long as the scope is polled.  The scopes outside
belong to the polling thread, so that no other thread is in them, and they are not innermost on this
one.  The stack of the thread itself can be reached by its own guards only (`Poll.outside`).
-/

namespace Telemetry.Runtime

open StackUse (guards live)

variable {w w' : Runtime} {t : Nat} {g : ContextGuard} {home o : Owner}

/-! ## Drops -/

/-- A guard is found exactly where its stack is seen in its role, as long as it is live. -/
theorem dropped_ne_notFound_iff (h : w.Sound) (hi : w.Issued g home) : w.dropped t g ≠ .notFound ↔
    (w.place t).ownerOf? g.slot = some home ∧ g.id ∈ (live (w.uses home)).map (·.1) := by
  cases hp : (w.place t).ownerOf? g.slot with
  | none =>
      have hd : w.dropped t g = .notFound := by simp only [dropped, Execution.detach, hp]
      simp [hd]
  | some o =>
      rw [Ne, dropped_eq_notFound_iff h hp, not_not]
      constructor
      · intro hl
        have ho : o = home := h.apart o home g.id ((StackUse.live_sublist _).subset hl) hi.2
        exact ⟨congrArg some ho, ho ▸ hl⟩
      · rintro ⟨ho, hl⟩
        exact Option.some.inj ho ▸ hl

/-- A drop changes no stack but that of its guard. -/
theorem stack_drop_of_ne (h : w.Sound) (hi : w.Issued g home) (ho : o ≠ home) :
    (w.drop t g).execution.stack o = w.execution.stack o := by
  by_cases hp : (w.place t).ownerOf? g.slot = some home
  · rw [stack_drop, if_neg]
    rw [hp]
    exact fun he => ho (Option.some.inj he).symm
  · have hd : w.dropped t g = .notFound := by
      by_contra hd
      exact hp ((dropped_ne_notFound_iff h hi).mp hd).1
    rw [execution_drop_of_notFound hd]

theorem ownerOf?_scope {s : Nat} (hg : g.slot = .scope) :
    (w.place t).ownerOf? g.slot = some (.scope s) ↔ (w.polling t).head? = some s := by
  rw [hg]
  exact ⟨fun h => by
    obtain ⟨k, hk, he⟩ := Option.map_eq_some_iff.mp h
    cases he
    exact hk, fun h => by
    show (w.polling t).head?.map Owner.scope = _
    rw [h]
    rfl⟩

theorem owner_place_eq_scope {s : Nat} :
    (w.place t).owner = .scope s ↔ (w.polling t).head? = some s := by
  unfold place Place.owner
  cases w.polling t <;> simp

theorem ownerOf?_thread {u : Nat} (hg : g.slot = .thread) :
    (w.place t).ownerOf? g.slot = some (.thread u) ↔ t = u := by
  rw [hg]
  exact ⟨fun h => by cases h; rfl, fun h => by cases h; rfl⟩

/-! ## Polls -/

/-- Things happen while a thread goes on being in some scopes, whatever it enters within them. -/
inductive Poll (t : Nat) (base : List Nat) (w : Runtime) : List Happening → Runtime → Prop where
  | none : Poll t base w [] w
  | step {es w₁ e w₂} : Poll t base w es w₁ → Step w₁ e w₂ → base <:+ w₂.polling t →
      Poll t base w (e :: es) w₂

/-- Owners that a thread does not see as the innermost one when it is within a scope. -/
def Outside (t : Nat) (outer : List Nat) : Owner → Prop
  | .thread u => u = t
  | .scope s => s ∈ outer

theorem head?_ne_of_suffix {l outer : List Nat} {s k : Nat} (hn : l.Nodup) (hs : s :: outer <:+ l)
    (hk : k ∈ outer) : l.head? ≠ some k := by
  obtain ⟨front, rfl⟩ := hs
  intro hh
  cases front with
  | nil =>
      cases hh
      exact (List.nodup_cons.mp hn).1 hk
  | cons a front =>
      cases hh
      exact (List.nodup_cons.mp hn).1 (List.mem_append_right _ (List.mem_cons_of_mem _ hk))

/-- The owner of a place is not outside of the scope that a thread is in. -/
theorem Sound.owner_ne_outside (h : w.Sound) {s : Nat} {outer : List Nat} (hb : s :: outer <:+ w.polling t)
    (ho : Outside t outer o) (u : Nat) : (w.place u).owner ≠ o := by
  rintro rfl
  cases hu : w.polling u with
  | nil =>
      have hown : (w.place u).owner = .thread u := by
        unfold place Place.owner
        rw [hu]
      rw [hown] at ho
      have hut : u = t := ho
      rw [← hut, hu] at hb
      exact absurd (List.suffix_nil.mp hb) (List.cons_ne_nil _ _)
  | cons k rest =>
      have hown : (w.place u).owner = .scope k := owner_place_eq_scope.mpr (by rw [hu]; rfl)
      rw [hown] at ho
      have hk : k ∈ outer := ho
      have hut : u = t := h.exclusive u t k (hu ▸ List.mem_cons_self)
        (hb.subset (List.mem_cons_of_mem _ hk))
      have hhead := head?_ne_of_suffix (h.once t) hb hk
      rw [← hut, hu] at hhead
      exact hhead rfl

theorem Step.outside (hs : Step w e w') (h : w.Sound) {s : Nat} {outer : List Nat}
    (hb : s :: outer <:+ w.polling t) (ho : Outside t outer o) (hk : w.Knows o)
    (hd : ∀ g, o = .thread t → e ≠ .drop t g o) : w'.execution.stack o = w.execution.stack o := by
  cases hs with
  | spawn =>
      rw [stack_spawn, if_neg]
      rintro rfl
      exact Nat.lt_irrefl _ hk
  | wrap =>
      rw [stack_wrap, if_neg]
      rintro rfl
      exact Nat.lt_irrefl _ hk
  | enter | leave => rfl
  | attach => rw [stack_attach, if_neg (h.owner_ne_outside hb ho _).symm]
  | @drop u g home hu hi =>
      by_cases hne : o = home
      · subst hne
        rw [stack_drop, if_neg]
        cases o with
        | thread v =>
            have hv : v = t := ho
            subst hv
            rw [ownerOf?_thread hi.1]
            rintro rfl
            exact hd g rfl rfl
        | scope k =>
            -- the stack of a scope is looked at only where the scope is innermost
            intro hp
            have hslot : g.slot = (w.place u).slot := by
              obtain ⟨x, hx, -⟩ := Option.map_eq_some_iff.mp (hi.1 ▸ hp)
              have hx' : (w.polling u).head? = some x := hx
              rw [hi.1]
              unfold place Place.slot
              cases hpu : w.polling u with
              | nil => rw [hpu] at hx'; cases hx'
              | cons => rfl
            rw [hslot, Place.ownerOf?_slot] at hp
            exact h.owner_ne_outside hb ho u (Option.some.inj hp)
      · exact stack_drop_of_ne h hi hne

theorem Poll.run {base : List Nat} {es : List Happening} (hp : Poll t base w es w') : Run w es w' := by
  induction hp with
  | none => exact .none
  | step _ hs _ ih => exact ih.step hs

/-- While a thread is in a scope, the stacks outside of it stay as they are, unless a guard of the
thread's own stack is dropped inside. -/
theorem Poll.outside {s : Nat} {outer : List Nat} {es : List Happening}
    (hp : Poll t (s :: outer) w es w') (h : w.Sound) (hb : s :: outer <:+ w.polling t)
    (ho : Outside t outer o) (hk : w.Knows o) (hd : ∀ g, o = .thread t → .drop t g o ∉ es) :
    w'.execution.stack o = w.execution.stack o := by
  induction hp with
  | none => rfl
  | @step es w₁ e w₂ hp hs _ ih =>
      have hb₁ : s :: outer <:+ w₁.polling t := by
        cases hp with
        | none => exact hb
        | step _ _ hb₁ => exact hb₁
      have hd₁ : ∀ g, o = .thread t → .drop t g o ∉ es :=
        fun g hot hm => hd g hot (List.mem_cons_of_mem _ hm)
      rw [hs.outside (h.run hp.run) hb₁ ho (hp.run.knows hk)
        (fun g hot he => hd g hot (he ▸ List.mem_cons_self)), ih hd₁]

end Telemetry.Runtime
