import Telemetry.Proofs.Propagation.Codecs

/-!
# The two forms of B3

The single header and the multiple headers tell the same things, and the ids are read in one way from
both.  So a reader makes the same context of both forms, whatever the texts are, as long as there is a
sampling state.

The state may be left out, and then the forms part.  A single header without a state is sampled, and
multiple headers without one are not.  In terms of an optional state, the one form asks whether all of it
says yes and the other whether any of it does (`HoldsSingle.carried?_eq`, `HoldsMultiple.carried?_eq`).
-/

namespace Telemetry

namespace B3

/-! ## The same parts in both forms -/

/-- The single header of two ids and a sampling state, if there is one. -/
def singleHeader (trace span : String) : Option String → String
  | none => trace ++ "-" ++ span
  | some state => trace ++ "-" ++ span ++ "-" ++ state

section Carriers

variable {γ : Type} [HeaderSource γ]

/-- Whether a carrier has the parts in the single header. -/
structure HoldsSingle (c : γ) (trace span : String) (state : Option String) : Prop where
  header : HeaderSource.get? c singleName = some (singleHeader trace span state)

/-- Whether a carrier has the parts in the multiple headers, and no other header of B3. -/
structure HoldsMultiple (c : γ) (trace span : String) (state : Option String) : Prop where
  header : HeaderSource.get? c singleName = none
  trace : HeaderSource.get? c traceName = some trace
  span : HeaderSource.get? c spanName = some span
  sampled : HeaderSource.get? c sampledName = state
  flags : HeaderSource.get? c flagsName = none

variable {c : γ} {trace span : String} {state : Option String}

/-- Without a state the single header is sampled. -/
theorem HoldsSingle.carried?_eq (h : HoldsSingle c trace span state) (htrace : '-' ∉ trace.toList)
    (hspan : '-' ∉ span.toList) (hstate : ∀ s ∈ state, '-' ∉ s.toList) :
    carried? c = build? trace.toList span.toList (state.all saysSampled) := by
  rw [carried?, h.header]
  dsimp only
  cases state with
  | none =>
    have hfields : Text.fields '-' (singleHeader trace span none).toList = [trace.toList, span.toList] := by
      rw [singleHeader, String.toList_append, String.toList_append, List.append_assoc]
      exact (Text.fields_append_cons htrace _).trans (congrArg _ (Text.fields_of_not_mem hspan))
    rw [readSingle?, hfields]
    rfl
  | some s =>
    have hfields : Text.fields '-' (singleHeader trace span (some s)).toList =
        [trace.toList, span.toList, s.toList] := by
      simp only [singleHeader, String.toList_append, List.append_assoc]
      refine (Text.fields_append_cons htrace _).trans (congrArg _ ?_)
      exact (Text.fields_append_cons hspan _).trans (congrArg _ (Text.fields_of_not_mem (hstate s rfl)))
    rw [readSingle?, hfields]
    dsimp only
    rw [String.ofList_toList, Option.all_some]

/-- Without a state the multiple headers are not sampled. -/
theorem HoldsMultiple.carried?_eq (h : HoldsMultiple c trace span state) :
    carried? c = build? trace.toList span.toList (state.any saysSampled) := by
  rw [carried?, h.header]
  dsimp only
  simp only [readMultiple?, h.trace, h.span, h.sampled, h.flags, Option.bind_eq_bind, Option.bind_some]
  exact congrArg _ (Bool.or_false _)

end Carriers

/-! ## Ids -/

/-- Whether two texts write the ids of a span. -/
structure WritesIds (trace span : String) (t : TraceId) (s : SpanId) : Prop where
  trace : TraceId.ofHex? true trace.toList = some t
  span : SpanId.ofHex? span.toList = some s
  traceValid : t.isValid = true
  spanValid : s.isValid = true

variable {trace span : String}

theorem WritesIds.build?_eq {t : TraceId} {s : SpanId} (h : WritesIds trace span t s) (sampled : Bool) :
    build? trace.toList span.toList sampled =
      some (.newRemote t s (if sampled then .sampled else .none)) :=
  build?_eq_some h.trace h.span ((Bool.and_eq_true _ _).mpr ⟨h.traceValid, h.spanValid⟩) sampled

theorem build?_eq_none (h : ∀ t s, ¬ WritesIds trace span t s) (sampled : Bool) :
    build? trace.toList span.toList sampled = none := by
  rw [Option.eq_none_iff_forall_ne_some]
  intro r hr
  obtain ⟨t, ht, hr⟩ := Option.bind_eq_some_iff.mp hr
  obtain ⟨s, hs, hr⟩ := Option.bind_eq_some_iff.mp hr
  obtain ⟨_, hvalid, -⟩ := Option.bind_eq_some_iff.mp hr
  have hvalid := (Bool.and_eq_true _ _).mp ((Option.guard_eq_some' _).mp hvalid)
  exact h t s ⟨ht, hs, hvalid.1, hvalid.2⟩

theorem extract_eq_of_some {γ : Type} [HeaderSource γ] {c : γ} {r : SpanContext} (h : carried? c = some r)
    (cx : Context) : extract cx c = cx.withRemoteSpan r := by
  rw [extract, h]

theorem extract_eq_of_none {γ : Type} [HeaderSource γ] {c : γ} (h : carried? c = none) (cx : Context) :
    extract cx c = cx := by
  rw [extract, h]

/-! ## Reading both -/

section Forms

variable {γ δ : Type} [HeaderSource γ] [HeaderSource δ] {c : γ} {d : δ} {state : Option String}

/-- The same parts in the single header and in the multiple headers, whatever texts they are.  With a
sampling state both forms give the same context.  Without one they still agree on the ids, and on whether
there are any, but the single header makes a sampled span context and the multiple headers make one that
is not sampled. -/
theorem forms_agree (hc : HoldsSingle c trace span state) (hd : HoldsMultiple d trace span state)
    (htrace : '-' ∉ trace.toList) (hspan : '-' ∉ span.toList) (hstate : ∀ s ∈ state, '-' ∉ s.toList)
    (encoding other : B3Encoding) (cx : Context) :
    (state ≠ none → (Propagator.b3 encoding).extract c cx = (Propagator.b3 other).extract d cx) ∧
    (state = none →
      (∀ t s, WritesIds trace span t s →
        (Propagator.b3 encoding).extract c cx = cx.withRemoteSpan (.newRemote t s .sampled) ∧
        (Propagator.b3 other).extract d cx = cx.withRemoteSpan (.newRemote t s .none)) ∧
      ((∀ t s, ¬ WritesIds trace span t s) →
        (Propagator.b3 encoding).extract c cx = cx ∧ (Propagator.b3 other).extract d cx = cx)) := by
  have hsingle := hc.carried?_eq htrace hspan hstate
  have hmultiple := hd.carried?_eq
  refine ⟨fun hgiven => ?_, fun hnone => ⟨fun t s hids => ?_, fun hids => ?_⟩⟩
  · obtain ⟨s, rfl⟩ := Option.ne_none_iff_exists'.mp hgiven
    have hsame : carried? c = carried? d := by rw [hsingle, hmultiple, Option.all_some, Option.any_some]
    rw [Propagator.extract, Propagator.extract, extract, extract, hsame]
  · subst hnone
    exact ⟨extract_eq_of_some (hsingle.trans (hids.build?_eq true)) cx,
      extract_eq_of_some (hmultiple.trans (hids.build?_eq false)) cx⟩
  · exact ⟨extract_eq_of_none (hsingle.trans (build?_eq_none hids _)) cx,
      extract_eq_of_none (hmultiple.trans (build?_eq_none hids _)) cx⟩

end Forms

/-- A short trace id and a span id in the single header. -/
def shortSingle (state : Option String) : HeaderMap :=
  .ofList [("b3", singleHeader "a3ce929d0e0e4736" "00f067aa0ba902b7" state)]

/-- The same in the multiple headers. -/
def shortMultiple (state : Option String) : HeaderMap :=
  .ofList ([("x-b3-traceid", "a3ce929d0e0e4736"), ("x-b3-spanid", "00f067aa0ba902b7")] ++
    state.toList.map ("x-b3-sampled", ·))

theorem holds_short {state : Option String} (h : state = none ∨ state = some "d") :
    HoldsSingle (shortSingle state) "a3ce929d0e0e4736" "00f067aa0ba902b7" state ∧
    HoldsMultiple (shortMultiple state) "a3ce929d0e0e4736" "00f067aa0ba902b7" state := by
  rcases h with rfl | rfl
  · exact ⟨⟨by decide +kernel⟩,
      ⟨by decide +kernel, by decide +kernel, by decide +kernel, by decide +kernel, by decide +kernel⟩⟩
  · exact ⟨⟨by decide +kernel⟩,
      ⟨by decide +kernel, by decide +kernel, by decide +kernel, by decide +kernel, by decide +kernel⟩⟩

/-- With the state of debugging, and without a state. -/
theorem forms_agree_of_short : '-' ∉ "a3ce929d0e0e4736".toList ∧ '-' ∉ "00f067aa0ba902b7".toList ∧
    '-' ∉ "d".toList ∧
    (∀ cx, (Propagator.b3 .single).extract (shortSingle (some "d")) cx =
      (Propagator.b3 .multiple).extract (shortMultiple (some "d")) cx) ∧
    ∀ cx, (Propagator.b3 .single).extract (shortSingle none) cx =
        cx.withRemoteSpan (.newRemote ⟨0xa3ce929d0e0e4736⟩ ⟨0x00f067aa0ba902b7⟩ .sampled) ∧
      (Propagator.b3 .multiple).extract (shortMultiple none) cx =
        cx.withRemoteSpan (.newRemote ⟨0xa3ce929d0e0e4736⟩ ⟨0x00f067aa0ba902b7⟩ .none) := by
  have htrace : '-' ∉ "a3ce929d0e0e4736".toList := by decide
  have hspan : '-' ∉ "00f067aa0ba902b7".toList := by decide
  have hstate : '-' ∉ "d".toList := by decide
  have hids : WritesIds "a3ce929d0e0e4736" "00f067aa0ba902b7" ⟨0xa3ce929d0e0e4736⟩ ⟨0x00f067aa0ba902b7⟩ :=
    ⟨by decide +kernel, by decide +kernel, by decide, by decide⟩
  obtain ⟨hsingle, hmultiple⟩ := holds_short (.inr rfl)
  obtain ⟨hsingle', hmultiple'⟩ := holds_short (.inl rfl)
  refine ⟨htrace, hspan, hstate, fun cx => ?_, fun cx => ?_⟩
  · exact (forms_agree hsingle hmultiple htrace hspan (fun _ h => Option.some.inj h ▸ hstate) _ _ cx).1 nofun
  · exact ((forms_agree hsingle' hmultiple' htrace hspan nofun _ _ cx).2 rfl).1 _ _ hids

/-- Without a sampling state the two forms do not agree. -/
theorem forms_differ_without_state : ¬ ∀ (trace span : String) (state : Option String),
    '-' ∉ trace.toList → '-' ∉ span.toList → (∀ s ∈ state, '-' ∉ s.toList) →
    ∀ c d : HeaderMap, HoldsSingle c trace span state → HoldsMultiple d trace span state →
    ∀ (encoding : B3Encoding) (cx : Context),
      (Propagator.b3 encoding).extract c cx = (Propagator.b3 encoding).extract d cx := by
  intro h
  obtain ⟨hsingle, hmultiple⟩ := holds_short (.inl rfl)
  have hsame := h "a3ce929d0e0e4736" "00f067aa0ba902b7" none (by decide) (by decide) nofun _ _
    hsingle hmultiple .multiple .empty
  have hsampled := congrArg (fun cx => cx.span.isSampled) hsame
  revert hsampled
  decide +kernel

end B3

end Telemetry
