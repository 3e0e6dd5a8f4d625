import Telemetry.Proofs.Layer.Remarks

/-!
# What records say

A run of a tracer leaves a list of remarks beside its history.  The record of a span that closes says
what was remarked about this span since it was opened, in the order of the remarks (`Describes`): a
field has the value that it was given last, and the last failure tells how the span ended.  Code that
goes on elsewhere may make remarks at any time, about other spans or about this one, and only those
about this one count.
-/

namespace Telemetry

open LayerEvent (births)
open Remark (about written failures outcome)

/-! ## What is said and how it is kept -/

/-- What an event says: its message, or else its error, or else nothing. -/
inductive Fields.Says (fields : Fields) : String → Prop where
  | message {v} : fields.last? "message" = some v → Says fields v.message
  | error {v} : fields.last? "message" = none → fields.last? "error" = some v → Says fields v.message
  | nothing : fields.last? "message" = none → fields.last? "error" = none → Says fields ""

theorem Fields.says_message (fields : Fields) : fields.Says fields.message := by
  rw [Fields.message]
  cases hm : fields.last? "message" with
  | some v => exact .message hm
  | none =>
    cases he : fields.last? "error" with
    | some v => exact .error hm he
    | none => exact .nothing hm he

namespace FieldValue

/-- How integers of 128 bits are kept: as a number of 64 bits if they fit, and otherwise as their digits. -/
structure KeepsWide : Prop where
  signed : ∀ n : Int64, asValue (.i128 n.toInt) = .i64 n
  signedText : ∀ i : Int, (∀ n : Int64, n.toInt ≠ i) → asValue (.i128 i) = .str (toString i)
  unsigned : ∀ n : UInt64, asValue (.u128 n.toNat) = .u64 n
  unsignedText : ∀ i : Nat, (∀ n : UInt64, n.toNat ≠ i) → asValue (.u128 i) = .str (toString i)

theorem keepsWide : KeepsWide where
  signed n := by
    rw [asValue, if_pos ⟨Int64.le_iff_toInt_le.mp (Int64.minValue_le n), Int64.le_iff_toInt_le.mp (Int64.le_maxValue n)⟩,
      Int64.ofInt_toInt]
  signedText i hi := by
    refine if_neg fun hfits => hi (Int64.ofInt i) ?_
    exact Int64.toInt_ofInt_of_le hfits.1 (Int.lt_of_le_of_lt hfits.2 (by decide))
  unsigned n := by
    rw [asValue, if_pos n.toNat_lt_size, UInt64.ofNat_toNat]
  unsignedText i hi := by
    refine if_neg fun hfits => hi (UInt64.ofNat i) ?_
    exact UInt64.toNat_ofNat_of_lt hfits

end FieldValue

/-- A record describes its span as it was opened and as was remarked later. -/
structure Describes (record : SpanRecord) (opened : Fields) (later : List Remark) : Prop where
  /-- Its attributes are the fields that were written, one after the other, -/
  folded : record.attributes = (written opened later).foldl Attributes.noting .empty
  /-- so that each has the value that it was given last. -/
  latest : ∀ name, record.attributes.get? name = ((written opened later).last? name).map FieldValue.asValue
  /-- It says nothing of the end of the span if no failure was reported, -/
  unset : failures later = [] → record.status = .unset
  /-- and else what the last failure said. -/
  failed : ∀ fields, (failures later).getLast? = some fields →
    ∃ message, record.status = .error message ∧ fields.Says message

theorem SpanSketch.Keeps.describes {k : SpanSketch} {opened : Fields} {later : List Remark} {record : SpanRecord}
    (h : k.Keeps opened later) (hattributes : record.attributes = k.attributes) (hstatus : record.status = k.status) :
    Describes record opened later where
  folded := hattributes.trans h.attributes
  latest name := by
    rw [hattributes, h.attributes, Attributes.get?_notingAll]
    exact Option.or_none
  unset hnone := by rw [hstatus, h.status, hnone]; rfl
  failed fields hlast := by
    refine ⟨fields.message, ?_, fields.says_message⟩
    rw [hstatus, h.status, outcome, hlast]

/-- A span with a record has a sketch, and the record has its attributes and its status. -/
theorem TracedSpan.exists_sketch {c : TracedSpan} {now : Time} {record : SpanRecord} (h : c.record? now = some record) :
    ∃ k, c.sketch = some k ∧ record.attributes = k.attributes ∧ record.status = k.status := by
  rw [record?] at h
  cases hk : c.sketch with
  | none => rw [hk] at h; cases h
  | some k =>
    rw [hk] at h
    dsimp only at h
    split at h
    next => exact ⟨k, rfl, by rw [← Option.some.inj h], by rw [← Option.some.inj h]⟩
    next => cases h

namespace Tracer

/-! ## Runs -/

/-- A tracer that has come about, with its history and all remarks. -/
inductive Course : List LayerEvent → List (SpanKey × Remark) → Tracer → Prop where
  | start : Course [] [] .initial
  | step {es rs t} (s : Step) : Course es rs t → Course (es ++ t.events s) (rs ++ t.remarks s) (t.step s).1
  | elsewhere {es rs t} (entered : List SpanKey) (contexts : Execution) : Course es rs t →
      Course es rs ⟨{ t.spans with entered := entered }, contexts⟩

/-- What several steps say of spans. -/
def remarksOf (t : Tracer) : List Step → List (SpanKey × Remark)
  | [] => []
  | s :: rest => t.remarks s ++ (t.step s).1.remarksOf rest
termination_by structural steps => steps

variable {es : List LayerEvent} {rs : List (SpanKey × Remark)} {t : Tracer}

theorem Course.run (h : Course es rs t) : Run es t := by
  induction h with
  | start => exact .start
  | step s _ ih => exact ih.step s
  | elsewhere entered contexts _ ih => exact ih.elsewhere entered contexts

/-- Every run makes its remarks. -/
theorem Run.course (h : Run es t) : ∃ rs, Course es rs t := by
  induction h with
  | start => exact ⟨_, .start⟩
  | step s _ ih => exact ih.elim fun _ h => ⟨_, h.step s⟩
  | elsewhere entered contexts _ ih => exact ih.imp fun _ h => h.elsewhere entered contexts

theorem Course.steps (h : Course es rs t) (steps : List Step) :
    Course (es ++ t.chronicle steps) (rs ++ t.remarksOf steps) (t.run steps).1 := by
  induction steps generalizing es rs t with
  | nil =>
    rw [chronicle, remarksOf, List.append_nil, List.append_nil]
    exact h
  | cons s rest ih =>
    rw [chronicle, remarksOf, ← List.append_assoc, ← List.append_assoc]
    exact ih (h.step s)

theorem Sound.keys_nodup (h : Sound es t) : (t.spans.spans.map (·.key)).Nodup := by
  have hkeys := h.distinct
  rw [natures, List.map_map] at hkeys
  exact hkeys

/-- What is kept of every open span goes with the remarks about it. -/
theorem Course.tells (h : Course es rs t) {key : SpanKey} {c : TracedSpan} (hc : t.spans.content? key = some c) :
    c.Tells (about key rs) := by
  induction h generalizing c with
  | start => cases hc
  | step s h ih =>
    rw [Remark.about_append]
    cases content_step h.run.sound.keys_nodup hc with
    | opened hsaid hdeclared hsketch =>
      rw [hsaid]
      exact .opened hdeclared hsketch
    | nothing hsaid hsame =>
      rw [hsaid, List.append_nil]
      exact ih hsame
    | heard hsaid hr hsame hheard =>
      rw [hsaid, hheard]
      exact (ih hsame).hearing hr
  | elsewhere _ _ _ ih => exact ih hc

/-- A record is made of a span that was open. -/
theorem exists_closed {s : Step} {record : SpanRecord} (h : record ∈ (t.step s).2) :
    ∃ o ∈ t.spans.spans, ∃ now, o.content.record? now = some record ∧ .ended o.key (some record) ∈ t.events s := by
  cases s with
  | release key now =>
    obtain ⟨c, hc, hrecord⟩ := List.mem_filterMap.mp h
    obtain ⟨o, ho, rfl⟩ := List.mem_map.mp hc
    refine ⟨o, OpenSpan.mem_of_mem_release ho, now, hrecord, ?_⟩
    refine List.mem_map.mpr ⟨(o.nature, o.content.record? now), List.mem_map_of_mem ho, ?_⟩
    rw [hrecord]
    rfl
  | openSpan | note | event | enter | leave | share | attach | detach => cases h

/-- Every record that a run enqueues is that of a span that was born, and describes this span as it was
opened and as was remarked about it since then.  A step that makes no remark about an open span
changes nothing of it. -/
theorem records_as_told (h : Course es rs t) (s : Step) :
    (∀ l : Layer, l.tracer = t → l.step s =
      ⟨(t.step s).1, l.stage.act fun p => (t.step s).2.foldl Processor.enqueue p⟩) ∧
    (∀ record ∈ (t.step s).2, ∃ b ∈ births es, ¬ b.IsInternal ∧ b.nature.Leaves (some record) ∧
      .ended b.nature.key (some record) ∈ t.events s ∧
      ∃ before opened later, about b.nature.key rs = before ++ .opened opened :: later ∧
        (∀ fields, .opened fields ∉ later) ∧ Describes record opened later) ∧
    (∀ key, about key (t.remarks s) = [] → ∀ c, (t.step s).1.spans.content? key = some c →
      t.spans.content? key = some c) ∧
    FieldValue.KeepsWide := by
  have hsound := h.run.sound
  refine ⟨?_, fun record hrecord => ?_, fun key hsaid c hc => ?_, FieldValue.keepsWide⟩
  · rintro l rfl
    rfl
  · obtain ⟨o, ho, now, hmade, hended⟩ := exists_closed hrecord
    obtain ⟨k, hk, hattributes, hstatus⟩ := TracedSpan.exists_sketch hmade
    obtain ⟨b, hb, hnature⟩ := hsound.born o.nature (List.mem_map_of_mem ho)
    have hkey : b.nature.key = o.key := congrArg SpanNature.key hnature
    have hopen : t.spans.content? o.key = some o.content :=
      (Registry.content?_eq_some_iff hsound.keys_nodup).mpr (List.mem_map_of_mem ho)
    obtain ⟨before, opened, later, hsplit, hlater, -, hkept⟩ := h.tells hopen
    refine ⟨b, hb, fun hinternal => ?_, ?_, by rwa [hkey], before, opened, later, by rwa [hkey], hlater,
      (hkept k hk).describes hattributes hstatus⟩
    · have hnone := (hsound.placed b hb).ignored.mpr hinternal
      rw [hnature, OpenSpan.nature, hk] at hnone
      cases hnone
    · rw [hnature, ← hmade]
      exact o.leaves_nature now
  · cases content_step hsound.keys_nodup hc with
    | nothing _ hsame => exact hsame
    | opened hopened => rw [hsaid] at hopened; cases hopened
    | heard hheard => rw [hsaid] at hheard; cases hheard

/-- A span and its child are written to in turn, and fail in turn.  The child fails twice, and a part of the
library fails in it.  One of the fields that are written of it was never declared. -/
def quarrel : List Step :=
  [.openSpan "outer" "app" [("n", some (.i64 1))] .root ⟨⟨1⟩, ⟨2⟩⟩ 10,
    .openSpan "inner" "app" [("n", none), ("size", some (.i128 (-5)))] (.within 0) ⟨⟨3⟩, ⟨4⟩⟩ 11,
    .event .error "app" [("message", some (.str "early"))] (.within 1),
    .note 1 [("n", some (.u64 2)), ("other", some (.bool true))],
    .note 0 [("n", some (.i64 7))],
    .event .error "app" [("error", some (.str "late"))] (.within 1),
    .event .error "tributary_engine" [("message", some (.str "inside"))] (.within 1),
    .event .error "app" [("message", some (.str "outside"))] (.within 0)]

theorem records_as_told_of_quarrel : ∃ (es : List LayerEvent) (rs : List (SpanKey × Remark)) (t : Tracer)
    (record : SpanRecord) (later : List Remark), Course es rs t ∧ (t.step (.release 1 20)).2 = [record] ∧
      Describes record [("n", none), ("size", some (.i128 (-5)))] later ∧
      record.attributes.get? "n" = some (.u64 2) ∧ record.attributes.get? "size" = some (.i64 (-5)) ∧
      record.attributes.get? "other" = none ∧ record.status = .error "late" := by
  have hcourse : Course (initial.chronicle quarrel) (initial.remarksOf quarrel) (initial.run quarrel).1 :=
    Course.start.steps quarrel
  obtain ⟨record, hmade, hevents⟩ : ∃ record, ((initial.run quarrel).1.step (.release 1 20)).2 = [record] ∧
      (initial.run quarrel).1.events (.release 1 20) = [.ended 1 (some record)] := ⟨_, rfl, rfl⟩
  have hsaid : about 1 (initial.remarksOf quarrel) = [.opened [("n", none), ("size", some (.i128 (-5)))],
    .reported .error "app" [("message", some (.str "early"))],
    .noted [("n", some (.u64 2)), ("other", some (.bool true))],
    .reported .error "app" [("error", some (.str "late"))],
    .reported .error "tributary_engine" [("message", some (.str "inside"))]] := rfl
  obtain ⟨-, hrecords, -, hwide⟩ := records_as_told hcourse (.release 1 20)
  obtain ⟨b, -, -, -, hended, before, opened, later, hsplit, -, hdescribes⟩ := hrecords record (by simp [hmade])
  have hkey : b.nature.key = 1 := by
    rw [hevents, List.mem_singleton, LayerEvent.ended.injEq] at hended
    exact hended.1
  rw [hkey, hsaid] at hsplit
  cases before with
  | cons r before =>
    -- the span is opened once, so there is nothing before its opening
    obtain ⟨-, hrest⟩ := List.cons.inj (hsplit.trans (List.cons_append ..))
    have hmem : Remark.opened opened ∈ before ++ .opened opened :: later :=
      List.mem_append_right before List.mem_cons_self
    rw [← hrest] at hmem
    simp at hmem
  | nil =>
    obtain ⟨hopened, rfl⟩ := List.cons.inj hsplit
    obtain rfl := Remark.opened.inj hopened
    obtain ⟨message, hstatus, hsays⟩ := hdescribes.failed [("error", some (.str "late"))] (by decide +kernel)
    have hmessage : message = "late" := by
      cases hsays with
      | message hm => exact nomatch (show (none : Option FieldValue) = some _ from hm)
      | @error v _ he =>
        obtain rfl : FieldValue.str "late" = v := Option.some.inj he
        rfl
      | nothing _ he => exact nomatch (show some (FieldValue.str "late") = none from he)
    exact ⟨_, _, _, record, _, hcourse, hmade, hdescribes, (hdescribes.latest "n").trans (by decide +kernel),
      (hdescribes.latest "size").trans (congrArg some (hwide.signed (-5))),
      (hdescribes.latest "other").trans (by decide +kernel), hmessage ▸ hstatus⟩

end Tracer

end Telemetry
