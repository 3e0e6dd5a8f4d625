import Telemetry.Proofs.Wire.FrameStream
import Telemetry.Proofs.Wire.Reader

/-!
# Decoding messages

A payload says what was sent.  The bytes of a message are taken off by a reader that knows what kind of
thing comes next and nothing else (`reads_message`), so no payload is the beginning of another one, and
two messages with the same payload are the same, doubles compared by their bits.

Values are nested, and so is reading them.  How deep is bounded by the bytes that are there, since each
array takes a byte for its kind before its content begins.
-/

namespace Telemetry.Wire

/-! ## Words -/

/-- Reads a signed word. -/
def readI64 : Reader Int64 := do return Int64.ofInt (← readSigned)

/-- Reads an unsigned word. -/
def readU64 : Reader UInt64 := do return UInt64.ofNat (← readNumber)

/-- Reads a double. -/
def readF64 : Reader Binary64 := do return ⟨UInt64.ofNat (← readFixed 8)⟩

theorem reads_i64 (n : Int64) : Reads readI64 (signed n.toInt) n := by
  refine (reads_signed n).into ?_
  rw [Int64.ofInt_toInt]
  exact .pure n

theorem reads_u64 (n : UInt64) : Reads readU64 (number n.toNat) n := by
  refine (reads_number (Nat.lt_trans n.toNat_lt (by decide))).into ?_
  rw [UInt64.ofNat_toNat]
  exact .pure n

theorem reads_f64 (x : Binary64) : Reads readF64 [.bytes (bigEndian 8 x.bits.toNat)] x := by
  refine (reads_fixed x.bits.toNat_lt).into ?_
  rw [UInt64.ofNat_toNat]
  exact .pure x

/-! ## Values -/

/-- Reads a value in which values are nested no deeper than so. -/
def readValueTo : Nat → Reader Value
  | 0 => failure
  | depth + 1 => do
    match ← readNumber with
    | 0 => return .bool (← readTruth)
    | 1 => return .i64 (← readI64)
    | 2 => return .u64 (← readU64)
    | 3 => return .f64 (← readF64)
    | 4 => return .str (← readText)
    | 5 => return .array (← readSeveral (readValueTo depth))
    | _ => failure
termination_by structural depth => depth

/-- Reads a value. -/
def readValue : Reader Value := fun bytes => readValueTo bytes.length bytes

theorem varint_ne_nil (n : Nat) : varint n ≠ [] := by
  unfold varint
  repeat' split
  all_goals simp

/-- A number in front takes a byte at least. -/
theorem plain_number_append {n : Nat} {pieces : List Piece} {bytes : List UInt8}
    (h : plain (number n ++ pieces) = some bytes) :
    ∃ back, plain pieces = some back ∧ back.length < bytes.length := by
  obtain ⟨back, hback, rfl⟩ := Option.map_eq_some_iff.mp h
  have := List.length_pos_iff.mpr (varint_ne_nil n)
  exact ⟨back, hback, by rw [List.length_append]; omega⟩

theorem plain_text_append {s : String} {pieces : List Piece} {bytes : List UInt8}
    (h : plain (text s ++ pieces) = some bytes) : bytes ≠ [] := by
  change plain (number _ ++ .bytes _ :: pieces) = some bytes at h
  obtain ⟨back, -, hlt⟩ := plain_number_append h
  exact List.length_pos_iff.mp (Nat.zero_lt_of_lt hlt)

/-- A value begins with its kind. -/
theorem value_eq (v : Value) : ∃ kind content, value v = number kind ++ content := by
  cases v with
  | array vs => exact ⟨5, _, List.append_assoc ..⟩
  | bool | i64 | u64 | f64 | str => exact ⟨_, _, rfl⟩

theorem plain_value_ne_nil (v : Value) : plain (value v) ≠ some [] := by
  obtain ⟨kind, content, hv⟩ := value_eq v
  intro h
  obtain ⟨back, -, hlt⟩ := plain_number_append (hv ▸ h)
  exact Nat.not_lt_zero _ hlt

theorem values_eq (vs : List Value) : values vs = vs.flatMap value := by
  induction vs with
  | nil => rfl
  | cons v vs ih => rw [values, ih, List.flatMap_cons]

theorem value_array (vs : List Value) : value (.array vs) = number 5 ++ several value vs := by
  rw [value, several, values_eq, List.append_assoc]

/-- What is read after the kind of something. -/
theorem reads_kind {α : Type} (kind : Nat) {s : Nat → Reader α} {pieces : List Piece} {a : α}
    (hk : kind < 251) (hs : Reads (s kind) pieces a) : Reads (readNumber >>= s) (number kind ++ pieces) a :=
  (reads_number (Nat.lt_trans hk (by decide))).bind hs

mutual

theorem reads_valueTo : ∀ (v : Value) {depth : Nat} {bytes : List UInt8}, plain (value v) = some bytes →
    bytes.length ≤ depth → Reads (readValueTo depth) (value v) v
  | v, 0, bytes, hp, hl => by
    -- Without any depth left there are no bytes left, but a value has some.
    rw [List.length_eq_zero_iff.mp (Nat.le_zero.mp hl)] at hp
    cases plain_value_ne_nil v hp
  | .bool b, depth + 1, _, _, _ => reads_kind 0 (by decide) ((reads_truth b).into (.pure _))
  | .i64 n, depth + 1, _, _, _ => reads_kind 1 (by decide) ((reads_i64 n).into (.pure _))
  | .u64 n, depth + 1, _, _, _ => reads_kind 2 (by decide) ((reads_u64 n).into (.pure _))
  | .f64 x, depth + 1, _, _, _ => reads_kind 3 (by decide) ((reads_f64 x).into (.pure _))
  | .str s, depth + 1, _, _, _ => reads_kind 4 (by decide) ((reads_text s).into (.pure _))
  | .array vs, depth + 1, bytes, hp, hl => by
    rw [value_array, several, ← values_eq] at hp
    obtain ⟨counted, hcounted, hlt⟩ := plain_number_append hp
    obtain ⟨back, hback, hlt'⟩ := plain_number_append hcounted
    have hvs : ∀ v ∈ vs, Reads (readValueTo depth) (value v) v := reads_valuesTo vs hback (by omega)
    rw [value_array]
    exact reads_kind 5 (by decide)
      ((reads_several (fun v _ => plain_value_ne_nil v) hvs).into (.pure (Value.array vs)))
termination_by structural v => v

theorem reads_valuesTo : ∀ (vs : List Value) {depth : Nat} {bytes : List UInt8},
    plain (values vs) = some bytes → bytes.length ≤ depth → ∀ v ∈ vs, Reads (readValueTo depth) (value v) v
  | [], _, _, _, _ => by simp
  | v :: vs, depth, bytes, hp, hl => by
    rw [values, plain_append, Option.bind_eq_some_iff] at hp
    obtain ⟨front, hfront, hp⟩ := hp
    obtain ⟨back, hback, rfl⟩ := Option.map_eq_some_iff.mp hp
    rw [List.length_append] at hl
    intro w hw
    rcases List.mem_cons.mp hw with hw | hw
    · rw [hw]
      exact reads_valueTo v hfront (by omega)
    · exact reads_valuesTo vs hback (by omega) w hw
termination_by structural vs => vs

end

theorem reads_value (v : Value) : Reads readValue (value v) v := by
  intro bytes rest hp hl
  have hdepth : bytes.length ≤ (bytes ++ rest).length := by simp
  exact reads_valueTo v hp hdepth bytes rest hp hl

/-! ## Attributes -/

instance {κ β : Type} [Ord κ] (entries : List (κ × β)) : Decidable (Ascending entries) :=
  inferInstanceAs (Decidable (List.Pairwise _ entries))

/-- Reads a name with its value. -/
def readEntry : Reader (String × Value) := do
  let name ← readText
  return (name, ← readValue)

/-- Reads attributes, which are in the order of their names. -/
def readAttributes : Reader Attributes := do
  let entries ← readSeveral readEntry
  if sorted : Ascending entries then return ⟨entries, sorted⟩ else failure

theorem reads_entry (e : String × Value) : Reads readEntry (text e.1 ++ value e.2) e :=
  (reads_text e.1).bind ((reads_value e.2).into (.pure e))

theorem plain_entry_ne_nil (e : String × Value) : plain (text e.1 ++ value e.2) ≠ some [] := by
  intro h
  exact plain_text_append h rfl

theorem reads_attributes (a : Attributes) : Reads readAttributes (attributes a) a := by
  refine (reads_several (fun e _ => plain_entry_ne_nil e) fun e _ => reads_entry e).into ?_
  have hs : Ascending a.toList := a.sorted
  rw [dif_pos hs]
  exact .pure a

/-! ## Spans -/

/-- Reads a trace id. -/
def readTraceId : Reader TraceId := do return ⟨BitVec.ofNat 128 (← readNumber)⟩

/-- Reads a span id. -/
def readSpanId : Reader SpanId := do return ⟨BitVec.ofNat 64 (← readNumber)⟩

/-- Reads the flags of a trace. -/
def readFlags : Reader TraceFlags := do return ⟨BitVec.ofNat 8 (← readByte)⟩

/-- Reads how a span ended. -/
def readStatus : Reader Status := do
  match ← readNumber with
  | 0 => return .unset
  | 1 => return .ok
  | 2 => return .error (← readText)
  | _ => failure

/-- Reads a finished span. -/
def readSpan : Reader SpanRecord := do
  let traceId ← readTraceId
  let spanId ← readSpanId
  let parentId ← readOptional readSpanId
  let flags ← readFlags
  let name ← readText
  let target ← readText
  let start ← readTime
  let finish ← readTime
  let attributes ← readAttributes
  let status ← readStatus
  return ⟨traceId, spanId, parentId, flags, name, target, start, finish, attributes, status⟩

theorem reads_traceId (t : TraceId) : Reads readTraceId (traceId t) t := by
  refine (reads_number t.value.isLt).into ?_
  rw [BitVec.ofNat_toNat, BitVec.setWidth_eq]
  exact .pure t

theorem reads_spanId (s : SpanId) : Reads readSpanId (spanId s) s := by
  refine (reads_number (Nat.lt_trans s.value.isLt (by decide))).into ?_
  rw [BitVec.ofNat_toNat, BitVec.setWidth_eq]
  exact .pure s

theorem reads_flags (f : TraceFlags) : Reads readFlags (flags f) f := by
  refine (reads_byte f.byte.isLt).into ?_
  rw [BitVec.ofNat_toNat, BitVec.setWidth_eq]
  exact .pure f

theorem reads_status (s : Status) : Reads readStatus (status s) s := by
  cases s with
  | unset => exact (reads_number (n := 0) (by decide)).into (.pure _)
  | ok => exact (reads_number (n := 1) (by decide)).into (.pure _)
  | error message => exact reads_kind 2 (by decide) ((reads_text message).into (.pure _))

/-- Whether the seconds of a time are a number of 64 bits, as those of a clock are. -/
def Clocked (t : Time) : Prop := t.toNat / 1000000000 < UInt64.size

instance (t : Time) : Decidable (Clocked t) := inferInstanceAs (Decidable (_ < _))

theorem reads_span {s : SpanRecord} (hstart : Clocked s.start) (hfinish : Clocked s.finish) :
    Reads readSpan (span s) s := by
  simp only [span, List.append_assoc]
  exact (reads_traceId _).bind <| (reads_spanId _).bind <| (reads_optional reads_spanId _).bind <|
    (reads_flags _).bind <| (reads_text _).bind <| (reads_text _).bind <| (reads_time hstart).bind <|
    (reads_time hfinish).bind <| (reads_attributes _).bind <| (reads_status _).into (.pure s)

/-! ## Metrics -/

/-- Reads a measured number. -/
def readMeasured : Reader Number := do
  match ← readNumber with
  | 0 => return .i64 (← readI64)
  | 1 => return .f64 (← readF64)
  | _ => failure

/-- Reads which interval a sum covers. -/
def readTemporality : Reader Temporality := do
  match ← readNumber with
  | 0 => return .cumulative
  | 1 => return .delta
  | _ => failure

/-- Reads a sum. -/
def readSum : Reader Sum := do
  let temporality ← readTemporality
  let isMonotonic ← readTruth
  let start ← readTime
  let time ← readTime
  let value ← readMeasured
  return ⟨temporality, isMonotonic, start, time, value⟩

/-- Reads a gauge. -/
def readGauge : Reader Gauge := do
  let time ← readTime
  let value ← readMeasured
  return ⟨time, value⟩

/-- Reads a point. -/
def readPoint : Reader Point := do
  match ← readNumber with
  | 0 => return .sum (← readSum)
  | 1 => return .gauge (← readGauge)
  | _ => failure

/-- Reads a metric point. -/
def readMetric : Reader Metric := do
  let name ← readText
  let description ← readText
  let unit ← readText
  let attributes ← readAttributes
  let point ← readPoint
  return ⟨name, description, unit, attributes, point⟩

theorem reads_measured (n : Number) : Reads readMeasured (measured n) n := by
  cases n with
  | i64 n => exact reads_kind 0 (by decide) ((reads_i64 n).into (.pure _))
  | f64 x => exact reads_kind 1 (by decide) ((reads_f64 x).into (.pure _))

theorem reads_temporality (t : Temporality) : Reads readTemporality (temporality t) t := by
  cases t with
  | cumulative => exact (reads_number (n := 0) (by decide)).into (.pure _)
  | delta => exact (reads_number (n := 1) (by decide)).into (.pure _)

theorem reads_point {p : Point} (h : ∀ t ∈ pointTimes p, Clocked t) : Reads readPoint (point p) p := by
  cases p with
  | sum s =>
    have hstart := h s.start (by simp [pointTimes])
    have htime := h s.time (by simp [pointTimes])
    simp only [point, List.append_assoc]
    refine reads_kind 0 (by decide) (Reads.into (a := s) ?_ (.pure _))
    exact (reads_temporality _).bind <| (reads_truth _).bind <| (reads_time hstart).bind <|
      (reads_time htime).bind <| (reads_measured _).into (.pure s)
  | gauge g =>
    have htime := h g.time (by simp [pointTimes])
    simp only [point, List.append_assoc]
    refine reads_kind 1 (by decide) (Reads.into (a := g) ?_ (.pure _))
    exact (reads_time htime).bind <| (reads_measured _).into (.pure g)

theorem reads_metric {m : Metric} (h : ∀ t ∈ pointTimes m.point, Clocked t) :
    Reads readMetric (metric m) m := by
  simp only [metric, List.append_assoc]
  exact (reads_text _).bind <| (reads_text _).bind <| (reads_text _).bind <|
    (reads_attributes _).bind <| (reads_point h).into (.pure m)

/-! ## Messages -/

/-- Reads a message. -/
def readMessage : Reader Message := do
  match ← readNumber with
  | 0 => return .span (← readSpan)
  | 1 => return .metric (← readMetric)
  | _ => failure

theorem reads_message {m : Message} (h : ∀ t ∈ m.times, Clocked t) :
    Reads readMessage (message m) m := by
  cases m with
  | span s =>
    have hs : Reads readSpan (span s) s :=
      reads_span (h s.start (by simp [Message.times])) (h s.finish (by simp [Message.times]))
    exact reads_kind 0 (by decide) (hs.into (.pure (Message.span s)))
  | metric m => exact reads_kind 1 (by decide) ((reads_metric h).into (.pure (Message.metric m)))

/-! ## Payloads -/

/-- What reads the pieces of two payloads tells them apart, also when one of them goes on. -/
theorem Reads.eq_of_isPrefix {α : Type} {r : Reader α} {xs ys : List Piece} {a b : α}
    {bytes bytes' : List UInt8} (hx : Reads r xs a) (hy : Reads r ys b) (hxs : payload? xs = some bytes)
    (hys : payload? ys = some bytes') (h : bytes <+: bytes') : a = b := by
  obtain ⟨rest, rfl⟩ := h
  have hfirst := hx.of_payload? hxs rest
  have hsecond := hy.of_payload? hys []
  rw [List.append_nil, hfirst] at hsecond
  cases hsecond
  rfl

/-- A frame shows its payload. -/
theorem framed_inj {payload payload' : List UInt8} (h : framed payload = framed payload') :
    payload = payload' := by
  have hdrop (p : List UInt8) : (framed p).drop 2 = p := by rw [framed, List.drop_left' (length_bigEndian 2 _)]
  rw [← hdrop payload, h, hdrop]

/-- A payload tells its message, with nothing said of what it is or where it ends: behind any message that
can be sent stands the frame of a payload that is read back, whatever comes behind it, and that begins the
payload of no other message.  The seconds of all times are numbers of 64 bits. -/
theorem payload_determines_message {m : Message} (hm : ∀ t ∈ m.times, Clocked t)
    {buffer grown : List UInt8} (h : append buffer (message m) = (grown, .ok ())) :
    ∃ payload, grown = buffer ++ framed payload ∧
      (∀ rest, readMessage (payload ++ rest) = some (m, rest)) ∧
      ∀ m' buffer' payload', (∀ t ∈ m'.times, Clocked t) →
        append buffer' (message m') = (buffer' ++ framed payload', .ok ()) →
        payload <+: payload' → m = m' := by
  obtain ⟨payload, hp, rfl⟩ := payload?_of_append h
  refine ⟨payload, rfl, (reads_message hm).of_payload? hp, ?_⟩
  intro m' buffer' payload' hm' h' hprefix
  obtain ⟨payload'', hp', heq⟩ := payload?_of_append h'
  rw [framed_inj (List.append_cancel_left heq)] at hprefix
  exact (reads_message hm).eq_of_isPrefix (reads_message hm') hp hp' hprefix

/-- A gauge with something that is not a number inside of two arrays, and with wide numbers. -/
def nestedGauge : Message :=
  .metric ⟨"load", "", "1", .ofList [("é", .array [.array [.f64 .nan], .bool true, .i64 (-200)])],
    .gauge ⟨1000000005, .i64 300⟩⟩

/-- The payload of `nestedGauge`. -/
def nestedPayload : List UInt8 :=
  [1, 4, 108, 111, 97, 100, 0, 1, 49, 1, 2, 195, 169, 5, 3, 5, 1, 3, 127, 248, 0, 0, 0, 0, 0, 0, 0, 1, 1,
    251, 1, 143, 1, 1, 5, 0, 251, 2, 88]

theorem payload_determines_nestedGauge :
    (∀ t ∈ nestedGauge.times, Clocked t) ∧
    append [7] (message nestedGauge) = ([7] ++ framed nestedPayload, .ok ()) ∧
    readMessage (nestedPayload ++ [1, 2]) = some (nestedGauge, [1, 2]) ∧
    ∀ m', (∀ t ∈ m'.times, Clocked t) → append [] (message m') = (framed nestedPayload, .ok ()) →
      nestedGauge = m' := by
  have hclocked : ∀ t ∈ nestedGauge.times, Clocked t := by decide
  have happend : append [7] (message nestedGauge) = ([7] ++ framed nestedPayload, .ok ()) := by rfl
  obtain ⟨payload, hgrown, hread, hunique⟩ := payload_determines_message hclocked happend
  have hpayload : nestedPayload = payload := framed_inj (List.append_cancel_left hgrown)
  rw [← hpayload] at hread hunique
  refine ⟨hclocked, happend, hread [1, 2], ?_⟩
  intro m' hm' h'
  exact hunique m' [] nestedPayload hm' h' List.prefix_rfl

end Telemetry.Wire
