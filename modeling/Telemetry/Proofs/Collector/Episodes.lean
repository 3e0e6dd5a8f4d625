import Telemetry.Proofs.Wire.FrameStream

/-!
# Episodes of sending

What an exporter has done up to now falls into episodes.  A batch was refused since there was no
connection, or a connection was given up before its handshake was out, or batches went out over a
connection, one behind the other, and then perhaps a part of one more.  Each connection is one episode
and each batch belongs to one, in the order in which they were exported.

So the bytes of a connection are told by its episode (`Recorded`).  Only the last episode goes on, and
only while its connection is open: a wire that is not open stays as it is (`Sends.frozen`).  Attempts to
connect keep their distance whatever the clock says, since one that goes back only makes the time since
the attempt before seem shorter (`Paced`).
-/

namespace Telemetry

open Wire (Message Handshake Parcel)

/-! ## Calls -/

/-- A batch with something to send, and what its export answered. -/
abbrev Delivery := List Message × ExportResult

/-- The frames of a batch. -/
abbrev Wire.batchFrames (batch : List Message) : List UInt8 := Parcel.frames (batch.map .message)

namespace TcpExporter

/-- A call, with what the clock says and what the network does meanwhile. -/
inductive Call where
  | deliver (now : Nat) (connecting : ConnectOutcome) (writing : WriteOutcome) (batch : List Message)
  | flush
  | shutdown

/-- The exporter after a call, and the delivery that the call was, if it had something to send. -/
def perform (e : TcpExporter) : Call → TcpExporter × List Delivery
  | .deliver now connecting writing batch =>
    let (e, result, _) := e.deliver now connecting writing batch
    (e, if Parcel.payloads (batch.map .message) = [] then [] else [(batch, result)])
  | .flush => (e.flush.1, [])
  | .shutdown => (e.shutdown.1, [])

/-- The exporter after several calls, and their deliveries in order. -/
def run (e : TcpExporter) : List Call → TcpExporter × List Delivery
  | [] => (e, [])
  | call :: rest =>
    let (e, first) := e.perform call
    let (e, others) := e.run rest
    (e, first ++ others)
termination_by structural calls => calls

end TcpExporter

/-! ## Greetings -/

namespace Wire

/-- What a connection begins with: the frame of the handshake. -/
def greeting (h : Handshake) : List UInt8 := Parcel.frames [.handshake h]

/-- Whether a handshake has a frame. -/
def Greets (h : Handshake) : Prop := (Parcel.handshake h).payload? ≠ none

theorem append_handshake (h : Handshake) :
    (Greets h ∧ append [] (handshake h) = (greeting h, .ok ())) ∨
      ∃ e, append [] (handshake h) = ([], .error e) := by
  obtain ⟨payload, hp, ha⟩ | ⟨e, -, -, ha⟩ := append_eq [] (handshake h)
  · have hp : (Parcel.handshake h).payload? = some payload := hp
    refine .inl ⟨by simp [Greets, hp], ?_⟩
    simp [ha, greeting, Parcel.frames, Parcel.payloads, hp]
  · exact .inr ⟨e, ha⟩

end Wire

open Wire (greeting Greets batchFrames)

/-! ## What a sending does -/

theorem modify_length_concat {α : Type} (f : α → α) (as : List α) (a : α) :
    (as ++ [a]).modify as.length f = as ++ [f a] := by
  simp [List.modify_eq_take_drop]

theorem WriteOutcome.sent_prefix (o : WriteOutcome) (bytes : List UInt8) : o.sent bytes <+: bytes := by
  cases o with
  | complete => exact List.prefix_refl bytes
  | failed n reason => exact List.take_prefix n bytes

namespace Connection

variable {c c' : Connection} {now : Nat} {bytes : List UInt8} {result : ExportResult}

/-- The connection after an attempt to connect, which may have opened a wire. -/
def attempted (c : Connection) (now : Nat) (opened : Option (List UInt8)) : Connection :=
  { c with lastAttempt := some now, attempts := c.attempts ++ [now], wires := c.wires ++ opened.toList }

/-- The connection with a wire open after an attempt to connect. -/
def connected (c : Connection) (now : Nat) : Connection :=
  { c.attempted now (some (greeting c.fields)) with current := some c.wires.length }

theorem greet_cases (c : Connection) (address : String) (o : WriteOutcome) :
    (∃ sent error logs, c.greet address o = ({ c with wires := c.wires ++ [sent] }, .error error, logs) ∧
      sent <+: greeting c.fields) ∨
    ∃ logs, Greets c.fields ∧ c.greet address o =
      ({ c with wires := c.wires ++ [greeting c.fields], current := some c.wires.length },
        .ok c.wires.length, logs) := by
  have hsent : ∀ bytes, c.withNewWire.sendOn c.wires.length bytes =
      { c with wires := c.wires ++ [bytes] } := by
    intro bytes
    simp [withNewWire, sendOn, modify_length_concat]
  obtain ⟨hg, ha⟩ | ⟨e, ha⟩ := Wire.append_handshake c.withNewWire.fields
  · cases o with
    | complete =>
      right
      simp only [greet, ha, hsent, WriteOutcome.sent]
      exact ⟨_, hg, rfl⟩
    | failed n reason =>
      left
      simp only [greet, ha, hsent]
      exact ⟨_, _, _, rfl, WriteOutcome.sent_prefix (.failed n reason) _⟩
  · left
    simp only [greet, ha]
    exact ⟨[], _, _, rfl, List.nil_prefix⟩

theorem connect_cases (c : Connection) (now : Nat) (o : ConnectOutcome) :
    (∃ opened error logs, c.connect now o = (c.attempted now opened, .error error, logs) ∧
      ∀ sent ∈ opened, sent <+: greeting c.fields) ∨
    ∃ logs, Greets c.fields ∧ c.connect now o = (c.connected now, .ok c.wires.length, logs) := by
  have hnone : c.attempted now none =
      { c with lastAttempt := some now, attempts := c.attempts ++ [now] } := by
    simp [attempted]
  cases o with
  | unresolved | noAddress | refused =>
    exact .inl ⟨none, _, _, by rw [hnone]; rfl, by simp⟩
  | unusable => exact .inl ⟨some [], _, _, rfl, by simp⟩
  | opened address handshake =>
    obtain ⟨sent, error, logs, hs, hp⟩ | ⟨logs, hg, hs⟩ :=
      greet_cases { c with lastAttempt := some now, attempts := c.attempts ++ [now] } address handshake
    · exact .inl ⟨some sent, error, logs, hs, by simpa using hp⟩
    · exact .inr ⟨logs, hg, hs⟩

/-- The wire over which a sending goes, and the connection with that wire open. -/
inductive Ready (c : Connection) (now : Nat) : Connection → Nat → Prop where
  | standing {wire : Nat} (open_ : c.current = some wire) : Ready c now c wire
  | afresh (closed : c.current = none) (free : c.isThrottled now = false) (greets : Greets c.fields) :
      Ready c now (c.connected now) c.wires.length

/-- What a sending may do to a connection and answer. -/
inductive Sends (c : Connection) (now : Nat) (bytes : List UInt8) : Connection → ExportResult → Prop where
  | throttled (closed : c.current = none) (throttled : c.isThrottled now = true) :
      Sends c now bytes c (.error notConnected)
  | unconnected (closed : c.current = none) (free : c.isThrottled now = false)
      {opened : Option (List UInt8)} (greeted : ∀ sent ∈ opened, sent <+: greeting c.fields)
      (error : ExportError) : Sends c now bytes (c.attempted now opened) (.error error)
  | whole {c₁ : Connection} {wire : Nat} (ready : Ready c now c₁ wire) :
      Sends c now bytes (c₁.sendOn wire bytes) (.ok ())
  | cut {c₁ : Connection} {wire : Nat} (ready : Ready c now c₁ wire) {sent : List UInt8}
      (part : sent <+: bytes) (error : ExportError) :
      Sends c now bytes { c₁.sendOn wire sent with current := none } (.error error)

theorem Ready.write {c₁ : Connection} {wire : Nat} (h : Ready c now c₁ wire) (o : WriteOutcome) :
    Sends c now bytes (c₁.write wire bytes o).1 (c₁.write wire bytes o).2.1 := by
  cases o with
  | complete => exact .whole h
  | failed n reason => exact .cut h (WriteOutcome.sent_prefix (.failed n reason) bytes) _

theorem sends_send (c : Connection) (now : Nat) (connecting : ConnectOutcome) (writing : WriteOutcome)
    (bytes : List UInt8) :
    Sends c now bytes (c.send now connecting writing bytes).1 (c.send now connecting writing bytes).2.1 := by
  unfold send
  cases hc : c.current with
  | some wire => exact (Ready.standing hc).write writing
  | none =>
    cases ht : c.isThrottled now with
    | true => exact .throttled hc ht
    | false =>
      obtain ⟨opened, error, logs, hs, hp⟩ | ⟨logs, hg, hs⟩ := connect_cases c now connecting
      · simp only [hs]
        exact .unconnected hc ht hp error
      · simp only [hs]
        exact (Ready.afresh hc ht hg).write writing

/-! ## Wires that are not open -/

theorem Ready.frozen {c₁ : Connection} {wire w : Nat} (h : Ready c now c₁ wire)
    (hw : w < c.wires.length) (hc : c.current ≠ some w) :
    wire ≠ w ∧ c₁.current = some wire ∧ c.wires.length ≤ c₁.wires.length ∧ c₁.wires[w]? = c.wires[w]? := by
  cases h with
  | standing hopen =>
    refine ⟨?_, hopen, Nat.le_refl _, rfl⟩
    rintro rfl
    exact hc hopen
  | afresh =>
    refine ⟨by omega, rfl, ?_, List.getElem?_append_left hw⟩
    simp [connected, attempted]

theorem getElem?_sendOn_of_ne {wire w : Nat} (h : wire ≠ w) (bytes : List UInt8) :
    (c.sendOn wire bytes).wires[w]? = c.wires[w]? :=
  List.getElem?_modify_ne _ _ h

theorem length_sendOn (wire : Nat) (bytes : List UInt8) :
    (c.sendOn wire bytes).wires.length = c.wires.length :=
  List.length_modify ..

/-- A wire that is not open stays as it is, and is never opened again. -/
theorem Sends.frozen {w : Nat} (h : Sends c now bytes c' result) (hw : w < c.wires.length)
    (hc : c.current ≠ some w) :
    w < c'.wires.length ∧ c'.current ≠ some w ∧ c'.wires[w]? = c.wires[w]? := by
  cases h with
  | throttled => exact ⟨hw, hc, rfl⟩
  | unconnected =>
    refine ⟨?_, hc, List.getElem?_append_left hw⟩
    simp only [attempted, List.length_append]
    omega
  | @whole c₁ wire ready =>
    obtain ⟨hne, hopen, hlen, hsame⟩ := ready.frozen hw hc
    refine ⟨by rw [length_sendOn]; omega, ?_, (getElem?_sendOn_of_ne hne bytes).trans hsame⟩
    show c₁.current ≠ some w
    rw [hopen]
    simpa using hne
  | @cut c₁ wire ready sent =>
    obtain ⟨hne, -, hlen, hsame⟩ := ready.frozen hw hc
    refine ⟨?_, by simp, (getElem?_sendOn_of_ne hne sent).trans hsame⟩
    show w < (c₁.sendOn wire sent).wires.length
    rw [length_sendOn]
    omega

/-! ## Attempts -/

/-- Attempts to connect keep their distance, and the last one is remembered. -/
structure Paced (c : Connection) : Prop where
  last : c.lastAttempt = c.attempts.getLast?
  apart : c.attempts.Pairwise fun t u => t + reconnectInterval ≤ u

/-- Where an attempt may be made, all others are long past. -/
theorem Paced.free (h : Paced c) (hf : c.isThrottled now = false) {t : Nat} (ht : t ∈ c.attempts) :
    t + reconnectInterval ≤ now := by
  obtain ⟨before, u, hu⟩ := (List.eq_nil_or_concat c.attempts).resolve_left (List.ne_nil_of_mem ht)
  rw [List.concat_eq_append] at hu
  have hlast : c.lastAttempt = some u := by
    rw [h.last, hu, List.getLast?_concat]
  have hnow : u + reconnectInterval ≤ now := by
    simp only [isThrottled, hlast, decide_eq_false_iff_not] at hf
    simp only [reconnectInterval] at hf ⊢
    omega
  have hapart := h.apart
  rw [hu, List.pairwise_append] at hapart
  rw [hu, List.mem_append, List.mem_singleton] at ht
  rcases ht with ht | rfl
  · have := hapart.2.2 t ht u (List.mem_singleton_self u)
    omega
  · exact hnow

theorem Paced.attempted (h : Paced c) (hf : c.isThrottled now = false) (opened : Option (List UInt8)) :
    Paced (c.attempted now opened) where
  last := by simp [Connection.attempted]
  apart := by
    refine List.pairwise_append.mpr ⟨h.apart, List.pairwise_singleton _ now, ?_⟩
    intro t ht u hu
    rw [List.mem_singleton.mp hu]
    exact h.free hf ht

theorem Paced.ready (h : Paced c) {c₁ : Connection} {wire : Nat} (hr : Ready c now c₁ wire) : Paced c₁ := by
  cases hr with
  | standing => exact h
  | afresh _ hf _ =>
    have := h.attempted hf (some (greeting c.fields))
    exact ⟨this.last, this.apart⟩

theorem Paced.sends (h : Paced c) (hs : Sends c now bytes c' result) : Paced c' := by
  cases hs with
  | throttled => exact h
  | unconnected _ hf => exact h.attempted hf _
  | whole ready | cut ready => exact ⟨(h.ready ready).last, (h.ready ready).apart⟩

end Connection

/-! ## Episodes -/

/-- A part of what an exporter has done. -/
inductive Episode where
  /-- There was no connection for a batch. -/
  | refused (batch : List Message) (error : ExportError)
  /-- A connection was given up while the handshake was written to it. -/
  | abandoned (sent : List UInt8)
  /-- Batches went out over a connection. -/
  | whole (batches : List (List Message))
  /-- Batches went out over a connection, and of one more only a part. -/
  | cut (batches : List (List Message)) (last : List Message) (sent : List UInt8) (error : ExportError)

namespace Episode

/-- What went out on the connection of an episode. -/
def wire? (fields : Handshake) : Episode → Option (List UInt8)
  | refused _ _ => none
  | abandoned sent => some sent
  | whole batches => some (greeting fields ++ batches.flatMap batchFrames)
  | cut batches _ sent _ => some (greeting fields ++ batches.flatMap batchFrames ++ sent)

/-- The batches of an episode and what their exports answered. -/
def deliveries : Episode → List Delivery
  | refused batch error => [(batch, .error error)]
  | abandoned _ => []
  | whole batches => batches.map fun batch => (batch, .ok ())
  | cut batches last _ error => (batches.map fun batch => (batch, .ok ())) ++ [(last, .error error)]

/-- Whether the parts that went out are parts of what they should be, and a connection that was not
given up had a handshake to begin with. -/
def Proper (fields : Handshake) : Episode → Prop
  | refused _ _ => True
  | abandoned sent => sent <+: greeting fields
  | whole _ => Greets fields
  | cut _ last sent _ => Greets fields ∧ sent <+: batchFrames last

end Episode

/-- What the wires of connections hold. -/
abbrev Episode.wires (fields : Handshake) (episodes : List Episode) : List (List UInt8) :=
  episodes.filterMap (wire? fields)

/-- Whether episodes are what a connection has been used for. -/
structure Recorded (fields : Handshake) (c : Connection) (episodes : List Episode) : Prop where
  same : c.fields = fields
  proper : ∀ episode ∈ episodes, episode.Proper fields
  wires : c.wires = Episode.wires fields episodes
  standing : ∀ wire, c.current = some wire → ∃ before batches,
    episodes = before ++ [.whole batches] ∧ wire = (Episode.wires fields before).length

namespace Recorded

open Connection

variable {fields : Handshake} {c c' : Connection} {now : Nat} {result : ExportResult}
  {episodes before : List Episode} {batches : List (List Message)}

theorem ready (h : Recorded fields c episodes) {c₁ : Connection} {wire : Nat} (hr : Ready c now c₁ wire) :
    ∃ before batches, Recorded fields c₁ (before ++ [.whole batches]) ∧ c₁.current = some wire ∧
      wire = (Episode.wires fields before).length ∧
      (before ++ [Episode.whole batches]).flatMap Episode.deliveries =
        episodes.flatMap Episode.deliveries := by
  cases hr with
  | standing hopen =>
    obtain ⟨before, batches, rfl, hw⟩ := h.standing wire hopen
    exact ⟨before, batches, h, hopen, hw, rfl⟩
  | afresh hclosed hfree hgreets =>
    have hlen : c.wires.length = (Episode.wires fields episodes).length := by rw [h.wires]
    refine ⟨episodes, [], ⟨h.same, ?_, ?_, ?_⟩, rfl, hlen, by simp [Episode.deliveries]⟩
    · intro episode he
      rcases List.mem_append.mp he with he | he
      · exact h.proper episode he
      · rw [List.mem_singleton.mp he]
        exact h.same ▸ hgreets
    · simp [connected, attempted, Episode.wire?, h.wires, h.same]
    · intro wire hw
      cases hw
      exact ⟨episodes, [], rfl, hlen⟩

theorem wires_sendOn (h : Recorded fields c (before ++ [.whole batches])) (sent : List UInt8) :
    (c.sendOn (Episode.wires fields before).length sent).wires =
      Episode.wires fields before ++ [greeting fields ++ batches.flatMap batchFrames ++ sent] := by
  have hw : c.wires = Episode.wires fields before ++ [greeting fields ++ batches.flatMap batchFrames] := by
    rw [h.wires, Episode.wires, List.filterMap_append]
    rfl
  rw [sendOn, hw, modify_length_concat]

theorem greets (h : Recorded fields c (before ++ [.whole batches])) : Greets fields :=
  h.proper (.whole batches) (List.mem_append_right _ (List.mem_singleton_self _))

theorem proper_concat (h : Recorded fields c (before ++ [.whole batches])) (episode : Episode)
    (he : episode.Proper fields) : ∀ ep ∈ before ++ [episode], ep.Proper fields := by
  intro ep hep
  rcases List.mem_append.mp hep with hep | hep
  · exact h.proper ep (List.mem_append_left _ hep)
  · rw [List.mem_singleton.mp hep]
    exact he

/-- Refusing a batch may leave a wire behind, but none that is open. -/
theorem refuse (h : Recorded fields c episodes) (opened : Option (List UInt8))
    (hp : ∀ sent ∈ opened, sent <+: greeting fields) (batch : List Message) (error : ExportError)
    (hf : c'.fields = c.fields) (hc : c'.current = none) (hw : c'.wires = c.wires ++ opened.toList) :
    Recorded fields c' (episodes ++ (opened.toList.map .abandoned ++ [.refused batch error])) where
  same := hf.trans h.same
  proper := by
    intro ep hep
    simp only [List.mem_append, List.mem_map, Option.mem_toList, List.mem_singleton] at hep
    obtain hep | ⟨sent, hs, rfl⟩ | rfl := hep
    · exact h.proper ep hep
    · exact hp sent hs
    · trivial
  wires := by
    rw [hw, h.wires]
    cases opened <;> simp [Episode.wire?]
  standing := by
    intro wire hopen
    rw [hc] at hopen
    cases hopen

/-- A sending goes on with the last episode or begins new ones. -/
theorem sends (h : Recorded fields c episodes) {batch : List Message}
    (hs : Sends c now (batchFrames batch) c' result) : ∃ episodes', Recorded fields c' episodes' ∧
      episodes'.flatMap Episode.deliveries = episodes.flatMap Episode.deliveries ++ [(batch, result)] := by
  cases hs with
  | throttled closed =>
    exact ⟨_, h.refuse none (by simp) batch notConnected rfl closed (by simp),
      by simp [Episode.deliveries]⟩
  | @unconnected closed _ opened greeted error =>
    refine ⟨_, h.refuse opened (h.same ▸ greeted) batch error rfl closed rfl, ?_⟩
    cases opened <;> simp [Episode.deliveries]
  | whole ready =>
    obtain ⟨before, batches, hr, hopen, rfl, hd⟩ := h.ready ready
    refine ⟨before ++ [.whole (batches ++ [batch])],
      ⟨hr.same, hr.proper_concat (.whole _) hr.greets, ?_, ?_⟩, ?_⟩
    · rw [hr.wires_sendOn]
      simp [Episode.wire?]
    · intro wire hw
      cases hopen.symm.trans hw
      exact ⟨before, batches ++ [batch], rfl, rfl⟩
    · simp [← hd, Episode.deliveries]
  | @cut c₁ wire ready sent part error =>
    obtain ⟨before, batches, hr, -, rfl, hd⟩ := h.ready ready
    refine ⟨before ++ [.cut batches batch sent error],
      ⟨hr.same, hr.proper_concat (.cut batches batch sent error) ⟨hr.greets, part⟩, ?_, by simp⟩, ?_⟩
    · refine (hr.wires_sendOn sent).trans ?_
      simp [Episode.wire?]
    · simp [← hd, Episode.deliveries]

theorem close (h : Recorded fields c episodes) : Recorded fields c.close episodes :=
  ⟨h.same, h.proper, h.wires, by simp [Connection.close]⟩

end Recorded

/-! ## Runs -/

namespace TcpExporter

open Connection

/-- What a call does to the connection, and the delivery that it was. -/
inductive Serves (c : Connection) : Connection → List Delivery → Prop where
  | idle : Serves c c []
  | closed : Serves c c.close []
  | sent {c' : Connection} {now : Nat} {batch : List Message} {result : ExportResult}
      (some : Parcel.payloads (batch.map .message) ≠ []) (sends : Sends c now (batchFrames batch) c' result) :
      Serves c c' [(batch, result)]

theorem serves_perform (e : TcpExporter) (call : Call) :
    Serves e.connection (e.perform call).1.connection (e.perform call).2 := by
  cases call with
  | flush => exact .idle
  | shutdown => exact .closed
  | deliver now connecting writing batch =>
    simp only [perform, deliver_eq]
    split
    next => exact .idle
    next hsome => exact .sent hsome (sends_send e.connection now connecting writing _)

namespace Serves

variable {c c' : Connection} {deliveries : List Delivery}

theorem paced (hs : Serves c c' deliveries) (h : Paced c) : Paced c' := by
  cases hs with
  | idle => exact h
  | closed => exact ⟨h.last, h.apart⟩
  | sent _ sends => exact h.sends sends

theorem frozen {w : Nat} (hs : Serves c c' deliveries) (hw : w < c.wires.length) (hc : c.current ≠ some w) :
    w < c'.wires.length ∧ c'.current ≠ some w ∧ c'.wires[w]? = c.wires[w]? := by
  cases hs with
  | idle => exact ⟨hw, hc, rfl⟩
  | closed => exact ⟨hw, by simp [Connection.close], rfl⟩
  | sent _ sends => exact sends.frozen hw hc

theorem recorded {fields : Handshake} {episodes : List Episode} (hs : Serves c c' deliveries)
    (h : Recorded fields c episodes) : ∃ episodes', Recorded fields c' episodes' ∧
      episodes'.flatMap Episode.deliveries = episodes.flatMap Episode.deliveries ++ deliveries := by
  cases hs with
  | idle => exact ⟨episodes, h, (List.append_nil _).symm⟩
  | closed => exact ⟨episodes, h.close, (List.append_nil _).symm⟩
  | sent _ sends => exact h.sends sends

end Serves

theorem run_cons (e : TcpExporter) (call : Call) (rest : List Call) : e.run (call :: rest) =
    (((e.perform call).1.run rest).1, (e.perform call).2 ++ ((e.perform call).1.run rest).2) := rfl

theorem paced_run {e : TcpExporter} (h : Paced e.connection) (calls : List Call) :
    Paced (e.run calls).1.connection := by
  induction calls generalizing e with
  | nil => exact h
  | cons call rest ih =>
    rw [run_cons]
    exact ih ((serves_perform e call).paced h)

theorem frozen_run {e : TcpExporter} {w : Nat} (hw : w < e.connection.wires.length)
    (hc : e.connection.current ≠ some w) (calls : List Call) :
    (e.run calls).1.connection.wires[w]? = e.connection.wires[w]? := by
  induction calls generalizing e with
  | nil => rfl
  | cons call rest ih =>
    obtain ⟨hw', hc', hsame⟩ := (serves_perform e call).frozen hw hc
    rw [run_cons]
    exact (ih hw' hc').trans hsame

theorem recorded_run {e : TcpExporter} {fields : Handshake} {episodes : List Episode}
    (h : Recorded fields e.connection episodes) (calls : List Call) :
    ∃ episodes', Recorded fields (e.run calls).1.connection episodes' ∧
      episodes'.flatMap Episode.deliveries = episodes.flatMap Episode.deliveries ++ (e.run calls).2 := by
  induction calls generalizing e episodes with
  | nil => exact ⟨episodes, h, (List.append_nil _).symm⟩
  | cons call rest ih =>
    obtain ⟨between, hb, hd⟩ := (serves_perform e call).recorded h
    obtain ⟨after, ha, he⟩ := ih hb
    refine ⟨after, ha, ?_⟩
    rw [he, hd, run_cons, List.append_assoc]

theorem paced_new (host : String) (fields : Handshake) : Paced (new host fields).connection :=
  ⟨rfl, List.Pairwise.nil⟩

theorem recorded_new (host : String) (fields : Handshake) :
    Recorded fields (new host fields).connection [] :=
  ⟨rfl, by simp, rfl, by simp [new, Connection.new]⟩

/-- Where an attempt to connect was made a short time ago and there is no connection, a batch is refused
and the connection is left alone. -/
theorem deliver_throttled {e : TcpExporter} (h : Paced e.connection) (hc : e.connection.current = none)
    {now t : Nat} (ht : t ∈ e.connection.attempts) (hnow : now < t + reconnectInterval)
    (connecting : ConnectOutcome) (writing : WriteOutcome) {batch : List Message}
    (hsome : Parcel.payloads (batch.map .message) ≠ []) :
    ∃ logs, e.deliver now connecting writing batch =
      (⟨e.connection, batchFrames batch⟩, .error notConnected, logs) := by
  have hthrottled : e.connection.isThrottled now = true := by
    cases hf : e.connection.isThrottled now with
    | true => rfl
    | false =>
      have := h.free hf ht
      omega
  simp only [deliver_eq, if_neg hsome, send, hc, if_pos hthrottled]
  exact ⟨_, rfl⟩

end TcpExporter

/-! ## The protocol -/

/-- Whatever is called, and whatever the network and the clock do: what went out on each connection is the
frame of the handshake and then the frames of batches that were exported one behind the other, of which
the last may be cut short, or a part of the handshake alone.  Each batch is on one connection at most, and
exports answer that they succeeded just for those that went out whole.  A connection that is not open
stays as it is for ever.  Attempts to connect are five seconds apart, and a batch that finds no connection
before that is refused, and leaves everything alone. -/
theorem TcpExporter.connection_protocol (host : String) (fields : Handshake) (calls : List Call) :
    let e := ((new host fields).run calls).1
    (∃ episodes : List Episode, (∀ episode ∈ episodes, episode.Proper fields) ∧
      e.connection.wires = episodes.filterMap (·.wire? fields) ∧
      ((new host fields).run calls).2 = episodes.flatMap Episode.deliveries ∧
      ∀ wire, e.connection.current = some wire → ∃ before batches,
        episodes = before ++ [.whole batches] ∧ wire = (before.filterMap (·.wire? fields)).length) ∧
    (∀ (later : List Call) (wire : Nat), wire < e.connection.wires.length →
      e.connection.current ≠ some wire →
      (e.run later).1.connection.wires[wire]? = e.connection.wires[wire]?) ∧
    e.connection.attempts.Pairwise (fun t u => t + 5000000000 ≤ u) ∧
    ∀ (now : Nat) (connecting : ConnectOutcome) (writing : WriteOutcome) (batch : List Message),
      Parcel.payloads (batch.map .message) ≠ [] → e.connection.current = none →
      (∃ t ∈ e.connection.attempts, now < t + 5000000000) →
      ∃ logs, e.deliver now connecting writing batch =
        (⟨e.connection, batchFrames batch⟩, .error (.transport "not connected"), logs) := by
  intro e
  have hpaced : Connection.Paced e.connection := paced_run (paced_new host fields) calls
  obtain ⟨episodes, hr, hd⟩ := recorded_run (recorded_new host fields) calls
  refine ⟨⟨episodes, hr.proper, hr.wires, hd.symm, hr.standing⟩, ?_, hpaced.apart, ?_⟩
  · intro later wire hw hc
    exact frozen_run hw hc later
  · rintro now connecting writing batch hsome hc ⟨t, ht, hnow⟩
    exact deliver_throttled hpaced hc ht hnow connecting writing hsome

/-- A batch with one point. -/
def TcpExporter.pointBatch : List Message := [.metric ⟨"m", "", "", .empty, .gauge ⟨0, .i64 1⟩⟩]

/-- A batch is cut short, the next one comes too early, and the third one goes out over a new
connection, which is closed then. -/
def TcpExporter.cutCalls : List Call :=
  [.deliver 0 (.opened "a" .complete) (.failed 3 .brokenPipe) pointBatch,
    .deliver 4999999999 (.opened "a" .complete) .complete pointBatch,
    .deliver 5000000000 (.opened "a" .complete) .complete pointBatch, .shutdown]

theorem TcpExporter.connection_protocol_of_cut :
    let e := ((new "h" .empty).run cutCalls).1
    e.connection.wires = [[0, 1, 0, 0, 11, 1], [0, 1, 0, 0, 11, 1, 1, 109, 0, 0, 0, 1, 0, 0, 0, 2]] ∧
      ((new "h" .empty).run cutCalls).2.map (·.2) =
        [.error (.transport "Broken pipe (os error 32)"), .error (.transport "not connected"), .ok ()] ∧
      (∀ later, (e.run later).1.connection.wires[0]? = some [0, 1, 0, 0, 11, 1]) ∧
      ∃ logs, e.deliver 9999999999 (.opened "a" .complete) .complete pointBatch =
        (⟨e.connection, batchFrames pointBatch⟩, .error (.transport "not connected"), logs) := by
  obtain ⟨-, hfrozen, -, hthrottled⟩ := connection_protocol "h" .empty cutCalls
  refine ⟨by decide +kernel, by rfl, fun later => ?_, ?_⟩
  · exact (hfrozen later 0 (by decide +kernel) (by decide +kernel)).trans (by decide +kernel)
  · exact hthrottled 9999999999 (.opened "a" .complete) .complete pointBatch (by decide +kernel)
      (by decide +kernel) ⟨5000000000, by decide +kernel, by decide⟩

end Telemetry
