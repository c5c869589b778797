import Trackpad.HostCalm
import Trackpad.HostWatchdogs
import Trackpad.Phone.Controls
import Trackpad.Phone.Moves
/-!
# One session of two honest peers

A gameplay session of the phone and a connection of the host, over a network that loses, repeats and reorders their
datagrams and may add its own. Neither peer ever takes the other for a stranger.
-/

namespace Trackpad.Gameplay

open V5Host V5Transport Relation

variable {σ : Type}

/-! ## The two peers -/

/-- Both peers, and how the host's loop ended or in which turn it is. -/
structure Joint (σ : Type) where
  phone : V5Transport
  host : Serve σ
  result : Option (Loop (Except HostV5Error Unit))

/-- The header of a control the host sent. -/
def controlHeader (connection_id packet_number : UInt64) (message_type : UInt8) (session_id logical_id : Nat) (payload : Bytes) :
    RecordHeader where
  direction := .HostToPhone
  message_type := message_type
  connection_id := connection_id
  session_id := .ofNat session_id
  packet_number := packet_number
  logical_id := .ofNat logical_id
  flags := 0
  payload_length := .ofNat payload.length

/-- The phone handles a control; where that throws, its session ends. -/
def received (header : RecordHeader) (payload : Bytes) (receivedNanos : Int) (session : SessionId) (now : Int) (p : V5Transport) :
    V5Transport :=
  match p.handleHostControl header payload receivedNanos session now with
  | .ok p => p
  | .error _ => if p.running then p.closeSession else p

/-- The phone has opened its session and the host has sent its first HELLO for six lanes. -/
def connected (b : Boundary) (sink : σ) (ordered : OrderedFrames) (send_key receive_key : Bytes) (connection_id : UInt64)
    (cached_handshake : Option (Bytes × Bytes)) (retained : Snapshot) : Joint σ where
  phone := .opened retained connection_id
  host :=
    { (send_control HOST_HELLO 0 none b.hello (Serve.begun b
        { accepted_connection sink ordered 6 send_key receive_key connection_id cached_handshake with
          ordered := .require_fresh_session })).2 with
      last_hello_send := b.hello_sent
      hello_interval := V5_CONTROL_REPAIR_INTERVAL }
  result := none

/-- A loop that goes on has no result. -/
def outcome : Loop (Except HostV5Error Unit) → Option (Loop (Except HostV5Error Unit))
  | .finished (.ok ()) => none
  | result => some result

section
variable (aead : Aead) [InputSink σ]

def Joint.turn (it : Iteration) (j : Joint σ) : Joint σ :=
  { j with
    host := (V5Host.turn it (receive_record_into aead it) j.host).2
    result := outcome (V5Host.turn it (receive_record_into aead it) j.host).1 }

/-- A datagram that opens is one the phone sealed. -/
def Unforged (it : Iteration) (j : Joint σ) : Prop :=
  ∀ bytes record cipher, it.received = .datagram bytes →
    j.host.connection.cipher.open_in_place aead .PhoneToHost bytes = (.ok record, cipher) → record ∈ j.phone.sent

/-- One step of either peer; samples are offered to a phone that `admits` one. -/
inductive Step (admits : V5Transport → Prop) : Joint σ → Joint σ → Prop
  | offerFrame (sample : Sample) (queuedNanos now : Int) (j : Joint σ) (admitted : admits j.phone) :
      Step admits j { j with phone := j.phone.offerFrame sample queuedNanos now }
  | writerTurn (now sendStarted : Int) (j : Joint σ) : Step admits j { j with phone := j.phone.writerTurn now sendStarted }
  | checkHostTimeout (now : Int) (j : Joint σ) : Step admits j { j with phone := j.phone.checkHostTimeout now }
  | handleHostControl {message_type : UInt8} {session_id logical_id : Nat} {payload : Bytes} (packet_number : UInt64)
      (receivedNanos : Int) (session : SessionId) (now : Int) (j : Joint σ)
      (sent : .control message_type session_id logical_id payload ∈ j.host.trace) :
      Step admits j { j with
        phone := received (controlHeader j.phone.connectionId packet_number message_type session_id logical_id payload) payload
          receivedNanos session now j.phone }
  | turn (it : Iteration) (j : Joint σ) (serving : j.result = none) (unforged : Unforged aead it j) : Step admits j (j.turn aead it)
  | stop (j : Joint σ) (serving : j.result = none) : Step admits j { j with result := some (.finished (.ok ())) }
  | notify (stopping : Bool) (j : Joint σ) {r : Except HostV5Error Unit} (returned : j.result = some (.finished r)) :
      Step admits j { j with host := notify_session_end stopping j.host }

end

/-! ## What holds of both -/

/-- A frame the phone sent. -/
def Sent (p : V5Transport) (frame : TouchFrame) : Prop :=
  ∃ record ∈ p.sent, record.1.message_type = PHONE_TOUCH ∧ decode_touch_payload record.1 record.2 = .ok frame

/-- A control the host may have sent. -/
inductive Control (sid : UInt64) (p : V5Transport) : UInt8 → Nat → Nat → Bytes → Prop
  | hello (nanos : Nat) : Control sid p HOST_HELLO 0 NO_ACK (encode_control_payload RECEIVE_WINDOW 6 nanos)
  | ack (logical_id nanos : Nat) : Control sid p HOST_ACK sid.toNat logical_id (encode_control_payload RECEIVE_WINDOW 6 nanos)
  | pong (nanos : Nat) {record : RecordHeader × Bytes} (sent : record ∈ p.sent) (message_type : record.1.message_type = PHONE_PING) :
      Control sid p HOST_PONG sid.toNat record.1.logical_id.toNat (encode_control_payload RECEIVE_WINDOW 6 nanos)
  | abort (session_id logical_id : Nat) (payload : Bytes) : Control sid p HOST_AUTH_ABORT session_id logical_id payload

structure Joined (sid : UInt64) (j : Joint σ) : Prop where
  ok : Ok sid j.phone
  nonzero : sid ≠ 0
  sound : ∃ session_id, Sound session_id j.host.trace
  serving : j.result = none → V5Host.Inv 0 j.host ∧ j.host.ordered.Holds (Sent j.phone)
  applied : ∀ frame ∈ applied j.host.trace, Sent j.phone frame
  controls : ∀ message_type session_id logical_id payload, .control message_type session_id logical_id payload ∈ j.host.trace →
    Control sid j.phone message_type session_id logical_id payload
  lanes : j.host.control.lane_count = 6
  acknowledged : ∀ k, j.phone.highestAcknowledged = some k → k < (Trackpad.applied j.host.trace).length
  pings : ∀ record ∈ j.phone.sent, record.1.message_type = PHONE_PING → Trackpad.applied j.host.trace ≠ []
  window : ∀ record ∈ j.phone.sent, record.1.message_type = PHONE_TOUCH →
    record.1.logical_id.toNat < (Trackpad.applied j.host.trace).length + RECEIVE_WINDOW

/-! ## What the phone sends -/

/-- A touch record decodes to its content. -/
theorem honest_decodes {sid : UInt64} {p : V5Transport} (h : Ok sid p) (hne : sid ≠ 0) {record : RecordHeader × Bytes}
    (hrecord : record ∈ p.sent) (htype : record.1.message_type = PHONE_TOUCH) :
    ∃ content t₁ t₂ t₃, contentAt p.trace record.1.logical_id.toNat = some content ∧ record.1.session_id = sid ∧
      decode_touch_payload record.1 record.2 = .ok (content.frame record.1 t₁ t₂ t₃) := by
  obtain ⟨header, payload⟩ := record
  cases h.sent _ hrecord with
  | @touch header content t₁ t₂ t₃ hdirection _ hsession hflags hqueued =>
    exact ⟨content, t₁, t₂, t₃, hqueued, hsession,
      decode_payload t₁ t₂ t₃ (h.valid _ _ hqueued) hdirection htype (hsession ▸ hne) hflags⟩
  | ping hping => exact absurd (hping.symm.trans htype) (by decide)
  | abort habort => exact absurd (habort.symm.trans htype) (by decide)

theorem ping_session {sid : UInt64} {p : V5Transport} (h : Ok sid p) {record : RecordHeader × Bytes} (hrecord : record ∈ p.sent)
    (htype : record.1.message_type = PHONE_PING) : record.1.session_id = sid := by
  obtain ⟨header, payload⟩ := record
  cases h.sent _ hrecord with
  | touch _ _ _ _ htouch => exact absurd (htouch.symm.trans htype) (by decide)
  | ping _ hsid => exact hsid
  | abort habort => exact absurd (habort.symm.trans htype) (by decide)

theorem Sent.frame {sid : UInt64} {p : V5Transport} (h : Ok sid p) (hne : sid ≠ 0) {frame : TouchFrame} (hsent : Sent p frame) :
    frame.session_id = sid.toNat ∧ ∃ record ∈ p.sent, record.1.message_type = PHONE_TOUCH ∧
      record.1.logical_id.toNat = frame.sequence ∧
      ∃ content t₁ t₂ t₃, contentAt p.trace frame.sequence = some content ∧ frame = content.frame record.1 t₁ t₂ t₃ := by
  obtain ⟨record, hrecord, htype, hdecode⟩ := hsent
  obtain ⟨content, t₁, t₂, t₃, hcontent, hsession, hok⟩ := honest_decodes h hne hrecord htype
  rw [hdecode] at hok
  obtain rfl := Except.ok.inj hok
  exact ⟨congrArg UInt64.toNat hsession, record, hrecord, htype, rfl, content, t₁, t₂, t₃, hcontent, rfl⟩

/-! ## What only grows -/

/-- The records sent and the log grow, and nothing is acknowledged. -/
structure Grows (p p' : V5Transport) : Prop where
  sent : ∀ record ∈ p.sent, record ∈ p'.sent
  trace : ∃ new, p'.trace = new ++ p.trace
  acknowledged : ∀ k, p'.highestAcknowledged = some k → p.highestAcknowledged = some k

theorem Grows.refl (p : V5Transport) : Grows p p := ⟨fun _ h => h, ⟨[], rfl⟩, fun _ h => h⟩

theorem Grows.trans {p₁ p₂ p₃ : V5Transport} (h : Grows p₁ p₂) (h' : Grows p₂ p₃) : Grows p₁ p₃ := by
  obtain ⟨new, hnew⟩ := h.trace
  obtain ⟨new', hnew'⟩ := h'.trace
  exact ⟨fun record hr => h'.sent record (h.sent record hr), ⟨new' ++ new, by rw [hnew', hnew, List.append_assoc]⟩,
    fun k hk => h.acknowledged k (h'.acknowledged k hk)⟩

/-- Nothing but these three fields is read. -/
theorem Grows.congr {p p₁ p₂ : V5Transport} (h : Grows p p₁) (hs : p₂.sent = p₁.sent) (ht : p₂.trace = p₁.trace)
    (ha : p₂.highestAcknowledged = p₁.highestAcknowledged) : Grows p p₂ :=
  ⟨fun record hr => hs ▸ h.sent record hr, ht ▸ h.trace, fun k hk => h.acknowledged k (ha ▸ hk)⟩

theorem enqueue_grows (cause : Cause) (content : Content) (now : Int) (p : V5Transport) :
    Grows p (p.enqueueFrameLocked cause content now) := by
  obtain ⟨hsent, -, hack, -, htrace⟩ := enqueue_keeps cause content now p
  refine ⟨fun record hr => hsent ▸ hr, ?_, fun k hk => hack ▸ hk⟩
  rcases htrace with htrace | htrace
  · exact ⟨[], htrace⟩
  · exact ⟨[.queued cause content], htrace⟩

theorem offerFrame_grows (sample : Sample) (queuedNanos now : Int) (p : V5Transport) :
    Grows p (p.offerFrame sample queuedNanos now) := by
  rcases offerFrame_cases sample queuedNanos now p with ⟨-, he⟩ | ⟨-, -, nanos, he⟩
  · rw [he]
    exact (Grows.refl p).congr rfl rfl rfl
  · have htaken : Grows p (p.taken sample) := ⟨fun _ h => h, ⟨[.offered sample], rfl⟩, fun _ h => h⟩
    rw [he]
    exact (htaken.trans (enqueue_grows (.sample sample) sample.content queuedNanos _)).congr rfl rfl rfl

theorem sealInto_grows {messageType : UInt8} {sessionId : UInt64} {logicalId : Nat} {payload : Bytes} {p p' : V5Transport}
    (h : p.sealInto messageType sessionId logicalId payload = some p') : Grows p p' := by
  obtain ⟨-, rfl⟩ := sealInto_some h
  exact ⟨fun record hr => List.mem_cons_of_mem _ hr, ⟨[], rfl⟩, fun _ h => h⟩

theorem abort_grows (reason : Nat) (p : V5Transport) : Grows p (p.sendAuthenticatedAbort reason) := by
  unfold sendAuthenticatedAbort
  rcases hseal : p.sealInto PHONE_AUTH_ABORT 0 0 (LittleEndian.encode 2 reason) with _ | p'
  · exact .refl p
  · exact sealInto_grows hseal

theorem closeSession_grows (p : V5Transport) : Grows p p.closeSession := by
  have hreset : Grows p p.resetSessionStateLocked := ⟨fun _ h => h, ⟨[], rfl⟩, fun _ h => (by cases h)⟩
  exact ((hreset.trans (abort_grows 1 _)).trans (abort_grows 1 _)).congr rfl rfl rfl

theorem move_grows {p p' : V5Transport} (h : Move p p') : Grows p p' := by
  cases h with
  | record sealed => exact sealInto_grows sealed
  | close => exact closeSession_grows p
  | heartbeat now => exact enqueue_grows .heartbeat _ now p
  | mark same sent acknowledged => exact (Grows.refl p).congr sent (congrArg Prod.fst same) acknowledged

theorem moves_grows {p p' : V5Transport} (h : Moves p p') : Grows p p' := by
  induction h with
  | refl => exact .refl p
  | tail _ hlast ih => exact ih.trans (move_grows hlast)

/-! ## Steps of the phone -/

theorem Sent.grows {p p' : V5Transport} (h : Grows p p') {frame : TouchFrame} (hsent : Sent p frame) : Sent p' frame := by
  obtain ⟨record, hrecord, htype, hdecode⟩ := hsent
  exact ⟨record, h.sent record hrecord, htype, hdecode⟩

theorem Control.grows {sid : UInt64} {p p' : V5Transport} (h : Grows p p') {message_type : UInt8} {session_id logical_id : Nat}
    {payload : Bytes} (hc : Control sid p message_type session_id logical_id payload) :
    Control sid p' message_type session_id logical_id payload := by
  cases hc with
  | hello nanos => exact .hello nanos
  | ack logical_id nanos => exact .ack logical_id nanos
  | pong nanos hrecord htype => exact .pong nanos (h.sent _ hrecord) htype
  | abort => exact .abort _ _ _

/-- A step of the phone that sends what it may. -/
theorem Joined.sends {sid : UInt64} {j : Joint σ} (h : Joined sid j) {p : V5Transport} (hok : Ok sid p) (hgrows : Grows j.phone p)
    (hnew : ∀ record ∈ p.sent, record ∈ j.phone.sent ∨ Sends j.phone record) : Joined sid { j with phone := p } := by
  have hlow : j.phone.highestAcknowledged.elim 0 (· + 1) ≤ (Trackpad.applied j.host.trace).length := by
    rcases hack : j.phone.highestAcknowledged with _ | k
    · exact Nat.zero_le _
    · exact h.acknowledged k hack
  refine ⟨hok, h.nonzero, h.sound, fun hs => ?_, fun frame hf => (h.applied frame hf).grows hgrows,
    fun t s l payload hc => (h.controls t s l payload hc).grows hgrows, h.lanes,
    fun k hk => h.acknowledged k (hgrows.acknowledged k hk), fun record hr htype => ?_, fun record hr htype => ?_⟩
  · exact ⟨(h.serving hs).1, fun i frame hi => ((h.serving hs).2 i frame hi).grows hgrows⟩
  · rcases hnew record hr with hold | habort | ⟨htouch, -⟩ | ⟨-, hsome⟩
    · exact h.pings record hold htype
    · exact absurd (habort.symm.trans htype) (by decide)
    · exact absurd (htouch.symm.trans htype) (by decide)
    · obtain ⟨k, hk⟩ := Option.isSome_iff_exists.1 hsome
      have hlt := h.acknowledged k hk
      exact List.ne_nil_of_length_pos (Nat.zero_lt_of_lt hlt)
  · rcases hnew record hr with hold | habort | ⟨-, hlt⟩ | ⟨hping, -⟩
    · exact h.window record hold htype
    · exact absurd (habort.symm.trans htype) (by decide)
    · exact hlt.trans_le (Nat.add_le_add_right hlow _)
    · exact absurd (hping.symm.trans htype) (by decide)

theorem offerFrame_sent (sample : Sample) (queuedNanos now : Int) (p : V5Transport) :
    (p.offerFrame sample queuedNanos now).sent = p.sent := by
  rcases offerFrame_cases sample queuedNanos now p with ⟨-, he⟩ | ⟨-, -, nanos, he⟩
  · rw [he]
    rfl
  · rw [he]
    exact (enqueue_keeps (.sample sample) sample.content queuedNanos (p.taken sample)).1

theorem closeSession_ok {sid : UInt64} {p : V5Transport} (h : Ok sid p) :
    Ok sid p.closeSession ∧ ∀ record ∈ p.closeSession.sent, record ∈ p.sent ∨ Sends p record := by
  obtain ⟨hok, -, -, habort⟩ := closeSession_spec h.sent h.valid
  exact ⟨hok, fun record hr => (habort record hr).imp_right .inl⟩

/-- The ACKs in the host's log name frames it applied. -/
theorem acknowledged_lt {session_id : Nat} {trace : List Event} (h : Sound session_id trace) {session logical_id : Nat}
    {payload : Bytes} (hc : .control HOST_ACK session logical_id payload ∈ trace) : logical_id < (Trackpad.applied trace).length := by
  apply (sound_acknowledgements h).2
  clear h
  induction trace with
  | nil => cases hc
  | cons e earlier ih =>
    rcases List.mem_cons.1 hc with rfl | hearlier
    · rw [acknowledgements, if_pos rfl]
      exact List.mem_cons_self
    · have hmem := ih hearlier
      cases e with
      | accepted frame => exact hmem
      | failed frame => exact hmem
      | control t s l p =>
        rw [acknowledgements]
        split
        · exact List.mem_cons_of_mem _ hmem
        · exact hmem

/-- Every number below the length is the sequence of a frame that was applied. -/
theorem applied_at {session_id : Nat} {trace : List Event} (h : Sound session_id trace) {n : Nat}
    (hn : n < (Trackpad.applied trace).length) : ∃ frame ∈ Trackpad.applied trace, frame.sequence = n := by
  rw [← List.mem_range, ← sound_sequences h] at hn
  simpa using hn

/-- A control of the host is one the phone expects, or an abort. -/
theorem Joined.expected {sid : UInt64} {j : Joint σ} (h : Joined sid j) {message_type : UInt8} {session_id logical_id : Nat}
    {payload : Bytes} (hc : .control message_type session_id logical_id payload ∈ j.host.trace)
    (hne : message_type ≠ HOST_AUTH_ABORT) (connection_id packet_number : UInt64) :
    Expected sid j.phone (controlHeader connection_id packet_number message_type session_id logical_id payload) ∧
    ∃ nanos, payload = encode_control_payload RECEIVE_WINDOW 6 nanos := by
  obtain ⟨session, hsound⟩ := h.sound
  cases h.controls _ _ _ _ hc with
  | hello nanos => exact ⟨.hello rfl rfl rfl, nanos, rfl⟩
  | ack logical_id nanos =>
    obtain ⟨frame, hframe, hsequence⟩ := applied_at hsound (acknowledged_lt hsound hc)
    obtain ⟨-, record, hrecord, htype, hlogical, -⟩ := (h.applied frame hframe).frame h.ok h.nonzero
    refine ⟨.ack rfl UInt64.ofNat_toNat ⟨record, hrecord, htype, ?_⟩, nanos, rfl⟩
    rw [hsequence] at hlogical
    simp only [controlHeader, ← hlogical, UInt64.ofNat_toNat]
  | pong nanos hrecord htype => exact ⟨.pong rfl UInt64.ofNat_toNat ⟨_, hrecord, htype, UInt64.ofNat_toNat.symm⟩, nanos, rfl⟩
  | abort => exact absurd rfl hne

theorem Joined.sent_ne {sid : UInt64} {j : Joint σ} (h : Joined sid j) (hne : Trackpad.applied j.host.trace ≠ []) :
    j.phone.sent ≠ [] := by
  obtain ⟨frame, hframe⟩ := List.exists_mem_of_ne_nil _ hne
  obtain ⟨record, hrecord, -⟩ := h.applied frame hframe
  exact List.ne_nil_of_mem hrecord

/-- Handling a control keeps both in step; only the first HELLO draws the session's id. -/
theorem Joined.handled {sid sid' : UInt64} {j : Joint σ} (h : Joined sid j) {message_type : UInt8} {session_id logical_id : Nat}
    {payload : Bytes} (hc : .control message_type session_id logical_id payload ∈ j.host.trace)
    {connection_id packet_number : UInt64} {p : V5Transport} (hhandled : Handled sid j.phone
      (controlHeader connection_id packet_number message_type session_id logical_id payload) sid' p) :
    Joined sid' { j with phone := p } := by
  obtain ⟨session, hsound⟩ := h.sound
  have hsent : ∀ {frame}, Sent j.phone frame → Sent p frame := by
    rintro frame ⟨record, hrecord, hrest⟩
    exact ⟨record, hhandled.sent ▸ hrecord, hrest⟩
  refine ⟨hhandled.ok, hhandled.nonzero h.nonzero, h.sound, fun hs => ?_, fun frame hf => hsent (h.applied frame hf), ?_, h.lanes,
    ?_, fun record hr => h.pings record (hhandled.sent ▸ hr), fun record hr => h.window record (hhandled.sent ▸ hr)⟩
  · exact ⟨(h.serving hs).1, fun i frame hi => hsent ((h.serving hs).2 i frame hi)⟩
  · intro t s l bytes hmem
    cases h.controls t s l bytes hmem with
    | hello nanos => exact .hello nanos
    | ack logical_id nanos =>
      have hpos := Nat.zero_lt_of_lt (acknowledged_lt hsound hmem)
      rw [← hhandled.same (h.sent_ne (List.ne_nil_of_length_pos hpos))]
      exact .ack _ _
    | pong nanos hrecord htype =>
      rw [← hhandled.same (List.ne_nil_of_mem hrecord)]
      exact .pong nanos (hhandled.sent ▸ hrecord) htype
    | abort => exact .abort _ _ _
  · intro k hk
    rcases hhandled.acknowledged k hk with hold | ⟨htype, rfl⟩
    · exact h.acknowledged k hold
    · have htype : message_type = HOST_ACK := htype
      rw [htype] at hc
      exact (ofNat_toNat_le logical_id).trans_lt (acknowledged_lt hsound hc)

theorem control_length (nanos : Nat) :
    (UInt16.ofNat (encode_control_payload RECEIVE_WINDOW 6 nanos).length).toNat = CONTROL_PAYLOAD_SIZE := rfl

theorem Joined.control {sid : UInt64} {j : Joint σ} (h : Joined sid j) {message_type : UInt8} {session_id logical_id : Nat}
    {payload : Bytes} (hc : .control message_type session_id logical_id payload ∈ j.host.trace)
    (connection_id packet_number : UInt64) (receivedNanos : Int) (session : SessionId) (now : Int) :
    ∃ sid', Joined sid' { j with
      phone := received (controlHeader connection_id packet_number message_type session_id logical_id payload) payload
        receivedNanos session now j.phone } := by
  unfold received
  by_cases htype : message_type = HOST_AUTH_ABORT
  · have habort : j.phone.handleHostControl (controlHeader connection_id packet_number message_type session_id logical_id payload)
        payload receivedNanos session now = .error "Host ended the authenticated session" := if_pos htype
    rw [habort]
    dsimp only
    split
    · obtain ⟨hok, hnew⟩ := closeSession_ok h.ok
      exact ⟨sid, h.sends hok (closeSession_grows _) hnew⟩
    · exact ⟨sid, h⟩
  · obtain ⟨hexpected, nanos, rfl⟩ := h.expected hc htype connection_id packet_number
    obtain ⟨sid', p, hok, hhandled⟩ := handleHostControl_ok h.ok hexpected rfl (control_length nanos) nanos receivedNanos
      session now
    rw [hok]
    exact ⟨sid', h.handled hc hhandled⟩

/-! ## Turns of the host -/

/-- A window that has a session has the phone's. -/
theorem window_session {sid : UInt64} {s : Serve σ} {spare : Nat} (hinv : V5Host.Inv spare s)
    (happlied : ∀ frame ∈ Trackpad.applied s.trace, frame.session_id = sid.toNat) :
    (s.ordered = .require_fresh_session ∧ Trackpad.applied s.trace = []) ∨ s.ordered.session_id = some sid.toNat := by
  rcases hinv.session with ⟨hfresh, hnil, -, -⟩ | ⟨session_id, hc, hne⟩
  · exact .inl ⟨hfresh, hnil⟩
  · right
    obtain ⟨frame, hframe⟩ := List.exists_mem_of_ne_nil _ hne
    rw [hc.session, ← (sound_frames hc.sound frame hframe).1, happlied frame hframe]

theorem decode_touch_type {header : RecordHeader} {payload : Bytes} {frame : TouchFrame}
    (h : decode_touch_payload header payload = .ok frame) : header.message_type = PHONE_TOUCH := by
  unfold decode_touch_payload at h
  split at h
  · cases h
  · rename_i hheader
    simp only [not_or, Decidable.not_not] at hheader
    exact hheader.2.1

/-- The host just after a record of the phone was opened. -/
structure Opened (sid : UInt64) (p : V5Transport) (record : RecordHeader × Bytes) (s : Serve σ) : Prop where
  inv : V5Host.Inv 1 s
  sent : record ∈ p.sent
  holds : s.ordered.Holds (Sent p)
  applied : ∀ frame ∈ Trackpad.applied s.trace, Sent p frame
  lanes : s.control.lane_count = 6
  pinged : record.1.message_type = PHONE_PING → Trackpad.applied s.trace ≠ []

/-- Such a record is welcome. -/
theorem Opened.welcome {sid : UInt64} {p : V5Transport} (hok : Ok sid p) (hne : sid ≠ 0) {record : RecordHeader × Bytes}
    {s : Serve σ} (h : Opened sid p record s) : Welcome s record.1 record.2 := by
  have hsession := window_session h.inv fun frame hf => ((h.applied frame hf).frame hok hne).1
  obtain ⟨header, payload⟩ := record
  cases hok.sent _ h.sent with
  | touch t₁ t₂ t₃ hdirection htype hsid hflags hqueued =>
    refine .touch htype (decode_payload t₁ t₂ t₃ (hok.valid _ _ hqueued) hdirection htype (hsid ▸ hne) hflags) ?_
    rcases hsession with ⟨hfresh, -⟩ | hsome
    · rw [hfresh]
      rfl
    · rw [hsome, Content.frame, hsid]
      simp
  | ping htype hsid hflags hlength =>
    refine .ping htype hflags hlength ?_
    rcases hsession with ⟨-, hnil⟩ | hsome
    · exact absurd hnil (h.pinged htype)
    · rw [hsome, hsid]
  | abort htype => exact .abort htype

section
variable [InputSink σ]

/-- What handling it adds. -/
theorem Opened.adds {sid : UInt64} {p : V5Transport} (hok : Ok sid p) (hne : sid ≠ 0) {record : RecordHeader × Bytes}
    {s : Serve σ} (h : Opened sid p record s) (it : Iteration) :
    Adds (Sent p) (Control sid p) s (handle_record it record.1 record.2 s).2 := by
  have hsent : ∀ frame, decode_touch_payload record.1 record.2 = .ok frame → Sent p frame :=
    fun frame hdecode => ⟨record, h.sent, decode_touch_type hdecode, hdecode⟩
  apply handle_record_adds h.holds it hsent
  · intro frame hdecode logical_id nanos
    rw [((hsent frame hdecode).frame hok hne).1, h.lanes]
    exact .ack logical_id nanos
  · intro htype nanos
    rw [h.lanes, ping_session hok h.sent htype]
    exact .pong nanos h.sent htype

variable (aead : Aead)

/-- What the receiver opens after the checks. -/
theorem receive_opened {sid : UInt64} {j : Joint σ} (h : Joined sid j) (hserving : j.result = none) {it : Iteration}
    (hunforged : Unforged aead it j) :
    Adds (Sent j.phone) (Control sid j.phone) j.host (receive_record_into aead it (check it j.host).2).2 ∧
    ∀ record, (receive_record_into aead it (check it j.host).2).1 = .ok (some record) →
      Opened sid j.phone record (receive_record_into aead it (check it j.host).2).2 := by
  obtain ⟨hinv, hholds⟩ := h.serving hserving
  have hcheck : Adds (Sent j.phone) (Control sid j.phone) j.host (check it j.host).2 :=
    check_adds hholds it fun nanos => by rw [h.lanes]; exact .hello nanos
  obtain ⟨⟨connection, hsame⟩, hopens⟩ := receive_spec aead it (check it j.host).2
  have hreceived : Adds (Sent j.phone) (Control sid j.phone) j.host (receive_record_into aead it (check it j.host).2).2 := by
    rw [hsame]
    exact hcheck.congr rfl rfl rfl
  refine ⟨hreceived, fun record hrecord => ?_⟩
  obtain ⟨bytes, cipher, hdatagram, hopen⟩ := hopens record hrecord
  rw [check_connection] at hopen
  have hsent := hunforged bytes record cipher hdatagram hopen
  refine ⟨(receive_record_receives aead it _ (check_inv hinv it)).2 record hrecord, hsent, hreceived.holds,
    hreceived.all_applied h.applied, hreceived.lanes.trans h.lanes, fun htype => ?_⟩
  have hpos := List.length_pos_iff.2 (h.pings record hsent htype)
  exact List.ne_nil_of_length_pos (hpos.trans_le hreceived.applied_le)

/-- A turn keeps the trace sound, and adds only frames that were sent and answers to records that were sent. -/
theorem turn_spec {sid : UInt64} {j : Joint σ} (h : Joined sid j) (hserving : j.result = none) {it : Iteration}
    (hunforged : Unforged aead it j) :
    Adds (Sent j.phone) (Control sid j.phone) j.host (V5Host.turn it (receive_record_into aead it) j.host).2 ∧
    (Quiet it → CalmLoop (V5Host.turn it (receive_record_into aead it) j.host).1) := by
  obtain ⟨hinv, hholds⟩ := h.serving hserving
  have hcheck : Adds (Sent j.phone) (Control sid j.phone) j.host (check it j.host).2 :=
    check_adds hholds it fun nanos => by rw [h.lanes]; exact .hello nanos
  obtain ⟨hreceived, hopened⟩ := receive_opened aead h hserving hunforged
  unfold V5Host.turn
  split
  · rename_i s heq
    rw [heq] at hreceived hopened
    dsimp only at hreceived hopened
    split
    · rename_i e s' hreceive
      rw [hreceive] at hreceived
      exact ⟨hreceived, fun hq => .of (.of (receive_calm aead hq s (congrArg Prod.fst hreceive)))⟩
    · rename_i s' hreceive
      rw [hreceive] at hreceived
      exact ⟨hreceived, fun _ => .of .ok⟩
    · rename_i header payload s' hreceive
      rw [hreceive] at hreceived hopened
      have hrecord := hopened (header, payload) rfl
      exact ⟨hreceived.trans (hrecord.adds h.ok h.nonzero it),
        fun hq => handle_record_calm hq (hrecord.welcome h.ok h.nonzero)⟩
  · rename_i result s _ heq
    refine ⟨?_, fun hq => ?_⟩
    · rw [heq] at hcheck
      exact hcheck
    · have hcalm := check_calm hq j.host
      rw [heq] at hcalm
      exact hcalm

/-- A turn of the host keeps both in step. -/
theorem Joined.turn {sid : UInt64} {j : Joint σ} (h : Joined sid j) (hserving : j.result = none) {it : Iteration}
    (hunforged : Unforged aead it j) : Joined sid (j.turn aead it) := by
  obtain ⟨hadds, -⟩ := turn_spec aead h hserving hunforged
  obtain ⟨hsound, hok⟩ := turn_keeps (h.serving hserving).1 it (receive_record_receives aead it)
  have hle := hadds.applied_le
  obtain ⟨new, htrace, -, hcontrols⟩ := hadds.trace
  refine ⟨h.ok, h.nonzero, hsound, fun hnone => ⟨hok ?_, hadds.holds⟩, hadds.all_applied h.applied, ?_,
    hadds.lanes.trans h.lanes, fun k hk => (h.acknowledged k hk).trans_le hle, fun record hr htype => ?_,
    fun record hr htype => (h.window record hr htype).trans_le (Nat.add_le_add_right hle _)⟩
  · simp only [Joint.turn] at hnone
    unfold outcome at hnone
    split at hnone
    · assumption
    · cases hnone
  · intro t s l bytes hmem
    have hmem : Event.control t s l bytes ∈ (V5Host.turn it (receive_record_into aead it) j.host).2.trace := hmem
    rw [htrace, List.mem_append] at hmem
    rcases hmem with hmem | hmem
    · exact hcontrols t s l bytes hmem
    · exact h.controls t s l bytes hmem
  · exact List.ne_nil_of_length_pos ((List.length_pos_iff.2 (h.pings record hr htype)).trans_le hle)

/-! ## Runs -/

theorem opened_ok {sid : UInt64} (retained : Snapshot) (connection_id : UInt64) : Ok sid (V5Transport.opened retained connection_id) := by
  have hnothing : ∀ i content, contentAt (V5Transport.opened retained connection_id).trace i = some content → content.Valid i :=
    fun i content hi => absurd (contentAt_lt hi) (Nat.not_lt_zero i)
  refine ⟨fun _ => ⟨⟨rfl, ?_, rfl, rfl, fun i _ hi => absurd hi (Nat.not_lt_zero i), hnothing, Nat.zero_le _,
    Nat.zero_le _⟩, rfl, fun _ => ⟨rfl, rfl, rfl, rfl, rfl⟩, fun hr => (by cases hr), ?_, ?_⟩, ?_, hnothing⟩
  · exact ⟨Nat.le_refl _, Nat.le_refl _, Nat.zero_le _, Nat.zero_le _, fun i _ hi => absurd hi (Nat.not_lt_zero i),
      fun i _ hi => absurd hi (Nat.not_lt_zero i)⟩
  · exact fun record hr => absurd hr List.not_mem_nil
  · exact fun record hr => absurd hr List.not_mem_nil
  · exact fun record hr => absurd hr List.not_mem_nil

omit [InputSink σ] in
theorem connected_joined (b : Boundary) (sink : σ) (ordered : OrderedFrames) (send_key receive_key : Bytes)
    (connection_id : UInt64) (cached_handshake : Option (Bytes × Bytes)) (retained : Snapshot) :
    Joined 1 (connected b sink ordered send_key receive_key connection_id cached_handshake retained) := by
  have hinv : V5Host.Inv 0 (connected b sink ordered send_key receive_key connection_id cached_handshake retained).host := by
    have hhello := hello_inv b (accepted_inv sink ordered 6 send_key receive_key connection_id cached_handshake)
    exact hhello.congr rfl rfl rfl
  have htrace : ∃ n₁ n₂, (connected b sink ordered send_key receive_key connection_id cached_handshake retained).host.trace =
      [.control HOST_HELLO 0 NO_ACK (encode_control_payload RECEIVE_WINDOW 6 n₁),
        .control HOST_HELLO 0 NO_ACK (encode_control_payload RECEIVE_WINDOW 6 n₂)] ∧
      (connected b sink ordered send_key receive_key connection_id cached_handshake retained).host.ordered =
        .require_fresh_session ∧
      (connected b sink ordered send_key receive_key connection_id cached_handshake retained).host.control.lane_count = 6 := by
    refine ⟨b.hello.2.host_send_nanos, b.hello.1.host_send_nanos, ?_, ?_, ?_⟩
    all_goals
      simp only [connected]
      rw [send_control_trace (by decide)]
      rfl
  obtain ⟨n₁, n₂, htrace, hordered, hlanes⟩ := htrace
  have happlied : Trackpad.applied (connected b sink ordered send_key receive_key connection_id cached_handshake
      retained).host.trace = [] := by
    rw [htrace]
    rfl
  refine ⟨opened_ok retained connection_id, by decide, hinv.sound, fun _ => ⟨hinv, ?_⟩, ?_, ?_, hlanes, fun k hk => (by cases hk),
    fun record hr => absurd hr List.not_mem_nil, fun record hr => absurd hr List.not_mem_nil⟩
  · rw [hordered]
    exact fun i frame hi => by cases hi
  · rw [happlied]
    exact fun frame hf => absurd hf List.not_mem_nil
  · rw [htrace]
    intro t s l bytes hmem
    rcases List.mem_cons.1 hmem with heq | hmem
    · cases heq
      exact .hello n₁
    · cases List.mem_singleton.1 hmem
      exact .hello n₂

omit [InputSink σ] in
theorem notify_keeps (stopping : Bool) (s : Serve σ) :
    (notify_session_end stopping s).control = s.control ∧
    Trackpad.applied (notify_session_end stopping s).trace = Trackpad.applied s.trace ∧
    ∀ t session l bytes, .control t session l bytes ∈ (notify_session_end stopping s).trace →
      .control t session l bytes ∈ s.trace ∨ t = HOST_AUTH_ABORT := by
  unfold notify_session_end
  split
  · exact ⟨rfl, rfl, fun _ _ _ _ h => .inl h⟩
  · refine ⟨rfl, rfl, fun t session l bytes hmem => ?_⟩
    rcases List.mem_cons.1 hmem with heq | hmem
    · cases heq
      exact .inr rfl
    rcases List.mem_cons.1 hmem with heq | hmem
    · cases heq
      exact .inr rfl
    · exact .inl hmem

theorem Step.joined {admits : V5Transport → Prop} {sid : UInt64} {j j' : Joint σ} (hstep : Step aead admits j j')
    (h : Joined sid j) : ∃ sid', Joined sid' j' := by
  cases hstep with
  | offerFrame sample queuedNanos now _ _ =>
    refine ⟨sid, h.sends (offerFrame_ok h.ok sample queuedNanos now) (offerFrame_grows sample queuedNanos now _) ?_⟩
    intro record hr
    rw [offerFrame_sent] at hr
    exact .inl hr
  | writerTurn now sendStarted =>
    obtain ⟨hok, hnew⟩ := writerTurn_spec h.ok now sendStarted
    exact ⟨sid, h.sends hok (moves_grows (writerTurn_moves now sendStarted _)) hnew⟩
  | checkHostTimeout now =>
    obtain ⟨hok, hnew⟩ := checkHostTimeout_spec h.ok now
    exact ⟨sid, h.sends hok (moves_grows (checkHostTimeout_moves now _)) fun record hr => (hnew record hr).imp_right .inl⟩
  | handleHostControl packet_number receivedNanos session now _ sent => exact h.control sent _ packet_number receivedNanos session now
  | turn it _ serving unforged => exact ⟨sid, h.turn aead serving unforged⟩
  | stop _ serving =>
    exact ⟨sid, h.ok, h.nonzero, h.sound, fun hnone => (by cases hnone), h.applied, h.controls, h.lanes, h.acknowledged, h.pings,
      h.window⟩
  | notify stopping _ returned =>
    obtain ⟨session_id, hsound⟩ := h.sound
    have hsound := notify_sound stopping hsound
    obtain ⟨hcontrol, happlied, hcontrols⟩ := notify_keeps stopping j.host
    refine ⟨sid, h.ok, h.nonzero, ⟨session_id, hsound⟩, fun hnone => ?_, ?_, ?_, hcontrol ▸ h.lanes, ?_, ?_, ?_⟩
    · have hnone : j.result = none := hnone
      rw [returned] at hnone
      cases hnone
    · dsimp only
      rw [happlied]
      exact h.applied
    · intro t s l bytes hmem
      rcases hcontrols t s l bytes hmem with hold | rfl
      · exact h.controls t s l bytes hold
      · exact .abort s l bytes
    · dsimp only
      rw [happlied]
      exact h.acknowledged
    · dsimp only
      rw [happlied]
      exact h.pings
    · dsimp only
      rw [happlied]
      exact h.window

theorem run_joined {admits : V5Transport → Prop} {b : Boundary} {sink : σ} {ordered : OrderedFrames}
    {send_key receive_key : Bytes} {connection_id : UInt64} {cached_handshake : Option (Bytes × Bytes)} {retained : Snapshot} {j : Joint σ}
    (hrun : ReflTransGen (Step aead admits)
      (connected b sink ordered send_key receive_key connection_id cached_handshake retained) j) :
    ∃ sid, Joined sid j := by
  induction hrun with
  | refl => exact ⟨1, connected_joined b sink ordered send_key receive_key connection_id cached_handshake retained⟩
  | tail _ hstep ih =>
    obtain ⟨sid, h⟩ := ih
    exact hstep.joined aead h

/-- Neither peer breaks off: no turn of the host ends in an error that blames the phone, the phone takes every HELLO, ACK
and PONG, the host has a session before a ping reaches it, a PONG answers a ping, and what the phone sent is applied or in
the host's window. -/
structure Undisturbed (j : Joint σ) : Prop where
  host : j.result = none → ∀ it, Unforged aead it j → Quiet it → ∀ e,
    (V5Host.turn it (receive_record_into aead it) j.host).1 = .finished (.error e) → ¬ Breaks e
  phone : ∀ message_type session_id logical_id payload, .control message_type session_id logical_id payload ∈ j.host.trace →
    message_type ∈ [HOST_HELLO, HOST_ACK, HOST_PONG] → ∀ packet_number receivedNanos session now,
      ∃ p, j.phone.handleHostControl (controlHeader j.phone.connectionId packet_number message_type session_id logical_id payload)
        payload receivedNanos session now = .ok p
  ping : ∀ record ∈ j.phone.sent, record.1.message_type = PHONE_PING → Trackpad.applied j.host.trace ≠ [] ∧
    (j.result = none → j.host.ordered.session_id = some record.1.session_id.toNat)
  pong : ∀ session_id logical_id payload, .control HOST_PONG session_id logical_id payload ∈ j.host.trace →
    ∃ record ∈ j.phone.sent, record.1.message_type = PHONE_PING ∧ record.1.logical_id.toNat = logical_id
  window : ∀ record ∈ j.phone.sent, record.1.message_type = PHONE_TOUCH →
    (∃ frame ∈ Trackpad.applied j.host.trace, frame.sequence = record.1.logical_id.toNat) ∨
    (Trackpad.applied j.host.trace).length ≤ record.1.logical_id.toNat ∧
      record.1.logical_id.toNat < (Trackpad.applied j.host.trace).length + MAX_REORDERED_FRAMES ∧
      (j.result = none → j.host.ordered.next_sequence = (Trackpad.applied j.host.trace).length)

theorem Joined.undisturbed {sid : UInt64} {j : Joint σ} (h : Joined sid j) : Undisturbed aead j := by
  obtain ⟨session_id, hsound⟩ := h.sound
  have happlied : ∀ frame ∈ Trackpad.applied j.host.trace, frame.session_id = sid.toNat :=
    fun frame hf => ((h.applied frame hf).frame h.ok h.nonzero).1
  refine ⟨?_, ?_, ?_, ?_, ?_⟩
  · intro hserving it hunforged hquiet e he
    exact (turn_spec aead h hserving hunforged).2 hquiet _ he e rfl
  · intro t s l payload hc ht packet_number receivedNanos session now
    have hne : t ≠ HOST_AUTH_ABORT := by
      rintro rfl
      exact absurd ht (by decide)
    obtain ⟨hexpected, nanos, rfl⟩ := h.expected hc hne j.phone.connectionId packet_number
    obtain ⟨sid', p, hok, -⟩ := handleHostControl_ok h.ok hexpected rfl (control_length nanos) nanos receivedNanos session now
    exact ⟨p, hok⟩
  · intro record hr htype
    have hne := h.pings record hr htype
    refine ⟨hne, fun hserving => ?_⟩
    rcases window_session (h.serving hserving).1 happlied with ⟨-, hnil⟩ | hsome
    · exact absurd hnil hne
    · rw [hsome, ping_session h.ok hr htype]
  · intro s l payload hc
    cases h.controls _ _ _ _ hc with
    | pong nanos hr htype => exact ⟨_, hr, htype, rfl⟩
  · intro record hr htype
    rcases Nat.lt_or_ge record.1.logical_id.toNat (Trackpad.applied j.host.trace).length with hlt | hge
    · exact .inl (applied_at hsound hlt)
    · have hbound := h.window record hr htype
      have hrange := record.1.logical_id.toNat_lt
      refine .inr ⟨hge, hbound.trans_le (Nat.add_le_add_left (by decide) _), fun hserving => ?_⟩
      rcases (h.serving hserving).1.session with ⟨hfresh, hnil, -, -⟩ | ⟨session, hc, -⟩
      · rw [hfresh, hnil]
        rfl
      · rw [hc.next, Nat.mod_eq_of_lt (hge.trans_lt hrange)]

/-- However their records are lost, repeated and reordered, and whatever else arrives, an honest phone and an honest host
never take each other's records for wrong. -/
theorem never_disturbed {admits : V5Transport → Prop} {b : Boundary} {sink : σ} {ordered : OrderedFrames}
    {send_key receive_key : Bytes} {connection_id : UInt64} {cached_handshake : Option (Bytes × Bytes)} {retained : Snapshot} {j : Joint σ}
    (hrun : ReflTransGen (Step aead admits)
      (connected b sink ordered send_key receive_key connection_id cached_handshake retained) j) :
    Undisturbed aead j := by
  obtain ⟨sid, h⟩ := run_joined aead hrun
  exact h.undisturbed aead

end

/-- A connection over which the host has sent its HELLO. -/
def greeted : Joint TakesFrames := connected atZero ⟨false⟩ .new [] [] 0 none .empty

end Trackpad.Gameplay
