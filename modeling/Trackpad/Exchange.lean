import Trackpad.Gameplay
import Trackpad.Phone.Offered
/-!
# One frame after the other

Where nothing is lost and no clock moves, each frame goes over by itself: the writer sends the oldest one, the host commits
and acknowledges it, and the phone retires it.
-/

namespace Trackpad.Gameplay

open V5Host V5Transport Relation

/-! ## The phone -/

/-- Where nothing retained was sent yet, a turn of the writer sends the oldest frame. -/
theorem writer_sends {sid : UInt64} {p : V5Transport} (hok : Ok sid p) (hrun : p.running = true) (hready : p.hostReady = true)
    (hfirsts : p.unacknowledged.firsts = p.unacknowledged.head) (hlt : p.unacknowledged.head < p.unacknowledged.tail)
    (hpackets : p.nextPacketNumber ≠ 2 ^ 64 - 1) (now sendStarted : Int) :
    ∃ q content t₁ t₂ t₃, contentAt p.trace p.unacknowledged.head = some content ∧
      q.firsts = p.unacknowledged.head + 1 ∧ q.head = p.unacknowledged.head ∧ q.tail = p.unacknowledged.tail ∧
      p.writerTurn now sendStarted =
        { p with
          unacknowledged := q
          nextPacketNumber := p.nextPacketNumber + 1
          sent := (p.header PHONE_TOUCH p.sessionId p.unacknowledged.head (content.payload t₁ t₂ t₃),
            content.payload t₁ t₂ t₃) :: p.sent } := by
  have hp := hok.running hrun
  have hwindow : 0 < p.hostWindow := by
    rw [(hp.after hready).2.2.1]
    decide
  obtain ⟨frame, q, hnext, hsequence, hpayload, -, hfirsts', hhead', htail', -⟩ :=
    V5SendQueue.next_sends hp.queue hfirsts hlt hwindow now
  have hquiet : p.maybeEnqueueHeartbeatLocked now = p :=
    if_pos (by simp [V5SendQueue.isEmpty, Nat.ne_of_lt hlt])
  have hlength := frame.payload.payload_length (wireTime sendStarted) p.lastHostSendNanos (wireTime p.lastControlReceiveNanos)
  have hbounded := frame.payload.snapshot.bounded
  refine ⟨q, frame.payload, wireTime sendStarted, p.lastHostSendNanos, wireTime p.lastControlReceiveNanos, ?_, hfirsts', hhead',
    htail', ?_⟩
  · rw [hpayload]
    exact hp.contents _ (Nat.le_refl _) hlt
  · rw [writerTurn, if_neg (by simp [hrun])]
    dsimp only
    rw [hquiet, if_neg (by simp [hready]), hnext]
    dsimp only
    rw [sendTouch]
    dsimp only
    rw [sealInto, if_neg hpackets, if_neg]
    · rw [hsequence]
      rfl
    · rw [hlength]
      simp only [RECORD_HEADER_SIZE, TAG_SIZE, MAX_DATAGRAM_SIZE, TOUCH_PAYLOAD_HEADER_SIZE, CONTACT_SIZE, MAX_CONTACTS] at hbounded ⊢
      omega

/-! ## The host -/

/-- The record of the frame with number `k`, sealed as packet `k` of session 7. -/
structure Numbered (k : Nat) (record : RecordHeader × Bytes) (frame : TouchFrame) : Prop where
  direction : record.1.direction = .PhoneToHost
  message_type : record.1.message_type = PHONE_TOUCH
  connection : record.1.connection_id = 0
  packet : record.1.packet_number.toNat = k
  length : record.1.payload_length.toNat = record.2.length
  fits : RECORD_HEADER_SIZE + record.2.length + TAG_SIZE ≤ MAX_DATAGRAM_SIZE
  decodes : decode_touch_payload record.1 record.2 = .ok frame
  session : frame.session_id = 7
  sequence : frame.sequence = k
  starts : k = 0 → frame.session_start = true

/-- Its datagram opens, where all those before it were opened. -/
theorem Numbered.opens {k : Nat} {record : RecordHeader × Bytes} {frame : TouchFrame} (h : Numbered k record frame)
    {c : RecordCipher} (hconnection : c.connection_id = 0) (hremembers : c.replay.Remembers {n | n < k}) :
    c.open_in_place plain .PhoneToHost (datagram record) = (.ok record, { c with replay := c.replay.commit k }) := by
  have hdecode : decode_record_header (datagram record) .PhoneToHost = .ok record.1 := by
    rw [← h.direction]
    exact decode_written (by rw [h.length, List.length_append, List.length_replicate]) (by rw [h.length]; exact h.fits)
  have hfresh : c.replay.would_accept k = true :=
    (ReplayWindow.would_accept_iff hremembers k).2 ⟨Nat.lt_irrefl k, fun m hm => Nat.lt_add_right _ hm⟩
  have hbody : (datagram record).drop RECORD_HEADER_SIZE = record.2 ++ List.replicate TAG_SIZE 0 := by
    rw [datagram, ← write_length record.1, List.drop_left]
  rw [RecordCipher.open_in_place, hdecode]
  dsimp only
  rw [if_neg (by simp [h.connection, hconnection]), h.packet, if_neg (by simp [hfresh]), hbody, h.length, List.take_left]
  rfl

/-- The window of session 7 after `k` frames. -/
def windowAt : Nat → OrderedFrames
  | 0 => .require_fresh_session
  | k + 1 => ⟨some 7, k + 1, fun _ => none, false⟩

/-- A host whose clock stands still, after `k` frames. -/
def hostAt (k : Nat) (replay : ReplayWindow) (last_ack : Option (Option Nat × Nat)) (established : Bool) (trace : List Event) :
    Serve TakesFrames where
  ordered := windowAt k
  sink := ⟨false⟩
  trace := trace
  control := ⟨6, 0, 0, none, last_ack⟩
  connection := ⟨⟨[], [], 0, 0, replay⟩, none, false⟩
  session_established := established
  session_start_deadline := V5_SESSION_START_TIMEOUT
  last_hello_send := 0
  hello_interval := V5_CONTROL_REPAIR_INTERVAL

/-- A turn at time 0. -/
def delivering (bytes : Bytes) : Iteration := arriving 0 bytes

theorem check_delivering (bytes : Bytes) (k : Nat) (replay : ReplayWindow) (last_ack : Option (Option Nat × Nat))
    (established : Bool) (trace : List Event) :
    check (delivering bytes) (hostAt k replay last_ack established trace) =
      (.finished (.ok ()), hostAt k replay last_ack established trace) := by
  cases k <;> cases established <;> rfl

/-- The next frame is buffered in an empty window. -/
theorem push_windowAt {k : Nat} {frame : TouchFrame} (hsession : frame.session_id = 7) (hsequence : frame.sequence = k)
    (hstart : k = 0 → frame.session_start = true) :
    (windowAt k).push frame =
      ⟨some 7, k, Function.update (fun _ => none) (OrderedFrames.slot k) (some frame), false⟩ := by
  subst hsequence
  have hbuffer : (⟨some 7, frame.sequence, fun _ => none, false⟩ : OrderedFrames).buffer frame =
      ⟨some 7, frame.sequence, Function.update (fun _ => none) (OrderedFrames.slot frame.sequence) (some frame), false⟩ := by
    rw [OrderedFrames.buffer, if_neg (Nat.lt_irrefl _), if_neg (by rw [Nat.sub_self]; decide)]
    rfl
  rcases hk : frame.sequence with _ | k
  · rw [hk] at hbuffer
    rw [windowAt, OrderedFrames.push, if_neg (by simp [hstart hk])]
    simp only [OrderedFrames.require_fresh_session, OrderedFrames.begin_session, hsession, hk]
    exact hbuffer
  · rw [hk] at hbuffer
    rw [windowAt, OrderedFrames.push, if_neg (by simp)]
    dsimp only
    rw [if_neg (by simp [hsession])]
    exact hbuffer

theorem commit_windowAt {k : Nat} {frame : TouchFrame} (hsequence : frame.sequence = k) (hk : k + 1 < 2 ^ 64)
    (trace : List Event) :
    commit_ready false [⟨0, [⟨0, false, 0⟩]⟩]
      { ordered := ⟨some 7, k, Function.update (fun _ => none) (OrderedFrames.slot k) (some frame), false⟩
        sink := (⟨false⟩ : TakesFrames)
        trace := trace } =
      (.finished (.ok true), ⟨windowAt (k + 1), ⟨false⟩, .accepted frame :: trace⟩) := by
  have hready : (⟨some 7, k, Function.update (fun _ => none) (OrderedFrames.slot k) (some frame), false⟩ :
      OrderedFrames).next_ready = some frame := by
    simp [OrderedFrames.next_ready, hsequence]
  have hcommit : (⟨some 7, k, Function.update (fun _ => none) (OrderedFrames.slot k) (some frame), false⟩ :
      OrderedFrames).commit_ready = (true, windowAt (k + 1)) := by
    simp only [OrderedFrames.commit_ready, Function.update_self, Function.update_idem, windowAt, Nat.mod_eq_of_lt hk]
    rw [Function.update_eq_self]
  rw [commit_ready, hready]
  dsimp only
  rw [hcommit]
  rfl

/-- The ACK of frame `k`. -/
def ackOf (k : Nat) : Event := .control HOST_ACK 7 k (encode_control_payload RECEIVE_WINDOW 6 0)

/-- The next frame is committed and acknowledged. -/
theorem turn_delivering {k : Nat} {record : RecordHeader × Bytes} {frame : TouchFrame} (h : Numbered k record frame)
    (hk : k + 1 < 2 ^ 64) {replay : ReplayWindow} (hremembers : replay.Remembers {n | n < k})
    (last_ack : Option (Option Nat × Nat)) (established : Bool) (trace : List Event) :
    V5Host.turn (delivering (datagram record)) (receive_record_into plain (delivering (datagram record)))
        (hostAt k replay last_ack established trace) =
      (.finished (.ok ()), hostAt (k + 1) (replay.commit k) (some (some k, 0)) true
        (ackOf k :: ackOf k :: .accepted frame :: trace)) := by
  have hany : (windowAt k).session_id.any (· != frame.session_id) = false := by
    cases k with
    | zero => rfl
    | succ k => simp [windowAt, h.session]
  have hreceive : receive_record_into plain (delivering (datagram record)) (hostAt k replay last_ack established trace) =
      (.ok (some record), hostAt k (replay.commit k) last_ack established trace) := by
    have hopens := h.opens (c := (hostAt k replay last_ack established trace).connection.cipher) rfl hremembers
    have hcached : ((hostAt k replay last_ack established trace).connection.cached_handshake.map Prod.fst =
        some (datagram record)) = False := by simp [hostAt]
    rw [receive_record_into]
    simp only [delivering, arriving, hcached, if_false, hopens]
    rfl
  have hprocess : process_gameplay_frame (delivering (datagram record)) frame
      (hostAt k (replay.commit k) last_ack established trace) =
      (.finished (.ok ()), hostAt (k + 1) (replay.commit k) (some (some k, 0)) established
        (ackOf k :: ackOf k :: .accepted frame :: trace)) := by
    rw [process_gameplay_frame, if_neg (by simp [hostAt, hany])]
    simp only [hostAt, push_windowAt h.session h.sequence h.starts, delivering, arriving, commit_windowAt h.sequence hk]
    rw [h.session]
    rfl
  rw [V5Host.turn, check_delivering]
  dsimp only
  rw [hreceive]
  dsimp only
  rw [handle_record, if_neg (by rw [h.message_type]; decide), if_neg (by rw [h.message_type]; decide),
    if_neg (by simp [h.message_type]), h.decodes]
  dsimp only
  rw [hprocess]
  cases established <;> rfl

/-! ## Both -/

/-- Both peers at time 0, with `k` of `t` frames sent, committed and acknowledged; `dropped` says that a sample was. -/
structure Level (dropped : Bool) (k t : Nat) (log : List PhoneEvent) (j : Joint TakesFrames) : Prop where
  joined : Joined 7 j
  serving : j.result = none
  running : j.phone.running = true
  ready : j.phone.hostReady = true
  connection : j.phone.connectionId = 0
  head : j.phone.unacknowledged.head = k
  firsts : j.phone.unacknowledged.firsts = k
  tail : j.phone.unacknowledged.tail = t
  packets : j.phone.nextPacketNumber = k
  trace : j.phone.trace = log
  overflowed : j.phone.queueOverflowed = dropped
  host : ∃ replay last_ack established trace, replay.Remembers {n | n < k} ∧ j.host = hostAt k replay last_ack established trace
  applied : (Trackpad.applied j.host.trace).length = k

/-- Any number of steps. -/
abbrev Steps (admits : V5Transport → Prop) : Joint TakesFrames → Joint TakesFrames → Prop := ReflTransGen (Step plain admits)

/-- A record whose datagram opens is the one it was made of. -/
theorem delivering_unforged {j : Joint TakesFrames} {record : RecordHeader × Bytes} {cipher : RecordCipher}
    (hopens : j.host.connection.cipher.open_in_place plain .PhoneToHost (datagram record) = (.ok record, cipher))
    (hsent : record ∈ j.phone.sent) : Unforged plain (delivering (datagram record)) j := by
  intro bytes record' cipher' hbytes hopen
  have hbytes : Received.datagram (datagram record) = .datagram bytes := hbytes
  cases hbytes
  rw [hopens] at hopen
  cases hopen
  exact hsent

theorem acknowledge_fresh {p : V5Transport} {k : Nat} (hnone : k ≠ NO_ACK) (hany : p.highestAcknowledged.any (k ≤ ·) = false)
    (hlt : k < p.nextSequence) :
    ∃ nanos, p.acknowledgeLocked k = (true, { p with
      highestAcknowledged := some k
      unacknowledged := retire k p.unacknowledged.size p.unacknowledged
      activePathStartedNanos := nanos }) := by
  rw [acknowledgeLocked, if_neg (by simp only [hnone, hany]; simp; omega)]
  dsimp only
  split
  · exact ⟨0, rfl⟩
  · exact ⟨p.activePathStartedNanos, rfl⟩

/-- The ACK of the oldest frame retires it, once it was sent. -/
theorem acknowledged_oldest {sid : UInt64} {p : V5Transport} (hok : Ok sid p) (hrun : p.running = true) (hready : p.hostReady = true)
    (hfirsts : p.unacknowledged.firsts = p.unacknowledged.head + 1) {header : RecordHeader} (htype : header.message_type = HOST_ACK)
    (hsession : header.session_id = sid) (hlogical : header.logical_id.toNat = p.unacknowledged.head)
    (hsmall : p.unacknowledged.head < NO_ACK) (receivedNanos now : Int) (session : SessionId) :
    ∃ p', p.dispatchControl header RECEIVE_WINDOW receivedNanos session now = .ok p' ∧
      p'.running = true ∧ p'.hostReady = true ∧ p'.sessionId = p.sessionId ∧ p'.connectionId = p.connectionId ∧
      p'.unacknowledged.head = p.unacknowledged.head + 1 ∧ p'.unacknowledged.firsts = p.unacknowledged.head + 1 ∧
      p'.unacknowledged.tail = p.unacknowledged.tail ∧ p'.nextPacketNumber = p.nextPacketNumber ∧ p'.trace = p.trace ∧
      p'.queueOverflowed = p.queueOverflowed := by
  have hp := hok.running hrun
  obtain ⟨-, hid, -, -⟩ := hp.after hready
  have hle := (V5SendQueue.firsts_le hp.queue).2
  have hany : p.highestAcknowledged.any (p.unacknowledged.head ≤ ·) = false := by
    have hhead := hp.head
    rcases hack : p.highestAcknowledged with _ | highest
    · rfl
    · rw [hack, Option.elim_some] at hhead
      simp [hhead]
  obtain ⟨nanos, hacked⟩ := acknowledge_fresh (Nat.ne_of_lt hsmall) hany (by rw [hp.next]; omega)
  obtain ⟨-, hhead', htail', hfirsts', -, -⟩ := retire_spec p.unacknowledged.size hp.queue
    (by rw [hfirsts]; exact Nat.lt_succ_self _) (Nat.le_succ _) (by simp only [V5SendQueue.size]; omega)
  rw [dispatchControl, if_neg (by rw [htype]; decide), if_pos htype, if_neg (by simp [hready, hid, hsession]), hlogical, hacked]
  exact ⟨_, rfl, hrun, hready, rfl, rfl, hhead', hfirsts'.trans hfirsts, htail', rfl, rfl, rfl⟩

/-- The writer sends the oldest frame. -/
theorem Level.send {dropped : Bool} {k t : Nat} {log : List PhoneEvent} {j : Joint TakesFrames} (h : Level dropped k t log j) (hlt : k < t) (hk : k < 2 ^ 32) :
    ∃ p record frame, j.phone.writerTurn 0 0 = p ∧ Joined 7 { j with phone := p } ∧ record ∈ p.sent ∧ Numbered k record frame ∧
      p.running = true ∧ p.hostReady = true ∧ p.connectionId = 0 ∧ p.unacknowledged.head = k ∧ p.unacknowledged.firsts = k + 1 ∧
      p.unacknowledged.tail = t ∧ p.nextPacketNumber = k + 1 ∧ p.trace = log ∧ p.queueOverflowed = dropped := by
  have hp := h.joined.ok.running h.running
  obtain ⟨-, hsid, -, -⟩ := hp.after h.ready
  have hnumber : (UInt64.ofNat k).toNat = k := UInt64.toNat_ofNat_of_lt' (by simp only [UInt64.size]; omega)
  obtain ⟨q, content, t₁, t₂, t₃, hcontent, hfirsts, hhead, htail, hturn⟩ :=
    writer_sends h.joined.ok h.running h.ready (h.firsts.trans h.head.symm) (by rw [h.head, h.tail]; exact hlt)
      (by rw [h.packets]; omega) 0 0
  obtain ⟨hok, hnew⟩ := writerTurn_spec h.joined.ok 0 0
  have hjoined := h.joined.sends hok (moves_grows (writerTurn_moves 0 0 _)) hnew
  rw [hturn] at hjoined
  rw [h.head] at hcontent
  have hvalid := hp.valid k content hcontent
  have hlength := content.payload_length t₁ t₂ t₃
  have hbounded := content.snapshot.bounded
  refine ⟨_, _, content.frame (j.phone.header PHONE_TOUCH j.phone.sessionId k (content.payload t₁ t₂ t₃)) t₁ t₂ t₃, hturn,
    hjoined, List.mem_cons_self, ?_, h.running, h.ready, h.connection, hhead.trans h.head, by rw [hfirsts, h.head],
    htail.trans h.tail, by rw [h.packets], h.trace, h.overflowed⟩
  rw [h.head]
  refine ⟨rfl, rfl, h.connection, ?_, ?_, ?_, ?_, ?_, hnumber, fun hzero => ?_⟩
  · exact (congrArg (fun n => (UInt64.ofNat n).toNat) h.packets).trans hnumber
  · apply UInt16.toNat_ofNat_of_lt'
    rw [hlength]
    simp only [TOUCH_PAYLOAD_HEADER_SIZE, CONTACT_SIZE, MAX_CONTACTS, UInt16.size] at hbounded ⊢
    omega
  · rw [hlength]
    simp only [RECORD_HEADER_SIZE, TAG_SIZE, MAX_DATAGRAM_SIZE, TOUCH_PAYLOAD_HEADER_SIZE, CONTACT_SIZE, MAX_CONTACTS] at hbounded ⊢
    omega
  · exact decode_payload t₁ t₂ t₃ (by simp only [header, hnumber]; exact hvalid) rfl rfl (by simp only [header, hsid]; decide) rfl
  · exact congrArg UInt64.toNat hsid
  · rw [TouchFrame.session_start]
    simp only [Content.frame, (hvalid.starts hzero).2.1]
    rfl

variable {admits : V5Transport → Prop}

/-- One frame goes over, and its ACK comes back. -/
theorem Level.exchange {dropped : Bool} {k t : Nat} {log : List PhoneEvent} {j : Joint TakesFrames} (h : Level dropped k t log j) (hlt : k < t)
    (hk : k < 2 ^ 32) : ∃ j', Steps admits j j' ∧ Level dropped (k + 1) t log j' := by
  obtain ⟨p, record, frame, hturn, hsent, hmem, hnumbered, hrun, hready, hconnection, hhead, hfirsts, htail, hpackets, htrace,
    hoverflowed⟩ := h.send hlt hk
  obtain ⟨replay, last_ack, established, trace, hremembers, hhost⟩ := h.host
  have happlied := h.applied
  have hserving : ({ j with phone := p } : Joint TakesFrames).result = none := h.serving
  have hopens : ({ j with phone := p } : Joint TakesFrames).host.connection.cipher.open_in_place plain .PhoneToHost
      (datagram record) = _ := hnumbered.opens (by rw [hhost]; rfl) (by rw [hhost]; exact hremembers)
  have hunforged := delivering_unforged hopens hmem
  have hcommitted := turn_delivering hnumbered (by omega) hremembers last_ack established trace
  have hdelivered := hsent.turn plain hserving hunforged
  rw [hhost] at happlied
  -- The host's state after the turn is the next one, and its trace has the ACK.
  obtain ⟨host, hnext⟩ : ∃ host, host = hostAt (k + 1) (replay.commit k) (some (some k, 0)) true
      (ackOf k :: ackOf k :: .accepted frame :: trace) := ⟨_, rfl⟩
  have hafter : ({ j with phone := p } : Joint TakesFrames).turn plain (delivering (datagram record)) = ⟨p, host, none⟩ := by
    simp only [Joint.turn, hhost, hcommitted, hnext]
    rfl
  rw [hafter] at hdelivered
  have hack : ackOf k ∈ (⟨p, host, none⟩ : Joint TakesFrames).host.trace := by
    rw [hnext]
    exact List.mem_cons_self
  have hnumber : (UInt64.ofNat k).toNat = k := UInt64.toNat_ofNat_of_lt' (by simp only [UInt64.size]; omega)
  -- The phone takes the ACK.
  have htype : (controlHeader p.connectionId 0 HOST_ACK 7 k (encode_control_payload RECEIVE_WINDOW 6 0)).message_type = HOST_ACK := rfl
  obtain ⟨p', hdispatch, hrun', hready', hsid', hconnection', hhead', hfirsts', htail', hpackets', htrace', hoverflowed'⟩ :=
    acknowledged_oldest hdelivered.ok hrun hready (by rw [hhead]; exact hfirsts) htype rfl (hnumber.trans hhead.symm)
      (by rw [hhead, NO_ACK]; omega) 0 0 ⟨7, by decide⟩
  obtain ⟨hostSendNanos, hhandled⟩ := handleHostControl_eq 0 0 ⟨7, by decide⟩ 0 hrun (by rw [htype]; decide) rfl rfl
    hdispatch
  obtain ⟨sid, hacked⟩ := hdelivered.control hack p.connectionId 0 0 ⟨7, by decide⟩ 0
  have hstep : Step plain admits ⟨p, host, none⟩ _ := .handleHostControl 0 0 ⟨7, by decide⟩ 0 _ hack
  simp only [received, hhandled] at hacked hstep
  have hid := ((hacked.ok.running hrun').after hready').2.1
  have hid' := ((hdelivered.ok.running hrun).after hready).2.1
  have hseven : sid = 7 := hid.symm.trans (hsid'.trans hid')
  rw [hseven] at hacked
  have hsteps : Steps admits j ⟨p, host, none⟩ := by
    have hfirst : Step plain admits j { j with phone := p } := hturn ▸ .writerTurn 0 0 j
    have hsecond : Step plain admits { j with phone := p } _ := .turn _ _ hserving hunforged
    rw [hafter] at hsecond
    exact (ReflTransGen.single hfirst).tail hsecond
  refine ⟨_, hsteps.tail hstep, hacked, rfl, hrun', hready', hconnection'.trans hconnection, ?_, ?_, htail'.trans htail,
    hpackets'.trans hpackets, htrace'.trans htrace, hoverflowed'.trans hoverflowed, ?_, ?_⟩
  · exact hhead'.trans (congrArg (· + 1) hhead)
  · exact hfirsts'.trans (congrArg (· + 1) hhead)
  · have hset : insert k {n | n < k} = {n | n < k + 1} := by
      ext n
      change n = k ∨ n < k ↔ n < k + 1
      omega
    exact ⟨_, _, _, _, hset ▸ ReplayWindow.commit_remembers hremembers k, hnext⟩
  · rw [hnext]
    exact congrArg (· + 1) happlied

theorem Level.exchanges {dropped : Bool} {k t : Nat} {log : List PhoneEvent} {j : Joint TakesFrames} (h : Level dropped k t log j) (n : Nat) (hn : k + n ≤ t)
    (ht : t ≤ 2 ^ 32) : ∃ j', Steps admits j j' ∧ Level dropped (k + n) t log j' := by
  induction n with
  | zero => exact ⟨j, .refl, h⟩
  | succ n ih =>
    obtain ⟨j₁, hsteps, h₁⟩ := ih (by omega)
    obtain ⟨j₂, hstep, h₂⟩ := h₁.exchange (by omega) (by omega)
    exact ⟨j₂, hsteps.trans hstep, h₂⟩

theorem Level.offered {dropped : Bool} {k t : Nat} {log : List PhoneEvent} {j : Joint TakesFrames} (h : Level dropped k t log j) (sample : Sample) :
    Joined 7 { j with phone := j.phone.offerFrame sample 0 0 } ∧ ∃ nanos, j.phone.offerFrame sample 0 0 =
      { (j.phone.taken sample).enqueueFrameLocked (.sample sample) sample.content 0 with activePathStartedNanos := nanos } := by
  refine ⟨h.joined.sends (offerFrame_ok h.joined.ok sample 0 0) (offerFrame_grows sample 0 0 _) fun record hrecord => ?_, ?_⟩
  · rw [offerFrame_sent] at hrecord
    exact .inl hrecord
  · obtain ⟨hstarted, -⟩ := (h.joined.ok.running h.running).after h.ready
    rcases offerFrame_cases sample 0 0 j.phone with ⟨hnot, -⟩ | ⟨-, -, he⟩
    · rw [h.running, hstarted] at hnot
      rcases hnot with hnot | hnot <;> cases hnot
    · exact he

/-- A sample that has room is queued, -/
theorem Level.offer_room {dropped : Bool} {k t : Nat} {log : List PhoneEvent} {j : Joint TakesFrames} (h : Level dropped k t log j)
    (hroom : t < k + MAX_HOST_WINDOW) (admits : V5Transport → Prop) (hadmits : admits j.phone)
    (sample : Sample) :
    ∃ j', Steps admits j j' ∧
      Level dropped k (t + 1) (.queued (.sample sample) sample.content :: .offered sample :: log) j' := by
  have hp := h.joined.ok.running h.running
  obtain ⟨hjoined, nanos, he⟩ := h.offered sample
  have hsize : j.phone.unacknowledged.size < MAX_HOST_WINDOW := by
    rw [V5SendQueue.size, h.head, h.tail]
    simp only [MAX_HOST_WINDOW] at hroom ⊢
    omega
  have hadd := V5SendQueue.add_some (q := j.phone.unacknowledged) (hp.capacity ▸ hsize) j.phone.unacknowledged.tail sample.content 0
  obtain ⟨-, -, hfirsts, -⟩ := V5SendQueue.add_spec hp.queue hadd
  rw [enqueue_room (p := j.phone.taken sample) hp.capacity hsize] at he
  have hstep : Step plain admits j _ := .offerFrame sample 0 0 j hadmits
  rw [he] at hjoined hstep
  refine ⟨_, .single hstep, hjoined, h.serving, h.running, h.ready, h.connection, h.head, ?_, congrArg (· + 1) h.tail, h.packets,
    ?_, h.overflowed, h.host, h.applied⟩
  · have hnext : (j.phone.taken sample).nextSequence = j.phone.unacknowledged.tail := hp.next
    rw [hnext]
    exact hfirsts.trans h.firsts
  · exact congrArg (fun log => PhoneEvent.queued (.sample sample) sample.content :: .offered sample :: log) h.trace

/-- and one that has none is dropped. -/
theorem Level.offer_full {dropped : Bool} {k t : Nat} {log : List PhoneEvent} {j : Joint TakesFrames} (h : Level dropped k t log j)
    (hfull : k + MAX_HOST_WINDOW ≤ t) (admits : V5Transport → Prop) (hadmits : admits j.phone)
    (sample : Sample) :
    ∃ j', Steps admits j j' ∧ Level true k t (.offered sample :: log) j' := by
  obtain ⟨hjoined, nanos, he⟩ := h.offered sample
  have hsize : MAX_HOST_WINDOW ≤ (j.phone.taken sample).unacknowledged.size := by
    change MAX_HOST_WINDOW ≤ j.phone.unacknowledged.tail - j.phone.unacknowledged.head
    rw [h.head, h.tail]
    omega
  rw [enqueueFrameLocked, if_pos hsize] at he
  have hstep : Step plain admits j _ := .offerFrame sample 0 0 j hadmits
  rw [he] at hjoined hstep
  exact ⟨_, .single hstep, hjoined, h.serving, h.running, h.ready, h.connection, h.head, h.firsts, h.tail, h.packets,
    congrArg (fun log => PhoneEvent.offered sample :: log) h.trace, rfl, h.host, h.applied⟩

/-- The phone takes the HELLO and queues its CANCEL. -/
theorem level_start : ∃ j, Steps admits greeted j ∧ Level false 0 1 [.queued .start (startContent 0)] j := by
  have hsent : .control HOST_HELLO 0 NO_ACK (encode_control_payload RECEIVE_WINDOW 6 0) ∈ greeted.host.trace := List.mem_cons_self
  obtain ⟨sid, hjoined⟩ := (connected_joined atZero (⟨false⟩ : TakesFrames) .new [] [] 0 none .empty).control hsent 0 0 0 ⟨7, by decide⟩ 0
  have hseven : sid = 7 := ((hjoined.ok.running rfl).after rfl).2.1.symm
  rw [hseven] at hjoined
  refine ⟨_, .single (.handleHostControl 0 0 ⟨7, by decide⟩ 0 greeted hsent), hjoined, rfl, rfl, rfl, rfl, rfl, rfl, rfl, rfl, rfl,
    rfl, ?_, rfl⟩
  have hnone : ({n | n < 0} : Set Nat) = ∅ := Set.eq_empty_of_forall_notMem fun n hn => absurd hn (Nat.not_lt_zero n)
  exact ⟨.default, none, false, _, hnone ▸ ReplayWindow.remembers_default, rfl⟩

/-- A finger at (100, 100). -/
def pressed : Sample where
  action := ACTION_DOWN
  actionPointerId := 3
  locked := true
  eventNanos := 5
  callbackNanos := 6
  historical := false
  snapshot := ⟨[⟨3, true, true, false, 100, 100, 1024, 0⟩], by decide, by decide⟩
  known := known_down

/-- The phone and the host exchange the CANCEL and a sample, with their ACKs. -/
theorem never_disturbed_exchanged : ∃ j : Joint TakesFrames, (Trackpad.applied j.host.trace).length = 2 ∧
    j.phone.unacknowledged.head = 2 ∧ Undisturbed plain j := by
  obtain ⟨j₁, hsteps₁, h₁⟩ := level_start
  obtain ⟨j₂, hsteps₂, h₂⟩ := h₁.offer_room (by decide) (fun _ => True) trivial pressed
  obtain ⟨j₃, hsteps₃, h₃⟩ := h₂.exchanges 2 (by decide) (by decide)
  have hrun : Steps (fun _ => True) greeted j₃ := (hsteps₁.trans hsteps₂).trans hsteps₃
  exact ⟨j₃, h₃.applied, h₃.head, never_disturbed plain hrun⟩

end Trackpad.Gameplay
