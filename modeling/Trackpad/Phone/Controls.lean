import Trackpad.Phone.Spec
/-!
# Host controls on the phone

A HELLO, and an ACK or a PONG of something the phone sent, keep what holds of the phone and never end its session.
-/

namespace Trackpad.V5Transport

/-! ## The host's payload -/

/-- What the phone reads of a control payload. -/
theorem read_control (nanos : Nat) :
    (read_u32 (V5Host.encode_control_payload V5Host.RECEIVE_WINDOW 6 nanos) 0).toNat = V5Host.RECEIVE_WINDOW ∧
    (V5Host.encode_control_payload V5Host.RECEIVE_WINDOW 6 nanos).getD 4 0 = 6 ∧
    (V5Host.encode_control_payload V5Host.RECEIVE_WINDOW 6 nanos).getD 5 0 = 0 ∧
    read_u16 (V5Host.encode_control_payload V5Host.RECEIVE_WINDOW 6 nanos) 6 = 0 := ⟨rfl, rfl, rfl, rfl⟩

/-- The checks on the payload pass; what is left is the dispatch. -/
theorem handleHostControl_eq {p : V5Transport} {header : RecordHeader} (nanos : Nat) (receivedNanos : Int) (session : SessionId)
    (now : Int) (hrun : p.running = true) (htype : header.message_type ≠ HOST_AUTH_ABORT) (hflags : header.flags = 0)
    (hlength : header.payload_length.toNat = CONTROL_PAYLOAD_SIZE) {p' : V5Transport}
    (hdispatch : p.dispatchControl header V5Host.RECEIVE_WINDOW receivedNanos session now = .ok p') :
    ∃ hostSendNanos, p.handleHostControl header (V5Host.encode_control_payload V5Host.RECEIVE_WINDOW 6 nanos) receivedNanos session now =
      .ok { p' with lastHostSendNanos := hostSendNanos, lastControlReceiveNanos := receivedNanos } := by
  obtain ⟨hwindow, hlanes, hzero, hreserved⟩ := read_control nanos
  refine ⟨read_u64 (V5Host.encode_control_payload V5Host.RECEIVE_WINDOW 6 nanos) 8, ?_⟩
  rw [handleHostControl, if_neg htype, if_neg (by simp [hflags, hlength])]
  dsimp only
  rw [hwindow, if_neg (by rw [hlanes, hzero, hreserved]; decide), if_neg (by simp [hrun]), hdispatch]

/-! ## HELLO -/

/-- Before the first HELLO nothing was sent. -/
theorem Ok.unready {sid : UInt64} {p : V5Transport} (h : Ok sid p) (hrun : p.running = true) (hready : p.hostReady = false) :
    p.sent = [] ∧ history p.trace = [] ∧ p.highestAcknowledged = none := by
  have hp := h.running hrun
  obtain ⟨-, htail, hack, -, hsent⟩ := hp.before hready
  have hqueued := hp.queued
  rw [htail] at hqueued
  exact ⟨hsent, List.length_eq_zero_iff.1 hqueued, hack⟩

/-- The session as `startSession` opens it, before anything is queued. -/
def cleared (session : SessionId) (receivedNanos : Int) (p : V5Transport) : V5Transport :=
  { p with
    hostWindow := V5Host.RECEIVE_WINDOW
    hostLaneCount := 6
    hostReady := true
    lastIdleResponseNanos := receivedNanos
    sessionId := session.id
    nextSequence := 0
    highestAcknowledged := none
    unacknowledged := p.unacknowledged.clear }

/-- The session with its CANCEL queued. -/
def cancelled (session : SessionId) (receivedNanos now : Int) (p : V5Transport) : V5Transport :=
  { p.cleared session receivedNanos with
    nextSequence := 1
    unacknowledged := p.unacknowledged.clear.append ⟨0, startContent now, now, 0, 0⟩
    sessionStarted := true
    trace := .queued .start (startContent now) :: p.trace }

theorem cleared_holds {sid : UInt64} {p : V5Transport} (h : Ok sid p) (hrun : p.running = true) (hready : p.hostReady = false)
    (session : SessionId) (receivedNanos : Int) : Holds (p.cleared session receivedNanos) := by
  have hp := h.running hrun
  obtain ⟨-, hhistory, -⟩ := h.unready hrun hready
  exact ⟨hp.capacity, V5SendQueue.inv_clear _ _, rfl, congrArg List.length hhistory,
    fun i _ hi => absurd hi (Nat.not_lt_zero i), hp.valid, Nat.zero_le _, hp.numbers⟩

theorem enqueue_cancel {sid : UInt64} {p : V5Transport} (h : Ok sid p) (hrun : p.running = true) (hready : p.hostReady = false)
    (session : SessionId) (receivedNanos now : Int) :
    { (p.cleared session receivedNanos).enqueueFrameLocked .start (startContent now) now with sessionStarted := true } =
      p.cancelled session receivedNanos now := by
  rcases enqueue_cases (cleared_holds h hrun hready session receivedNanos) .start (startContent now) now with
    ⟨hfull, -⟩ | ⟨-, he⟩
  · have hfull : MAX_HOST_WINDOW ≤ 0 := hfull
    exact absurd hfull (by decide)
  · rw [he]
    rfl

/-- The first HELLO queues the CANCEL and, if a contact is held, the retained snapshot. -/
theorem startSession_eq {sid : UInt64} {p : V5Transport} (h : Ok sid p) (hrun : p.running = true) (hready : p.hostReady = false)
    (session : SessionId) (receivedNanos now : Int) :
    p.startSession V5Host.RECEIVE_WINDOW session receivedNanos now =
      if p.activeContactCount > 0 then
        ({ p.cancelled session receivedNanos now with
          activePathStartedNanos := now, lastHeartbeatNanos := now }).enqueueRetainedSnapshotLocked .reconstruction now
      else p.cancelled session receivedNanos now := by
  have hunfold : p.startSession V5Host.RECEIVE_WINDOW session receivedNanos now =
      let p : V5Transport := { (p.cleared session receivedNanos).enqueueFrameLocked .start (startContent now) now with
        sessionStarted := true }
      if p.activeContactCount > 0 then
        ({ p with activePathStartedNanos := now, lastHeartbeatNanos := now }).enqueueRetainedSnapshotLocked .reconstruction now
      else p := rfl
  rw [hunfold, enqueue_cancel h hrun hready session receivedNanos now]
  rfl

theorem cancelled_ok {sid : UInt64} {p : V5Transport} (h : Ok sid p) (hrun : p.running = true) (hready : p.hostReady = false)
    (session : SessionId) (receivedNanos now : Int) : Ok session.id (p.cancelled session receivedNanos now) := by
  obtain ⟨hsent, -, -⟩ := h.unready hrun hready
  have hnone : ∀ record, record ∉ p.sent := by
    rw [hsent]
    exact fun record => List.not_mem_nil
  have hholds := enqueue_holds (cleared_holds h hrun hready session receivedNanos) .start now (startContent_valid now)
  have hqueued : Holds (p.cancelled session receivedNanos now) := by
    rw [← enqueue_cancel h hrun hready]
    exact ⟨hholds.capacity, hholds.queue, hholds.next, hholds.queued, hholds.contents, hholds.valid, hholds.packets,
      hholds.numbers⟩
  refine ⟨fun _ => ⟨hqueued, rfl, fun hnot => (by cases hnot), fun _ => ⟨rfl, rfl, rfl, Nat.one_pos⟩, ?_, ?_⟩, ?_, hqueued.valid⟩
  · exact fun record hrecord => absurd hrecord (hnone record)
  · exact fun record hrecord => absurd hrecord (hnone record)
  · exact fun record hrecord => absurd hrecord (hnone record)

theorem startSession_ok {sid : UInt64} {p : V5Transport} (h : Ok sid p) (hrun : p.running = true) (hready : p.hostReady = false)
    (session : SessionId) (receivedNanos now : Int) :
    Ok session.id (p.startSession V5Host.RECEIVE_WINDOW session receivedNanos now) ∧
    (p.startSession V5Host.RECEIVE_WINDOW session receivedNanos now).sent = p.sent ∧
    (p.startSession V5Host.RECEIVE_WINDOW session receivedNanos now).running = p.running ∧
    (p.startSession V5Host.RECEIVE_WINDOW session receivedNanos now).highestAcknowledged = none := by
  have hok := cancelled_ok h hrun hready session receivedNanos now
  rw [startSession_eq h hrun hready]
  split
  · have hmarked : Ok session.id
        { p.cancelled session receivedNanos now with activePathStartedNanos := now, lastHeartbeatNanos := now } :=
      hok.congr rfl rfl
    obtain ⟨hsent, hrunning, hack, -, -⟩ := enqueue_keeps .reconstruction (retainedContent p.retained now) now
      { p.cancelled session receivedNanos now with activePathStartedNanos := now, lastHeartbeatNanos := now }
    exact ⟨enqueue_ok hmarked hrun rfl .reconstruction now (retainedContent_valid p.retained now Nat.one_ne_zero), hsent,
      hrunning, hack⟩
  · exact ⟨hok, rfl, rfl, rfl⟩

/-! ## Any control -/

/-- The controls an honest host sends: a HELLO, or an ACK or a PONG of something that was sent. -/
inductive Expected (sid : UInt64) (p : V5Transport) (header : RecordHeader) : Prop
  | hello (message_type : header.message_type = HOST_HELLO) (session_id : header.session_id = 0)
      (logical_id : header.logical_id.toNat = NO_ACK)
  | ack (message_type : header.message_type = HOST_ACK) (session_id : header.session_id = sid)
      (sent : ∃ record ∈ p.sent, record.1.message_type = PHONE_TOUCH ∧ record.1.logical_id = header.logical_id)
  | pong (message_type : header.message_type = HOST_PONG) (session_id : header.session_id = sid)
      (sent : ∃ record ∈ p.sent, record.1.message_type = PHONE_PING ∧ record.1.logical_id = header.logical_id)

/-- What handling a control leaves: the same records, and an acknowledgement only from an ACK. The session may be new
where nothing was sent yet. -/
structure Handled (sid : UInt64) (p : V5Transport) (header : RecordHeader) (sid' : UInt64) (p' : V5Transport) : Prop where
  ok : Ok sid' p'
  same : p.sent ≠ [] → sid' = sid
  nonzero : sid ≠ 0 → sid' ≠ 0
  sent : p'.sent = p.sent
  running : p'.running = p.running
  acknowledged : ∀ k, p'.highestAcknowledged = some k →
    p.highestAcknowledged = some k ∨ (header.message_type = HOST_ACK ∧ k = header.logical_id.toNat)

theorem Handled.congr {sid sid' : UInt64} {p p' p'' : V5Transport} {header : RecordHeader} (h : Handled sid p header sid' p')
    (hr : p''.running = p'.running) (he : p''.essence = p'.essence) : Handled sid p header sid' p'' := by
  have he' := he
  simp only [essence, Prod.mk.injEq] at he'
  obtain ⟨-, -, -, -, -, hack, -, -, -, -, hsent⟩ := he'
  exact ⟨h.ok.congr hr he, h.same, h.nonzero, hsent.trans h.sent, hr.trans h.running, fun k hk => h.acknowledged k (hack ▸ hk)⟩

theorem Handled.same_session {sid : UInt64} {p : V5Transport} (h : Ok sid p) (header : RecordHeader) :
    Handled sid p header sid p := ⟨h, fun _ => rfl, id, rfl, rfl, fun _ hk => .inl hk⟩

/-- Once something was sent the session is running under its id. -/
theorem Ok.started {sid : UInt64} {p : V5Transport} (h : Ok sid p) (hrun : p.running = true) {record : RecordHeader × Bytes}
    (hsent : record ∈ p.sent) : p.hostReady = true ∧ p.sessionStarted = true ∧ p.sessionId = sid := by
  have hp := h.running hrun
  rcases hr : p.hostReady with _ | _
  · rw [(hp.before hr).2.2.2.2] at hsent
    exact absurd hsent List.not_mem_nil
  · exact ⟨rfl, (hp.after hr).1, (hp.after hr).2.1⟩

theorem acknowledge_running (acknowledged : Nat) (p : V5Transport) :
    (p.acknowledgeLocked acknowledged).2.running = p.running := by
  unfold acknowledgeLocked
  split
  · rfl
  dsimp only
  split <;> rfl

theorem dispatchControl_ok {sid : UInt64} {p : V5Transport} (h : Ok sid p) (hrun : p.running = true) {header : RecordHeader}
    (hexpected : Expected sid p header) (receivedNanos : Int) (session : SessionId) (now : Int) :
    ∃ sid' p', p.dispatchControl header V5Host.RECEIVE_WINDOW receivedNanos session now = .ok p' ∧
      Handled sid p header sid' p' := by
  have hp := h.running hrun
  unfold dispatchControl
  cases hexpected with
  | hello htype hsession hlogical =>
    rw [if_pos htype, if_neg (by simp [hsession, hlogical])]
    rcases hready : p.hostReady with _ | _
    · obtain ⟨hok, hsent, hrunning, hack⟩ := startSession_ok h hrun hready session receivedNanos now
      refine ⟨session.id, _, rfl, hok, fun hne => ?_, fun _ => session.nonzero, hsent, hrunning, fun k hk => ?_⟩
      · exact absurd (h.unready hrun hready).1 hne
      · have hnone := hack.symm.trans hk
        cases hnone
    · exact ⟨sid, p, rfl, .same_session h header⟩
  | ack htype hsession hrecord =>
    obtain ⟨record, hmem, hr, hlogical⟩ := hrecord
    obtain ⟨hready, -, hid⟩ := h.started hrun hmem
    rw [if_neg (by rw [htype]; decide), if_pos htype, if_neg (by simp [hready, hsession, hid])]
    have hfirst := hp.touches record hmem hr
    rw [hlogical] at hfirst
    obtain ⟨hok, hsent, hack⟩ := acknowledge_ok h hrun hready hfirst
    have hhandled : Handled sid p header sid (p.acknowledgeLocked header.logical_id.toNat).2 := by
      refine ⟨hok, fun _ => rfl, id, hsent, acknowledge_running _ _, fun k hk => ?_⟩
      rcases hack k hk with rfl | hold
      · exact .inr ⟨htype, rfl⟩
      · exact .inl hold
    split
    · rename_i p' heq
      rw [heq] at hhandled
      exact ⟨sid, _, rfl, hhandled.congr rfl rfl⟩
    · rename_i p' heq
      rw [heq] at hhandled
      exact ⟨sid, p', rfl, hhandled⟩
  | pong htype hsession hrecord =>
    obtain ⟨record, hmem, hr, hlogical⟩ := hrecord
    obtain ⟨hready, hstarted, hid⟩ := h.started hrun hmem
    have hissued := hp.pings record hmem hr
    rw [hlogical] at hissued
    rw [if_neg (by rw [htype]; decide), if_neg (by rw [htype]; decide), if_pos htype,
      if_neg (by simp only [hstarted, hsession, hid, Bool.true_eq_false, ne_eq, not_true_eq_false, false_or, not_le]; omega)]
    split
    · exact ⟨sid, _, rfl, (Handled.same_session h header).congr rfl rfl⟩
    · exact ⟨sid, p, rfl, .same_session h header⟩

/-- Handling it never throws. -/
theorem handleHostControl_ok {sid : UInt64} {p : V5Transport} (h : Ok sid p) {header : RecordHeader}
    (hexpected : Expected sid p header) (hflags : header.flags = 0) (hlength : header.payload_length.toNat = CONTROL_PAYLOAD_SIZE)
    (nanos : Nat) (receivedNanos : Int) (session : SessionId) (now : Int) :
    ∃ sid' p', p.handleHostControl header (V5Host.encode_control_payload V5Host.RECEIVE_WINDOW 6 nanos) receivedNanos session
      now = .ok p' ∧ Handled sid p header sid' p' := by
  have htype : header.message_type ≠ HOST_AUTH_ABORT := by
    cases hexpected with
    | hello htype => rw [htype]; decide
    | ack htype => rw [htype]; decide
    | pong htype => rw [htype]; decide
  rcases hrun : p.running with _ | _
  · obtain ⟨hwindow, hlanes, hzero, hreserved⟩ := read_control nanos
    refine ⟨sid, p, ?_, .same_session h header⟩
    rw [handleHostControl, if_neg htype, if_neg (by simp [hflags, hlength])]
    dsimp only
    rw [hwindow, if_neg (by rw [hlanes, hzero, hreserved]; decide), if_pos (by simp [hrun])]
  · obtain ⟨sid', p', hdispatch, hhandled⟩ := dispatchControl_ok h hrun hexpected receivedNanos session now
    obtain ⟨hostSendNanos, heq⟩ := handleHostControl_eq nanos receivedNanos session now hrun htype hflags hlength hdispatch
    exact ⟨sid', _, heq, hhandled.congr rfl rfl⟩

end Trackpad.V5Transport
