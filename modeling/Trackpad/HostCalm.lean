import Trackpad.HostFrames
/-!
# Turns that do not break off

Which errors of `serve_gameplay` say that the peer misbehaved, and what a record must be for a turn not to end in one.
-/

namespace Trackpad.V5Host

variable {σ : Type}

/-- The errors an honest peer must never cause. -/
def Breaks : HostV5Error → Prop
  | .Authentication _ | .Wire _ => True
  | .Io e => e.kind = .InvalidData
  | _ => False

/-- No such error came back. -/
def Calm (result : Except HostV5Error Unit) : Prop := ∀ e, result = .error e → ¬ Breaks e

def CalmLoop (result : Loop (Except HostV5Error Unit)) : Prop := ∀ r, result = .finished r → Calm r

/-- A turn whose socket fails, if at all, with errors of its own. -/
structure Quiet (it : Iteration) : Prop where
  hello : Calm it.hello.outcome
  copies : Calm it.copies.1.outcome ∧ Calm it.copies.2.outcome
  socket : Calm it.socket
  read_timeout : Calm it.read_timeout
  received : ∀ e, it.received = .error e → e.kind ≠ .InvalidData

theorem Calm.ok : Calm (.ok ()) := fun _ h => by cases h

theorem Calm.of {e : HostV5Error} (h : ¬ Breaks e) : Calm (.error e) := by
  intro e' he
  cases he
  exact h

theorem CalmLoop.of {r : Except HostV5Error Unit} (h : Calm r) : CalmLoop (.finished r) := by
  intro r' hr
  cases hr
  exact h

theorem CalmLoop.unfinished : CalmLoop .unfinished := fun _ h => by cases h

/-! ## Sending and the sink -/

theorem send_control_once_calm {control_type : UInt8} (hc : control_type ∈ [HOST_HELLO, HOST_ACK, HOST_PONG]) (session_id : Nat)
    (acknowledged : Option Nat) {copy : Copy} (hcopy : Calm copy.outcome) (s : Serve σ) :
    Calm (send_control_once control_type session_id acknowledged copy s).1 := by
  rw [send_control_once_eq hc]
  exact hcopy

theorem send_control_calm {control_type : UInt8} (hc : control_type ∈ [HOST_HELLO, HOST_ACK, HOST_PONG]) (session_id : Nat)
    (acknowledged : Option Nat) {copies : Copy × Copy} (hcopies : Calm copies.1.outcome ∧ Calm copies.2.outcome) (s : Serve σ) :
    Calm (send_control control_type session_id acknowledged copies s).1 := by
  have hfirst := send_control_once_calm hc session_id acknowledged hcopies.1 s
  unfold send_control
  split
  · exact .ok
  · rename_i first_error s' heq
    rw [heq] at hfirst
    split
    · exact .ok
    · exact hfirst

theorem stalled_calm (error : IoError) (stopped : Bool) : ¬ Breaks (.Io (stalled error stopped)) := by
  unfold stalled
  split
  · exact fun h : ErrorKind.Interrupted = .InvalidData => by cases h
  · exact fun h : ErrorKind.TimedOut = .InvalidData => by cases h

theorem service_deferred_calm [InputSink σ] {s : Submission} {sink sink' : σ} {e : IoError}
    (h : service_deferred s sink = (.finished (.error e), sink')) : ¬ Breaks (.Io e) := by
  unfold service_deferred at h
  split at h
  · cases h
  · cases h
  · cases h
    exact stalled_calm _ _

theorem commit_ready_calm [InputSink σ] (submissions : List Submission) (progressed : Bool) (i : Input σ) {e : IoError}
    (h : (commit_ready progressed submissions i).1 = .finished (.error e)) : ¬ Breaks (.Io e) := by
  induction submissions generalizing progressed i with
  | nil =>
    unfold commit_ready at h
    split at h <;> cases h
  | cons s submissions ih =>
    unfold commit_ready at h
    split at h
    · cases h
    dsimp only at h
    split at h
    · cases h
    · cases h
      exact stalled_calm _ _
    · split at h
      · cases h
        exact fun h : ErrorKind.Other = .InvalidData => by cases h
      · exact ih true _ h

/-! ## One turn -/

theorem repair_hello_calm {it : Iteration} (hq : Quiet it) (s : Serve σ) : Calm (repair_hello it s).1 := by
  unfold repair_hello
  split
  · split
    · exact .of fun h : ErrorKind.TimedOut = .InvalidData => by cases h
    split
    · have hsend := send_control_once_calm (by decide : HOST_HELLO ∈ [HOST_HELLO, HOST_ACK, HOST_PONG]) 0 none hq.hello s
      split
      · rename_i e s' heq
        rw [heq] at hsend
        exact hsend
      · exact .ok
    · exact .ok
  · exact .ok

theorem check_calm [InputSink σ] {it : Iteration} (hq : Quiet it) (s : Serve σ) : CalmLoop (check it s).1 := by
  have hrepair := repair_hello_calm hq s
  unfold check
  split
  · exact .of (.of fun h : ErrorKind.NetworkUnreachable = .InvalidData => by cases h)
  split
  · rename_i e s' heq
    rw [heq] at hrepair
    exact .of hrepair
  split
  · exact .of (.of fun h : ErrorKind.TimedOut = .InvalidData => by cases h)
  split
  · exact .of (.of fun h : ErrorKind.TimedOut = .InvalidData => by cases h)
  split
  · exact .unfinished
  · rename_i e sink heq
    exact .of (.of (service_deferred_calm heq))
  · apply CalmLoop.of
    split
    · exact hq.read_timeout
    · exact .ok

theorem acknowledge_calm {it : Iteration} (hq : Quiet it) (incoming_session : Nat) (progressed : Bool) (s : Serve σ) :
    Calm (acknowledge it incoming_session progressed s).1 := by
  unfold acknowledge
  split
  · exact .ok
  split
  · exact .ok
  split
  · exact .ok
  dsimp only
  split
  · exact send_control_calm (by decide) _ _ hq.copies _
  · exact send_control_once_calm (by decide) _ _ hq.copies.1 _

/-- A frame of the session the window is in, or the first one, is processed. -/
theorem process_calm [InputSink σ] {it : Iteration} (hq : Quiet it) {frame : TouchFrame} {s : Serve σ}
    (hsession : s.ordered.session_id.any (· != frame.session_id) = false) :
    CalmLoop (process_gameplay_frame it frame s).1 := by
  unfold process_gameplay_frame
  rw [if_neg (by simp [hsession])]
  split
  · exact .unfinished
  · rename_i e i heq
    exact .of (.of (commit_ready_calm it.submissions false _ (congrArg Prod.fst heq)))
  · exact .of (acknowledge_calm hq _ _ _)

/-- A ping of the session is answered. -/
theorem handle_ping_calm {it : Iteration} (hq : Quiet it) {header : RecordHeader} {s : Serve σ} (hflags : header.flags = 0)
    (hlength : header.payload_length = 0) (hsession : s.ordered.session_id = some header.session_id.toNat) :
    Calm (handle_ping it header s).1 := by
  unfold handle_ping
  rw [if_neg (by simp [hflags, hlength, hsession])]
  exact send_control_calm (by decide) _ _ hq.copies _

/-- What a record of gameplay must be: an abort, a ping of the session, or a frame of it that decodes. -/
inductive Welcome (s : Serve σ) (header : RecordHeader) (payload : Bytes) : Prop
  | abort (message_type : header.message_type = PHONE_AUTH_ABORT)
  | ping (message_type : header.message_type = PHONE_PING) (flags : header.flags = 0) (length : header.payload_length = 0)
      (session : s.ordered.session_id = some header.session_id.toNat)
  | touch {frame : TouchFrame} (message_type : header.message_type = PHONE_TOUCH)
      (decoded : decode_touch_payload header payload = .ok frame)
      (session : s.ordered.session_id.any (· != frame.session_id) = false)

theorem handle_record_calm [InputSink σ] {it : Iteration} (hq : Quiet it) {header : RecordHeader} {payload : Bytes} {s : Serve σ}
    (h : Welcome s header payload) : CalmLoop (handle_record it header payload s).1 := by
  unfold handle_record
  cases h with
  | abort htype =>
    rw [if_pos htype]
    exact .of (.of fun h : ErrorKind.ConnectionAborted = .InvalidData => by cases h)
  | ping htype hflags hlength hsession =>
    rw [if_neg (by rw [htype]; decide), if_pos htype]
    exact .of (handle_ping_calm hq hflags hlength hsession)
  | touch htype hdecoded hsession =>
    have hprocess := process_calm hq hsession
    rw [if_neg (by rw [htype]; decide), if_neg (by rw [htype]; decide), if_neg (by simp [htype]), hdecoded]
    dsimp only
    split
    · split
      · split
        · exact .of .ok
        · rename_i e heq
          have hsocket := hq.socket
          rw [heq] at hsocket
          exact .of hsocket
      · exact .of .ok
    · rename_i result s' _ heq
      rw [heq] at hprocess
      exact hprocess

/-! ## Receiving -/

/-- Whatever arrives, an opening error is one the loop drops. -/
theorem open_discarded (aead : Aead) {bytes : Bytes} {c c' : RecordCipher} {e : WireError}
    (h : c.open_in_place aead .PhoneToHost bytes = (.error e, c')) : discarded e = true := by
  unfold RecordCipher.open_in_place at h
  split at h
  · rename_i e' hdecode
    cases h
    unfold decode_record_header at hdecode
    split at hdecode
    · cases hdecode; rfl
    split at hdecode
    · cases hdecode; rfl
    split at hdecode
    · cases hdecode; rfl
    dsimp only at hdecode
    split at hdecode
    · cases hdecode; rfl
    split at hdecode
    · cases hdecode; rfl
    · cases hdecode
  split at h
  · cases h; rfl
  split at h
  · cases h; rfl
  dsimp only at h
  split at h
  · cases h; rfl
  · cases h

/-- Receiving touches nothing but the connection, and gives only what the cipher opened. -/
theorem receive_spec (aead : Aead) (it : Iteration) (s : Serve σ) :
    (∃ connection, (receive_record_into aead it s).2 = { s with connection := connection }) ∧
    ∀ record, (receive_record_into aead it s).1 = .ok (some record) →
      ∃ bytes cipher, it.received = .datagram bytes ∧
        s.connection.cipher.open_in_place aead .PhoneToHost bytes = (.ok record, cipher) := by
  have hsame : ∃ connection, s = { s with connection := connection } := ⟨s.connection, rfl⟩
  unfold receive_record_into
  split
  · exact ⟨hsame, fun _ h => by cases h⟩
  · exact ⟨hsame, fun _ h => by cases h⟩
  · exact ⟨hsame, fun _ h => by cases h⟩
  · rename_i bytes hreceived
    split
    · split <;> exact ⟨hsame, fun _ h => by cases h⟩
    · split
      · rename_i record cipher hopen
        refine ⟨⟨_, rfl⟩, fun record' h => ?_⟩
        cases h
        exact ⟨bytes, cipher, hreceived, hopen⟩
      · dsimp only
        split <;> exact ⟨⟨_, rfl⟩, fun _ h => by cases h⟩

theorem receive_calm (aead : Aead) {it : Iteration} (hq : Quiet it) (s : Serve σ) {e : HostV5Error}
    (h : (receive_record_into aead it s).1 = .error e) : ¬ Breaks e := by
  unfold receive_record_into at h
  split at h
  · cases h
  · rename_i error hreceived
    cases h
    exact hq.received error hreceived
  · cases h
  · split at h
    · have hsocket := hq.socket
      split at h
      · cases h
      · rename_i e' heq
        rw [heq] at hsocket
        cases h
        exact hsocket e rfl
    · split at h
      · cases h
      · rename_i e' cipher hopen
        dsimp only at h
        rw [open_discarded aead hopen, if_pos rfl] at h
        cases h

/-- The checks before a record is waited for leave the connection alone. -/
theorem check_connection [InputSink σ] (it : Iteration) (s : Serve σ) : (check it s).2.connection = s.connection := by
  have hrepair : (repair_hello it s).2.connection = s.connection := by
    unfold repair_hello
    rw [send_control_once_eq (by decide)]
    split
    · split
      · rfl
      split
      · rcases it.hello.outcome with e | ⟨⟨⟩⟩ <;> rfl
      · rfl
    · rfl
  unfold check
  split
  · rfl
  rcases heq : repair_hello it s with ⟨e | ⟨⟨⟩⟩, s'⟩
  · rw [heq] at hrepair
    exact hrepair
  rw [heq] at hrepair
  dsimp only at hrepair ⊢
  split
  · exact hrepair
  split
  · exact hrepair
  split <;> exact hrepair

end Trackpad.V5Host
