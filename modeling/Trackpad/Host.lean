import Trackpad.Input
/-!
# The v5 host during gameplay

`serve_gameplay` on one authenticated connection. Each turn of its loop gets an `Iteration`: what the
clock, the stop flag, the interface monitor and the socket answer in that turn, in the order the
source asks. A turn that runs out of attempts at the sink has not returned yet.
-/

namespace Trackpad.V5Host

def RECEIVE_WINDOW : Nat := 128
def ACTIVE_INPUT_SILENCE_TIMEOUT : Nat := 32000000
def IDLE_PEER_SILENCE_TIMEOUT : Nat := 2000000000
def V5_SESSION_START_TIMEOUT : Nat := 5000000000
def V5_CONTROL_REPAIR_INTERVAL : Nat := 2000000
def V5_HELLO_REPAIR_MAX_INTERVAL : Nat := 32000000
def DUPLICATE_ACK_HOLDOFF : Nat := 1000000

inductive HostV5Error
  | Io (error : IoError)
  | Wire (error : WireError)
  | Noise (message : String)
  | Credentials (message : String)
  | Interface (message : String)
  | Authentication (message : String)
  | TimedOut (message : String)
  | NotPaired
  | Cancelled
deriving DecidableEq, Repr

def encode_control_payload (receive_window lane_count host_send_nanos : Nat) : Bytes :=
  LittleEndian.encode 4 receive_window ++ LittleEndian.encode 1 lane_count ++ [0, 0, 0] ++
    LittleEndian.encode 8 host_send_nanos

structure GameplayState where
  lane_count : Nat
  last_committed_frame : Nat
  last_idle_activity : Nat
  last_ping : Option Nat
  last_ack : Option (Option Nat × Nat)

structure V5Connection where
  cipher : RecordCipher
  cached_handshake : Option (Bytes × Bytes)
  peer_aborted : Bool

def V5Connection.new (cipher : RecordCipher) (cached_handshake : Option (Bytes × Bytes)) : V5Connection :=
  ⟨cipher, cached_handshake, false⟩

structure Serve (σ : Type) extends Input σ where
  control : GameplayState
  connection : V5Connection
  session_established : Bool
  session_start_deadline : Nat
  last_hello_send : Nat
  hello_interval : Nat

/-- One copy of a control record: the time it is stamped with, and what sealing and sending it gave. -/
structure Copy where
  host_send_nanos : Nat
  outcome : Except HostV5Error Unit

inductive Received
  | timed_out
  | error (error : IoError)
  | foreign
  | datagram (bytes : Bytes)

structure Iteration where
  stopping : Bool
  interface_changed : Bool
  start_now : Nat
  hello_now : Nat
  hello : Copy
  hello_sent : Nat
  active_now : Nat
  idle_now : Nat
  service : Submission
  read_timeout : Except HostV5Error Unit
  received : Received
  arrival : Nat
  /-- What repeating the cached handshake reply, or setting the read timeout of a new session, gave. -/
  socket : Except HostV5Error Unit
  copies : Copy × Copy
  submissions : List Submission
  committed_now : Nat
  ack_started : Nat

variable {σ : Type}

/-! ## Sending -/

def Serve.record (e : Event) (s : Serve σ) : Serve σ := { s with trace := e :: s.trace }

def send_control_once (control_type : UInt8) (session_id : Nat) (acknowledged : Option Nat) (copy : Copy)
    (s : Serve σ) : Except HostV5Error Unit × Serve σ :=
  if control_type ∉ [HOST_HELLO, HOST_ACK, HOST_PONG] then (.error (.Authentication "invalid host control type"), s)
  else
    (copy.outcome, s.record (.control control_type session_id (acknowledged.getD NO_ACK)
      (encode_control_payload RECEIVE_WINDOW s.control.lane_count copy.host_send_nanos)))

/-- Two copies; one that was delivered is enough. -/
def send_control (control_type : UInt8) (session_id : Nat) (acknowledged : Option Nat) (copies : Copy × Copy)
    (s : Serve σ) : Except HostV5Error Unit × Serve σ :=
  match send_control_once control_type session_id acknowledged copies.1 s with
  | (.ok (), s) => (.ok (), (send_control_once control_type session_id acknowledged copies.2 s).2)
  | (.error first_error, s) =>
    match send_control_once control_type session_id acknowledged copies.2 s with
    | (.ok (), s) => (.ok (), s)
    | (.error _, s) => (.error first_error, s)

/-- The two copies of the abort; errors are dropped. -/
def notify_session_end (stopping : Bool) (s : Serve σ) : Serve σ :=
  if s.connection.peer_aborted then s
  else
    let reason := if stopping then 1 else 4
    let abort := Event.control HOST_AUTH_ABORT (s.ordered.session_id.getD 0) 0 (LittleEndian.encode 2 reason)
    (s.record abort).record abort

/-! ## Receiving -/

section
variable (aead : Aead)

/-- The opening errors a datagram is silently dropped for. -/
def discarded : WireError → Bool
  | .Replay | .BadTag | .BadMagic | .BadVersion _ | .WrongConnection | .BadLength _ | .ReservedBits => true
  | _ => false

def receive_record_into (it : Iteration) (s : Serve σ) :
    Except HostV5Error (Option (RecordHeader × Bytes)) × Serve σ :=
  match it.received with
  | .timed_out => (.ok none, s)
  | .error error => (.error (.Io error), s)
  | .foreign => (.ok none, s)
  | .datagram bytes =>
    if s.connection.cached_handshake.map Prod.fst = some bytes then
      match it.socket with
      | .ok () => (.ok none, s)
      | .error e => (.error e, s)
    else
      match s.connection.cipher.open_in_place aead .PhoneToHost bytes with
      | (.ok record, cipher) =>
        (.ok (some record), { s with connection := { s.connection with cipher := cipher, cached_handshake := none } })
      | (.error e, cipher) =>
        let s := { s with connection := { s.connection with cipher := cipher } }
        if discarded e then (.ok none, s) else (.error (.Wire e), s)

variable [InputSink σ]

/-- The control state once a frame was committed at `now`. -/
def Serve.committed_at (now : Nat) (s : Serve σ) : Serve σ :=
  { s with control := { s.control with
      last_committed_frame := now
      last_idle_activity := now } }

def Serve.acknowledged_at (acknowledged : Option Nat) (now : Nat) (s : Serve σ) : Serve σ :=
  { s with control := { s.control with last_ack := some (acknowledged, now) } }

/-- Whether this very ACK was sent less than the holdoff ago. -/
def held_off (it : Iteration) (s : Serve σ) : Bool :=
  s.control.last_ack.any fun (sent, at_) =>
    sent == s.ordered.acknowledged_sequence && it.ack_started - at_ < DUPLICATE_ACK_HOLDOFF

/-- The part of `process_gameplay_frame` after the frames were applied. -/
def acknowledge (it : Iteration) (incoming_session : Nat) (progressed : Bool) (s : Serve σ) :
    Except HostV5Error Unit × Serve σ :=
  match s.ordered.session_id with
  | none => (.ok (), s)
  | some session_id =>
    if session_id ≠ incoming_session then (.ok (), s)
    else if !progressed && held_off it s then (.ok (), s)
    else
      let acknowledged := s.ordered.acknowledged_sequence
      let s := s.acknowledged_at acknowledged it.ack_started
      if progressed then send_control HOST_ACK session_id acknowledged it.copies s
      else send_control_once HOST_ACK session_id acknowledged it.copies.1 s

def process_gameplay_frame (it : Iteration) (frame : TouchFrame) (s : Serve σ) :
    Loop (Except HostV5Error Unit) × Serve σ :=
  if s.ordered.session_id.any (· != frame.session_id) then
    (.finished (.error (.Authentication "a new gameplay session requires fresh IK")), s)
  else
    match commit_ready false it.submissions { s.toInput with ordered := s.ordered.push frame } with
    | (.unfinished, i) => (.unfinished, { s with toInput := i })
    | (.finished (.error e), i) => (.finished (.error (.Io e)), { s with toInput := i })
    | (.finished (.ok progressed), i) =>
      let s := { s with toInput := i }
      let (result, s) := acknowledge it frame.session_id progressed (if progressed then s.committed_at it.committed_now else s)
      (.finished result, s)

def handle_ping (it : Iteration) (header : RecordHeader) (s : Serve σ) : Except HostV5Error Unit × Serve σ :=
  if header.flags ≠ 0 ∨ header.payload_length ≠ 0 ∨ s.ordered.session_id ≠ some header.session_id.toNat then
    (.error (.Authentication "invalid idle ping"), s)
  else
    let s := if s.control.last_ping.all fun previous => decide (header.logical_id.toNat > previous) then
        { s with control := { s.control with
            last_ping := some header.logical_id.toNat
            last_idle_activity := it.arrival } }
      else s
    send_control HOST_PONG header.session_id.toNat (some header.logical_id.toNat) it.copies s

/-- What the loop does with an opened record. -/
def handle_record (it : Iteration) (header : RecordHeader) (payload : Bytes) (s : Serve σ) :
    Loop (Except HostV5Error Unit) × Serve σ :=
  if header.message_type = PHONE_AUTH_ABORT then
    (.finished (.error (.Io ⟨.ConnectionAborted, "phone ended the authenticated session"⟩)),
      { s with connection := { s.connection with peer_aborted := true } })
  else if header.message_type = PHONE_PING then
    let (result, s) := handle_ping it header s
    (.finished result, s)
  else if header.message_type ≠ PHONE_TOUCH then
    (.finished (.error (.Io ⟨.InvalidData, "authenticated record type is invalid during gameplay"⟩)), s)
  else
    match decode_touch_payload header payload with
    | .error e => (.finished (.error (.Wire e)), s)
    | .ok frame =>
      match process_gameplay_frame it frame s with
      | (.finished (.ok ()), s) =>
        if !s.session_established && s.ordered.session_id.isSome then
          match it.socket with
          | .ok () => (.finished (.ok ()), { s with session_established := true })
          | .error e => (.finished (.error e), s)
        else (.finished (.ok ()), s)
      | (result, s) => (result, s)

/-! ## The loop -/

/-- The repair of HELLO while no session has started. -/
def repair_hello (it : Iteration) (s : Serve σ) : Except HostV5Error Unit × Serve σ :=
  if s.ordered.session_id.isNone then
    if it.start_now ≥ s.session_start_deadline then
      (.error (.Io ⟨.TimedOut, "authenticated session-start CANCEL did not arrive"⟩), s)
    else if it.hello_now - s.last_hello_send ≥ s.hello_interval then
      match send_control_once HOST_HELLO 0 none it.hello s with
      | (.error e, s) => (.error e, s)
      | (.ok (), s) =>
        (.ok (), { s with
          last_hello_send := it.hello_sent
          hello_interval := min (s.hello_interval * 2) V5_HELLO_REPAIR_MAX_INTERVAL })
    else (.ok (), s)
  else (.ok (), s)

/-- The checks before a turn waits for a record. -/
def check (it : Iteration) (s : Serve σ) : Loop (Except HostV5Error Unit) × Serve σ :=
  if it.interface_changed then
    (.finished (.error (.Io ⟨.NetworkUnreachable, "selected network interface changed"⟩)), s)
  else
    match repair_hello it s with
    | (.error e, s) => (.finished (.error e), s)
    | (.ok (), s) =>
      if InputSink.has_active_input s.sink ∧
          it.active_now - s.control.last_committed_frame ≥ ACTIVE_INPUT_SILENCE_TIMEOUT then
        (.finished (.error (.Io ⟨.TimedOut, "authenticated input made no committed progress for 32 ms"⟩)), s)
      else if s.session_established ∧ InputSink.has_active_input s.sink = false ∧
          it.idle_now - s.control.last_idle_activity ≥ IDLE_PEER_SILENCE_TIMEOUT then
        (.finished (.error (.Io ⟨.TimedOut, "authenticated idle peer expired"⟩)), s)
      else
        match service_deferred it.service s.sink with
        | (.unfinished, sink) => (.unfinished, { s with sink := sink })
        | (.finished (.error e), sink) => (.finished (.error (.Io e)), { s with sink := sink })
        | (.finished (.ok ()), sink) =>
          (.finished (if s.session_established then it.read_timeout else .ok ()), { s with sink := sink })

/-- One turn of the loop, once `stopping` was read as clear. -/
def turn (it : Iteration) (receive : Serve σ → Except HostV5Error (Option (RecordHeader × Bytes)) × Serve σ)
    (s : Serve σ) : Loop (Except HostV5Error Unit) × Serve σ :=
  match check it s with
  | (.finished (.ok ()), s) =>
    match receive s with
    | (.error e, s) => (.finished (.error e), s)
    | (.ok none, s) => (.finished (.ok ()), s)
    | (.ok (some (header, payload)), s) => handle_record it header payload s
  | (result, s) => (result, s)

def serve_loop : List Iteration → Serve σ → Loop (Except HostV5Error Unit) × Serve σ
  | [], s => (.unfinished, s)
  | it :: its, s =>
    if it.stopping then (.finished (.ok ()), s)
    else
      match turn it (receive_record_into aead it) s with
      | (.finished (.ok ()), s) => serve_loop its s
      | (result, s) => (result, s)

/-- Everything the clock and the socket answer before the first turn and after the last one. -/
structure Boundary where
  control_now : Nat
  committed_now : Nat
  monitor : Except HostV5Error Unit
  deadline_now : Nat
  read_timeout : Except HostV5Error Unit
  hello : Copy × Copy
  hello_sent : Nat
  stopping : Bool
  cancel : Submission

/-- The loop's variables at its start. -/
def Serve.begun (b : Boundary) (s : Serve σ) : Serve σ :=
  { s with
    control := { s.control with
      last_idle_activity := b.control_now
      last_ping := none
      last_ack := none
      last_committed_frame := b.committed_now }
    session_start_deadline := b.deadline_now + V5_SESSION_START_TIMEOUT
    session_established := false }

def serve_gameplay_inner (b : Boundary) (its : List Iteration) (s : Serve σ) :
    Loop (Except HostV5Error Unit) × Serve σ :=
  match b.monitor, b.read_timeout with
  | .error e, _ => (.finished (.error e), s)
  | .ok (), .error e => (.finished (.error e), s)
  | .ok (), .ok () =>
    match send_control HOST_HELLO 0 none b.hello (s.begun b) with
    | (.error e, s) => (.finished (.error e), s)
    | (.ok (), s) =>
      serve_loop aead its { s with
        last_hello_send := b.hello_sent
        hello_interval := V5_CONTROL_REPAIR_INTERVAL }

def serve_gameplay (b : Boundary) (its : List Iteration) (s : Serve σ) : Loop (Except HostV5Error Unit) × Serve σ :=
  match serve_gameplay_inner aead b its { s with ordered := .require_fresh_session } with
  | (.unfinished, s) => (.unfinished, s)
  | (.finished result, s) =>
    let s := notify_session_end b.stopping s
    let s := { s with ordered := .require_fresh_session }
    match cancel_with_deadline b.cancel.started b.cancel.attempts s.sink with
    | (.unfinished, sink) => (.unfinished, { s with sink := sink })
    | (.finished (.error e), sink) => (.finished (.error (.Io e)), { s with sink := sink })
    | (.finished (.ok ()), sink) => (.finished result, { s with sink := sink })

end

end Trackpad.V5Host
