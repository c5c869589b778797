import Trackpad.Encoding
import Trackpad.Phone.SendQueue
/-!
# The phone during gameplay

The operations `V5Transport` runs under its queue lock, from the opening of a session to its close:
touch samples, host controls, one turn of the writer and the watchdog. What the clock reads is an
argument. The records handed to the socket and the samples taken are logged, the last first.
-/

namespace Trackpad

def DEFAULT_HOST_WINDOW : Nat := 64
def MAX_HOST_WINDOW : Nat := 256
def CONTROL_PAYLOAD_SIZE : Nat := 16
def IDLE_PING_NANOS : Int := 500000000
def IDLE_HOST_TIMEOUT_NANOS : Int := 2000000000
def ACTIVE_HOST_TIMEOUT_NANOS : Int := 64000000
def MAX_GAMEPLAY_BACKLOG_NANOS : Int := 64000000
def ACTIVE_HEARTBEAT_NANOS : Int := 8000000

/-- A `long` time as the eight bytes it is written in. -/
def wireTime (nanos : Int) : UInt64 := .ofInt nanos

def countActiveContacts (s : Snapshot) : Nat := s.contacts.countP TouchContact.touching

/-- What `TrackpadView` offers: one of its own actions and the contacts of the moment. -/
structure Sample where
  action : UInt8
  actionPointerId : UInt8
  locked : Bool
  eventNanos : UInt64
  callbackNanos : UInt64
  historical : Bool
  snapshot : Snapshot
  known : action ∈ [ACTION_HEARTBEAT, ACTION_DOWN, ACTION_MOVE, ACTION_UP, ACTION_CANCEL]

theorem known_down : ACTION_DOWN ∈ [ACTION_HEARTBEAT, ACTION_DOWN, ACTION_MOVE, ACTION_UP, ACTION_CANCEL] := by decide
theorem known_move : ACTION_MOVE ∈ [ACTION_HEARTBEAT, ACTION_DOWN, ACTION_MOVE, ACTION_UP, ACTION_CANCEL] := by decide

def frameFlags (locked sessionStart historical : Bool) : UInt8 :=
  (if locked then FRAME_FLAG_LOCKED else 0) ||| (if sessionStart then FRAME_FLAG_SESSION_START else 0) |||
    (if historical then FRAME_FLAG_HISTORICAL else 0)

def Sample.content (s : Sample) : Content where
  eventNanos := s.eventNanos
  callbackNanos := s.callbackNanos
  action := s.action
  actionPointerId := s.actionPointerId
  frameFlags := frameFlags s.locked false s.historical
  snapshot := s.snapshot

/-- The sequence-zero CANCEL. -/
def startContent (now : Int) : Content where
  eventNanos := wireTime now
  callbackNanos := wireTime now
  action := ACTION_CANCEL
  actionPointerId := 0
  frameFlags := frameFlags false true false
  snapshot := .empty

def retainedContent (snapshot : Snapshot) (now : Int) : Content where
  eventNanos := wireTime now
  callbackNanos := wireTime now
  action := ACTION_HEARTBEAT
  actionPointerId := 0
  frameFlags := frameFlags true false false
  snapshot := snapshot

/-- Why a frame was queued. -/
inductive Cause
  | start
  | reconstruction
  | heartbeat
  | sample (sample : Sample)

inductive PhoneEvent
  | offered (sample : Sample)
  | queued (cause : Cause) (content : Content)

structure V5Transport where
  running : Bool
  hostReady : Bool
  sessionStarted : Bool
  hostWindow : Nat
  hostLaneCount : Nat
  sessionId : UInt64
  nextSequence : Nat
  /-- `none` is `NO_ACK`. -/
  highestAcknowledged : Option Nat
  lastHeartbeatNanos : Int
  lastPingNanos : Int
  nextPingId : Nat
  lastPongId : Option Nat
  lastIdleResponseNanos : Int
  lastHostSendNanos : UInt64
  lastControlReceiveNanos : Int
  lastAcknowledgementProgressNanos : Int
  activePathStartedNanos : Int
  activeContactCount : Nat
  retained : Snapshot
  queueOverflowed : Bool
  unacknowledged : V5SendQueue Content
  connectionId : UInt64
  nextPacketNumber : Nat
  sent : List (RecordHeader × Bytes)
  trace : List PhoneEvent

namespace V5Transport

def resetSessionStateLocked (p : V5Transport) : V5Transport :=
  { p with
    unacknowledged := p.unacknowledged.clear
    hostReady := false
    sessionStarted := false
    hostWindow := DEFAULT_HOST_WINDOW
    hostLaneCount := 6
    sessionId := 0
    nextSequence := 0
    highestAcknowledged := none
    lastHeartbeatNanos := 0
    lastPingNanos := 0
    nextPingId := 0
    lastPongId := none
    lastIdleResponseNanos := 0
    lastHostSendNanos := 0
    lastControlReceiveNanos := 0
    lastAcknowledgementProgressNanos := 0
    activePathStartedNanos := 0
    activeContactCount := countActiveContacts p.retained
    queueOverflowed := false }

def hasGameplayPendingLocked (p : V5Transport) : Bool := p.unacknowledged.peekLast.any fun newest => newest.sequence > 0

def hasActiveDataPathLocked (p : V5Transport) : Bool := p.activeContactCount > 0 || p.hasGameplayPendingLocked

def updateActivePathStateLocked (wasActive : Bool) (now : Int) (p : V5Transport) : V5Transport :=
  if !wasActive && p.hasActiveDataPathLocked then { p with activePathStartedNanos := now }
  else if !p.hasActiveDataPathLocked then { p with activePathStartedNanos := 0 }
  else p

/-! ## Queueing -/

def enqueueFrameLocked (cause : Cause) (content : Content) (now : Int) (p : V5Transport) : V5Transport :=
  if p.unacknowledged.size ≥ MAX_HOST_WINDOW then { p with queueOverflowed := true }
  else
    match p.unacknowledged.add p.nextSequence content now with
    | none => p
    | some unacknowledged =>
      { p with
        nextSequence := p.nextSequence + 1
        unacknowledged := unacknowledged
        trace := .queued cause content :: p.trace }

def enqueueRetainedSnapshotLocked (cause : Cause) (now : Int) (p : V5Transport) : V5Transport :=
  p.enqueueFrameLocked cause (retainedContent p.retained now) now

def retainContactsLocked (snapshot : Snapshot) (p : V5Transport) : V5Transport :=
  { p with
    activeContactCount := countActiveContacts snapshot
    retained := snapshot }

/-- A sample from the touch view. The pressure filter has already decided its contact flags. -/
def offerFrame (sample : Sample) (queuedNanos now : Int) (p : V5Transport) : V5Transport :=
  let wasActiveDataPath := p.hasActiveDataPathLocked
  let p := p.retainContactsLocked sample.snapshot
  if !p.running || !p.sessionStarted then p
  else
    let p := { p with trace := .offered sample :: p.trace }
    (p.enqueueFrameLocked (.sample sample) sample.content queuedNanos).updateActivePathStateLocked wasActiveDataPath now

def maybeEnqueueHeartbeatLocked (now : Int) (p : V5Transport) : V5Transport :=
  if !p.hostReady || !p.sessionStarted || p.activeContactCount == 0 || !p.unacknowledged.isEmpty ||
      now - p.lastHeartbeatNanos < ACTIVE_HEARTBEAT_NANOS then p
  else ({ p with lastHeartbeatNanos := now }).enqueueRetainedSnapshotLocked .heartbeat now

/-! ## Sending -/

def header (messageType : UInt8) (sessionId : UInt64) (logicalId : Nat) (payload : Bytes) (p : V5Transport) : RecordHeader where
  direction := .PhoneToHost
  message_type := messageType
  connection_id := p.connectionId
  session_id := sessionId
  packet_number := .ofNat p.nextPacketNumber
  logical_id := .ofNat logicalId
  flags := 0
  payload_length := .ofNat payload.length

/-- Sealing and sending one record; `none` where sealing throws. -/
def sealInto (messageType : UInt8) (sessionId : UInt64) (logicalId : Nat) (payload : Bytes) (p : V5Transport) :
    Option V5Transport :=
  if p.nextPacketNumber = 2 ^ 64 - 1 then none
  else if RECORD_HEADER_SIZE + payload.length + TAG_SIZE > MAX_DATAGRAM_SIZE then none
  else some
    { p with
      nextPacketNumber := p.nextPacketNumber + 1
      sent := (p.header messageType sessionId logicalId payload, payload) :: p.sent }

/-- The authenticated abort of a closing session, which the channel may no longer carry. -/
def sendAuthenticatedAbort (reason : Nat) (p : V5Transport) : V5Transport :=
  (p.sealInto PHONE_AUTH_ABORT 0 0 (LittleEndian.encode 2 reason)).getD p

def closeSession (p : V5Transport) : V5Transport :=
  { (p.resetSessionStateLocked.sendAuthenticatedAbort 1).sendAuthenticatedAbort 1 with running := false }

/-- Whether the writer may ping: idle, and the host has committed the CANCEL. -/
def pingDue (now : Int) (p : V5Transport) : Bool :=
  p.sessionStarted && !p.hasActiveDataPathLocked && p.highestAcknowledged.isSome && decide (now - p.lastPingNanos ≥ IDLE_PING_NANOS)

/-- Sealing a selected frame, its three send times patched in. Where sealing throws, the session ends. -/
def sendTouch (pending : Frame Content) (sendStarted : Int) (p : V5Transport) : V5Transport :=
  let payload := pending.payload.payload (wireTime sendStarted) p.lastHostSendNanos (wireTime p.lastControlReceiveNanos)
  (p.sealInto PHONE_TOUCH p.sessionId pending.sequence payload).getD p.closeSession

/-- A new ping, twice. -/
def sendPing (now : Int) (p : V5Transport) : V5Transport :=
  let p' := { p with nextPingId := p.nextPingId + 1, lastPingNanos := now }
  match p'.sealInto PHONE_PING p.sessionId p.nextPingId [] with
  | none => p'.closeSession
  | some p' => (p'.sealInto PHONE_PING p.sessionId p.nextPingId []).getD p'.closeSession

/-- One turn of `writerLoop`: a heartbeat if one is due, then a touch frame, a pair of pings or nothing. -/
def writerTurn (now sendStarted : Int) (p : V5Transport) : V5Transport :=
  if !p.running then p
  else
    let p := p.maybeEnqueueHeartbeatLocked now
    if !p.hostReady then p
    else
      match p.unacknowledged.next now p.hostWindow with
      | (some pending, unacknowledged) => ({ p with unacknowledged := unacknowledged }).sendTouch pending sendStarted
      | (none, unacknowledged) =>
        let p := { p with unacknowledged := unacknowledged }
        if p.pingDue now then p.sendPing now else p

/-! ## Host controls -/

/-- The loop that retires the frames up to `acknowledged`. -/
def retire (acknowledged : Nat) : Nat → V5SendQueue Content → V5SendQueue Content
  | 0, q => q
  | fuel + 1, q =>
    if q.isEmpty then q
    else if (q.get q.head).sequence > acknowledged then q
    else retire acknowledged fuel q.removeFirst

def acknowledgeLocked (acknowledged : Nat) (p : V5Transport) : Bool × V5Transport :=
  if acknowledged = NO_ACK ∨ p.highestAcknowledged.any (acknowledged ≤ ·) ∨ acknowledged ≥ p.nextSequence then (false, p)
  else
    let p := { p with
      highestAcknowledged := some acknowledged
      unacknowledged := retire acknowledged p.unacknowledged.size p.unacknowledged }
    (true, if !p.hasActiveDataPathLocked then { p with activePathStartedNanos := 0 } else p)

/-- What `nextSessionId` draws. -/
structure SessionId where
  id : UInt64
  nonzero : id ≠ 0

/-- The first HELLO: a fresh session with its CANCEL and, if a contact is held, the retained snapshot. -/
def startSession (window : Nat) (session : SessionId) (receivedNanos now : Int) (p : V5Transport) : V5Transport :=
  let p := { p with
    hostWindow := window
    hostLaneCount := 6
    hostReady := true
    lastIdleResponseNanos := receivedNanos
    sessionId := session.id
    nextSequence := 0
    highestAcknowledged := none
    unacknowledged := p.unacknowledged.clear }
  let p : V5Transport := { p.enqueueFrameLocked .start (startContent now) now with sessionStarted := true }
  if p.activeContactCount > 0 then
    ({ p with activePathStartedNanos := now, lastHeartbeatNanos := now }).enqueueRetainedSnapshotLocked .reconstruction now
  else p

/-- What a control does once its shape was checked. -/
def dispatchControl (header : RecordHeader) (window : Nat) (receivedNanos : Int) (session : SessionId) (now : Int)
    (p : V5Transport) : Except String V5Transport :=
  if header.message_type = HOST_HELLO then
    if header.session_id ≠ 0 ∨ header.logical_id.toNat ≠ NO_ACK then .error "Invalid authenticated HELLO"
    else .ok (if p.hostReady then p else p.startSession window session receivedNanos now)
  else if header.message_type = HOST_ACK then
    if p.hostReady = false ∨ header.session_id ≠ p.sessionId then .error "ACK belongs to the wrong V5 session"
    else
      match p.acknowledgeLocked header.logical_id.toNat with
      | (true, p) => .ok { p with lastAcknowledgementProgressNanos := receivedNanos, lastIdleResponseNanos := receivedNanos }
      | (false, p) => .ok p
  else if header.message_type = HOST_PONG then
    if p.sessionStarted = false ∨ header.session_id ≠ p.sessionId ∨ header.logical_id.toNat ≥ p.nextPingId then
      .error "Invalid authenticated PONG"
    else if p.lastPongId.all (· < header.logical_id.toNat) then
      .ok { p with lastPongId := some header.logical_id.toNat, lastIdleResponseNanos := receivedNanos }
    else .ok p
  else .error "Unexpected authenticated host message"

def handleHostControl (header : RecordHeader) (control : Bytes) (receivedNanos : Int) (session : SessionId) (now : Int)
    (p : V5Transport) : Except String V5Transport :=
  if header.message_type = HOST_AUTH_ABORT then .error "Host ended the authenticated session"
  else if header.flags ≠ 0 ∨ header.payload_length.toNat ≠ CONTROL_PAYLOAD_SIZE then .error "Malformed authenticated host control"
  else
    let window := (read_u32 control 0).toNat
    if window < 1 ∨ window > MAX_HOST_WINDOW ∨ control.getD 4 0 ≠ 6 ∨ control.getD 5 0 ≠ 0 ∨ read_u16 control 6 ≠ 0 then
      .error "Invalid authenticated host control values"
    else if !p.running then .ok p
    else
      match p.dispatchControl header window receivedNanos session now with
      | .error e => .error e
      | .ok p => .ok { p with lastHostSendNanos := read_u64 control 8, lastControlReceiveNanos := receivedNanos }

/-! ## The watchdog -/

def gameplayBacklogExpiredLocked (now : Int) (p : V5Transport) : Bool :=
  p.unacknowledged.peekFirst.any fun oldest => decide (now - oldest.queuedNanos ≥ MAX_GAMEPLAY_BACKLOG_NANOS)

def timedOut (now : Int) (p : V5Transport) : Bool :=
  let active := p.hasActiveDataPathLocked
  let progress := max p.lastAcknowledgementProgressNanos p.activePathStartedNanos
  (active && decide (now - progress ≥ ACTIVE_HOST_TIMEOUT_NANOS)) ||
    (!active && p.sessionStarted && decide (now - p.lastIdleResponseNanos ≥ IDLE_HOST_TIMEOUT_NANOS)) ||
    p.gameplayBacklogExpiredLocked now || p.queueOverflowed

def checkHostTimeout (now : Int) (p : V5Transport) : V5Transport :=
  if !p.running || !p.hostReady then p
  else if p.timedOut now then p.closeSession
  else p

/-- A session `open` has just begun over a fresh channel. -/
def opened (retained : Snapshot) (connectionId : UInt64) : V5Transport where
  running := true
  hostReady := false
  sessionStarted := false
  hostWindow := DEFAULT_HOST_WINDOW
  hostLaneCount := 6
  sessionId := 0
  nextSequence := 0
  highestAcknowledged := none
  lastHeartbeatNanos := 0
  lastPingNanos := 0
  nextPingId := 0
  lastPongId := none
  lastIdleResponseNanos := 0
  lastHostSendNanos := 0
  lastControlReceiveNanos := 0
  lastAcknowledgementProgressNanos := 0
  activePathStartedNanos := 0
  activeContactCount := countActiveContacts retained
  retained := retained
  queueOverflowed := false
  unacknowledged := ⟨MAX_HOST_WINDOW, fun _ => ⟨0, startContent 0, 0, 0, 0⟩, 0, 0, 0, 0, false⟩
  connectionId := connectionId
  nextPacketNumber := 0
  sent := []
  trace := []

end V5Transport

end Trackpad
