import Trackpad.Protocol
/-!
# The version 4 phone

What `UdpTransport` does under its queue lock: sessions, frames queued and sent, control records.
`System.nanoTime` is an argument. A `long` sequence number does not overflow: that takes 2⁶³ frames
of one session. `retired` logs what `acknowledgeLocked` let go of.
-/

namespace Trackpad.Legacy

def HOST_HELLO_TYPE : UInt8 := 1
def HOST_ACK_TYPE : UInt8 := 2
def INITIAL_SEND_COPIES : Nat := 2
def RETRANSMIT_NANOS : Int := 2000000
def ACTIVE_HEARTBEAT_NANOS : Int := 8000000
def DEFAULT_HOST_WINDOW : Nat := 64
def MAX_HOST_WINDOW : Nat := 256

structure PendingPacket where
  frame : TouchFrame
  queuedNanos : Int
  lastSentNanos : Int
  sendCount : Nat

/-- What a frame is built from. -/
structure TouchSample where
  action : UInt8
  actionPointerId : UInt8
  locked : Bool
  sessionStart : Bool
  eventNanos : Nat
  callbackNanos : Nat
  historical : Bool
  contacts : Contacts

def TouchSample.flags (s : TouchSample) : UInt8 :=
  (if s.locked then FRAME_FLAG_LOCKED else 0) ||| (if s.sessionStart then FRAME_FLAG_SESSION_START else 0) |||
    (if s.historical then FRAME_FLAG_HISTORICAL else 0)

structure UdpTransport where
  running : Bool
  hostAddress : Bool
  hostReady : Bool
  hostWindow : Nat
  hostLaneCount : Nat
  sessionId : Nat
  nextSequence : Nat
  highestAcknowledged : Int
  lastHeartbeatNanos : Int
  lastHostSendNanos : Nat
  lastControlReceiveNanos : Int
  retained : Contacts
  unacknowledged : List PendingPacket
  retired : List TouchFrame

namespace UdpTransport

def new : UdpTransport where
  running := false
  hostAddress := false
  hostReady := false
  hostWindow := DEFAULT_HOST_WINDOW
  hostLaneCount := 6
  sessionId := 0
  nextSequence := 0
  highestAcknowledged := -1
  lastHeartbeatNanos := 0
  lastHostSendNanos := 0
  lastControlReceiveNanos := 0
  retained := .empty
  unacknowledged := []
  retired := []

def activeContactCount (p : UdpTransport) : Nat := p.retained.items.countP Contact.touching

def enqueueFrameLocked (s : TouchSample) (now : Int) (p : UdpTransport) : UdpTransport :=
  let frame : TouchFrame :=
    { session_id := p.sessionId
      sequence := p.nextSequence
      phone_event_nanos := s.eventNanos
      phone_callback_nanos := s.callbackNanos
      phone_send_nanos := 0
      echo_host_send_nanos := 0
      phone_control_receive_nanos := 0
      action := s.action
      action_pointer_id := s.actionPointerId
      flags := s.flags
      contacts := s.contacts }
  { p with
    nextSequence := p.nextSequence + 1
    unacknowledged := p.unacknowledged ++ [⟨frame, now, 0, 0⟩] }

/-- A sample of the surface; without a session only its contacts are kept. -/
def offerFrame (s : TouchSample) (now : Int) (p : UdpTransport) : UdpTransport :=
  let p := { p with retained := s.contacts }
  if p.running then p.enqueueFrameLocked { s with sessionStart := false } now else p

/-- The CANCEL that starts a session. -/
def sessionStart (nanos : Nat) : TouchSample :=
  ⟨ACTION_CANCEL, 0, false, true, nanos, nanos, false, .empty⟩

def beginSessionLocked (sessionId nanos : Nat) (now : Int) (p : UdpTransport) : UdpTransport :=
  { p with
    sessionId := sessionId
    nextSequence := 0
    highestAcknowledged := -1
    hostReady := false
    hostAddress := false
    hostWindow := DEFAULT_HOST_WINDOW
    lastHeartbeatNanos := 0
    lastHostSendNanos := 0
    lastControlReceiveNanos := 0
    unacknowledged := [] }.enqueueFrameLocked (sessionStart nanos) now

def closeInternal (p : UdpTransport) : UdpTransport :=
  { p with running := false, hostReady := false, hostAddress := false, unacknowledged := [] }

/-- `open`, once its threads run. -/
def openSession (sessionId nanos : Nat) (now : Int) (p : UdpTransport) : UdpTransport :=
  { p.closeInternal.beginSessionLocked sessionId nanos now with running := true }

/-! ## The writer -/

def heartbeat (nanos : Nat) (retained : Contacts) : TouchSample :=
  ⟨ACTION_HEARTBEAT, 0, true, false, nanos, nanos, false, retained⟩

def maybeEnqueueHeartbeatLocked (now : Int) (p : UdpTransport) : UdpTransport :=
  if !p.hostReady || p.activeContactCount = 0 || !p.unacknowledged.isEmpty ||
      now - p.lastHeartbeatNanos < ACTIVE_HEARTBEAT_NANOS then p
  else { p with lastHeartbeatNanos := now }.enqueueFrameLocked (heartbeat now.toNat p.retained) now

/-- The position of the packet to send. A packet whose two copies are 2 ms old goes before new ones. -/
def nextPacketToWriteLocked (now : Int) (p : UdpTransport) : Option Nat :=
  let allowed := p.unacknowledged.take (if p.hostReady then p.hostWindow else 1)
  (allowed.findIdx? fun packet =>
    packet.sendCount ≥ INITIAL_SEND_COPIES && now - packet.lastSentNanos ≥ RETRANSMIT_NANOS).orElse fun _ =>
      allowed.findIdx? fun packet => packet.sendCount < INITIAL_SEND_COPIES

/-- The frame as it goes out at `now`. -/
def preparePacketForWriteLocked (frame : TouchFrame) (now : Int) (p : UdpTransport) : TouchFrame :=
  { frame with
    phone_send_nanos := now.toNat
    echo_host_send_nanos := p.lastHostSendNanos
    phone_control_receive_nanos := p.lastControlReceiveNanos.toNat }

/-- One turn of the writer: the frame sent, if any. -/
def writerTurn (now : Int) (p : UdpTransport) : Option TouchFrame × UdpTransport :=
  let p := p.maybeEnqueueHeartbeatLocked now
  if !p.hostAddress then (none, p)
  else
    match p.nextPacketToWriteLocked now with
    | none => (none, p)
    | some index =>
      match p.unacknowledged[index]? with
      | none => (none, p)
      | some packet =>
        let sent := { packet with sendCount := packet.sendCount + 1, lastSentNanos := now }
        (some (p.preparePacketForWriteLocked packet.frame now),
          { p with unacknowledged := p.unacknowledged.set index sent })

/-! ## Control records -/

/-- A `u64` of the record, read as a `long`. -/
def signed (n : Nat) : Int := if n < 2 ^ 63 then n else n - 2 ^ 64

def acknowledgeLocked (acknowledgedSequence : Int) (p : UdpTransport) : UdpTransport :=
  if acknowledgedSequence < 0 ∨ acknowledgedSequence ≤ p.highestAcknowledged then p
  else if acknowledgedSequence ≥ p.nextSequence then p
  else
    let retires := fun packet : PendingPacket =>
      packet.frame.session_id = p.sessionId && decide ((packet.frame.sequence : Int) ≤ acknowledgedSequence)
    { p with
      highestAcknowledged := acknowledgedSequence
      unacknowledged := p.unacknowledged.dropWhile retires
      retired := p.retired ++ (p.unacknowledged.takeWhile retires).map (·.frame) }

/-- A control record of the pinned host. -/
def handleControl (type : UInt8) (lanes session acknowledged requestedWindow hostSendNanos : Nat) (receive : Int)
    (p : UdpTransport) : UdpTransport :=
  if !p.running || session ≠ p.sessionId || (type ≠ HOST_HELLO_TYPE && type ≠ HOST_ACK_TYPE) then p
  else
    let p :=
      if type = HOST_HELLO_TYPE || !p.hostReady then
        { p with
          hostWindow := max 1 (min MAX_HOST_WINDOW requestedWindow)
          hostLaneCount := if 1 ≤ lanes ∧ lanes ≤ 16 then lanes else p.hostLaneCount
          hostReady := true }
      else p
    { p with lastHostSendNanos := hostSendNanos, lastControlReceiveNanos := receive }.acknowledgeLocked
      (signed acknowledged)

/-! ## What is pending -/

/-- Every pending packet is of the session, and only frame zero starts it. -/
def Queued (p : UdpTransport) : Prop :=
  ∀ packet ∈ p.unacknowledged, packet.frame.session_id = p.sessionId ∧
    (packet.frame.session_start = true → packet.frame.sequence = 0)

end UdpTransport

end Trackpad.Legacy
