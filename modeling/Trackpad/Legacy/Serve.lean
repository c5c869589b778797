import Trackpad.Legacy.Host
import Trackpad.Legacy.Network
/-!
# The version 4 controller

`serve_connection` and the loop of `run` around it. Every call that waits or may fail gets its answers from the turn or the
pass it is in. The log is what the host did, the last first.
-/

namespace Trackpad.Legacy

def ACTIVE_INPUT_SILENCE_TIMEOUT : Nat := 32000000
def IDLE_PEER_SILENCE_TIMEOUT : Nat := 2000000000

/-- `held` is whether the sink held input at that moment. -/
inductive Notice
  | Connected (hello : Hello) (binding : TetherBinding) (held : Bool)
  | Rejoined (hello : Hello) (held : Bool)
  | Took (datagram : Datagram)
  | Applied (frame : TouchFrame)
  | Wrote (peer : SocketAddr) (control : Control)
  | GaveUp

/-- What outlives a connection. -/
structure LegacyHost (σ : Type) where
  ordered : OrderedFrames
  sink : σ
  /-- `FrameParser.incompatible_version`. -/
  incompatible_version : Option UInt8
  log : List Notice

def LegacyHost.new {σ : Type} (sink : σ) : LegacyHost σ := ⟨.new, sink, none, []⟩

structure ServeConnection (σ : Type) extends LegacyHost σ where
  control : ControlState
  connection : UdpConnection

/-- The answers to one turn of the loop of `serve_connection`. -/
structure ServeTurn where
  stopping : Bool
  idle_now : Nat
  active_now : Nat
  service : Submission
  polls : List Poll
  /-- The release after a watchdog or a change of session, and the clock after it. -/
  release : Submission
  released_now : Nat
  noted_now : Nat
  turn : Turn

variable {σ : Type} [InputSink σ]

def idle_peer_timed_out (has_active_input : Bool) (peer_silence : Nat) : Bool :=
  !has_active_input && peer_silence ≥ IDLE_PEER_SILENCE_TIMEOUT

/-- `decode_datagram`: the version it saw, if it is not this one, and the frame. -/
def decode_datagram (bytes : Bytes) (incompatible_version : Option UInt8) :
    Option UInt8 × Except ProtocolError TouchFrame :=
  (if bytes.length > 4 ∧ bytes.take 4 = FRAME_MAGIC ∧ bytes.getD 4 0 ≠ PROTOCOL_VERSION then some (bytes.getD 4 0)
    else incompatible_version, decode_frame bytes)

/-- Only a frame that decodes counts as activity. -/
def UdpConnection.note_decoded (decoded : Except ProtocolError TouchFrame) (now : Nat) (c : UdpConnection) :
    UdpConnection :=
  match decoded with
  | .ok _ => c.note_valid_peer_activity now
  | .error _ => c

/-- The frames applied since the trace was empty. -/
def noted (trace : List Event) (log : List Notice) : List Notice := (applied trace).map .Applied ++ log

namespace ServeConnection

/-- The watchdogs, and what the sink deferred. -/
def check (t : ServeTurn) (s : ServeConnection σ) : Loop (Except IoError Unit) × ServeConnection σ :=
  if idle_peer_timed_out (InputSink.has_active_input s.sink) (t.idle_now - s.connection.last_peer_activity) then
    (.finished (.error ⟨.TimedOut, "phone sent no valid peer activity for 2000 ms; returning to discovery"⟩),
      { s with ordered := .require_fresh_session })
  else if InputSink.has_active_input s.sink ∧
      t.active_now - s.control.last_committed_frame ≥ ACTIVE_INPUT_SILENCE_TIMEOUT then
    match cancel_with_deadline t.release.started t.release.attempts s.sink with
    | (.unfinished, sink) => (.unfinished, { s with ordered := .require_fresh_session, sink := sink })
    | (.finished (.error e), sink) => (.finished (.error e), { s with ordered := .require_fresh_session, sink := sink })
    | (.finished (.ok ()), sink) =>
      (.finished (.error ⟨.TimedOut,
        "phone input made no committed progress for 32 ms; released held input and require a fresh session"⟩),
        { s with ordered := .require_fresh_session, sink := sink })
  else
    let (result, sink) := service_deferred t.service s.sink
    (result, { s with sink := sink })

/-- The read of a turn. HELLOs are only answered while no input is held. -/
def receive (t : ServeTurn) (s : ServeConnection σ) : Loop (Except IoError (Option Datagram)) × ServeConnection σ :=
  let held := InputSink.has_active_input s.sink
  match s.connection.read (!held) t.polls [] with
  | (result, connection, answered) =>
    (result, { s with connection := connection, log := answered.map (.Rejoined · held) ++ s.log })

/-- A HELLO began another session: the sink lets go and nothing of the old one is kept. -/
def change_session (t : ServeTurn) (s : ServeConnection σ) : Loop (Except IoError Unit) × ServeConnection σ :=
  match s.connection.take_session_changed with
  | (false, connection) => (.finished (.ok ()), { s with connection := connection })
  | (true, connection) =>
    match cancel_with_deadline t.release.started t.release.attempts s.sink with
    | (.finished (.ok ()), sink) =>
      (.finished (.ok ()),
        { s with
          ordered := .require_fresh_session
          sink := sink
          connection := connection
          control := { s.control with hello_session := none, last_ack := none, last_committed_frame := t.released_now } })
    | (result, sink) =>
      (result, { s with ordered := .require_fresh_session, sink := sink, connection := connection })

/-- What becomes of a frame that was read. -/
def handle (t : ServeTurn) (d : Datagram) (s : ServeConnection σ) : Loop (Except IoError Unit) × ServeConnection σ :=
  let s := { s with log := .Took d :: s.log }
  match decode_datagram d.bytes s.incompatible_version with
  | (some version, _) =>
    (.finished (.error ⟨.InvalidData, "phone is sending protocol v" ++ toString version ++
      "; install the matching protocol-v4 alpha APK"⟩), { s with incompatible_version := none })
  | (none, decoded) =>
    let s := { s with
      incompatible_version := none
      connection := s.connection.note_decoded decoded t.noted_now }
    match process_decoded_frame decoded.toOption t.turn ⟨s.ordered, s.sink, []⟩ s.control with
    | (result, i, control, record) =>
      (result,
        { s with
          ordered := i.ordered
          sink := i.sink
          control := control
          log := (record.map (.Wrote s.connection.peer)).toList ++ noted i.trace s.log })

/-- One turn of the loop, once the stop flag was read as clear. -/
def turn (t : ServeTurn) (s : ServeConnection σ) : Loop (Except IoError Unit) × ServeConnection σ :=
  match check t s with
  | (.finished (.ok ()), s) =>
    match receive t s with
    | (.unfinished, s) => (.unfinished, s)
    | (.finished (.error e), s) => (.finished (.error e), s)
    | (.finished (.ok received), s) =>
      match change_session t s with
      | (.finished (.ok ()), s) =>
        match received with
        | none => (.finished (.ok ()), s)
        | some d => handle t d s
      | (result, s) => (result, s)
  | (result, s) => (result, s)

def serve_connection : List ServeTurn → ServeConnection σ → Loop (Except IoError Unit) × ServeConnection σ
  | [], s => (.unfinished, s)
  | t :: turns, s =>
    if t.stopping then (.finished (.ok ()), s)
    else
      match turn t s with
      | (.finished (.ok ()), s) => serve_connection turns s
      | (result, s) => (result, s)

end ServeConnection

/-! ## Connections one after the other -/

/-- Of the options, what the loop reads. -/
structure LegacyOptions where
  linux : Bool
  local_only_tether : Bool
  udp_port : Nat
  lane_count : Nat

/-- The answers to one pass of the loop of `run`. -/
structure LegacyPass where
  stopping : Bool
  /-- The refresh of the route policy, on Windows. -/
  policy : Except IoError Unit
  release : Submission
  read_timeout : Except IoError Unit
  polls : List Poll
  route_protected : Except IoError Unit
  revalidated : Except IoError Unit
  control_now : Nat
  turns : List ServeTurn
  shutdown : Bool
  recovery : Submission

/-- How a pass ends: the loop continues, it breaks, or `run` returns. -/
inductive Flow
  | continued
  | broken
  | returned

namespace LegacyHost

def release (s : Submission) (h : LegacyHost σ) : Loop (Except IoError Unit) × LegacyHost σ :=
  match cancel_with_deadline s.started s.attempts h.sink with
  | (result, sink) => (result, { h with sink := sink })

/-- A connection from `serve_connection` on. The stop flag stays set, so the loop ends where that returned for it. -/
def serve (o : LegacyOptions) (p : LegacyPass) (c : UdpConnection) (h : LegacyHost σ) : Loop Flow × LegacyHost σ :=
  match ServeConnection.serve_connection p.turns
    ⟨{ h with incompatible_version := none }, .new o.lane_count p.control_now, c⟩ with
  | (.unfinished, s) => (.unfinished, s.toLegacyHost)
  | (.finished (.ok ()), s) => (.finished .broken, s.toLegacyHost)
  | (.finished (.error _), s) =>
    let h := { s.toLegacyHost with log := .GaveUp :: s.log }
    if p.shutdown then (.finished .broken, h)
    else
      match release p.recovery { h with ordered := .require_fresh_session } with
      | (.unfinished, h) => (.unfinished, h)
      | (.finished _, h) => (.finished .continued, h)

/-- The part of a pass after the sink has let go. -/
def search (o : LegacyOptions) (p : LegacyPass) (h : LegacyHost σ) : Loop Flow × LegacyHost σ :=
  match connect_if o.udp_port p.read_timeout p.polls with
  | .unfinished => (.unfinished, h)
  | .finished (.error e) =>
    (.finished (if o.linux ∧ o.local_only_tether ∧ e.kind = .PermissionDenied then .returned else .continued), h)
  | .finished (.ok (hello, c)) =>
    let h := { h with log := .Connected hello c.binding (InputSink.has_active_input h.sink) :: h.log }
    match p.route_protected, p.revalidated with
    | .error e, _ =>
      (.finished (if e.kind = .PermissionDenied then .returned else .continued), { h with log := .GaveUp :: h.log })
    | .ok (), .error _ => (.finished .continued, { h with log := .GaveUp :: h.log })
    | .ok (), .ok () => serve o p c h

def pass (o : LegacyOptions) (p : LegacyPass) (h : LegacyHost σ) : Loop Flow × LegacyHost σ :=
  match p.policy with
  | .error _ => (.finished .returned, h)
  | .ok () =>
    if InputSink.has_active_input h.sink then
      match h.release p.release with
      | (.unfinished, h) => (.unfinished, h)
      | (.finished (.error _), h) => (.finished .continued, h)
      | (.finished (.ok ()), h) => search o p h
    else search o p h

/-- The loop of `run`, and the release after it. -/
def run_legacy (o : LegacyOptions) (last : Submission) : List LegacyPass → LegacyHost σ → LegacyHost σ
  | [], h => h
  | p :: passes, h =>
    if p.stopping then (h.release last).2
    else
      match pass o p h with
      | (.finished .continued, h) => run_legacy o last passes h
      | (.finished .broken, h) => (h.release last).2
      | (.finished .returned, h) => h
      | (.unfinished, h) => h

end LegacyHost

end Trackpad.Legacy
