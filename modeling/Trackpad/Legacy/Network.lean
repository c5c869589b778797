import Trackpad.Input
import Trackpad.Legacy.Datagram
/-!
# The version 4 socket

`network.rs`: the host answers the HELLO of a phone and reads the frames of that phone until another HELLO takes over. Each
turn of its two loops gets a `Poll`: what the clock, the socket and the routing of the system answer in that turn.
-/

namespace Trackpad.Legacy

/-- A `SocketAddr`; the host only binds IPv4. -/
structure SocketAddr where
  ip : UInt32
  port : Nat
deriving DecidableEq

/-- The interface that a peer was found behind. `verify_peer` asks the system about the rest of its identity. -/
structure TetherBinding where
  interface_index : Nat
deriving DecidableEq

def TetherBinding.accepts_ingress_interface (b : TetherBinding) (interface_index : Option Nat) : Bool :=
  interface_index = some b.interface_index

structure Datagram where
  bytes : Bytes
  peer : SocketAddr
  ingress_interface : Option Nat
deriving DecidableEq

/-- What `receive_datagram` gives. A read that would block is one that timed out. -/
inductive Received
  | timed_out
  | error (error : IoError)
  | datagram (datagram : Datagram)

structure Poll where
  expired : Bool
  received : Received
  /-- The deadline, once nothing had come. -/
  expired_later : Bool
  /-- What `classify_peer` says of the sender. -/
  classified : Except IoError (Option TetherBinding)
  verified : Except IoError Unit
  local_addr : Except IoError Unit
  copies : Except IoError Nat × Except IoError Nat
  read_timeout : Except IoError Unit
  now : Nat

/-! ## Sending -/

/-- One copy in `send_redundant`: whether one was delivered, and the first error. -/
def send_copy (length : Nat) : Bool × Option IoError → Except IoError Nat → Bool × Option IoError
  | (delivered, first_error), .ok sent =>
    if sent = length then (true, first_error)
    else
      (delivered, first_error.or
        (some ⟨.WriteZero, "short UDP datagram write: " ++ toString sent ++ "/" ++ toString length⟩))
  | (delivered, first_error), .error e => (delivered, first_error.or (some e))

def send_redundant (bytes : Bytes) (copies : Except IoError Nat × Except IoError Nat) : Except IoError Unit :=
  let (delivered, first_error) := send_copy bytes.length (send_copy bytes.length (false, none) copies.1) copies.2
  if delivered then .ok () else .error (first_error.getD (.other "UDP datagram write failed"))

/-! ## Discovery -/

def discovery_port_acceptable (advertised_port listening_port : Nat) : Bool :=
  advertised_port = 0 || advertised_port = listening_port

def discovery_timeout (port : Nat) : IoError :=
  ⟨.TimedOut, "no USB-tethered phone discovered on UDP port " ++ toString port⟩

def frame_session (bytes : Bytes) : Option Nat := if bytes.length < 16 then none else some (read_u64 bytes 8).toNat

/-- `port` is that of the socket. -/
structure UdpConnection where
  port : Nat
  peer : SocketAddr
  binding : TetherBinding
  discovery_nonce : Nat
  discovery_session_id : Nat
  session_changed : Bool
  last_peer_activity : Nat

/-- A HELLO that was answered. -/
structure Hello where
  datagram : Datagram
  message : DiscoveryMessage
deriving DecidableEq

/-- A datagram in `connect_if`: the connection, if it is a HELLO that is answered. -/
def answer_first (port : Nat) (p : Poll) (d : Datagram) : Except IoError (Option (Hello × UdpConnection)) :=
  match decode_discovery d.bytes with
  | none => .ok none
  | some message =>
    if message.kind ≠ DISCOVERY_HELLO then .ok none
    else if !discovery_port_acceptable message.port port then .ok none
    else
      match p.classified with
      | .error e => .error e
      | .ok none => .ok none
      | .ok (some binding) =>
        if !binding.accepts_ingress_interface d.ingress_interface then .ok none
        else
          match send_redundant (encode_discovery DISCOVERY_ACK message.nonce message.session_id port) p.copies,
            p.read_timeout with
          | .error e, _ => .error e
          | .ok (), .error e => .error e
          | .ok (), .ok () =>
            .ok (some (⟨d, message⟩,
              { port := port
                peer := d.peer
                binding := binding
                discovery_nonce := message.nonce
                discovery_session_id := message.session_id
                session_changed := false
                last_peer_activity := p.now }))

def connect_loop (port : Nat) : List Poll → Loop (Except IoError (Hello × UdpConnection))
  | [] => .unfinished
  | p :: polls =>
    if p.expired then .finished (.error (discovery_timeout port))
    else
      match p.received with
      | .timed_out => if p.expired_later then .finished (.error (discovery_timeout port)) else connect_loop port polls
      | .error e => .finished (.error e)
      | .datagram d =>
        match answer_first port p d with
        | .error e => .finished (.error e)
        | .ok none => connect_loop port polls
        | .ok (some connected) => .finished (.ok connected)

def connect_if (port : Nat) (read_timeout : Except IoError Unit) (polls : List Poll) :
    Loop (Except IoError (Hello × UdpConnection)) :=
  match read_timeout with
  | .error e => .finished (.error e)
  | .ok () => connect_loop port polls

namespace UdpConnection

/-- `take_session_changed`. -/
def take_session_changed (c : UdpConnection) : Bool × UdpConnection := (c.session_changed,
    { c with session_changed := false })

def note_valid_peer_activity (now : Nat) (c : UdpConnection) : UdpConnection := { c with last_peer_activity := now }

def adopt_discovery (nonce session_id now : Nat) (c : UdpConnection) : UdpConnection :=
  { c with
    discovery_session_id := session_id
    session_changed := c.session_changed || session_id ≠ c.discovery_session_id
    discovery_nonce := nonce
    last_peer_activity := now }

def discovery_compatible (nonce session_id : Nat) (c : UdpConnection) : Bool :=
  session_id ≠ c.discovery_session_id || nonce = c.discovery_nonce

/-- A datagram in `read` that is no frame of the peer. The source has this twice, for the peer itself and for any other
sender of its address. -/
def answer_again (allow_discovery : Bool) (p : Poll) (d : Datagram) (c : UdpConnection) :
    Except IoError (Option (Hello × UdpConnection)) :=
  if !allow_discovery then .ok none
  else
    match decode_discovery d.bytes with
    | none => .ok none
    | some message =>
      if message.kind ≠ DISCOVERY_HELLO then .ok none
      else if d.peer.ip ≠ c.peer.ip then .ok none
      else
        match p.local_addr with
        | .error e => .error e
        | .ok () =>
          if !discovery_port_acceptable message.port c.port then .ok none
          else if !c.discovery_compatible message.nonce message.session_id then .ok none
          else
            match p.verified, send_redundant (encode_discovery DISCOVERY_ACK message.nonce message.session_id c.port)
              p.copies with
            | .error e, _ => .error e
            | .ok (), .error e => .error e
            | .ok (), .ok () =>
              .ok (some (⟨d, message⟩, { c with peer := d.peer }.adopt_discovery message.nonce message.session_id p.now))

/-- The frame that came, if any, and the HELLOs that were answered before it, the last first. -/
def read (allow_discovery : Bool) : List Poll → UdpConnection → List Hello →
    Loop (Except IoError (Option Datagram)) × UdpConnection × List Hello
  | [], c, answered => (.unfinished, c, answered)
  | p :: polls, c, answered =>
    if p.expired then (.finished (.ok none), c, answered)
    else
      match p.received with
      | .timed_out => (.finished (.ok none), c, answered)
      | .error e => (.finished (.error e), c, answered)
      | .datagram d =>
        if !c.binding.accepts_ingress_interface d.ingress_interface then read allow_discovery polls c answered
        else if d.peer = c.peer ∧ d.bytes.take 4 = FRAME_MAGIC then
          if frame_session d.bytes = some c.discovery_session_id then (.finished (.ok (some d)), c, answered)
          else read allow_discovery polls c answered
        else
          match c.answer_again allow_discovery p d with
          | .error e => (.finished (.error e), c, answered)
          | .ok none => read allow_discovery polls c answered
          | .ok (some (hello, c)) => read allow_discovery polls c (hello :: answered)

end UdpConnection

/-! ## What is answered -/

/-- The HELLO of a phone that looks for this port. -/
structure Greets (port : Nat) (h : Hello) : Prop where
  decoded : decode_discovery h.datagram.bytes = some h.message
  kind : h.message.kind = DISCOVERY_HELLO
  port : discovery_port_acceptable h.message.port port = true

theorem answer_first_some {port : Nat} {p : Poll} {d : Datagram} {h : Hello} {c : UdpConnection}
    (hanswer : answer_first port p d = .ok (some (h, c))) :
    Greets port h ∧ c.binding.accepts_ingress_interface h.datagram.ingress_interface = true ∧
    c = ⟨port, h.datagram.peer, c.binding, h.message.nonce, h.message.session_id, false, p.now⟩ := by
  unfold answer_first at hanswer
  split at hanswer
  · cases hanswer
  rename_i message hdecode
  split at hanswer
  · cases hanswer
  rename_i hkind
  split at hanswer
  · cases hanswer
  rename_i hport
  split at hanswer
  · cases hanswer
  · cases hanswer
  rename_i binding _
  split at hanswer
  · cases hanswer
  rename_i hingress
  split at hanswer
  · cases hanswer
  · cases hanswer
  · cases hanswer
    exact ⟨⟨hdecode, not_not.1 hkind, by simpa using hport⟩, by simpa using hingress, rfl⟩

theorem connect_loop_ok {port : Nat} {polls : List Poll} {h : Hello} {c : UdpConnection}
    (hconnect : connect_loop port polls = .finished (.ok (h, c))) :
    Greets port h ∧ c.binding.accepts_ingress_interface h.datagram.ingress_interface = true ∧
    ∃ now, c = ⟨port, h.datagram.peer, c.binding, h.message.nonce, h.message.session_id, false, now⟩ := by
  induction polls with
  | nil => cases hconnect
  | cons p polls ih =>
    unfold connect_loop at hconnect
    split at hconnect
    · cases hconnect
    split at hconnect
    · split at hconnect
      · cases hconnect
      · exact ih hconnect
    · cases hconnect
    split at hconnect
    · cases hconnect
    · exact ih hconnect
    · rename_i hanswer
      cases hconnect
      obtain ⟨hgreets, hingress, hc⟩ := answer_first_some hanswer
      exact ⟨hgreets, hingress, p.now, hc⟩

theorem connect_if_ok {port : Nat} {read_timeout : Except IoError Unit} {polls : List Poll} {h : Hello} {c : UdpConnection}
    (hconnect : connect_if port read_timeout polls = .finished (.ok (h, c))) :
    Greets port h ∧ c.binding.accepts_ingress_interface h.datagram.ingress_interface = true ∧
    ∃ now, c = ⟨port, h.datagram.peer, c.binding, h.message.nonce, h.message.session_id, false, now⟩ := by
  unfold connect_if at hconnect
  split at hconnect
  · cases hconnect
  · exact connect_loop_ok hconnect

/-- What answering a HELLO of the same address does to the connection. -/
theorem answer_again_some {allow_discovery : Bool} {p : Poll} {d : Datagram} {h : Hello} {c c' : UdpConnection}
    (hanswer : c.answer_again allow_discovery p d = .ok (some (h, c'))) :
    allow_discovery = true ∧ h.datagram = d ∧ Greets c.port h ∧ d.peer.ip = c.peer.ip ∧
    (h.message.session_id = c.discovery_session_id → h.message.nonce = c.discovery_nonce) ∧
    c' = { c with peer := d.peer }.adopt_discovery h.message.nonce h.message.session_id p.now := by
  unfold UdpConnection.answer_again at hanswer
  split at hanswer
  · cases hanswer
  rename_i hallow
  split at hanswer
  · cases hanswer
  rename_i message hdecode
  split at hanswer
  · cases hanswer
  rename_i hkind
  split at hanswer
  · cases hanswer
  rename_i hip
  split at hanswer
  · cases hanswer
  split at hanswer
  · cases hanswer
  rename_i hport
  split at hanswer
  · cases hanswer
  rename_i hcompatible
  split at hanswer
  · cases hanswer
  · cases hanswer
  · cases hanswer
    refine ⟨by simpa using hallow, rfl, ⟨hdecode, not_not.1 hkind, by simpa using hport⟩, not_not.1 hip, ?_, rfl⟩
    intro hsession
    have hnonce := by simpa [UdpConnection.discovery_compatible] using hcompatible
    exact hnonce hsession

end Trackpad.Legacy
