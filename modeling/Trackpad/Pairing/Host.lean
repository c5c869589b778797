import Trackpad.Host
import Trackpad.Sas
import Trackpad.Pairing.Ends
/-!
# The host during pairing

`pair` from the end of the handshake on. Both of its loops read the command channel at the head of an iteration
and the socket at its end; each half is one step, so that the phone and both users may act between any two of
them. What a half observes besides is an argument; one reading of the clock stands for those of a half. A
failure of the network is the failure of a send or of the receive: a record that is lost was sent.
-/

namespace Trackpad.Pairing

open V5Host Sas

def APPLICATION_RETRY : Nat := 100000000
def QUALITY_INTERVAL : Nat := 20000000
def QUALITY_DURATION : Nat := 3000000000
def INTERFACE_REVALIDATE : Nat := 500000000

/-- `mpsc::TryRecvError`. -/
inductive TryRecvError
  | Empty
  | Disconnected

/-- The channel of the pairing commands, from its receiving end. -/
structure Receiver where
  queue : List PairCommand
  disconnected : Bool

def Receiver.try_recv (r : Receiver) : Except TryRecvError PairCommand × Receiver :=
  match r.queue with
  | command :: queue => (.ok command, { r with queue := queue })
  | [] => (.error (if r.disconnected then .Disconnected else .Empty), r)

/-- The locals of `wait_for_application`. -/
structure Waiting where
  last_send : Nat
  last_interface_check : Nat

/-- The locals of the loop that waits for the confirmation and the approval; `now` and `quality_done` are those of
the last iteration. -/
structure Comparison where
  phone_commitment : Bytes
  phone_random : Bytes
  host_random : Bytes
  quality_started : Nat
  next_probe : Nat
  next_probe_id : Nat
  remote_confirmed : Bool
  local_approved : Bool
  last_reveal_send : Nat
  last_interface_check : Nat
  now : Nat
  quality_done : Bool

inductive HostLoop
  | Commitment (w : Waiting)
  | Reveal (phone_commitment host_random : Bytes) (w : Waiting)
  | Comparing (c : Comparison)

inductive HostPhase
  /-- At the head of an iteration. -/
  | Polling (loop : HostLoop)
  /-- Before its receive. -/
  | Receiving (loop : HostLoop)
  /-- In the loop of `sas_pattern`. -/
  | Hashing
  | Ended (result : Except HostV5Error Unit)

abbrev Host : Type := Party HostPhase Receiver

/-- What the first half of an iteration observes: `interface` is why the interface is not valid any more, `failure` how
the sends fail and `stamps` when the two copies of a probe are sealed, since the pattern was shown. -/
structure Polled where
  now : Nat
  interface : Option String
  failure : Option IoError
  stamps : Nat × Nat

/-- What the second half observes besides a record: the random bytes drawn, how long the pattern may be looked for, how
saving the credentials fails and how the sends do, the completion's two sends apart. -/
structure Observed where
  now : Nat
  random : Option { random : Bytes // random.length = 32 }
  fuel : Nat
  unsaved : Option String
  failure : Option IoError
  uncompleted : Option IoError
  uncompleted_again : Option IoError

structure QualityReply where
  probe_id : UInt64
  host_send_nanos : UInt64
  phone_receive_nanos : UInt64
  phone_send_nanos : UInt64
  repair_only : Bool
  signal_level : Int
  rssi_dbm : Int
  frequency_mhz : UInt32

def decode_quality_reply (record : OpenedRecord) : Except WireError QualityReply :=
  if record.header.direction ≠ .PhoneToHost ∨ record.header.message_type ≠ PHONE_QUALITY_REPLY ∨
      record.header.session_id ≠ 0 ∨ record.header.flags ≠ 0 ∨ record.payload.length ≠ 32 then
    .error .BadMessage
  else
    let repair := record.payload.getD 24 0
    let signal_level := (record.payload.getD 25 0).toBitVec.toInt
    if repair > 1 ∨ (signal_level ≠ -1 ∧ ¬ (0 ≤ signal_level ∧ signal_level ≤ 4)) then .error .BadMessage
    else .ok {
      probe_id := record.header.logical_id
      host_send_nanos := read_u64 record.payload 0
      phone_receive_nanos := read_u64 record.payload 8
      phone_send_nanos := read_u64 record.payload 16
      repair_only := repair = 1
      signal_level := signal_level
      rssi_dbm := read_i16 record.payload 26
      frequency_mhz := read_u32 record.payload 28 }

variable (s : Session)

namespace Host

def note (e : Event) (h : Host) : Host := { h with log := e :: h.log }

def fail (e : HostV5Error) (h : Host) : Host := h.go (.Ended (.error e))

/-! ## Sending -/

def seal_record (message_type : UInt8) (logical_id : UInt64) (flags : UInt32) (payload : Bytes) (h : Host) : Host :=
  h.note (.HostSent
    (sealed_record s .HostToPhone (host_records h.log).length message_type logical_id flags payload))

def send_record_once (message_type : UInt8) (logical_id : UInt64) (flags : UInt32) (payload : Bytes)
    (failure : Option IoError) (next : Host → Host) (h : Host) : Host :=
  match failure with
  | some e => h.fail (.Io e)
  | none => next (h.seal_record s message_type logical_id flags payload)

/-- Two copies. It fails when neither goes out. -/
def send_record_redundant (message_type : UInt8) (logical_id : UInt64) (flags : UInt32) (payload : Bytes)
    (failure : Option IoError) (next : Host → Host) (h : Host) : Host :=
  match failure with
  | some e => h.fail (.Io e)
  | none =>
    let copy := seal_record s message_type logical_id flags payload
    next (copy (copy h))

def send_abort (reason : Nat) (failure : Option IoError) (next : Host → Host) (h : Host) : Host :=
  h.send_record_redundant s HOST_AUTH_ABORT 0 0 (LittleEndian.encode 2 reason) failure next

def send_quality_probe (probe_id : Nat) (flags : UInt32) (stamps : Nat × Nat) (failure : Option IoError)
    (next : Host → Host) (h : Host) : Host :=
  match failure with
  | some e => h.fail (.Io e)
  | none =>
    let copy := fun stamp => seal_record s HOST_QUALITY_PROBE (.ofNat probe_id) flags (LittleEndian.encode 8 stamp)
    next (copy stamps.2 (copy stamps.1 h))

/-! ## Checks -/

def require_pair_record (record : OpenedRecord) (payload_length : Nat) (next : Host → Host) (h : Host) : Host :=
  if record.header.session_id ≠ 0 ∨ record.header.flags ≠ 0 ∨ record.header.logical_id ≠ 0 ∨
      record.payload.length ≠ payload_length then
    h.fail (.Authentication "malformed pairing control")
  else next h

def require_pair_abort (record : OpenedRecord) (next : Host → Host) (h : Host) : Host :=
  h.require_pair_record record 2 fun h =>
    let reason := (read_u16 record.payload 0).toNat
    if ¬ (1 ≤ reason ∧ reason ≤ 4) then h.fail (.Authentication "malformed authenticated pairing abort") else next h

/-! ## `wait_for_application` -/

def wait_poll (o : Polled) (resume : Waiting → HostLoop) (w : Waiting) (h : Host) : Host :=
  if o.now < s.host_deadline then
    let (command, inbox) := h.inbox.try_recv
    let h : Host := { h with inbox := inbox }
    match command with
    | .ok .Cancel | .error .Disconnected => h.send_abort s 1 o.failure (fail .Cancelled)
    | .ok .Approve | .error .Empty =>
      if o.now - w.last_interface_check ≥ INTERFACE_REVALIDATE then
        match o.interface with
        | some message => h.fail (.Interface message)
        | none => h.go (.Receiving (resume { w with last_interface_check := o.now }))
      else h.go (.Receiving (resume w))
  else h.send_abort s 3 o.failure (fail (.TimedOut "authenticated pairing step expired"))

def wait_retry (o : Observed) (retry : Option (UInt8 × Bytes)) (resume : Waiting → HostLoop) (w : Waiting) (h : Host) :
    Host :=
  match retry with
  | none => h.go (.Polling (resume w))
  | some (message_type, payload) =>
    if o.now - w.last_send ≥ APPLICATION_RETRY then
      h.send_record_redundant s message_type 0 0 payload o.failure
        (Party.go (.Polling (resume { w with last_send := o.now })))
    else h.go (.Polling (resume w))

def wait_receive (o : Observed) (received : Option OpenedRecord) (expected_type : UInt8)
    (retry : Option (UInt8 × Bytes)) (resume : Waiting → HostLoop) (next : OpenedRecord → Host → Host) (w : Waiting)
    (h : Host) : Host :=
  match received with
  | none => h.wait_retry s o retry resume w
  | some record =>
    if record.header.session_id = 0 ∧ record.header.flags = 0 ∧ record.header.message_type = expected_type then
      next record h
    else if record.header.message_type = PHONE_AUTH_ABORT then h.fail .Cancelled
    else h.wait_retry s o retry resume w

/-! ## The commitment and the reveal -/

/-- The phone's commitment is there. -/
def commit (o : Observed) (phone_commitment : OpenedRecord) (h : Host) : Host :=
  h.require_pair_record phone_commitment 32 fun h =>
    match o.random with
    | none => h.fail (.Wire .RandomUnavailable)
    | some host_random =>
      (h.note (.HostDraws host_random.val)).send_record_redundant s HOST_SAS_COMMITMENT 0 0
        (sas_commit s.blake2s 2 s.handshake_hash host_random.val).val o.failure
        (Party.go (.Polling (.Reveal phone_commitment.payload host_random.val ⟨o.now, o.now⟩)))

/-- The pattern is there. -/
def show_pattern (o : Observed) (phone_commitment phone_random host_random : Bytes) (pattern : List UInt8) (h : Host) :
    Host :=
  (h.note (.HostShows pattern o.now)).go (.Polling (.Comparing {
    phone_commitment := phone_commitment
    phone_random := phone_random
    host_random := host_random
    quality_started := o.now
    next_probe := o.now
    next_probe_id := 0
    remote_confirmed := false
    local_approved := false
    last_reveal_send := o.now
    last_interface_check := o.now
    now := o.now
    quality_done := false }))

/-- The phone's reveal is there. -/
def reveal (o : Observed) (phone_commitment host_random : Bytes) (phone_reveal : OpenedRecord) (h : Host) : Host :=
  h.require_pair_record phone_reveal 32 fun h =>
    let phone_random := phone_reveal.payload
    if phone_commitment ≠ (sas_commit s.blake2s 1 s.handshake_hash phone_random).val then
      h.send_abort s 2 o.failure (fail (.Authentication "phone SAS commitment mismatch"))
    else
      h.send_record_redundant s HOST_SAS_REVEAL 0 0 host_random o.failure fun h =>
        match sas_pattern s.blake2s o.fuel (sas_digest s.blake2s s.handshake_hash phone_random host_random) with
        | some pattern => h.show_pattern o phone_commitment phone_random host_random pattern
        | none => h.go .Hashing

/-! ## The comparison -/

def probe (o : Polled) (c : Comparison) (h : Host) : Host :=
  let c := { c with
    now := o.now
    quality_done := s.transport = .Usb || decide (o.now - c.quality_started ≥ QUALITY_DURATION) }
  if s.transport = .Wifi ∧ c.quality_done = false ∧ o.now ≥ c.next_probe then
    let flags := if c.next_probe_id % 10 = 9 then QUALITY_REPAIR_ONLY else 0
    h.send_quality_probe s c.next_probe_id flags o.stamps o.failure
      (Party.go (.Receiving (.Comparing { c with
        next_probe_id := c.next_probe_id + 1
        next_probe := c.next_probe + QUALITY_INTERVAL })))
  else h.go (.Receiving (.Comparing c))

def compare_poll (o : Polled) (c : Comparison) (h : Host) : Host :=
  if o.now < s.host_deadline then
    let (command, inbox) := h.inbox.try_recv
    let h : Host := { h with inbox := inbox }
    match command with
    | .ok .Cancel => h.send_abort s 1 o.failure (fail .Cancelled)
    | .error .Disconnected => h.fail .Cancelled
    | .ok .Approve => check { c with local_approved := true } h
    | .error .Empty => check c h
  else h.send_abort s 3 o.failure (fail (.TimedOut "pairing window expired"))
where
  check (c : Comparison) (h : Host) : Host :=
    if o.now - c.last_interface_check ≥ INTERFACE_REVALIDATE then
      match o.interface with
      | some message => h.fail (.Interface message)
      | none => h.probe s o { c with last_interface_check := o.now }
    else h.probe s o c

end Host

def persist_pairing_if_authorized (remote_confirmed local_approved quality_done : Bool) (unsaved : Option String) :
    Except HostV5Error (Option Unit) :=
  if !remote_confirmed || !local_approved || !quality_done then .ok none
  else
    match unsaved with
    | some message => .error (.Credentials message)
    | none => .ok (some ())

namespace Host

def persist (o : Observed) (c : Comparison) (h : Host) : Host :=
  match persist_pairing_if_authorized c.remote_confirmed c.local_approved c.quality_done o.unsaved with
  | .error e => h.fail e
  | .ok none => h.go (.Polling (.Comparing c))
  | .ok (some ()) =>
    (h.note (.HostPersists s.phone_key c.now)).send_record_redundant s HOST_PAIR_COMPLETE 0 0 [] o.uncompleted fun h =>
      h.send_record_once s HOST_PAIR_COMPLETE 0 0 [] o.uncompleted_again (Party.go (.Ended (.ok ())))

def settle (o : Observed) (c : Comparison) (h : Host) : Host :=
  if c.remote_confirmed = false ∧ o.now - c.last_reveal_send ≥ APPLICATION_RETRY then
    h.send_record_redundant s HOST_SAS_REVEAL 0 0 c.host_random o.failure
      (persist s o { c with last_reveal_send := o.now })
  else h.persist s o c

def compare_receive (o : Observed) (received : Option OpenedRecord) (c : Comparison) (h : Host) : Host :=
  match received with
  | none => h.settle s o c
  | some record =>
    if record.header.session_id ≠ 0 ∨ record.header.flags ≠ 0 then h.go (.Polling (.Comparing c))
    else if record.header.message_type = PHONE_PAIR_CONFIRM then
      h.require_pair_record record 0 (settle s o { c with remote_confirmed := true })
    else if record.header.message_type = PHONE_QUALITY_REPLY ∧ s.transport = .Wifi then
      match decode_quality_reply record with
      | .error e => h.fail (.Wire e)
      | .ok _ => h.settle s o c
    else if record.header.message_type = PHONE_SAS_COMMITMENT then
      h.require_pair_record record 32 fun h =>
        if record.payload ≠ c.phone_commitment then h.fail (.Authentication "phone changed its SAS commitment")
        else h.settle s o c
    else if record.header.message_type = PHONE_SAS_REVEAL then
      h.require_pair_record record 32 fun h =>
        if record.payload ≠ c.phone_random then h.fail (.Authentication "phone changed its SAS reveal")
        else h.settle s o c
    else if record.header.message_type = PHONE_AUTH_ABORT then h.require_pair_abort record (fail .Cancelled)
    else h.fail (.Authentication "unexpected authenticated pairing record")

/-! ## The halves of an iteration -/

def poll (o : Polled) (h : Host) : Host :=
  match h.phase with
  | .Polling (.Commitment w) => h.wait_poll s o .Commitment w
  | .Polling (.Reveal phone_commitment host_random w) => h.wait_poll s o (.Reveal phone_commitment host_random) w
  | .Polling (.Comparing c) => h.compare_poll s o c
  | _ => h

/-- The receive fails, or it returns the next record that opens, if there is one. -/
def receive (o : Observed) (received : Except IoError (Option OpenedRecord)) (h : Host) : Host :=
  match h.phase, received with
  | .Receiving _, .error e => h.fail (.Io e)
  | .Receiving (.Commitment w), .ok record =>
    h.wait_receive s o record PHONE_SAS_COMMITMENT none .Commitment (commit s o) w
  | .Receiving (.Reveal phone_commitment host_random w), .ok record =>
    h.wait_receive s o record PHONE_SAS_REVEAL
      (some (HOST_SAS_COMMITMENT, (sas_commit s.blake2s 2 s.handshake_hash host_random).val))
      (.Reveal phone_commitment host_random) (reveal s o phone_commitment host_random) w
  | .Receiving (.Comparing c), .ok record => h.compare_receive s o record c
  | _, _ => h

end Host
end Trackpad.Pairing
