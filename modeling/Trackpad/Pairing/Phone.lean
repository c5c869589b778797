import Trackpad.Phone.Transport
import Trackpad.Sas
import Trackpad.Pairing.Ends
/-!
# The phone during pairing

`runInitialPairing` from the end of the handshake on. Each of its loops sends at the head of an iteration and
reads the socket at its end; each half is one step, as on the host. What a half observes besides is an argument.
-/

namespace Trackpad.Pairing

open Sas

def APPLICATION_RETRY_NANOS : Int := 100000000
def INTERFACE_REVALIDATE_NANOS : Int := 500000000
def INITIAL_SEND_COPIES : Nat := 2

/-- The exceptions that end a pairing; the ones of the socket apart from the code's own. -/
inductive PairingException
  | Comparison
  | Io (message : String)
  | Socket (message : String)
  | Protocol (message : String)
  | Credential (message : String)
deriving DecidableEq

/-- The locals of `waitForPairRecord`. -/
structure PairRecordWait where
  nextRetry : Int
  lastInterfaceCheck : Int

/-- What a quality reply is made of: when the host sent the probe and when it arrived. -/
structure Quality where
  hostSend : UInt64
  received : Int

/-- The locals of the loop that waits for the pattern and the completion. -/
structure Matching where
  expectedPattern : List Int
  patternConfirmed : Bool
  lastConfirmSend : Int
  lastInterfaceCheck : Int
  repairs : V5SendQueue Quality
  qualitySeen : List UInt64

inductive PhoneLoop
  | Commitment (phoneRandom phoneCommit : Bytes) (w : PairRecordWait)
  | Reveal (phoneRandom hostCommit : Bytes) (w : PairRecordWait)
  | Comparing (c : Matching)

inductive PhonePhase
  | Starting
  /-- At the head of an iteration. -/
  | Sending (loop : PhoneLoop)
  /-- Before its receive. -/
  | Receiving (loop : PhoneLoop)
  /-- In the loop of `sasPattern`. -/
  | Hashing
  | Ended (result : Except PairingException Unit)

/-- `isPairingActive` and the queue for one submitted pattern. -/
structure PairingInbox where
  active : Bool
  submittedPattern : Option (List Int)

abbrev Phone : Type := Party PhonePhase PairingInbox

/-- How the copies of a record fail to go out: whether the first one did, and the exception. -/
abbrev SendFailure : Type := Option (Bool × String)

/-- What sending one quality reply observes: `getRssi` and `getFrequency`, if there is a connection, when each copy is
sealed and what the clock reads afterwards. -/
structure Replying where
  wifiInfo : Option (Int × Int)
  sendNanos : Int × Int
  failure : SendFailure
  after : Int

/-- What the first half of an iteration observes; the repairs are counted down. -/
structure SendingHalf where
  now : Int
  interfaceValid : Bool
  repairs : Nat → Replying
  failure : SendFailure
  failureAgain : SendFailure

/-- What the second half observes besides a record, and the start. -/
structure ReceivingHalf where
  now : Int
  random : { random : Bytes // random.length = 32 }
  fuel : Nat
  unsaved : Option String
  reply : Replying
  failure : SendFailure

structure SignalInfo where
  level : Int
  rssi : Int
  frequency : Int

def SignalInfo.UNAVAILABLE : SignalInfo := ⟨-1, -32768, 0⟩

/-- `WifiManager.calculateSignalLevel` is the platform's. -/
def currentSignal (calculateSignalLevel : Int → Int → Int) (transport : TransportKind) (wifiInfo : Option (Int × Int)) :
    SignalInfo :=
  match transport, wifiInfo with
  | .Usb, _ | _, none => .UNAVAILABLE
  | .Wifi, some (rssi, frequency) =>
    let rssi := if rssi > 0 ∨ rssi ≤ -127 then -32768 else rssi
    ⟨if rssi = -32768 then -1 else calculateSignalLevel rssi 5, rssi, if frequency < 0 then 0 else frequency⟩

def replyPayload (quality : Quality) (repairOnly : Bool) (signal : SignalInfo) (sendNanos : Int) : Bytes :=
  LittleEndian.encode 8 quality.hostSend.toNat ++ LittleEndian.encode 8 (wireTime quality.received).toNat ++
    LittleEndian.encode 8 (wireTime sendNanos).toNat ++ [if repairOnly then 1 else 0, .ofInt signal.level] ++
    LittleEndian.encode 2 (BitVec.ofInt 16 signal.rssi).toNat ++
    LittleEndian.encode 4 (BitVec.ofInt 32 signal.frequency).toNat

variable (s : Session)

namespace Phone

def note (e : Event) (p : Phone) : Phone := { p with log := e :: p.log }

/-- The pairing throws. -/
def fail (e : PairingException) (p : Phone) : Phone := p.go (.Ended (.error e))

/-! ## Sending -/

def sealRecord (messageType : UInt8) (logicalId : UInt64) (payload : Bytes) (p : Phone) : Phone :=
  p.note (.PhoneSent (sealed_record s .PhoneToHost (phone_records p.log).length messageType logicalId 0 payload))

/-- The copies that go out although a later one may not. -/
def sendCopies (failure : SendFailure) (first second : Phone → Phone) (p : Phone) : Phone :=
  match failure with
  | none => second (first p)
  | some (true, _) => first p
  | some (false, _) => p

def orThrow (failure : SendFailure) (next : Phone → Phone) (p : Phone) : Phone :=
  match failure with
  | none => next p
  | some (_, message) => p.fail (.Socket message)

def sendRecordRedundant (messageType : UInt8) (payload : Bytes) (failure : SendFailure) (next : Phone → Phone)
    (p : Phone) : Phone :=
  let copy := sealRecord s messageType 0 payload
  orThrow failure next (p.sendCopies failure copy copy)

/-- It never throws. -/
def sendAuthenticatedAbort (reason : Nat) (failure : SendFailure) (p : Phone) : Phone :=
  let copy := sealRecord s PHONE_AUTH_ABORT 0 (LittleEndian.encode 2 reason)
  p.sendCopies failure copy copy

def sendQualityReply (o : Replying) (sequence : UInt64) (quality : Quality) (repairOnly : Bool)
    (next : Phone → Phone) (p : Phone) : Phone :=
  let signal := currentSignal s.calculateSignalLevel s.transport o.wifiInfo
  let copy := fun sendNanos => sealRecord s PHONE_QUALITY_REPLY sequence (replyPayload quality repairOnly signal sendNanos)
  orThrow o.failure next
    (p.sendCopies o.failure (if repairOnly then id else copy o.sendNanos.1) (copy o.sendNanos.2))

/-! ## `waitForPairRecord` -/

def requirePairRecord (record : OpenedRecord) (payloadLength : Nat) (next : Phone → Phone) (p : Phone) : Phone :=
  if record.header.session_id ≠ 0 ∨ record.header.logical_id ≠ 0 ∨ record.header.flags ≠ 0 ∨
      record.payload.length ≠ payloadLength then
    p.fail (.Io "Malformed authenticated pairing control")
  else next p

def waitSend (o : SendingHalf) (retryType : UInt8) (retryPayload : Bytes) (resume : PairRecordWait → PhoneLoop)
    (w : PairRecordWait) (p : Phone) : Phone :=
  if p.inbox.active ∧ o.now < s.phone_deadline then
    if o.now - w.lastInterfaceCheck ≥ INTERFACE_REVALIDATE_NANOS then
      if o.interfaceValid then retry { w with lastInterfaceCheck := o.now } p
      else p.fail (.Io "Selected network interface changed during pairing")
    else retry w p
  else p.fail (.Io "Authenticated pairing step timed out")
where
  retry (w : PairRecordWait) (p : Phone) : Phone :=
    if o.now ≥ w.nextRetry then
      p.sendRecordRedundant s retryType retryPayload o.failure
        (Party.go (.Receiving (resume { w with nextRetry := o.now + APPLICATION_RETRY_NANOS })))
    else p.go (.Receiving (resume w))

def waitReceive (received : Option OpenedRecord) (expectedType : UInt8) (again : PhoneLoop)
    (next : OpenedRecord → Phone → Phone) (p : Phone) : Phone :=
  match received with
  | none => p.go (.Sending again)
  | some record =>
    if record.header.message_type = HOST_AUTH_ABORT then p.fail (.Io "Host cancelled pairing")
    else if record.header.message_type = expectedType then next record p
    else p.go (.Sending again)

/-! ## The commitment and the reveal -/

/-- Up to the wait for the host's commitment. -/
def commit (o : ReceivingHalf) (p : Phone) : Phone :=
  let p := p.note (.PhoneDraws o.random.val)
  match sasCommit s.blake2s 1 s.handshake_hash o.random.val with
  | .error message => p.fail (.Protocol message)
  | .ok phoneCommit =>
    p.sendRecordRedundant s PHONE_SAS_COMMITMENT phoneCommit.val o.failure
      (Party.go (.Sending (.Commitment o.random.val phoneCommit.val ⟨o.now + APPLICATION_RETRY_NANOS, o.now⟩)))

/-- The host's commitment is there. -/
def reveal (o : ReceivingHalf) (phoneRandom : Bytes) (hostCommitRecord : OpenedRecord) (p : Phone) : Phone :=
  p.requirePairRecord hostCommitRecord 32 fun p =>
    p.sendRecordRedundant s PHONE_SAS_REVEAL phoneRandom o.failure
      (Party.go (.Sending (.Reveal phoneRandom hostCommitRecord.payload ⟨o.now + APPLICATION_RETRY_NANOS, o.now⟩)))

/-- `new V5SendQueue(MAX_HOST_WINDOW, 32)`. -/
def newRepairs : V5SendQueue Quality := ⟨MAX_HOST_WINDOW, fun _ => ⟨0, ⟨0, 0⟩, 0, 0, 0⟩, 0, 0, 0, 0, false⟩

/-- The host's reveal is there. -/
def derive (o : ReceivingHalf) (phoneRandom hostCommit : Bytes) (hostRevealRecord : OpenedRecord) (p : Phone) : Phone :=
  p.requirePairRecord hostRevealRecord 32 fun p =>
    match sasCommit s.blake2s 2 s.handshake_hash hostRevealRecord.payload with
    | .error message => p.fail (.Protocol message)
    | .ok expectedHostCommit =>
      if hostCommit ≠ expectedHostCommit.val then (p.sendAuthenticatedAbort s 2 o.failure).go (.Ended (.error .Comparison))
      else
        match sasDigest s.blake2s s.handshake_hash phoneRandom hostRevealRecord.payload with
        | .error message => p.fail (.Protocol message)
        | .ok digest =>
          match sasPattern s.blake2s o.fuel digest.val with
          | .error message => p.fail (.Protocol message)
          | .ok none => p.go .Hashing
          | .ok (some expectedPattern) =>
            (p.note (.PhoneDerives expectedPattern)).go
              (.Sending (.Comparing ⟨expectedPattern, false, 0, o.now, newRepairs, []⟩))

/-! ## The comparison -/

/-- `while ((repair = repairs.next(now, MAX_HOST_WINDOW)) != null)`. Every turn takes a frame from the queue. -/
def sendRepairs (replying : Nat → Replying) (next : Int → V5SendQueue Quality → Phone → Phone) :
    (fuel : Nat) → Int → V5SendQueue Quality → Phone → Phone
  | 0, now, repairs, p => next now repairs p
  | fuel + 1, now, repairs, p =>
    match repairs.next now MAX_HOST_WINDOW with
    | (none, repairs) => next now repairs p
    | (some repair, repairs) =>
      p.sendQualityReply s (replying fuel) (.ofNat repair.sequence) repair.payload true
        (sendRepairs replying next fuel (replying fuel).after repairs.removeFirst)

def confirmAgain (o : SendingHalf) (now : Int) (c : Matching) (p : Phone) : Phone :=
  if c.patternConfirmed ∧ now - c.lastConfirmSend ≥ APPLICATION_RETRY_NANOS then
    p.sendRecordRedundant s PHONE_PAIR_CONFIRM [] o.failureAgain
      (Party.go (.Receiving (.Comparing { c with lastConfirmSend := now })))
  else p.go (.Receiving (.Comparing c))

/-- A submitted pattern is compared unless one was before. -/
def compare (o : SendingHalf) (now : Int) (c : Matching) (p : Phone) : Phone :=
  match p.inbox.submittedPattern, c.patternConfirmed with
  | some entered, false =>
    let p : Phone := { p with inbox.submittedPattern := none }
    let p := p.note (.PhoneCompares entered)
    if entered ≠ c.expectedPattern then (p.sendAuthenticatedAbort s 2 o.failure).go (.Ended (.error .Comparison))
    else
      p.sendRecordRedundant s PHONE_PAIR_CONFIRM [] o.failure
        (confirmAgain s o now { c with patternConfirmed := true, lastConfirmSend := now })
  | _, _ => confirmAgain s o now c { p with inbox.submittedPattern := none }

def compareSend (o : SendingHalf) (c : Matching) (p : Phone) : Phone :=
  if p.inbox.active ∧ o.now < s.phone_deadline then
    if o.now - c.lastInterfaceCheck ≥ INTERFACE_REVALIDATE_NANOS then
      if o.interfaceValid then repair { c with lastInterfaceCheck := o.now } p
      else p.fail (.Io "Selected network interface changed during pairing")
    else repair c p
  else (p.sendAuthenticatedAbort s 3 o.failure).go (.Ended (.error (.Io "Pairing window expired")))
where
  repair (c : Matching) : Phone → Phone :=
    sendRepairs s o.repairs (fun now repairs => compare s o now { c with repairs := repairs })
      (c.repairs.size + 1) o.now c.repairs

/-- A quality probe. -/
def answer (o : ReceivingHalf) (c : Matching) (record : OpenedRecord) (p : Phone) : Phone :=
  if s.transport ≠ .Wifi ∨ record.payload.length ≠ 8 ∨ record.header.flags &&& ~~~QUALITY_REPAIR_ONLY ≠ 0 then
    p.fail (.Io "Malformed authenticated quality probe")
  else if record.header.logical_id ∈ c.qualitySeen then p.go (.Sending (.Comparing c))
  else
    let c := { c with qualitySeen := record.header.logical_id :: c.qualitySeen }
    let quality : Quality := ⟨read_u64 record.payload 0, o.now⟩
    if record.header.flags &&& QUALITY_REPAIR_ONLY ≠ 0 then
      match c.repairs.add record.header.logical_id.toNat quality o.now with
      | none => p.fail (.Io "Quality probe queue overflowed")
      | some repairs =>
        let last := repairs.get (repairs.tail - 1)
        let queued := repairs.set (repairs.tail - 1) { last with sendCount := INITIAL_SEND_COPIES, lastSentNanos := o.now }
        p.go (.Sending (.Comparing { c with repairs := queued }))
    else
      p.sendQualityReply s o.reply record.header.logical_id quality false
        (Party.go (.Sending (.Comparing c)))

def compareReceive (o : ReceivingHalf) (received : Option OpenedRecord) (c : Matching) (p : Phone) : Phone :=
  match received with
  | none => p.go (.Sending (.Comparing c))
  | some record =>
    if record.header.session_id ≠ 0 then p.fail (.Io "Pairing record used a gameplay session")
    else if record.header.message_type = HOST_QUALITY_PROBE then p.answer s o c record
    else if record.header.message_type = HOST_PAIR_COMPLETE then
      p.requirePairRecord record 0 fun p =>
        if c.patternConfirmed = false then p.fail (.Io "Host completed pairing before phone confirmation")
        else
          match o.unsaved with
          | some message => p.fail (.Credential message)
          | none => (p.note (.PhoneStores s.host_key)).go (.Ended (.ok ()))
    else if record.header.message_type = HOST_AUTH_ABORT then p.fail (.Io "Host cancelled pairing")
    else if record.header.message_type = HOST_SAS_REVEAL then
      p.requirePairRecord record 32 (Party.go (.Sending (.Comparing c)))
    else p.fail (.Io "Unexpected authenticated pairing record")

/-! ## The halves of an iteration -/

def send (o : SendingHalf) (p : Phone) : Phone :=
  match p.phase with
  | .Sending (.Commitment phoneRandom phoneCommit w) =>
    p.waitSend s o PHONE_SAS_COMMITMENT phoneCommit (.Commitment phoneRandom phoneCommit) w
  | .Sending (.Reveal phoneRandom hostCommit w) => p.waitSend s o PHONE_SAS_REVEAL phoneRandom (.Reveal phoneRandom hostCommit) w
  | .Sending (.Comparing c) => p.compareSend s o c
  | _ => p

def start (o : ReceivingHalf) (p : Phone) : Phone :=
  match p.phase with
  | .Starting => p.commit s o
  | _ => p

/-- The receive throws, or it returns the next record that opens, if there is one. -/
def receive (o : ReceivingHalf) (received : Except String (Option OpenedRecord)) (p : Phone) : Phone :=
  match p.phase, received with
  | .Receiving _, .error message => p.fail (.Socket message)
  | .Receiving (.Commitment phoneRandom phoneCommit w), .ok record =>
    p.waitReceive record HOST_SAS_COMMITMENT (.Commitment phoneRandom phoneCommit w) (reveal s o phoneRandom)
  | .Receiving (.Reveal phoneRandom hostCommit w), .ok record =>
    p.waitReceive record HOST_SAS_REVEAL (.Reveal phoneRandom hostCommit w) (derive s o phoneRandom hostCommit)
  | .Receiving (.Comparing c), .ok record => p.compareReceive s o record c
  | _, _ => p

/-! ## The user -/

def submitPairingPattern (pattern : List Int) (p : Phone) : Phone :=
  if p.inbox.active = false ∨ pattern.length ≠ 8 ∨ pattern.any (fun lane => lane < 1 ∨ lane > 6) ∨
      p.inbox.submittedPattern.isSome then p
  else { p with inbox.submittedPattern := some pattern }

def cancelPairing (failure : SendFailure) (p : Phone) : Phone :=
  if p.inbox.active then { p.sendAuthenticatedAbort s 1 failure with inbox.active := false } else p

/-- The abort `closeInternal` sends once the pairing is over. -/
def close (failure : SendFailure) (p : Phone) : Phone := { p.sendAuthenticatedAbort s 1 failure with inbox.active := false }

end Phone
end Trackpad.Pairing
