import Trackpad.Reconnect.Handshake
/-!
# Sessions one after the other

A host and the phone it is paired with, over any number of handshakes. Every step is one call on one side; whatever
arrives is up to the network. The lists beside the two parties record what both did so far, the last first.
-/

namespace Trackpad.Reconnect

open V5Host (HostV5Error V5Connection)
open Channel (Party Sealed Unforged)
open Relation

variable {α : Type} [DecidableEq α]

/-- The two that are paired, where the host sends from and what the libraries compute. -/
structure Pair (α : Type) where
  noise : Noise
  aead : Aead
  blake2s : Bytes → Sas.Digest
  host_private : Key
  phone_private : Key
  host_address : α

namespace Pair

variable (y : Pair α)

def host_public : Key := y.noise.public_key y.host_private
def phone_public : Key := y.noise.public_key y.phone_private

end Pair

inductive HostPhase (α : Type)
  | Idle
  /-- In `wait_for_envelope_owned`. -/
  | Waiting (transport : TransportKind)
  | Connected (peer : α) (connection : V5Connection)

inductive PhonePhase (α : Type)
  | Closed
  /-- In the loop of `establishRemembered`. -/
  | Establishing (attempt : Attempt α) (request : Bytes)
  | Established (attempt : Attempt α) (peer : α) (channel : RecordCipher)

/-- A request the host accepted, and what it drew to answer it. -/
structure Accept where
  transport : TransportKind
  exchange_id : ExchangeId
  request : Bytes
  ephemeral : Key

inductive Failure
  | Host (error : HostV5Error)
  | Phone (message : String)

structure State (α : Type) where
  host : HostPhase α
  phone : PhonePhase α
  accepts : List Accept
  attempts : List (Attempt α)
  /-- The exchanges for which `establishRemembered` returned a channel. -/
  established : List ExchangeId
  sealed : List Sealed
  /-- The records a party opened, each with the key it did so. -/
  opened : Party → List (Bytes × RecordHeader × Bytes)
  sent : List (Party × α × Bytes)
  failures : List Failure

def setup : State α := ⟨.Idle, .Closed, [], [], [], [], fun _ => [], [], []⟩

/-- What a record is sealed from. -/
structure Message where
  message_type : UInt8
  session_id : UInt64
  logical_id : UInt64
  flags : UInt32
  payload : Bytes

inductive Action (α : Type)
  | HostListens (transport : TransportKind)
  /-- The connection or the wait for one is over, for whatever reason. -/
  | HostEnds
  | HostReceives (arrival : Arrival α) (ephemeral : Key)
  | HostSeals (message : Message)
  | PhoneOpens (attempt : Attempt α)
  /-- The next retry is due. -/
  | PhoneRequests
  | PhoneReceives (source : α) (onSelectedSubnet : Bool) (bytes : Bytes)
  | PhoneSeals (message : Message)
  | PhoneCloses

namespace State

variable (y : Pair α)

/-! ## The host -/

def accept (transport : TransportKind) (a : Arrival α) (ephemeral : Key) (request : PairEnvelope) (s : State α) : State α :=
  match accept_request y.noise y.blake2s y.host_private y.phone_public transport ephemeral a.bytes request with
  | .error e => { s with host := .Idle, failures := .Host e :: s.failures }
  | .ok (response, connection) =>
    { s with
      host := .Connected a.source connection
      accepts := ⟨transport, request.exchange_id, request.payload, ephemeral⟩ :: s.accepts
      sent := (.Host, y.host_address, response) :: s.sent }

/-- What a party opened with this key joins what it opened before. -/
def note (p : Party) (key : Bytes) (record : Option (RecordHeader × Bytes)) (s : State α) : State α :=
  { s with opened := Function.update s.opened p ((record.map fun r => (key, r)).toList ++ s.opened p) }

def host_receives (peer : α) (a : Arrival α) (c : V5Connection) (s : State α) : State α :=
  let (response, record, next) := receive_datagram y.aead peer a c
  { s.note .Host c.cipher.receive_key record with
    host := .Connected peer next
    sent := (response.map fun bytes => (.Host, y.host_address, bytes)).toList ++ s.sent }

/-! ## Sealing -/

/-- `seal_into`, with what it leaves. -/
def sealed_by (p : Party) (direction : Direction) (m : Message) (c : RecordCipher) : Option Sealed × RecordCipher :=
  match c.seal_into y.aead direction m.message_type m.session_id m.logical_id m.flags m.payload MAX_DATAGRAM_SIZE with
  | (.ok datagram, next) =>
    (some ⟨p, c.send_key, c.header_of direction m.message_type m.session_id m.logical_id m.flags m.payload, m.payload,
      datagram⟩, next)
  | (.error _, next) => (none, next)

def keep (address : α) (x : Option Sealed) (s : State α) : State α :=
  { s with
    sealed := x.toList ++ s.sealed
    sent := (x.map fun x => (x.sender, address, x.datagram)).toList ++ s.sent }

/-! ## The phone -/

def phone_opens (a : Attempt α) (s : State α) : State α :=
  match a.request y.noise y.phone_private y.host_public with
  | .error e => { s with failures := .Phone e :: s.failures }
  | .ok request => { s with phone := .Establishing a request, attempts := a :: s.attempts }

def phone_finishes (a : Attempt α) (peer : α) (envelope : V5Protocol.PairEnvelope) (s : State α) : State α :=
  match finishHandshake y.noise y.blake2s y.phone_private y.host_public a envelope with
  | .error e => { s with phone := .Closed, failures := .Phone e :: s.failures }
  | .ok channel => { s with phone := .Established a peer channel, established := a.exchange_id :: s.established }

/-- The binding is new and nothing is pinned: the first response it accepts ends the loop. -/
def phone_establishes (a : Attempt α) (source : α) (onSelectedSubnet : Bool) (bytes : Bytes) (s : State α) : State α :=
  match awaitedEnvelope a bytes with
  | none => s
  | some envelope =>
    match acceptAndPin onSelectedSubnet source none with
    | none => s
    | some peer => s.phone_finishes y a peer envelope

def phone_receives (a : Attempt α) (peer source : α) (bytes : Bytes) (channel : RecordCipher) (s : State α) : State α :=
  let (record, next) := receiveAuthenticated y.aead peer source bytes channel
  { s.note .Phone channel.receive_key record with phone := .Established a peer next }

end State

def step (y : Pair α) (a : Action α) (s : State α) : Option (State α) :=
  match a with
  | .HostListens transport =>
    match s.host with
    | .Idle => some { s with host := .Waiting transport }
    | _ => none
  | .HostEnds => some { s with host := .Idle }
  | .HostReceives arrival ephemeral =>
    match s.host with
    | .Idle => none
    | .Waiting transport =>
      match wanted_envelope transport arrival with
      | none => some s
      | some request => some (s.accept y transport arrival ephemeral request)
    | .Connected peer c => some (s.host_receives y peer arrival c)
  | .HostSeals message =>
    match s.host with
    | .Connected peer c =>
      let (x, cipher) := State.sealed_by y .Host .HostToPhone message c.cipher
      some { s.keep y.host_address x with host := .Connected peer { c with cipher := cipher } }
    | _ => none
  | .PhoneOpens attempt =>
    match s.phone with
    | .Closed => some (s.phone_opens y attempt)
    | _ => none
  | .PhoneRequests =>
    match s.phone with
    | .Establishing attempt request => some { s with sent := (.Phone, attempt.address, request) :: s.sent }
    | _ => none
  | .PhoneReceives source onSelectedSubnet bytes =>
    match s.phone with
    | .Closed => none
    | .Establishing attempt _ => some (s.phone_establishes y attempt source onSelectedSubnet bytes)
    | .Established attempt peer channel => some (s.phone_receives y attempt peer source bytes channel)
  | .PhoneSeals message =>
    match s.phone with
    | .Established attempt peer channel =>
      let (x, cipher) := State.sealed_by y .Phone .PhoneToHost message channel
      some { s.keep attempt.address x with phone := .Established attempt peer cipher }
    | _ => none
  | .PhoneCloses => some { s with phone := .Closed }

/-! ## Runs -/

/-- What is drawn at random is new. -/
def Fresh (s : State α) : Action α → Prop
  | .HostReceives _ ephemeral => ephemeral ∉ s.accepts.map Accept.ephemeral
  | .PhoneOpens attempt => attempt.exchange_id ∉ s.attempts.map Attempt.exchange_id
  | _ => True

/-- If this datagram opens, it is a record that was sealed with the key it opens with. -/
def Authentic (y : Pair α) (s : State α) (c : RecordCipher) (direction : Direction) (bytes : Bytes) : Prop :=
  ∀ header, decode_record_header bytes direction = .ok header →
    Unforged y.aead s.sealed c.receive_key (noise_nonce header.packet_number) (bytes.take RECORD_HEADER_SIZE)
      ((bytes.drop RECORD_HEADER_SIZE).take header.payload_length.toNat)
      ((bytes.drop RECORD_HEADER_SIZE).drop header.payload_length.toNat)

/-- If the host reads this message as a request of its phone, the phone made it, for a handshake of that prologue. -/
def Requested (y : Pair α) (s : State α) (handshake_prologue message : Bytes) : Prop :=
  y.noise.read_request y.host_private handshake_prologue message = .ok (some y.phone_public) →
    ∃ attempt ∈ s.attempts, attempt.prologue = handshake_prologue ∧
      attempt.message y.noise y.phone_private y.host_public = message

/-- If the phone reads this message as the response to its request, the host made it for that request. -/
def Responded (y : Pair α) (s : State α) (attempt : Attempt α) (message : Bytes) : Prop :=
  ∀ result, y.noise.read_response y.phone_private y.host_public attempt.prologue attempt.ephemeral message = some result →
    ∃ accepted ∈ s.accepts, prologue accepted.transport accepted.exchange_id = attempt.prologue ∧
      accepted.request = attempt.message y.noise y.phone_private y.host_public ∧
      y.noise.write_response y.host_private attempt.prologue accepted.request accepted.ephemeral = message

/-- Nobody else makes what Noise or the AEAD accepts. -/
def Ideal (y : Pair α) (s : State α) : Action α → Prop
  | .HostReceives arrival _ =>
    match s.host with
    | .Idle => True
    | .Waiting transport =>
      ∀ envelope, wanted_envelope transport arrival = some envelope →
        Requested y s (prologue transport envelope.exchange_id) envelope.payload
    | .Connected _ c => Authentic y s c.cipher .PhoneToHost arrival.bytes
  | .PhoneReceives _ _ bytes =>
    match s.phone with
    | .Closed => True
    | .Establishing attempt _ => ∀ envelope, awaitedEnvelope attempt bytes = some envelope →
        Responded y s attempt envelope.payload
    | .Established _ _ channel => Authentic y s channel .HostToPhone bytes
  | _ => True

def Steps (y : Pair α) (s s' : State α) : Prop := ∃ a, Fresh s a ∧ Ideal y s a ∧ step y a s = some s'

def Reaches (y : Pair α) (s : State α) : Prop := ReflTransGen (Steps y) setup s

end Trackpad.Reconnect
