import Trackpad.Channel
import Trackpad.HostCalm
import Trackpad.Sas
import Trackpad.Phone.Wire
/-!
# The handshake of a remembered phone

A phone that is paired connects with one round of Noise IK: `establishRemembered` sends a request until it is answered and
`accept_remembered` takes the first request of the paired phone. Both then hold the ciphers of `Channel`. The host keeps
request and response until a record was opened, since the response may be lost. Noise itself is a parameter.
-/

namespace Trackpad.Reconnect

open V5Host (HostV5Error V5Connection)

def IK_MESSAGE_1 : UInt8 := 5
def IK_CONTINUE : UInt8 := 6
/-- `b"holodori-phone-trackpad-v5\0"`. -/
def NOISE_PROLOGUE_PREFIX : Bytes := "holodori-phone-trackpad-v5\x00".toUTF8.toList
/-- `b"holodori-v5-connection"`. -/
def CONNECTION_DOMAIN : Bytes := "holodori-v5-connection".toUTF8.toList

/-! ## Noise -/

/-- What a finished handshake leaves: the transcript hash and a key for each direction. -/
structure Split where
  handshake_hash : Bytes
  initiator_key : Bytes
  responder_key : Bytes
deriving DecidableEq

/-- A private, public or ephemeral key. -/
abbrev Key : Type := Vector UInt8 32

/-- Noise IK as the two libraries provide it. A party is its private key; the ephemeral key of a message is drawn by the
caller. The messages carry no payload. -/
structure Noise where
  public_key : (local_private : Key) → Key
  write_request : (local_private remote_public : Key) → (prologue : Bytes) → (ephemeral : Key) → Bytes
  /-- The identity of the initiator, if the library has one. -/
  read_request : (local_private : Key) → (prologue request : Bytes) → Except String (Option Key)
  write_response : (local_private : Key) → (prologue request : Bytes) → (ephemeral : Key) → Bytes
  responder_split : (local_private : Key) → (prologue request : Bytes) → (ephemeral : Key) → Split
  /-- The length of the decrypted payload, and the split. -/
  read_response : (local_private remote_public : Key) → (prologue : Bytes) → (ephemeral : Key) → (response : Bytes) →
    Option (Nat × Split)

/-- What Noise promises two honest ends: each reads what the other wrote and both split alike; a message has the size of its
keys and tags; no key serves two directions, or two responses. -/
structure Noise.Lawful (noise : Noise) : Prop where
  request_length : ∀ initiator remote_public prologue ephemeral,
    (noise.write_request initiator remote_public prologue ephemeral).length = 96
  response_length : ∀ responder prologue request ephemeral, (noise.write_response responder prologue request ephemeral).length = 48
  reads_request : ∀ initiator responder prologue ephemeral,
    noise.read_request responder prologue (noise.write_request initiator (noise.public_key responder) prologue ephemeral) =
      .ok (some (noise.public_key initiator))
  reads_response : ∀ {initiator responder prologue ephemeral request answering},
    request = noise.write_request initiator (noise.public_key responder) prologue ephemeral →
    noise.read_response initiator (noise.public_key responder) prologue ephemeral
      (noise.write_response responder prologue request answering) =
      some (0, noise.responder_split responder prologue request answering)
  directions : ∀ responder prologue request ephemeral prologue' request' ephemeral',
    (noise.responder_split responder prologue request ephemeral).initiator_key ≠
      (noise.responder_split responder prologue' request' ephemeral').responder_key
  initiator_keys : ∀ {responder prologue request ephemeral prologue' request' ephemeral'},
    (noise.responder_split responder prologue request ephemeral).initiator_key =
      (noise.responder_split responder prologue' request' ephemeral').initiator_key → ephemeral = ephemeral'
  responder_keys : ∀ {responder prologue request ephemeral prologue' request' ephemeral'},
    (noise.responder_split responder prologue request ephemeral).responder_key =
      (noise.responder_split responder prologue' request' ephemeral').responder_key → ephemeral = ephemeral'

def prologue (transport : TransportKind) (exchange_id : ExchangeId) : Bytes :=
  NOISE_PROLOGUE_PREFIX ++ [transport.as_u8] ++ exchange_id.bytes

/-- A handshake over one transport or of one exchange is not one of another. -/
theorem prologue_injective {transport transport' : TransportKind} {exchange_id exchange_id' : ExchangeId}
    (h : prologue transport exchange_id = prologue transport' exchange_id') :
    transport = transport' ∧ exchange_id = exchange_id' := by
  simp only [prologue, List.append_assoc, List.append_cancel_left_eq, List.singleton_append, List.cons.injEq] at h
  obtain ⟨htransport, hexchange⟩ := h
  constructor
  · cases transport <;> cases transport' <;> first | rfl | (exact absurd htransport (by decide))
  · cases exchange_id
    cases exchange_id'
    simp only at hexchange
    subst hexchange
    rfl

section

variable (blake2s : Bytes → Sas.Digest)

def connection_id (handshake_hash : Bytes) : UInt64 :=
  .ofNat (LittleEndian.decode ((Sas.hash_parts blake2s [CONNECTION_DOMAIN, handshake_hash]).val.take 8))

def from_handshake (split : Split) (local_is_initiator : Bool) : RecordCipher :=
  let (send_key, receive_key) :=
    if local_is_initiator then (split.initiator_key, split.responder_key) else (split.responder_key, split.initiator_key)
  .from_keys send_key receive_key (connection_id blake2s split.handshake_hash)

end

/-! ## The host -/

/-- A datagram as a socket returns it. `ingress` says that it came over the interface in use, `bound` that a binding
is found for the sender. -/
structure Arrival (α : Type) where
  source : α
  ingress : Bool
  bound : Bool
  bytes : Bytes

variable {α : Type} [DecidableEq α]

/-- One datagram in `wait_for_envelope_owned`, as `accept_remembered` calls it. -/
def wanted_envelope (transport : TransportKind) (a : Arrival α) : Option PairEnvelope :=
  if !a.ingress then none
  else
    match decode_pair_envelope a.bytes with
    | .error _ => none
    | .ok envelope =>
      if envelope.transport ≠ transport then none
      else if ¬(envelope.kind = IK_MESSAGE_1 ∧ envelope.step = 1) then none
      else if !a.bound then none
      else some envelope

/-- `accept_remembered` once it has a request: the response and the connection. -/
def accept_request (noise : Noise) (blake2s : Bytes → Sas.Digest) (private_key expected_phone : Key)
    (transport : TransportKind)
    (ephemeral : Key) (request_bytes : Bytes) (request : PairEnvelope) : Except HostV5Error (Bytes × V5Connection) :=
  let handshake_prologue := prologue transport request.exchange_id
  match noise.read_request private_key handshake_prologue request.payload with
  | .error message => .error (.Noise message)
  | .ok none => .error (.Authentication "IK initiator identity missing")
  | .ok (some actual_phone) =>
    if actual_phone ≠ expected_phone then .error (.Authentication "unpaired phone identity")
    else
      match encode_pair_envelope IK_CONTINUE request.exchange_id 2 transport
        (noise.write_response private_key handshake_prologue request.payload ephemeral) with
      | .error e => .error (.Wire e)
      | .ok response =>
        let cipher := from_handshake blake2s (noise.responder_split private_key handshake_prologue request.payload ephemeral) false
        .ok (response, .new cipher (some (request_bytes, response)))

/-- One datagram in `receive_record_into`: what is sent once more, the record, and the connection. -/
def receive_datagram (aead : Aead) (peer : α) (a : Arrival α) (c : V5Connection) :
    Option Bytes × Option (RecordHeader × Bytes) × V5Connection :=
  if a.source ≠ peer ∨ !a.ingress then (none, none, c)
  else if c.cached_handshake.map Prod.fst = some a.bytes then (c.cached_handshake.map Prod.snd, none, c)
  else
    match c.cipher.open_in_place aead .PhoneToHost a.bytes with
    | (.ok record, cipher) => (none, some record, { c with cipher := cipher, cached_handshake := none })
    | (.error _, cipher) => (none, none, { c with cipher := cipher })

/-- What is sent once more is the response to this very request. -/
theorem receive_datagram_repeats {aead : Aead} {peer : α} {a : Arrival α} {c : V5Connection} {response : Bytes}
    (h : (receive_datagram aead peer a c).1 = some response) : c.cached_handshake = some (a.bytes, response) := by
  unfold receive_datagram at h
  split at h
  · cases h
  split at h
  · next hrepeated =>
    obtain ⟨⟨request, response'⟩, hcached, rfl⟩ := Option.map_eq_some_iff.1 hrepeated
    rw [hcached] at h
    cases h
    exact hcached
  · split at h
    · cases h
    · cases h

/-- It is `receive_record_into` where the socket has received, which needs the socket again just to repeat the response. -/
theorem receive_record_into_datagram {σ : Type} (aead : Aead) (peer : α) (a : Arrival α) {it : V5Host.Iteration}
    (hreceived : it.received = if a.source ≠ peer ∨ !a.ingress then .foreign else .datagram a.bytes)
    (s : V5Host.Serve σ) :
    V5Host.receive_record_into aead it s =
      match (receive_datagram aead peer a s.connection).1, it.socket with
      | some _, .error e => (.error e, s)
      | _, _ => (.ok (receive_datagram aead peer a s.connection).2.1,
        { s with connection := (receive_datagram aead peer a s.connection).2.2 }) := by
  rw [V5Host.receive_record_into, receive_datagram, hreceived]
  by_cases hforeign : a.source ≠ peer ∨ !a.ingress
  · rw [if_pos hforeign, if_pos hforeign]
  · rw [if_neg hforeign, if_neg hforeign]
    dsimp only
    by_cases hrepeated : s.connection.cached_handshake.map Prod.fst = some a.bytes
    · rw [if_pos hrepeated, if_pos hrepeated]
      obtain ⟨cached, hcached, -⟩ := Option.map_eq_some_iff.1 hrepeated
      rw [hcached, Option.map_some]
      rcases it.socket with e | ⟨⟨⟩⟩ <;> rfl
    · rw [if_neg hrepeated, if_neg hrepeated]
      rcases hopen : s.connection.cipher.open_in_place aead .PhoneToHost a.bytes with ⟨e | record, cipher⟩
      · dsimp only
        rw [V5Host.open_discarded aead hopen, if_pos rfl]
      · rfl

/-! ## The phone -/

/-- What one call of `establishRemembered` draws, and the address of its socket. -/
structure Attempt (α : Type) where
  transport : TransportKind
  exchange_id : ExchangeId
  ephemeral : Key
  address : α

namespace Attempt

variable (noise : Noise) (private_key host_public : Key)

def prologue (a : Attempt α) : Bytes := Reconnect.prologue a.transport a.exchange_id

def message (a : Attempt α) : Bytes := noise.write_request private_key host_public a.prologue a.ephemeral

def request (a : Attempt α) : Except String Bytes :=
  V5Protocol.encodePairEnvelope (IK_MESSAGE_1.toBitVec.setWidth 32) a.exchange_id.bytes 1 a.transport
    (a.message noise private_key host_public)

end Attempt

/-- `acceptAndPin`: the address that is pinned from then on, if the source is accepted. -/
def acceptAndPin (onSelectedSubnet : Bool) (source : α) (pinned : Option α) : Option α :=
  if !onSelectedSubnet then none
  else
    match pinned with
    | none => some source
    | some peer => if peer = source then some peer else none

/-- Of a datagram in the loop of `establishRemembered`, the envelope it waits for. -/
def awaitedEnvelope (a : Attempt α) (bytes : Bytes) : Option V5Protocol.PairEnvelope :=
  match V5Protocol.decodePairEnvelope bytes bytes.length with
  | .error _ => none
  | .ok envelope =>
    if envelope.transport ≠ a.transport ∨ envelope.exchangeId ≠ a.exchange_id.bytes ∨
      envelope.kind ≠ IK_CONTINUE.toBitVec.setWidth 32 ∨ envelope.step ≠ 2 then none
    else some envelope

/-- The end of `establishRemembered`: the channel, or the exception. -/
def finishHandshake (noise : Noise) (blake2s : Bytes → Sas.Digest) (private_key host_public : Key) (a : Attempt α)
    (envelope : V5Protocol.PairEnvelope) : Except String RecordCipher :=
  match noise.read_response private_key host_public a.prologue a.ephemeral envelope.payload with
  | none => .error "readMessage"
  | some (decrypted, split) =>
    if decrypted ≠ 0 then .error "Malformed Noise IK response" else .ok (from_handshake blake2s split true)

/-- One datagram in `receiveAuthenticated`. -/
def receiveAuthenticated (aead : Aead) (pinned source : α) (bytes : Bytes) (channel : RecordCipher) :
    Option (RecordHeader × Bytes) × RecordCipher :=
  if pinned ≠ source then (none, channel)
  else
    match channel.open_in_place aead .HostToPhone bytes with
    | (.ok record, channel) => (some record, channel)
    | (.error _, channel) => (none, channel)

end Trackpad.Reconnect
