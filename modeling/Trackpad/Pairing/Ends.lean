import Trackpad.Canonical
import Trackpad.Touch
import Trackpad.Sas
/-!
# The two ends of a pairing

What host and phone share once the Noise XX handshake of a pairing is over: the session they agreed on and
one log, which both write to, the last event first. A record that was sent is opened once at any later time,
or never.
-/

namespace Trackpad

structure OpenedRecord where
  header : RecordHeader
  payload : Bytes
deriving DecidableEq

namespace Pairing

def QUALITY_REPAIR_ONLY : UInt32 := 1

inductive PairCommand
  | Approve
  | Cancel
deriving DecidableEq

/-- What the handshake leaves both ends with, when they give up, and what the platforms provide: BLAKE2s and
`WifiManager.calculateSignalLevel`. -/
structure Session where
  transport : TransportKind
  connection_id : UInt64
  handshake_hash : Bytes
  host_key : Bytes
  phone_key : Bytes
  host_deadline : Nat
  phone_deadline : Int
  blake2s : Bytes → Sas.Digest
  calculateSignalLevel : Int → Int → Int

inductive Event
  | HostDraws (random : Bytes)
  | HostSent (record : OpenedRecord)
  | HostOpened (record : OpenedRecord)
  /-- `PairEvent::Pattern` is reported. -/
  | HostShows (pattern : List UInt8) (time : Nat)
  | HostPersists (key : Bytes) (time : Nat)
  /-- The host's user. -/
  | Commands (command : PairCommand)
  | PhoneDraws (random : Bytes)
  | PhoneSent (record : OpenedRecord)
  | PhoneOpened (record : OpenedRecord)
  | PhoneDerives (pattern : List Int)
  | PhoneCompares (entered : List Int)
  | PhoneStores (key : Bytes)
  /-- The phone's user. -/
  | Enters (pattern : List Int)
deriving DecidableEq

/-- The records the host sent, the first one first. -/
def host_records (log : List Event) : List OpenedRecord :=
  log.reverse.filterMap fun e => match e with
    | .HostSent record => some record
    | _ => none

def phone_records (log : List Event) : List OpenedRecord :=
  log.reverse.filterMap fun e => match e with
    | .PhoneSent record => some record
    | _ => none

/-- A pairing record as it is sealed: its session is zero and its number that of the records before it. -/
def sealed_record (s : Session) (direction : Direction) (number : Nat) (message_type : UInt8) (logical_id : UInt64)
    (flags : UInt32) (payload : Bytes) : OpenedRecord where
  header := {
    direction := direction
    message_type := message_type
    connection_id := s.connection_id
    session_id := 0
    packet_number := .ofNat number
    logical_id := logical_id
    flags := flags
    payload_length := .ofNat payload.length }
  payload := payload

/-- One end: where it is, what its user asked for and the log. -/
structure Party (φ ι : Type) where
  phase : φ
  inbox : ι
  log : List Event

def Party.go {φ ι : Type} (phase : φ) (p : Party φ ι) : Party φ ι := { p with phase := phase }

theorem mem_host_records {log : List Event} {record : OpenedRecord} :
    record ∈ host_records log ↔ .HostSent record ∈ log := by
  rw [host_records, List.mem_filterMap]
  constructor
  · rintro ⟨e, hmem, he⟩
    cases e <;> cases he
    exact List.mem_reverse.1 hmem
  · intro hmem
    exact ⟨_, List.mem_reverse.2 hmem, rfl⟩

theorem mem_phone_records {log : List Event} {record : OpenedRecord} :
    record ∈ phone_records log ↔ .PhoneSent record ∈ log := by
  rw [phone_records, List.mem_filterMap]
  constructor
  · rintro ⟨e, hmem, he⟩
    cases e <;> cases he
    exact List.mem_reverse.1 hmem
  · intro hmem
    exact ⟨_, List.mem_reverse.2 hmem, rfl⟩

end Pairing
end Trackpad
