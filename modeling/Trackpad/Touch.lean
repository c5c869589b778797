import Trackpad.Record
/-!
# Touch payloads

What a v5 touch record carries: a 44-byte header with the frame's times, action and flags, and ten
bytes for each contact. A decoded frame either starts its session, as an empty CANCEL numbered 0, or
is numbered above 0.
-/

namespace Trackpad

def TOUCH_PAYLOAD_HEADER_SIZE : Nat := 44
def CONTACT_SIZE : Nat := 10

def PHONE_TOUCH : UInt8 := 1
def PHONE_QUALITY_REPLY : UInt8 := 2
def PHONE_SAS_COMMITMENT : UInt8 := 3
def PHONE_SAS_REVEAL : UInt8 := 4
def PHONE_PAIR_CONFIRM : UInt8 := 5
def PHONE_AUTH_ABORT : UInt8 := 6
def PHONE_PING : UInt8 := 7

def HOST_HELLO : UInt8 := 1
def HOST_ACK : UInt8 := 2
def HOST_QUALITY_PROBE : UInt8 := 3
def HOST_SAS_COMMITMENT : UInt8 := 4
def HOST_SAS_REVEAL : UInt8 := 5
def HOST_PAIR_COMPLETE : UInt8 := 6
def HOST_AUTH_ABORT : UInt8 := 7
def HOST_PONG : UInt8 := 8

def NO_ACK : Nat := 2 ^ 64 - 1

def VALID_FRAME_FLAGS : UInt8 := FRAME_FLAG_LOCKED ||| FRAME_FLAG_SESSION_START ||| FRAME_FLAG_HISTORICAL
def VALID_CONTACT_FLAGS : UInt8 := CONTACT_FLAG_INSIDE ||| CONTACT_FLAG_TIP ||| CONTACT_FLAG_KEY_SUPPRESSED

def read_i16 (bytes : Bytes) (offset : Nat) : Int := (read_u16 bytes offset).toBitVec.toInt

def Contacts.push (contacts : Contacts) (c : Contact) (room : contacts.items.length < MAX_CONTACTS)
    (fresh : c.pointer_id ∉ contacts.items.map Contact.pointer_id) : Contacts where
  items := contacts.items ++ [c]
  bounded := by simp; omega
  distinct := by
    rw [List.map_append, List.nodup_append]
    refine ⟨contacts.distinct, by simp, ?_⟩
    rintro a ha b hb rfl
    rw [List.map_singleton, List.mem_singleton] at hb
    exact fresh (hb ▸ ha)

/-- The contacts from `index` on. -/
def decode_contacts (payload : Bytes) (remaining index : Nat) (contacts : Contacts)
    (room : contacts.items.length + remaining ≤ MAX_CONTACTS) : Except WireError Contacts :=
  match remaining with
  | 0 => .ok contacts
  | remaining + 1 =>
    let offset := TOUCH_PAYLOAD_HEADER_SIZE + index * CONTACT_SIZE
    let pointer_id := payload.getD offset 0
    if seen : pointer_id ∈ contacts.items.map Contact.pointer_id then .error (.DuplicatePointer pointer_id)
    else
      let contact_flags := payload.getD (offset + 1) 0
      if contact_flags &&& ~~~VALID_CONTACT_FLAGS ≠ 0 then .error .ReservedBits
      else
        let contact : Contact :=
          { pointer_id := pointer_id
            flags := contact_flags
            x := read_i16 payload (offset + 2)
            y := read_i16 payload (offset + 4)
            pressure := (read_u16 payload (offset + 6)).toNat
            touch_major := (read_u16 payload (offset + 8)).toNat }
        decode_contacts payload remaining (index + 1) (contacts.push contact (by omega) seen)
          (by simp only [Contacts.push, List.length_append, List.length_singleton]; omega)

def validate_session_start (frame : TouchFrame) : Except WireError Unit :=
  if frame.sequence = 0 then
    if frame.action ≠ ACTION_CANCEL ∨ frame.session_start = false ∨ frame.flags ≠ FRAME_FLAG_SESSION_START ∨
        frame.contacts.items ≠ [] then .error .BadSessionStart
    else .ok ()
  else if frame.session_start then .error .BadSessionStart
  else .ok ()

def decode_touch_payload (header : RecordHeader) (payload : Bytes) : Except WireError TouchFrame :=
  if header.direction ≠ .PhoneToHost ∨ header.message_type ≠ PHONE_TOUCH ∨ header.session_id = 0 ∨ header.flags ≠ 0 ∨
      payload.length < TOUCH_PAYLOAD_HEADER_SIZE then .error .BadMessage
  else
    let action := payload.getD 40 0
    if action ∉ [ACTION_HEARTBEAT, ACTION_DOWN, ACTION_MOVE, ACTION_UP, ACTION_CANCEL] then .error (.BadAction action)
    else
      let contact_count := (payload.getD 42 0).toNat
      if bad : contact_count > MAX_CONTACTS ∨ payload.length ≠ TOUCH_PAYLOAD_HEADER_SIZE + contact_count * CONTACT_SIZE then
        .error (.BadContactCount contact_count)
      else
        let flags := payload.getD 43 0
        if flags &&& ~~~VALID_FRAME_FLAGS ≠ 0 then .error .ReservedBits
        else
          match decode_contacts payload contact_count 0 .empty (by simp only [Contacts.empty, List.length_nil]; omega) with
          | .error e => .error e
          | .ok contacts =>
            let frame : TouchFrame :=
              { session_id := header.session_id.toNat
                sequence := header.logical_id.toNat
                phone_event_nanos := (read_u64 payload 0).toNat
                phone_callback_nanos := (read_u64 payload 8).toNat
                phone_send_nanos := (read_u64 payload 16).toNat
                echo_host_send_nanos := (read_u64 payload 24).toNat
                phone_control_receive_nanos := (read_u64 payload 32).toNat
                action := action
                action_pointer_id := payload.getD 41 0
                flags := flags
                contacts := contacts }
            match validate_session_start frame with
            | .error e => .error e
            | .ok () => .ok frame

/-! ## Well-formed frames -/

/-- The session-start CANCEL. -/
structure StartsSession (frame : TouchFrame) : Prop where
  sequence : frame.sequence = 0
  action : frame.action = ACTION_CANCEL
  flags : frame.flags = FRAME_FLAG_SESSION_START
  contacts : frame.contacts.items = []

/-- What the decoder lets through: a session-start CANCEL, or a later frame that does not start one. -/
structure WellFormed (frame : TouchFrame) : Prop where
  sequence_lt : frame.sequence < 2 ^ 64
  starts : frame.sequence = 0 → StartsSession frame
  only_start : frame.session_start = true → frame.sequence = 0

theorem validate_session_start_ok {frame : TouchFrame} (h : validate_session_start frame = .ok ()) :
    (frame.sequence = 0 → StartsSession frame) ∧ (frame.session_start = true → frame.sequence = 0) := by
  unfold validate_session_start at h
  split at h
  · rename_i hzero
    split at h
    · cases h
    · rename_i hstart
      simp only [not_or, Decidable.not_not] at hstart
      exact ⟨fun _ => ⟨hzero, hstart.1, hstart.2.2.1, hstart.2.2.2⟩, fun _ => hzero⟩
  · rename_i hne
    split at h
    · cases h
    · rename_i hflag
      exact ⟨fun hz => absurd hz hne, fun hs => absurd hs hflag⟩

theorem decode_touch_ok {header : RecordHeader} {payload : Bytes} {frame : TouchFrame}
    (h : decode_touch_payload header payload = .ok frame) :
    frame.session_id = header.session_id.toNat ∧ frame.sequence = header.logical_id.toNat ∧ WellFormed frame := by
  unfold decode_touch_payload at h
  split at h
  · cases h
  dsimp only at h
  split at h
  · cases h
  split at h
  · cases h
  split at h
  · cases h
  split at h
  · cases h
  split at h
  · cases h
  · rename_i hvalid
    obtain rfl := (Except.ok.inj h).symm
    obtain ⟨hstarts, honly⟩ := validate_session_start_ok hvalid
    exact ⟨rfl, rfl, header.logical_id.toNat_lt, hstarts, honly⟩

end Trackpad
