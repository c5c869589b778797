import Trackpad.Touch
import Trackpad.Canonical
/-!
# Touch payloads as the phone writes them

The layout `enqueueFrameLocked` writes, with the three times that `writerLoop` patches in before each
send. Coordinates and pressures are already fixed point and the contact flags already decided. The
host decodes exactly what was written.
-/

namespace Trackpad

/-- One contact of a sample, as `enqueueFrameLocked` is about to write it. -/
structure TouchContact where
  pointerId : UInt8
  inside : Bool
  touching : Bool
  suppressed : Bool
  x : BitVec 16
  y : BitVec 16
  pressure : UInt16
  touchMajor : UInt16
deriving DecidableEq, Repr

namespace TouchContact

def contactFlags (c : TouchContact) : UInt8 :=
  (if c.inside then CONTACT_FLAG_INSIDE else 0) ||| (if c.touching then CONTACT_FLAG_TIP else 0) |||
    (if c.suppressed then CONTACT_FLAG_KEY_SUPPRESSED else 0)

def wire (c : TouchContact) : Contact where
  pointer_id := c.pointerId
  flags := c.contactFlags
  x := c.x.toInt
  y := c.y.toInt
  pressure := c.pressure.toNat
  touch_major := c.touchMajor.toNat

def encode (c : TouchContact) : Bytes :=
  [c.pointerId, c.contactFlags] ++ LittleEndian.encode 2 c.x.toNat ++ LittleEndian.encode 2 c.y.toNat ++
    LittleEndian.encode 2 c.pressure.toNat ++ LittleEndian.encode 2 c.touchMajor.toNat

end TouchContact

/-- The contacts of a sample. Android's pointer ids are distinct. -/
structure Snapshot where
  contacts : List TouchContact
  bounded : contacts.length ≤ MAX_CONTACTS
  distinct : (contacts.map TouchContact.pointerId).Nodup
deriving DecidableEq

namespace Snapshot

def empty : Snapshot := ⟨[], by decide, by simp⟩

theorem wire_ids (s : Snapshot) : (s.contacts.map TouchContact.wire).map Contact.pointer_id = s.contacts.map TouchContact.pointerId := by
  rw [List.map_map]
  rfl

def wire (s : Snapshot) : Contacts where
  items := s.contacts.map TouchContact.wire
  bounded := by rw [List.length_map]; exact s.bounded
  distinct := by rw [s.wire_ids]; exact s.distinct

end Snapshot

/-- What `enqueueFrameLocked` is given, times and flags included. -/
structure Content where
  eventNanos : UInt64
  callbackNanos : UInt64
  action : UInt8
  actionPointerId : UInt8
  frameFlags : UInt8
  snapshot : Snapshot
deriving DecidableEq

/-- The payload with the three send-time fields patched in. -/
def Content.payload (c : Content) (sendNanos echoHostSendNanos controlReceiveNanos : UInt64) : Bytes :=
  LittleEndian.encode 8 c.eventNanos.toNat ++ LittleEndian.encode 8 c.callbackNanos.toNat ++
    LittleEndian.encode 8 sendNanos.toNat ++ LittleEndian.encode 8 echoHostSendNanos.toNat ++
    LittleEndian.encode 8 controlReceiveNanos.toNat ++
    [c.action, c.actionPointerId, .ofNat c.snapshot.contacts.length, c.frameFlags] ++
    c.snapshot.contacts.flatMap TouchContact.encode

/-- The frame a host decodes from it under `header`. -/
def Content.frame (c : Content) (header : RecordHeader) (sendNanos echoHostSendNanos controlReceiveNanos : UInt64) :
    TouchFrame where
  session_id := header.session_id.toNat
  sequence := header.logical_id.toNat
  phone_event_nanos := c.eventNanos.toNat
  phone_callback_nanos := c.callbackNanos.toNat
  phone_send_nanos := sendNanos.toNat
  echo_host_send_nanos := echoHostSendNanos.toNat
  phone_control_receive_nanos := controlReceiveNanos.toNat
  action := c.action
  action_pointer_id := c.actionPointerId
  flags := c.frameFlags
  contacts := c.snapshot.wire

/-! ## Decoding what was written -/

theorem i16_round_trip (v : BitVec 16) :
    (UInt16.ofNat (LittleEndian.decode (LittleEndian.encode 2 v.toNat))).toBitVec.toInt = v.toInt := by
  rw [LittleEndian.decode_encode_of_lt v.isLt]
  simp

theorem encode_length (c : TouchContact) : c.encode.length = CONTACT_SIZE := by
  simp [TouchContact.encode, CONTACT_SIZE]

theorem contactFlags_valid (c : TouchContact) : c.contactFlags &&& ~~~VALID_CONTACT_FLAGS = 0 := by
  unfold TouchContact.contactFlags
  cases c.inside <;> cases c.touching <;> cases c.suppressed <;> rfl

/-- The fields of the contact written first. -/
theorem read_contact (c : TouchContact) (rest : Bytes) :
    (c.encode ++ rest).getD 0 0 = c.pointerId ∧ (c.encode ++ rest).getD 1 0 = c.contactFlags ∧
    read_i16 (c.encode ++ rest) 2 = c.x.toInt ∧ read_i16 (c.encode ++ rest) 4 = c.y.toInt ∧
    (read_u16 (c.encode ++ rest) 6).toNat = c.pressure.toNat ∧ (read_u16 (c.encode ++ rest) 8).toNat = c.touchMajor.toNat := by
  refine ⟨rfl, rfl, ?_, ?_, ?_, ?_⟩
  · exact i16_round_trip c.x
  · exact i16_round_trip c.y
  · exact congrArg UInt16.toNat (u16_round_trip c.pressure)
  · exact congrArg UInt16.toNat (u16_round_trip c.touchMajor)

/-- The decoder's loop reads the contacts back, one after the other. -/
theorem decode_contacts_encoded (rest : List TouchContact) {payload : Bytes} {index : Nat} {contacts : Contacts}
    (room : contacts.items.length + rest.length ≤ MAX_CONTACTS)
    (hpayload : payload.drop (TOUCH_PAYLOAD_HEADER_SIZE + index * CONTACT_SIZE) = rest.flatMap TouchContact.encode)
    (hdistinct : (contacts.items.map Contact.pointer_id ++ rest.map TouchContact.pointerId).Nodup) :
    ∃ decoded, decode_contacts payload rest.length index contacts room = .ok decoded ∧
      decoded.items = contacts.items ++ rest.map TouchContact.wire := by
  induction rest generalizing index contacts with
  | nil => exact ⟨contacts, rfl, by simp⟩
  | cons c rest ih =>
    rw [List.flatMap_cons] at hpayload
    have hnext : payload.drop (TOUCH_PAYLOAD_HEADER_SIZE + (index + 1) * CONTACT_SIZE) = rest.flatMap TouchContact.encode := by
      have hoffset : TOUCH_PAYLOAD_HEADER_SIZE + (index + 1) * CONTACT_SIZE =
          TOUCH_PAYLOAD_HEADER_SIZE + index * CONTACT_SIZE + CONTACT_SIZE := by
        rw [Nat.succ_mul, Nat.add_assoc]
      rw [hoffset, ← List.drop_drop, hpayload]
      exact List.drop_left' (encode_length c)
    obtain ⟨hid, hflags, hx, hy, hpressure, hmajor⟩ := read_contact c (rest.flatMap TouchContact.encode)
    rw [← hpayload, read_i16, read_u16_drop] at hx hy
    rw [← hpayload, read_u16_drop] at hpressure hmajor
    rw [← hpayload, getD_drop] at hid hflags
    rw [List.map_cons, List.append_cons] at hdistinct
    have hfresh : c.pointerId ∉ contacts.items.map Contact.pointer_id := by
      intro hmem
      have hnodup := (List.nodup_append.1 (List.nodup_append.1 hdistinct).1).2.2
      exact hnodup _ hmem _ (List.mem_singleton_self _) rfl
    simp only [List.length_cons] at room ⊢
    have hroom : contacts.items.length < MAX_CONTACTS := by omega
    have hroom' : (contacts.push c.wire hroom hfresh).items.length + rest.length ≤ MAX_CONTACTS := by
      simp only [Contacts.push, List.length_append, List.length_singleton]
      omega
    obtain ⟨decoded, hok, hitems⟩ := ih hroom' hnext (by simpa [Contacts.push, TouchContact.wire] using hdistinct)
    refine ⟨decoded, ?_, ?_⟩
    · simp only [Nat.add_zero] at hid
      unfold decode_contacts
      simp only [hid, hflags, dif_neg hfresh, contactFlags_valid, ne_eq, not_true_eq_false, if_false]
      rw [← hok]
      congr 2
      simp only [read_i16, hx, hy, hpressure, hmajor, TouchContact.wire]
    · rw [hitems]
      simp [Contacts.push]

/-- What makes a written frame acceptable: a known action, known flags, and the session-start rule. -/
structure Content.Valid (c : Content) (sequence : Nat) : Prop where
  action : c.action ∈ [ACTION_HEARTBEAT, ACTION_DOWN, ACTION_MOVE, ACTION_UP, ACTION_CANCEL]
  flags : c.frameFlags &&& ~~~VALID_FRAME_FLAGS = 0
  starts : sequence = 0 → c.action = ACTION_CANCEL ∧ c.frameFlags = FRAME_FLAG_SESSION_START ∧ c.snapshot.contacts = []
  follows : sequence ≠ 0 → c.frameFlags &&& FRAME_FLAG_SESSION_START = 0

theorem Content.payload_length (c : Content) (t₁ t₂ t₃ : UInt64) :
    (c.payload t₁ t₂ t₃).length = TOUCH_PAYLOAD_HEADER_SIZE + c.snapshot.contacts.length * CONTACT_SIZE := by
  have hcontacts : (c.snapshot.contacts.flatMap TouchContact.encode).length = c.snapshot.contacts.length * CONTACT_SIZE := by
    rw [List.length_flatMap]
    simp [encode_length]
  simp only [Content.payload, List.length_append, LittleEndian.encode_length, List.length_cons, List.length_nil, hcontacts,
    TOUCH_PAYLOAD_HEADER_SIZE]

/-- The header fields are where they were written. -/
theorem read_payload (c : Content) (t₁ t₂ t₃ : UInt64) :
    read_u64 (c.payload t₁ t₂ t₃) 0 = c.eventNanos ∧ read_u64 (c.payload t₁ t₂ t₃) 8 = c.callbackNanos ∧
    read_u64 (c.payload t₁ t₂ t₃) 16 = t₁ ∧ read_u64 (c.payload t₁ t₂ t₃) 24 = t₂ ∧ read_u64 (c.payload t₁ t₂ t₃) 32 = t₃ ∧
    (c.payload t₁ t₂ t₃).getD 40 0 = c.action ∧ (c.payload t₁ t₂ t₃).getD 41 0 = c.actionPointerId ∧
    (c.payload t₁ t₂ t₃).getD 42 0 = .ofNat c.snapshot.contacts.length ∧ (c.payload t₁ t₂ t₃).getD 43 0 = c.frameFlags ∧
    (c.payload t₁ t₂ t₃).drop (TOUCH_PAYLOAD_HEADER_SIZE + 0 * CONTACT_SIZE) = c.snapshot.contacts.flatMap TouchContact.encode := by
  refine ⟨?_, ?_, ?_, ?_, ?_, rfl, rfl, rfl, rfl, rfl⟩
  · exact u64_round_trip c.eventNanos
  · exact u64_round_trip c.callbackNanos
  · exact u64_round_trip t₁
  · exact u64_round_trip t₂
  · exact u64_round_trip t₃

theorem validate_written {frame : TouchFrame} {c : Content} (hv : c.Valid frame.sequence) (haction : frame.action = c.action)
    (hflags : frame.flags = c.frameFlags) (hcontacts : frame.contacts.items = c.snapshot.contacts.map TouchContact.wire) :
    validate_session_start frame = .ok () := by
  unfold validate_session_start
  split
  · rename_i hzero
    obtain ⟨ha, hf, hc⟩ := hv.starts hzero
    have hstart : frame.session_start = true := by
      rw [TouchFrame.session_start, hflags, hf]
      rfl
    rw [if_neg]
    rw [haction, ha, hflags, hf, hcontacts, hc, hstart]
    simp
  · rename_i hne
    have hnot : frame.session_start = false := by
      rw [TouchFrame.session_start, hflags, hv.follows hne]
      rfl
    rw [if_neg (by simp [hnot])]

/-- The host reads back what the phone wrote, whatever times were patched in. -/
theorem decode_payload {c : Content} {header : RecordHeader} (t₁ t₂ t₃ : UInt64) (hv : c.Valid header.logical_id.toNat)
    (hdirection : header.direction = .PhoneToHost) (htype : header.message_type = PHONE_TOUCH)
    (hsession : header.session_id ≠ 0) (hflags : header.flags = 0) :
    decode_touch_payload header (c.payload t₁ t₂ t₃) = .ok (c.frame header t₁ t₂ t₃) := by
  have hbounded := c.snapshot.bounded
  have hlength := c.payload_length t₁ t₂ t₃
  have hcount : (UInt8.ofNat c.snapshot.contacts.length).toNat = c.snapshot.contacts.length := by
    apply UInt8.toNat_ofNat_of_lt'
    simp only [MAX_CONTACTS, UInt8.size] at hbounded ⊢
    omega
  obtain ⟨hevent, hcallback, hsend, hecho, hreceive, haction, hpointer, hcontacts, hframe, hrest⟩ := read_payload c t₁ t₂ t₃
  have hroom : Contacts.empty.items.length + c.snapshot.contacts.length ≤ MAX_CONTACTS := by
    simp only [Contacts.empty, List.length_nil, Nat.zero_add]
    exact hbounded
  obtain ⟨decoded, hok, hitems⟩ := decode_contacts_encoded c.snapshot.contacts hroom hrest
    (by simpa [Contacts.empty] using c.snapshot.distinct)
  have hwire : decoded = c.snapshot.wire := by
    cases decoded
    simp only [Contacts.empty, List.nil_append] at hitems
    subst hitems
    rfl
  have hvalid : validate_session_start (c.frame header t₁ t₂ t₃) = .ok () := validate_written hv rfl rfl rfl
  unfold decode_touch_payload
  rw [if_neg (by
    simp only [hdirection, htype, hflags, hsession, hlength, ne_eq, not_true_eq_false, false_or, not_lt]
    omega)]
  simp only [haction, hcontacts, hframe, hcount]
  rw [if_neg (not_not_intro hv.action), dif_neg (by rw [hlength]; omega), if_neg (by rw [hv.flags]; simp), hok, hwire]
  simp only [hevent, hcallback, hsend, hecho, hreceive, hpointer]
  unfold Content.frame at hvalid ⊢
  rw [hvalid]

end Trackpad
