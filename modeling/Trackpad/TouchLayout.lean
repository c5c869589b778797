import Trackpad.Phone.Spec
/-!
# Touch payloads have no slack

The decoder accepts exactly the payloads in the phone's layout whose fields it allows, and a payload it accepts is the
one its fields are written to. So the phone's frames, patched at send time, come out as they went in.
-/

namespace Trackpad

/-! ## The layout -/

/-- A decoded contact in the phone's layout. -/
def Contact.bytes (c : Contact) : Bytes :=
  [c.pointer_id, c.flags] ++ LittleEndian.encode 2 (BitVec.ofInt 16 c.x).toNat ++
    LittleEndian.encode 2 (BitVec.ofInt 16 c.y).toNat ++ LittleEndian.encode 2 c.pressure ++
    LittleEndian.encode 2 c.touch_major

/-- A decoded frame in the phone's layout. -/
def TouchFrame.payload (frame : TouchFrame) : Bytes :=
  LittleEndian.encode 8 frame.phone_event_nanos ++ LittleEndian.encode 8 frame.phone_callback_nanos ++
    LittleEndian.encode 8 frame.phone_send_nanos ++ LittleEndian.encode 8 frame.echo_host_send_nanos ++
    LittleEndian.encode 8 frame.phone_control_receive_nanos ++
    [frame.action, frame.action_pointer_id, .ofNat frame.contacts.items.length, frame.flags] ++
    frame.contacts.items.flatMap Contact.bytes

/-- A contact whose fixed-point fields have sixteen bits and whose flags are known. -/
structure Contact.Fits (c : Contact) : Prop where
  x : -2 ^ 15 ≤ c.x ∧ c.x < 2 ^ 15
  y : -2 ^ 15 ≤ c.y ∧ c.y < 2 ^ 15
  pressure : c.pressure < 2 ^ 16
  touch_major : c.touch_major < 2 ^ 16
  flags : c.flags &&& ~~~VALID_CONTACT_FLAGS = 0

/-- The header a touch record comes under. -/
structure TouchHeader (header : RecordHeader) : Prop where
  direction : header.direction = .PhoneToHost
  message_type : header.message_type = PHONE_TOUCH
  session_id : header.session_id ≠ 0
  flags : header.flags = 0

/-- A frame that may come under `header`: known action and flags, fields that fit, and the session-start rule. Its
contacts are at most sixteen and distinct by their type. -/
structure Acceptable (header : RecordHeader) (frame : TouchFrame) : Prop where
  session_id : frame.session_id = header.session_id.toNat
  sequence : frame.sequence = header.logical_id.toNat
  times : frame.phone_event_nanos < 2 ^ 64 ∧ frame.phone_callback_nanos < 2 ^ 64 ∧ frame.phone_send_nanos < 2 ^ 64 ∧
    frame.echo_host_send_nanos < 2 ^ 64 ∧ frame.phone_control_receive_nanos < 2 ^ 64
  action : frame.action ∈ [ACTION_HEARTBEAT, ACTION_DOWN, ACTION_MOVE, ACTION_UP, ACTION_CANCEL]
  flags : frame.flags &&& ~~~VALID_FRAME_FLAGS = 0
  contacts : ∀ c ∈ frame.contacts.items, c.Fits
  starts : frame.sequence = 0 → StartsSession frame
  only_start : frame.session_start = true → frame.sequence = 0

/-! ## What was decoded is what was written -/

/-- The contact the decoder reads at `offset`. -/
def contactAt (payload : Bytes) (offset : Nat) : Contact where
  pointer_id := payload.getD offset 0
  flags := payload.getD (offset + 1) 0
  x := read_i16 payload (offset + 2)
  y := read_i16 payload (offset + 4)
  pressure := (read_u16 payload (offset + 6)).toNat
  touch_major := (read_u16 payload (offset + 8)).toNat

theorem contactAt_bytes {payload : Bytes} {offset : Nat} (h : offset + CONTACT_SIZE ≤ payload.length) :
    (contactAt payload offset).bytes = slice payload offset CONTACT_SIZE := by
  simp only [CONTACT_SIZE] at h
  have hi16 : ∀ {i}, i + 2 ≤ payload.length →
      LittleEndian.encode 2 (BitVec.ofInt 16 (read_i16 payload i)).toNat = slice payload i 2 := by
    intro i hi
    rw [read_i16, BitVec.ofInt_toInt, UInt16.toNat_toBitVec, encode_read_u16 hi]
  simp only [Contact.bytes, contactAt]
  rw [bytes_slice (by omega), hi16 (by omega), hi16 (by omega), encode_read_u16 (by omega), encode_read_u16 (by omega),
    slice_slice payload offset 2 2, slice_slice payload offset 4 2, slice_slice payload offset 6 2,
    slice_slice payload offset 8 2]
  rfl

theorem i16_bounds (v : BitVec 16) : -2 ^ 15 ≤ v.toInt ∧ v.toInt < 2 ^ 15 := ⟨BitVec.le_toInt v, BitVec.toInt_lt⟩

/-- The decoder's loop takes up the payload contact by contact. -/
theorem decode_contacts_ok {payload : Bytes} (remaining : Nat) {index : Nat} {contacts decoded : Contacts}
    {room : contacts.items.length + remaining ≤ MAX_CONTACTS}
    (hlength : TOUCH_PAYLOAD_HEADER_SIZE + (index + remaining) * CONTACT_SIZE ≤ payload.length)
    (h : decode_contacts payload remaining index contacts room = .ok decoded) :
    ∃ rest, decoded.items = contacts.items ++ rest ∧ rest.length = remaining ∧ (∀ c ∈ rest, c.Fits) ∧
      rest.flatMap Contact.bytes =
        slice payload (TOUCH_PAYLOAD_HEADER_SIZE + index * CONTACT_SIZE) (remaining * CONTACT_SIZE) := by
  induction remaining generalizing index contacts with
  | zero =>
    unfold decode_contacts at h
    obtain rfl := Except.ok.inj h
    exact ⟨[], (List.append_nil _).symm, rfl, fun c hc => absurd hc List.not_mem_nil, by simp [slice]⟩
  | succ remaining ih =>
    unfold decode_contacts at h
    dsimp only at h
    split at h
    · cases h
    split at h
    · cases h
    rename_i hflags
    simp only [TOUCH_PAYLOAD_HEADER_SIZE, CONTACT_SIZE] at hlength
    obtain ⟨rest, hitems, hcount, hfits, hbytes⟩ := ih (by simp only [TOUCH_PAYLOAD_HEADER_SIZE, CONTACT_SIZE]; omega) h
    refine ⟨contactAt payload (TOUCH_PAYLOAD_HEADER_SIZE + index * CONTACT_SIZE) :: rest, ?_,
      by rw [List.length_cons, hcount], ?_, ?_⟩
    · rw [hitems, Contacts.push, List.append_assoc]
      rfl
    · intro c hc
      rcases List.mem_cons.1 hc with rfl | hc
      · exact ⟨i16_bounds _, i16_bounds _, UInt16.toNat_lt _, UInt16.toNat_lt _, Decidable.not_not.1 hflags⟩
      · exact hfits c hc
    · rw [List.flatMap_cons, hbytes, contactAt_bytes (by simp only [TOUCH_PAYLOAD_HEADER_SIZE, CONTACT_SIZE]; omega)]
      have hnext : TOUCH_PAYLOAD_HEADER_SIZE + (index + 1) * CONTACT_SIZE =
          TOUCH_PAYLOAD_HEADER_SIZE + index * CONTACT_SIZE + CONTACT_SIZE := by
        simp only [CONTACT_SIZE]
        omega
      rw [hnext, slice_slice, Nat.succ_mul, Nat.add_comm CONTACT_SIZE]

/-- A payload that decodes is the layout of the frame it decodes to. -/
theorem decode_touch_written {header : RecordHeader} {payload : Bytes} {frame : TouchFrame}
    (h : decode_touch_payload header payload = .ok frame) :
    TouchHeader header ∧ Acceptable header frame ∧ payload = frame.payload := by
  unfold decode_touch_payload at h
  split at h
  · cases h
  rename_i hheader
  dsimp only at h
  split at h
  · cases h
  rename_i haction
  split at h
  · cases h
  rename_i hcount
  split at h
  · cases h
  rename_i hflags
  split at h
  · cases h
  rename_i contacts hcontacts
  split at h
  · cases h
  rename_i hvalid
  obtain rfl := (Except.ok.inj h).symm
  simp only [not_or, ne_eq, Decidable.not_not] at hheader haction hcount hflags
  obtain ⟨hdirection, htype, hsession, hzero, hlong⟩ := hheader
  obtain ⟨hstarts, honly⟩ := validate_session_start_ok hvalid
  obtain ⟨hmany, hlength⟩ := hcount
  simp only [TOUCH_PAYLOAD_HEADER_SIZE] at hlong
  obtain ⟨rest, hitems, hrest, hfits, hbytes⟩ := decode_contacts_ok _ (by rw [Nat.zero_add, hlength]) hcontacts
  have hitems : contacts.items = rest := hitems
  subst hitems
  refine ⟨⟨hdirection, htype, hsession, hzero⟩,
    ⟨rfl, rfl, ⟨UInt64.toNat_lt _, UInt64.toNat_lt _, UInt64.toNat_lt _, UInt64.toNat_lt _, UInt64.toNat_lt _⟩, haction,
      hflags, hfits, hstarts, honly⟩, ?_⟩
  have hbytes : contacts.items.flatMap Contact.bytes = slice payload (0 + 44) ((payload.getD 42 0).toNat * CONTACT_SIZE) := hbytes
  have hbyte : UInt8.ofNat contacts.items.length = payload.getD 42 0 := by rw [hrest, UInt8.ofNat_toNat]
  have hfields : [payload.getD 40 0, payload.getD 41 0, payload.getD 42 0, payload.getD 43 0] = slice payload 40 4 := by
    rw [← slice_slice payload 40 2 2, ← bytes_slice (by omega), ← bytes_slice (by omega)]
    rfl
  rw [TouchFrame.payload]
  dsimp only
  rw [hbyte, hfields, hbytes, encode_read_u64 (by omega), encode_read_u64 (by omega), encode_read_u64 (by omega),
    encode_read_u64 (by omega), encode_read_u64 (by omega), slice_slice payload 0 8 8, slice_slice payload 0 16 8,
    slice_slice payload 0 24 8, slice_slice payload 0 32 8, slice_slice payload 0 40 4,
    slice_slice payload 0 44]
  exact (List.take_of_length_le (Nat.le_of_eq hlength)).symm

/-! ## What is written is decoded -/

/-- The contact the phone would write as `c`. -/
def Contact.written (c : Contact) : TouchContact where
  pointerId := c.pointer_id
  inside := c.inside
  touching := c.touching
  suppressed := c.key_suppressed
  x := .ofInt 16 c.x
  y := .ofInt 16 c.y
  pressure := .ofNat c.pressure
  touchMajor := .ofNat c.touch_major

/-- Known flags are three independent bits. -/
theorem written_flags {c : Contact} (h : c.flags &&& ~~~VALID_CONTACT_FLAGS = 0) : c.written.contactFlags = c.flags := by
  have hbits : ∀ v : BitVec 8, UInt8.ofBitVec v &&& ~~~VALID_CONTACT_FLAGS = 0 →
      (if UInt8.ofBitVec v &&& CONTACT_FLAG_INSIDE != 0 then CONTACT_FLAG_INSIDE else 0) |||
        (if UInt8.ofBitVec v &&& CONTACT_FLAG_TIP != 0 then CONTACT_FLAG_TIP else 0) |||
        (if UInt8.ofBitVec v &&& CONTACT_FLAG_KEY_SUPPRESSED != 0 then CONTACT_FLAG_KEY_SUPPRESSED else 0) =
        UInt8.ofBitVec v := by
    decide
  exact hbits c.flags.toBitVec h

theorem written_wire {c : Contact} (h : c.Fits) : c.written.wire = c := by
  have hi16 : ∀ {v : Int}, -2 ^ 15 ≤ v ∧ v < 2 ^ 15 → (BitVec.ofInt 16 v).toInt = v := by
    intro v hv
    rw [BitVec.toInt_ofInt]
    exact Int.bmod_eq_of_le (by omega) (by omega)
  rw [TouchContact.wire, written_flags h.flags]
  simp only [Contact.written]
  rw [hi16 h.x, hi16 h.y, UInt16.toNat_ofNat_of_lt' h.pressure, UInt16.toNat_ofNat_of_lt' h.touch_major]

theorem written_encode {c : Contact} (h : c.Fits) : c.written.encode = c.bytes := by
  rw [TouchContact.encode, Contact.bytes, written_flags h.flags]
  simp only [Contact.written]
  rw [UInt16.toNat_ofNat_of_lt' h.pressure, UInt16.toNat_ofNat_of_lt' h.touch_major]

/-- The frame the phone would write as `frame`. -/
def TouchFrame.written (frame : TouchFrame) : Content where
  eventNanos := .ofNat frame.phone_event_nanos
  callbackNanos := .ofNat frame.phone_callback_nanos
  action := frame.action
  actionPointerId := frame.action_pointer_id
  frameFlags := frame.flags
  snapshot :=
    { contacts := frame.contacts.items.map Contact.written
      bounded := by rw [List.length_map]; exact frame.contacts.bounded
      distinct := by rw [List.map_map]; exact frame.contacts.distinct }

theorem written_payload {header : RecordHeader} {frame : TouchFrame} (h : Acceptable header frame) :
    frame.written.payload (.ofNat frame.phone_send_nanos) (.ofNat frame.echo_host_send_nanos)
      (.ofNat frame.phone_control_receive_nanos) = frame.payload := by
  obtain ⟨hevent, hcallback, hsend, hecho, hreceive⟩ := h.times
  have hcontacts : (frame.contacts.items.map Contact.written).flatMap TouchContact.encode =
      frame.contacts.items.flatMap Contact.bytes := by
    rw [List.flatMap_map]
    exact List.flatMap_congr fun c hc => written_encode (h.contacts c hc)
  simp only [Content.payload, TouchFrame.payload, TouchFrame.written, hcontacts, List.length_map]
  rw [UInt64.toNat_ofNat_of_lt' hevent, UInt64.toNat_ofNat_of_lt' hcallback, UInt64.toNat_ofNat_of_lt' hsend,
    UInt64.toNat_ofNat_of_lt' hecho, UInt64.toNat_ofNat_of_lt' hreceive]

theorem contacts_ext {a b : Contacts} (h : a.items = b.items) : a = b := by
  cases a
  cases b
  cases h
  rfl

theorem written_frame {header : RecordHeader} {frame : TouchFrame} (h : Acceptable header frame) :
    frame.written.frame header (.ofNat frame.phone_send_nanos) (.ofNat frame.echo_host_send_nanos)
      (.ofNat frame.phone_control_receive_nanos) = frame := by
  obtain ⟨hevent, hcallback, hsend, hecho, hreceive⟩ := h.times
  have hcontacts : frame.written.snapshot.wire = frame.contacts := by
    apply contacts_ext
    simp only [Snapshot.wire, TouchFrame.written, List.map_map]
    exact (List.map_congr_left fun c hc => written_wire (h.contacts c hc)).trans (List.map_id _)
  have hsession := h.session_id
  have hsequence := h.sequence
  rw [Content.frame, hcontacts, UInt64.toNat_ofNat_of_lt' hsend, UInt64.toNat_ofNat_of_lt' hecho,
    UInt64.toNat_ofNat_of_lt' hreceive, ← hsession, ← hsequence]
  simp only [TouchFrame.written]
  rw [UInt64.toNat_ofNat_of_lt' hevent, UInt64.toNat_ofNat_of_lt' hcallback]

theorem written_valid {header : RecordHeader} {frame : TouchFrame} (h : Acceptable header frame) :
    frame.written.Valid header.logical_id.toNat where
  action := h.action
  flags := h.flags
  starts hz := by
    obtain ⟨-, haction, hflags, hcontacts⟩ := h.starts (h.sequence.trans hz)
    exact ⟨haction, hflags, by simp only [TouchFrame.written, hcontacts, List.map_nil]⟩
  follows hnz := by
    have hnot : frame.session_start ≠ true := fun hs => hnz (h.sequence.symm.trans (h.only_start hs))
    simpa [TouchFrame.session_start, TouchFrame.written] using hnot

/-- The decoder accepts exactly the payloads in the phone's layout whose fields it allows. -/
theorem decode_touch_iff {header : RecordHeader} {payload : Bytes} {frame : TouchFrame} :
    decode_touch_payload header payload = .ok frame ↔
      TouchHeader header ∧ Acceptable header frame ∧ payload = frame.payload := by
  refine ⟨decode_touch_written, ?_⟩
  rintro ⟨hheader, haccept, rfl⟩
  have hdecode := decode_payload (.ofNat frame.phone_send_nanos) (.ofNat frame.echo_host_send_nanos)
    (.ofNat frame.phone_control_receive_nanos) (written_valid haccept) hheader.direction hheader.message_type
    hheader.session_id hheader.flags
  rwa [written_payload haccept, written_frame haccept] at hdecode

/-! ## What the phone queues and sends -/

def putLong (offset : Nat) (value : UInt64) (bytes : Bytes) : Bytes :=
  bytes.take offset ++ LittleEndian.encode 8 value.toNat ++ bytes.drop (offset + 8)

/-- The queued payload as `writerLoop` patches it, with the last host times first. -/
def Content.patched (c : Content) (sendStarted lastHostSendNanos lastControlReceiveNanos : UInt64) : Bytes :=
  putLong 16 sendStarted (putLong 32 lastControlReceiveNanos (putLong 24 lastHostSendNanos (c.payload 0 0 0)))

theorem putLong_written {offset : Nat} {front : Bytes} (h : front.length = offset) (old value : UInt64) (rest : Bytes) :
    putLong offset value (front ++ (LittleEndian.encode 8 old.toNat ++ rest)) =
      front ++ (LittleEndian.encode 8 value.toNat ++ rest) := by
  rw [putLong, List.take_left' h, ← List.drop_drop, List.drop_left' h, List.drop_left' (LittleEndian.encode_length 8 _),
    List.append_assoc]

theorem patched_payload (c : Content) (t₁ t₂ t₃ : UInt64) : c.patched t₁ t₂ t₃ = c.payload t₁ t₂ t₃ := by
  obtain ⟨times, htimes⟩ : ∃ times, times = LittleEndian.encode 8 c.eventNanos.toNat ++
    LittleEndian.encode 8 c.callbackNanos.toNat := ⟨_, rfl⟩
  have hlength : times.length = 16 := by
    rw [htimes, List.length_append, LittleEndian.encode_length, LittleEndian.encode_length]
  obtain ⟨rest, hrest⟩ : ∃ rest, rest = [c.action, c.actionPointerId, .ofNat c.snapshot.contacts.length, c.frameFlags] ++
    c.snapshot.contacts.flatMap TouchContact.encode := ⟨_, rfl⟩
  have hpayload : ∀ send echo receive, c.payload send echo receive = times ++ (LittleEndian.encode 8 send.toNat ++
      (LittleEndian.encode 8 echo.toNat ++ (LittleEndian.encode 8 receive.toNat ++ rest))) := by
    intro send echo receive
    simp only [Content.payload, htimes, hrest, List.append_assoc]
  have hfront : ∀ (front : Bytes) (value : UInt64), (front ++ LittleEndian.encode 8 value.toNat).length = front.length + 8 := by
    intro front value
    rw [List.length_append, LittleEndian.encode_length]
  rw [Content.patched, hpayload 0 0 0, ← List.append_assoc times, putLong_written (by rw [hfront, hlength]),
    ← List.append_assoc _ (LittleEndian.encode 8 t₂.toNat), putLong_written (by rw [hfront, hfront, hlength]),
    List.append_assoc, List.append_assoc, putLong_written hlength, hpayload]

/-- The frames `enqueueFrameLocked` is called for, with the sequence number they get. -/
inductive Enqueued : Nat → Content → Prop
  | start (now : Int) : Enqueued 0 (startContent now)
  | retained {sequence : Nat} (snapshot : Snapshot) (now : Int) (after : sequence ≠ 0) :
      Enqueued sequence (retainedContent snapshot now)
  | sample {sequence : Nat} (sample : Sample) (after : sequence ≠ 0) : Enqueued sequence sample.content

theorem Enqueued.valid {sequence : Nat} {c : Content} (h : Enqueued sequence c) : c.Valid sequence := by
  cases h with
  | start now => exact V5Transport.startContent_valid now
  | retained snapshot now after => exact V5Transport.retainedContent_valid snapshot now after
  | sample sample after => exact V5Transport.sampleContent_valid sample after

/-- The phone's frames come out as they went in, and the format has no slack. -/
theorem touch_round_trip :
    (∀ (header : RecordHeader) (c : Content) (sendNanos echoNanos receiveNanos : UInt64), TouchHeader header →
      Enqueued header.logical_id.toNat c →
      decode_touch_payload header (c.patched sendNanos echoNanos receiveNanos) =
        .ok (c.frame header sendNanos echoNanos receiveNanos)) ∧
    ∀ (header : RecordHeader) (payload : Bytes) (frame : TouchFrame),
      decode_touch_payload header payload = .ok frame ↔
        TouchHeader header ∧ Acceptable header frame ∧ payload = frame.payload := by
  refine ⟨?_, fun header payload frame => decode_touch_iff⟩
  intro header c sendNanos echoNanos receiveNanos hheader hqueued
  rw [patched_payload]
  exact decode_payload _ _ _ hqueued.valid hheader.direction hheader.message_type hheader.session_id hheader.flags

/-- A finger slides on the pad and another, whose key is suppressed, has left it on the left. -/
def slidSample : Sample where
  action := ACTION_MOVE
  actionPointerId := 3
  locked := true
  eventNanos := 40
  callbackNanos := 50
  historical := true
  snapshot := ⟨[⟨3, true, true, false, 5000#16, 2500#16, 100, 7⟩, ⟨9, false, true, true, .ofInt 16 (-20), 9999#16, 0, 0⟩],
    by decide, by decide⟩
  known := known_move

/-- The header it is sent under as frame 5. -/
def slidHeader : RecordHeader where
  direction := .PhoneToHost
  message_type := PHONE_TOUCH
  connection_id := 1
  session_id := 7
  packet_number := 8
  logical_id := 5
  flags := 0
  payload_length := 64

theorem touch_round_trip_slid :
    decode_touch_payload slidHeader (slidSample.content.patched 60 30 20) = .ok (slidSample.content.frame slidHeader 60 30 20) ∧
    (slidSample.content.frame slidHeader 60 30 20).contacts.items =
      [⟨3, CONTACT_FLAG_INSIDE ||| CONTACT_FLAG_TIP, 5000, 2500, 100, 7⟩,
        ⟨9, CONTACT_FLAG_TIP ||| CONTACT_FLAG_KEY_SUPPRESSED, -20, 9999, 0, 0⟩] ∧
    Acceptable slidHeader (slidSample.content.frame slidHeader 60 30 20) := by
  have hdecoded := touch_round_trip.1 slidHeader slidSample.content 60 30 20 ⟨rfl, rfl, by decide, rfl⟩
    (.sample slidSample (by decide))
  exact ⟨hdecoded, by decide, ((touch_round_trip.2 _ _ _).1 hdecoded).2.1⟩

end Trackpad
