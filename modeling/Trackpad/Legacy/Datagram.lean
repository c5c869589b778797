import Trackpad.Lib.Crc
import Trackpad.Touch
/-!
# Protocol v4 datagrams

`protocol.rs`: a touch frame and a discovery message, each behind its magic and with a CRC-32 at its end. The checks run
in the order of the source. `f32` fields keep the units of the wire.
-/

namespace Trackpad.Legacy

def PROTOCOL_VERSION : UInt8 := 4
def FRAME_MAGIC : Bytes := [0x48, 0x50, 0x54, 0x34]
def DISCOVERY_MAGIC : Bytes := [0x48, 0x50, 0x54, 0x44]
def DISCOVERY_VERSION : UInt8 := 1
def DISCOVERY_HELLO : UInt8 := 1
def DISCOVERY_ACK : UInt8 := 2
def MESSAGE_TOUCH_FRAME : UInt8 := 1

def FRAME_HEADER_SIZE : Nat := 68
def CRC_SIZE : Nat := 4
def DISCOVERY_SIZE : Nat := 32
def MAX_FRAME_SIZE : Nat := FRAME_HEADER_SIZE + MAX_CONTACTS * CONTACT_SIZE + CRC_SIZE

inductive ProtocolError
  | BadMagic
  | BadVersion (version : UInt8)
  | BadMessageType (message_type : UInt8)
  | BadAction (action : UInt8)
  | BadLength (length : Nat)
  | BadContactCount (count : Nat)
  | DuplicatePointerId (pointer_id : UInt8)
  | BadCrc (expected actual : UInt32)
deriving DecidableEq

/-- `{value:08x}`. -/
def hex8 (value : UInt32) : String :=
  let digits := Nat.toDigits 16 value.toNat
  String.ofList (List.replicate (8 - digits.length) '0' ++ digits)

def ProtocolError.fmt : ProtocolError → String
  | .BadMagic => "invalid touch frame magic"
  | .BadVersion version => "unsupported touch protocol v" ++ toString version
  | .BadMessageType message_type => "unsupported message type " ++ toString message_type
  | .BadAction action => "unsupported touch action " ++ toString action
  | .BadLength length => "invalid touch frame length " ++ toString length
  | .BadContactCount count => "invalid contact count " ++ toString count
  | .DuplicatePointerId pointer_id => "duplicate pointer ID " ++ toString pointer_id
  | .BadCrc expected actual => "touch frame CRC mismatch: expected " ++ hex8 expected ++ ", got " ++ hex8 actual

/-! ## The checksum -/

/-- The body of the inner loop of `crc32`. -/
def crc_step (value : UInt32) : UInt32 := if value &&& 1 ≠ 0 then (value >>> 1) ^^^ 0xedb88320 else value >>> 1

/-- The body of the outer loop. -/
def crc_byte (value : UInt32) (byte : UInt8) : UInt32 := crc_step^[8] (value ^^^ byte.toUInt32)

def crc32 (bytes : Bytes) : UInt32 := ~~~bytes.foldl crc_byte 0xffffffff

/-- The check value of the CRC catalogues, of the digits from 1 to 9. -/
example : crc32 [0x31, 0x32, 0x33, 0x34, 0x35, 0x36, 0x37, 0x38, 0x39] = 0xcbf43926 := by decide +kernel

/-! ## Touch frames -/

/-- The contacts from `index` on. -/
def decode_frame_contacts (bytes : Bytes) (remaining index : Nat) (contacts : Contacts)
    (room : contacts.items.length + remaining ≤ MAX_CONTACTS) : Except ProtocolError Contacts :=
  match remaining with
  | 0 => .ok contacts
  | remaining + 1 =>
    let offset := FRAME_HEADER_SIZE + index * CONTACT_SIZE
    let pointer_id := bytes.getD offset 0
    if seen : pointer_id ∈ contacts.items.map Contact.pointer_id then .error (.DuplicatePointerId pointer_id)
    else
      let contact : Contact :=
        { pointer_id := pointer_id
          flags := bytes.getD (offset + 1) 0
          x := read_i16 bytes (offset + 2)
          y := read_i16 bytes (offset + 4)
          pressure := (read_u16 bytes (offset + 6)).toNat
          touch_major := (read_u16 bytes (offset + 8)).toNat }
      decode_frame_contacts bytes remaining (index + 1) (contacts.push contact (by omega) seen)
        (by simp only [Contacts.push, List.length_append, List.length_singleton]; omega)

def decode_frame (bytes : Bytes) : Except ProtocolError TouchFrame :=
  if bytes.length < FRAME_HEADER_SIZE + CRC_SIZE then .error (.BadLength bytes.length)
  else if bytes.take 4 ≠ FRAME_MAGIC then .error .BadMagic
  else
    let declared_length := (read_u16 bytes 6).toNat
    if declared_length ≠ bytes.length ∨ bytes.length > MAX_FRAME_SIZE then .error (.BadLength declared_length)
    else if bytes.getD 4 0 ≠ PROTOCOL_VERSION then .error (.BadVersion (bytes.getD 4 0))
    else if bytes.getD 5 0 ≠ MESSAGE_TOUCH_FRAME then .error (.BadMessageType (bytes.getD 5 0))
    else if bytes.getD 64 0 ∉ [ACTION_HEARTBEAT, ACTION_DOWN, ACTION_MOVE, ACTION_UP, ACTION_CANCEL] then
      .error (.BadAction (bytes.getD 64 0))
    else
      let expected_crc := read_u32 bytes (bytes.length - CRC_SIZE)
      let actual_crc := crc32 (bytes.take (bytes.length - CRC_SIZE))
      if expected_crc ≠ actual_crc then .error (.BadCrc expected_crc actual_crc)
      else
        let contact_count := (bytes.getD 66 0).toNat
        if room : contact_count > MAX_CONTACTS then .error (.BadContactCount contact_count)
        else
          let expected_length := FRAME_HEADER_SIZE + contact_count * CONTACT_SIZE + CRC_SIZE
          if bytes.length ≠ expected_length then .error (.BadLength bytes.length)
          else
            match decode_frame_contacts bytes contact_count 0 .empty
                (by simp only [Contacts.empty, List.length_nil]; omega) with
            | .error e => .error e
            | .ok contacts =>
              .ok
                { session_id := (read_u64 bytes 8).toNat
                  sequence := (read_u64 bytes 16).toNat
                  phone_event_nanos := (read_u64 bytes 24).toNat
                  phone_callback_nanos := (read_u64 bytes 32).toNat
                  phone_send_nanos := (read_u64 bytes 40).toNat
                  echo_host_send_nanos := (read_u64 bytes 48).toNat
                  phone_control_receive_nanos := (read_u64 bytes 56).toNat
                  action := bytes.getD 64 0
                  action_pointer_id := bytes.getD 65 0
                  flags := bytes.getD 67 0
                  contacts := contacts }

/-! ## Discovery -/

structure DiscoveryMessage where
  kind : UInt8
  nonce : Nat
  session_id : Nat
  port : Nat
deriving DecidableEq

def encode_discovery (kind : UInt8) (nonce session_id port : Nat) : Bytes :=
  let bytes := DISCOVERY_MAGIC ++ [DISCOVERY_VERSION, kind, 0, 0] ++ LittleEndian.encode 8 nonce ++
    LittleEndian.encode 8 session_id ++ LittleEndian.encode 2 port ++ [0, 0]
  bytes ++ LittleEndian.encode 4 (crc32 bytes).toNat

def decode_discovery (bytes : Bytes) : Option DiscoveryMessage :=
  if bytes.length ≠ DISCOVERY_SIZE ∨ bytes.take 4 ≠ DISCOVERY_MAGIC ∨ bytes.getD 4 0 ≠ DISCOVERY_VERSION ∨
      bytes.getD 5 0 ∉ [DISCOVERY_HELLO, DISCOVERY_ACK] ∨ read_u32 bytes 28 ≠ crc32 (bytes.take 28) then none
  else
    some
      { kind := bytes.getD 5 0
        nonce := (read_u64 bytes 8).toNat
        session_id := (read_u64 bytes 16).toNat
        port := (read_u16 bytes 24).toNat }

example : decode_discovery (encode_discovery DISCOVERY_HELLO 7 9 5005) = some ⟨DISCOVERY_HELLO, 7, 9, 5005⟩ := by
  decide +kernel

/-! ## Bits -/

/-- The bits of a datagram, the bytes in order, the least significant bit first. -/
def bits (bytes : Bytes) : List Bool := bytes.flatMap fun byte => (List.range 8).map byte.toNat.testBit

@[simp] theorem bits_length (bytes : Bytes) : (bits bytes).length = 8 * bytes.length := by
  simp [bits, List.length_flatMap, List.map_const', Nat.mul_comm]

theorem bits_append (xs ys : Bytes) : bits (xs ++ ys) = bits xs ++ bits ys := List.flatMap_append

theorem bits_cons (byte : UInt8) (bytes : Bytes) :
    bits (byte :: bytes) = (List.range 8).map byte.toNat.testBit ++ bits bytes := rfl

theorem testBit_byte (byte : UInt8) (i : Nat) : byte.toNat.testBit i = (((List.range 8).map byte.toNat.testBit)[i]?).getD false := by
  rcases Nat.lt_or_ge i 8 with hi | hi
  · simp [hi]
  · have hbyte : byte.toNat < 2 ^ i := Nat.lt_of_lt_of_le byte.toNat_lt (Nat.pow_le_pow_right (by decide) hi)
    simp [Nat.testBit_lt_two_pow hbyte, hi]

/-- The bits of a little-endian number are those of its bytes. -/
theorem testBit_decode (bytes : Bytes) (i : Nat) : (LittleEndian.decode bytes).testBit i = (bits bytes)[i]?.getD false := by
  induction bytes generalizing i with
  | nil => simp [LittleEndian.decode, bits]
  | cons byte bytes ih =>
    have hbyte : byte.toNat < 2 ^ 8 := byte.toNat_lt
    rw [LittleEndian.decode, Nat.add_comm, bits_cons, List.getElem?_append,
      show (256 : Nat) = 2 ^ 8 by rfl, Nat.testBit_two_pow_mul_add _ hbyte]
    simp only [List.length_map, List.length_range]
    split
    · exact testBit_byte byte i
    · exact ih (i - 8)

theorem bits_injective {xs ys : Bytes} (hlength : xs.length = ys.length) (h : bits xs = bits ys) : xs = ys := by
  have hdecode : LittleEndian.decode xs = LittleEndian.decode ys := by
    apply Nat.eq_of_testBit_eq
    intro i
    rw [testBit_decode, testBit_decode, h]
  rw [← LittleEndian.encode_decode xs, ← LittleEndian.encode_decode ys, hdecode, hlength]

/-! ## The checksum over bits -/

def POLYNOMIAL : BitVec 32 := 0xedb88320

theorem crc_step_toBitVec (value : UInt32) : (crc_step value).toBitVec = Crc.shift POLYNOMIAL value.toBitVec := by
  have hlow : value &&& 1 ≠ 0 ↔ value.toBitVec.getLsbD 0 = true := by
    rw [ne_eq, ← UInt32.toBitVec_inj, UInt32.toBitVec_and]
    constructor
    · intro h
      by_contra hzero
      apply h
      apply BitVec.eq_of_getLsbD_eq
      intro i hi
      cases i <;> simp_all
    · intro h hzero
      have hbit := congrArg (fun v => BitVec.getLsbD v 0) hzero
      simp only [BitVec.getLsbD_and, h] at hbit
      exact absurd hbit (by decide)
  unfold crc_step Crc.shift
  by_cases hbit : value.toBitVec.getLsbD 0 = true
  · rw [if_pos (hlow.2 hbit), if_pos hbit]
    rfl
  · rw [if_neg (mt hlow.1 hbit), if_neg hbit]
    rfl

/-- The eight steps behind a byte feed its bits. -/
theorem crc_byte_toBitVec (value : UInt32) (byte : UInt8) :
    (crc_byte value byte).toBitVec =
      Crc.run POLYNOMIAL value.toBitVec ((List.range 8).map byte.toNat.testBit) := by
  have hsteps : ∀ (n : Nat) (v : UInt32), (crc_step^[n] v).toBitVec = (Crc.shift POLYNOMIAL)^[n] v.toBitVec := by
    intro n
    induction n with
    | zero => intro v; rfl
    | succ n ih => intro v; rw [Function.iterate_succ_apply, ih, crc_step_toBitVec, Function.iterate_succ_apply]
  have hword : Crc.ofBits ((List.range 8).map byte.toNat.testBit) = byte.toUInt32.toBitVec := by
    apply BitVec.eq_of_getLsbD_eq
    intro i hi
    rw [Crc.getLsbD_ofBits, ← testBit_byte]
    simp [hi, BitVec.getLsbD]
  rw [Crc.run_short _ _ (by simp), hword, crc_byte, hsteps]
  simp

theorem crc32_toBitVec (bytes : Bytes) :
    (crc32 bytes).toBitVec = Crc.run POLYNOMIAL (BitVec.allOnes 32) (bits bytes) ^^^ BitVec.allOnes 32 := by
  have hfold : ∀ value : UInt32, (bytes.foldl crc_byte value).toBitVec = Crc.run POLYNOMIAL value.toBitVec (bits bytes) := by
    induction bytes with
    | nil => intro value; rfl
    | cons byte bytes ih =>
      intro value
      rw [List.foldl_cons, ih, crc_byte_toBitVec, bits_cons, Crc.run_append]
  rw [crc32, UInt32.toBitVec_not, hfold, BitVec.xor_allOnes]
  rfl

/-! ## Bursts -/

/-- The last four bytes are the checksum of those before. -/
def Checked (bytes : Bytes) : Prop :=
  read_u32 bytes (bytes.length - CRC_SIZE) = crc32 (bytes.take (bytes.length - CRC_SIZE))

/-- The register ends where it does for every checked datagram. -/
theorem checked_register {bytes : Bytes} (hlength : CRC_SIZE ≤ bytes.length) (h : Checked bytes) :
    Crc.run POLYNOMIAL (BitVec.allOnes 32) (bits bytes) = (Crc.shift POLYNOMIAL)^[32] (BitVec.allOnes 32) := by
  have hsplit : bits bytes = bits (bytes.take (bytes.length - CRC_SIZE)) ++ bits (bytes.drop (bytes.length - CRC_SIZE)) := by
    rw [← bits_append, List.take_append_drop]
  have hwidth : (bytes.drop (bytes.length - CRC_SIZE)).length = 4 := by
    rw [List.length_drop]
    simp only [CRC_SIZE] at hlength ⊢
    omega
  have hcheck : Crc.ofBits (bits (bytes.drop (bytes.length - CRC_SIZE))) =
      (read_u32 bytes (bytes.length - CRC_SIZE)).toBitVec := by
    apply BitVec.eq_of_getLsbD_eq
    intro i hi
    rw [Crc.getLsbD_ofBits, ← testBit_decode, read_u32, List.take_of_length_le hwidth.le]
    exact (BitVec.getLsbD_ofNat 32 _ i).symm
  rw [hsplit]
  refine Crc.run_check POLYNOMIAL _ _ (by simp [hwidth]) ?_
  rw [hcheck, h, crc32_toBitVec]

/-- A change of a checked datagram within 32 consecutive bits is seen. -/
theorem burst_unchecked {bytes changed : Bytes} (hlength : changed.length = bytes.length) (hne : changed ≠ bytes)
    (hburst : Crc.Burst 32 (bits bytes) (bits changed)) (hsize : CRC_SIZE ≤ bytes.length) (h : Checked bytes) :
    ¬Checked changed := by
  intro hchanged
  have hbits : bits bytes ≠ bits changed := fun e => hne (bits_injective hlength e.symm)
  have hpoly : POLYNOMIAL.msb = true := by decide
  refine Crc.burst_seen hpoly (BitVec.allOnes 32) (by simp [hlength]) hbits hburst ?_
  rw [checked_register hsize h, checked_register (hlength ▸ hsize) hchanged]

theorem decode_frame_checked {bytes : Bytes} {frame : TouchFrame} (h : decode_frame bytes = .ok frame) :
    CRC_SIZE ≤ bytes.length ∧ Checked bytes := by
  unfold decode_frame at h
  dsimp only at h
  split at h
  · cases h
  · next hsize =>
    split at h
    · cases h
    · iterate 4
        split at h
        · cases h
      split at h
      · cases h
      · next hcheck =>
        simp only [FRAME_HEADER_SIZE, CRC_SIZE] at hsize
        refine ⟨?_, not_not.1 hcheck⟩
        simp only [CRC_SIZE]
        omega

theorem decode_discovery_checked {bytes : Bytes} {message : DiscoveryMessage} (h : decode_discovery bytes = some message) :
    CRC_SIZE ≤ bytes.length ∧ Checked bytes := by
  unfold decode_discovery at h
  split at h
  · cases h
  · next hvalid =>
    simp only [not_or, Decidable.not_not] at hvalid
    obtain ⟨hlength, -, -, -, hcheck⟩ := hvalid
    simp only [Checked, hlength, DISCOVERY_SIZE, CRC_SIZE]
    exact ⟨by decide, hcheck⟩

/-- Neither codec accepts a datagram that differs from an accepted one within 32 consecutive bits. -/
theorem burst_rejected {bytes changed : Bytes} (hlength : changed.length = bytes.length) (hne : changed ≠ bytes)
    (hburst : Crc.Burst 32 (bits bytes) (bits changed)) :
    (∀ frame, decode_frame bytes = .ok frame → ∃ e, decode_frame changed = .error e) ∧
    (∀ message, decode_discovery bytes = some message → decode_discovery changed = none) := by
  refine ⟨?_, ?_⟩
  · intro frame h
    obtain ⟨hsize, hchecked⟩ := decode_frame_checked h
    cases hdecode : decode_frame changed with
    | error e => exact ⟨e, rfl⟩
    | ok frame' => exact absurd (decode_frame_checked hdecode).2 (burst_unchecked hlength hne hburst hsize hchecked)
  · intro message h
    obtain ⟨hsize, hchecked⟩ := decode_discovery_checked h
    cases hdecode : decode_discovery changed with
    | none => rfl
    | some message' =>
      exact absurd (decode_discovery_checked hdecode).2 (burst_unchecked hlength hne hburst hsize hchecked)

/-! ## Changed datagrams -/

/-- A heartbeat without contacts, up to the last two bytes before its checksum. -/
def heartbeatFront : Bytes := FRAME_MAGIC ++ [PROTOCOL_VERSION, MESSAGE_TOUCH_FRAME, 72, 0] ++ List.replicate 58 0

def heartbeat : TouchFrame := ⟨0, 0, 0, 0, 0, 0, 0, 0, 0, 0, .empty⟩

/-- A greeting, up to the two bytes behind its port. -/
def greetingFront : Bytes := (encode_discovery DISCOVERY_HELLO 7 9 5005).take 26

def greetingBack : Bytes := (encode_discovery DISCOVERY_HELLO 7 9 5005).drop 28

/-- A change of four bytes, whatever stands around them. -/
theorem burst_bytes (before after xs ys : Bytes) (hlength : ys.length = xs.length) (hshort : xs.length ≤ 4) :
    Crc.Burst 32 (bits (before ++ xs ++ after)) (bits (before ++ ys ++ after)) := by
  simp only [bits_append]
  apply Crc.burst_append
  · simp [hlength]
  · rw [bits_length]
    omega

theorem heartbeat_crc : crc32 (heartbeatFront ++ [0, 0]) = 0x17a4691e := by
  -- In three parts, since the kernel would carry all 544 steps at once.
  have hparts : heartbeatFront ++ [0, 0] = (heartbeatFront.take 24 ++ List.replicate 22 0) ++ List.replicate 22 0 := by decide
  have hfirst : (heartbeatFront.take 24).foldl crc_byte 0xffffffff = 1766396108 := by decide +kernel
  have hsecond : (List.replicate 22 0).foldl crc_byte 1766396108 = 1395560423 := by decide +kernel
  have hthird : (List.replicate 22 0).foldl crc_byte 1395560423 = 3898316513 := by decide +kernel
  rw [crc32, hparts, List.foldl_append, List.foldl_append, hfirst, hsecond, hthird]
  decide

theorem heartbeat_accepted : decode_frame (heartbeatFront ++ [0, 0, 30, 105] ++ [164, 23]) = .ok heartbeat := by
  have hcheck : read_u32 (heartbeatFront ++ [0, 0, 30, 105] ++ [164, 23]) 68 =
      crc32 ((heartbeatFront ++ [0, 0, 30, 105] ++ [164, 23]).take 68) := by
    have hdata : (heartbeatFront ++ [0, 0, 30, 105] ++ [164, 23]).take 68 = heartbeatFront ++ [0, 0] := by decide
    rw [hdata, heartbeat_crc]
    decide +kernel
  have hsize : (heartbeatFront ++ [0, 0, 30, 105] ++ [164, 23]).length - CRC_SIZE = 68 := by decide
  unfold decode_frame
  dsimp only
  rw [hsize, if_neg (by decide), if_neg (by decide), if_neg (by decide +kernel), if_neg (by decide), if_neg (by decide),
    if_neg (by decide), if_neg (not_not.2 hcheck), dif_neg (by decide), if_neg (by decide)]
  decide +kernel

/-- A change across the boundary of data and checksum, and one within the data. -/
theorem burst_rejected_examples :
    (∃ e, decode_frame (heartbeatFront ++ [1, 0, 31, 104] ++ [164, 23]) = .error e) ∧
    decode_discovery (greetingFront ++ [0, 128] ++ greetingBack) = none := by
  have hgreeting : decode_discovery (greetingFront ++ [0, 0] ++ greetingBack) = some ⟨DISCOVERY_HELLO, 7, 9, 5005⟩ := by
    decide +kernel
  have hframe := burst_bytes heartbeatFront [164, 23] [0, 0, 30, 105] [1, 0, 31, 104] rfl (by decide)
  have hdiscovery := burst_bytes greetingFront greetingBack [0, 0] [0, 128] rfl (by decide)
  exact ⟨(burst_rejected (by decide) (by decide) hframe).1 heartbeat heartbeat_accepted,
    (burst_rejected (by decide +kernel) (by decide +kernel) hdiscovery).2 _ hgreeting⟩

end Trackpad.Legacy
