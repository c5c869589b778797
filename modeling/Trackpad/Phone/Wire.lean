import Trackpad.Canonical
/-!
# Headers and envelopes on the phone

The other half of the wire formats, `V5Protocol` in Java: it puts its integers together from signed bytes and reads an
envelope front to back. A Java `int` is a `BitVec 32` and a `long` a `BitVec 64`; an exception is its message. Both
halves accept the same datagrams and read the same fields from them.
-/

namespace Trackpad.V5Protocol

def VERSION : UInt8 := 5
def PAIR_MAGIC : Bytes := ['H', 'P', 'P', '5'].map Char.toUInt8
def PHONE_MAGIC : Bytes := ['H', 'P', 'T', '5'].map Char.toUInt8
def HOST_MAGIC : Bytes := ['H', 'P', 'A', '5'].map Char.toUInt8

/-! ## Record headers -/

structure RecordHeader where
  messageType : BitVec 32
  connectionId : BitVec 64
  sessionId : BitVec 64
  packetNumber : BitVec 64
  logicalId : BitVec 64
  flags : BitVec 64
  payloadLength : BitVec 32
deriving DecidableEq

def readUnsignedShort (bytes : Bytes) (offset : Nat) : BitVec 32 :=
  (bytes.getD offset 0).toBitVec.setWidth 32 ||| ((bytes.getD (offset + 1) 0).toBitVec.setWidth 32 <<< 8)

def readLong (bytes : Bytes) (offset : Nat) : BitVec 64 :=
  (List.range 8).foldl (fun value index =>
    value ||| ((bytes.getD (offset + index) 0).toBitVec.setWidth 64 <<< (index * 8))) 0

def decodeRecordHeader (bytes : Bytes) (length : Nat) (magic : Bytes) : Except String RecordHeader :=
  if magic.length ≠ 4 ∨ length < RECORD_HEADER_SIZE + TAG_SIZE ∨ length > MAX_DATAGRAM_SIZE ∨ bytes.length < length then
    .error "invalid record length"
  else if bytes.take magic.length ≠ magic then .error "invalid record magic"
  else if bytes.getD 4 0 ≠ VERSION then .error "invalid record version"
  else
    let declaredLength := readUnsignedShort bytes 6
    let payloadLength := readUnsignedShort bytes 44
    let reserved := readUnsignedShort bytes 46
    if reserved ≠ 0 ∨ declaredLength.toNat ≠ length ∨ RECORD_HEADER_SIZE + payloadLength.toNat + TAG_SIZE ≠ length then
      .error "malformed record header"
    else
      .ok { messageType := (bytes.getD 5 0).toBitVec.setWidth 32
            connectionId := readLong bytes 8
            sessionId := readLong bytes 16
            packetNumber := readLong bytes 24
            logicalId := readLong bytes 32
            flags := (readUnsignedShort bytes 40).setWidth 64 ||| ((readUnsignedShort bytes 42).setWidth 64 <<< 16)
            payloadLength := payloadLength }

/-- The header `sealInto` puts in front of a payload. -/
def sendHeader (header : RecordHeader) : Bytes :=
  let completeLength := RECORD_HEADER_SIZE + header.payloadLength.toNat + TAG_SIZE
  PHONE_MAGIC ++ [VERSION, .ofBitVec (header.messageType.setWidth 8)] ++ LittleEndian.encode 2 completeLength ++
    LittleEndian.encode 8 header.connectionId.toNat ++ LittleEndian.encode 8 header.sessionId.toNat ++
    LittleEndian.encode 8 header.packetNumber.toNat ++ LittleEndian.encode 8 header.logicalId.toNat ++
    LittleEndian.encode 4 (header.flags.setWidth 32).toNat ++ LittleEndian.encode 2 (header.payloadLength.setWidth 16).toNat ++
    [0, 0]

/-- The host's header as the phone holds it, every field unsigned. -/
def RecordHeader.ofHost (header : Trackpad.RecordHeader) : RecordHeader where
  messageType := header.message_type.toBitVec.setWidth 32
  connectionId := header.connection_id.toBitVec
  sessionId := header.session_id.toBitVec
  packetNumber := header.packet_number.toBitVec
  logicalId := header.logical_id.toBitVec
  flags := header.flags.toBitVec.setWidth 64
  payloadLength := header.payload_length.toBitVec.setWidth 32

/-! ## Pairing envelopes -/

/-- `TransportKind.fromWire` -/
def fromWire (value : BitVec 32) : Except String TransportKind :=
  if value = 1 then .ok .Usb
  else if value = 2 then .ok .Wifi
  else .error "invalid transport"

structure PairEnvelope where
  kind : BitVec 32
  exchangeId : Bytes
  step : BitVec 64
  transport : TransportKind
  payload : Bytes
deriving DecidableEq

/-- A little-endian buffer and how far it was read. -/
structure ByteBuffer where
  bytes : Bytes
  position : Nat

namespace ByteBuffer

def get (b : ByteBuffer) : BitVec 8 × ByteBuffer :=
  ((b.bytes.getD b.position 0).toBitVec, { b with position := b.position + 1 })

def getShort (b : ByteBuffer) : BitVec 16 × ByteBuffer :=
  ((read_u16 b.bytes b.position).toBitVec, { b with position := b.position + 2 })

def getInt (b : ByteBuffer) : BitVec 32 × ByteBuffer :=
  ((read_u32 b.bytes b.position).toBitVec, { b with position := b.position + 4 })

def getBytes (n : Nat) (b : ByteBuffer) : Bytes × ByteBuffer :=
  (slice b.bytes b.position n, { b with position := b.position + n })

end ByteBuffer

def decodePairEnvelope (bytes : Bytes) (length : Nat) : Except String PairEnvelope :=
  if length < PAIR_HEADER_SIZE ∨ length > MAX_DATAGRAM_SIZE ∨ bytes.length < length then
    .error "invalid pairing envelope length"
  else
    let packet : ByteBuffer := ⟨bytes.take length, 0⟩
    let (magic, packet) := packet.getBytes 4
    if magic ≠ PAIR_MAGIC then .error "invalid record magic"
    else
      let (version, packet) := packet.get
      if version ≠ VERSION.toBitVec then .error "invalid protocol version"
      else
        let (kind, packet) := packet.get
        let (declaredLength, packet) := packet.getShort
        let (exchangeId, packet) := packet.getBytes 16
        let (step, packet) := packet.getInt
        let (payloadLength, packet) := packet.getShort
        let (transport, packet) := packet.get
        match fromWire (transport.setWidth 32) with
        | .error e => .error e
        | .ok transport =>
          let (suite, packet) := packet.get
          if suite ≠ 1 ∨ declaredLength.toNat ≠ length ∨ PAIR_HEADER_SIZE + payloadLength.toNat ≠ length then
            .error "malformed pairing envelope"
          else
            .ok { kind := kind.setWidth 32
                  exchangeId := exchangeId
                  step := step.setWidth 64
                  transport := transport
                  payload := (packet.getBytes payloadLength.toNat).1 }

def encodePairEnvelope (kind : BitVec 32) (exchangeId : Bytes) (step : BitVec 64) (transport : TransportKind)
    (payload : Bytes) : Except String Bytes :=
  if exchangeId.length ≠ 16 then .error "invalid pairing envelope input"
  else
    let length := PAIR_HEADER_SIZE + payload.length
    if length > MAX_DATAGRAM_SIZE ∨ payload.length > 0xFFFF then .error "pairing envelope too large"
    else
      .ok (PAIR_MAGIC ++ [VERSION, .ofBitVec (kind.setWidth 8)] ++ LittleEndian.encode 2 length ++ exchangeId ++
        LittleEndian.encode 4 (step.setWidth 32).toNat ++ LittleEndian.encode 2 payload.length ++
        [transport.as_u8, 1] ++ payload)

def PairEnvelope.ofHost (e : Trackpad.PairEnvelope) : PairEnvelope where
  kind := e.kind.toBitVec.setWidth 32
  exchangeId := e.exchange_id.bytes
  step := e.step.toBitVec.setWidth 64
  transport := e.transport
  payload := e.payload

/-! ## Integers from bytes -/

/-- Bits that are added above those that are there. -/
theorem or_shift {w n : Nat} {value x : BitVec w} (hvalue : value.toNat < 2 ^ n) (hx : x.toNat * 2 ^ n < 2 ^ w) :
    (value ||| x <<< n).toNat = value.toNat + x.toNat * 2 ^ n := by
  rw [BitVec.toNat_or, BitVec.toNat_shiftLeft, Nat.shiftLeft_eq, Nat.mod_eq_of_lt hx, Nat.or_comm, Nat.mul_comm,
    ← Nat.two_pow_add_eq_or_of_lt hvalue, Nat.add_comm]

theorem byte_toNat (b : UInt8) {w : Nat} (hw : 8 ≤ w) : (b.toBitVec.setWidth w).toNat = b.toNat := by
  rw [BitVec.toNat_setWidth, Nat.mod_eq_of_lt]
  · rfl
  · exact Nat.lt_of_lt_of_le b.toNat_lt (Nat.pow_le_pow_right (by decide) hw)

theorem slice_succ {bytes : Bytes} {offset n : Nat} (h : offset + n < bytes.length) :
    slice bytes offset (n + 1) = slice bytes offset n ++ [bytes.getD (offset + n) 0] := by
  rw [byte_slice h, slice_slice]

theorem readUnsignedShort_toNat {bytes : Bytes} {offset : Nat} (h : offset + 2 ≤ bytes.length) :
    (readUnsignedShort bytes offset).toNat = (read_u16 bytes offset).toNat := by
  have hlow := (bytes.getD offset 0).toNat_lt
  have hhigh := (bytes.getD (offset + 1) 0).toNat_lt
  have hslice : slice bytes offset 2 = [bytes.getD offset 0, bytes.getD (offset + 1) 0] := (bytes_slice h).symm
  have hread : (read_u16 bytes offset).toNat = LittleEndian.decode (slice bytes offset 2) :=
    UInt16.toNat_ofNat_of_lt' (decode_slice_lt h)
  rw [readUnsignedShort, or_shift, byte_toNat _ (by decide), byte_toNat _ (by decide), hread, hslice]
  · simp only [LittleEndian.decode]
    omega
  · rw [byte_toNat _ (by decide)]
    exact hlow
  · rw [byte_toNat _ (by decide)]
    omega

/-- The first `n` steps of the loop. -/
theorem readLong_loop {bytes : Bytes} {offset n : Nat} (hn : n ≤ 8) (h : offset + n ≤ bytes.length) :
    ((List.range n).foldl (fun value index =>
      value ||| ((bytes.getD (offset + index) 0).toBitVec.setWidth 64 <<< (index * 8))) (0 : BitVec 64)).toNat =
      LittleEndian.decode (slice bytes offset n) := by
  induction n with
  | zero => rfl
  | succ n ih =>
    have hbyte := (bytes.getD (offset + n) 0).toNat_lt
    have hlt := decode_slice_lt (show offset + n ≤ bytes.length by omega)
    have hpow : (256 : Nat) ^ n = 2 ^ (n * 8) := by rw [Nat.mul_comm, Nat.pow_mul]
    have hbelow := ih (by omega) (by omega)
    rw [List.range_succ, List.foldl_append, List.foldl_cons, List.foldl_nil, or_shift, hbelow, byte_toNat _ (by decide),
      slice_succ (by omega), LittleEndian.decode_append, slice_length (by omega), hpow]
    · simp only [LittleEndian.decode]
      ring
    · rw [hbelow, ← hpow]
      exact hlt
    · rw [byte_toNat _ (by decide)]
      calc (bytes.getD (offset + n) 0).toNat * 2 ^ (n * 8) < 2 ^ 8 * 2 ^ (n * 8) :=
            Nat.mul_lt_mul_of_pos_right hbyte (Nat.two_pow_pos _)
        _ = 2 ^ (8 + n * 8) := (Nat.pow_add 2 8 (n * 8)).symm
        _ ≤ 2 ^ 64 := Nat.pow_le_pow_right (by decide) (by omega)

theorem readLong_eq {bytes : Bytes} {offset : Nat} (h : offset + 8 ≤ bytes.length) :
    readLong bytes offset = (read_u64 bytes offset).toBitVec := by
  apply BitVec.eq_of_toNat_eq
  rw [readLong, readLong_loop (Nat.le_refl 8) h]
  exact (UInt64.toNat_ofNat_of_lt' (decode_slice_lt h)).symm

theorem flags_eq {bytes : Bytes} {offset : Nat} (h : offset + 4 ≤ bytes.length) :
    (readUnsignedShort bytes offset).setWidth 64 ||| ((readUnsignedShort bytes (offset + 2)).setWidth 64 <<< 16) =
      (read_u32 bytes offset).toBitVec.setWidth 64 := by
  have hlow := (read_u16 bytes offset).toNat_lt
  have hhigh := (read_u16 bytes (offset + 2)).toNat_lt
  have hshort : ∀ {i : Nat}, i + 2 ≤ bytes.length →
      ((readUnsignedShort bytes i).setWidth 64).toNat = LittleEndian.decode (slice bytes i 2) := by
    intro i hi
    have hread : (read_u16 bytes i).toNat = LittleEndian.decode (slice bytes i 2) :=
      UInt16.toNat_ofNat_of_lt' (decode_slice_lt hi)
    have hlt := (read_u16 bytes i).toNat_lt
    rw [BitVec.toNat_setWidth, readUnsignedShort_toNat hi, hread, Nat.mod_eq_of_lt (by omega)]
  have h₁ := decode_slice_lt (show offset + 2 ≤ bytes.length by omega)
  have h₂ := decode_slice_lt (show offset + 2 + 2 ≤ bytes.length by omega)
  have hparts : slice bytes offset 4 = slice bytes offset 2 ++ slice bytes (offset + 2) 2 :=
    (slice_slice bytes offset 2 2).symm
  have hread : (read_u32 bytes offset).toNat = LittleEndian.decode (slice bytes offset 4) :=
    UInt32.toNat_ofNat_of_lt' (decode_slice_lt h)
  apply BitVec.eq_of_toNat_eq
  rw [or_shift, hshort (by omega), hshort (by omega)]
  · have hlt := (read_u32 bytes offset).toNat_lt
    rw [BitVec.toNat_setWidth, UInt32.toNat_toBitVec, Nat.mod_eq_of_lt (by omega), hread, hparts,
      LittleEndian.decode_append, slice_length (by omega)]
    omega
  · rw [hshort (by omega)]
    exact h₁
  · rw [hshort (by omega)]
    omega

/-! ## Both halves -/

/-- Reading stays inside the datagram. -/
theorem getD_take {bytes : Bytes} {length i : Nat} (h : i < length) : (bytes.take length).getD i 0 = bytes.getD i 0 := by
  rw [List.getD_eq_getElem?_getD, List.getD_eq_getElem?_getD, List.getElem?_take_of_lt h]

theorem readUnsignedShort_take {bytes : Bytes} {length offset : Nat} (h : offset + 2 ≤ length) :
    readUnsignedShort (bytes.take length) offset = readUnsignedShort bytes offset := by
  rw [readUnsignedShort, readUnsignedShort, getD_take (by omega), getD_take (by omega)]

theorem readLong_take {bytes : Bytes} {length offset : Nat} (h : offset + 8 ≤ length) :
    readLong (bytes.take length) offset = readLong bytes offset := by
  rw [readLong, readLong]
  refine List.foldl_ext _ _ _ fun value index hindex => ?_
  rw [getD_take (by rw [List.mem_range] at hindex; omega)]

/-- The magic either side expects from the other. -/
def magic : Direction → Bytes
  | .PhoneToHost => PHONE_MAGIC
  | .HostToPhone => HOST_MAGIC

theorem magic_eq (direction : Direction) : magic direction = direction.magic := by
  cases direction <;> rfl

/-- The phone accepts the record headers the host accepts, with the same fields. -/
theorem decodeRecordHeader_agrees (direction : Direction) {buffer : Bytes} {length : Nat} (hle : length ≤ buffer.length) :
    (decodeRecordHeader buffer length (magic direction)).toOption =
      (decode_record_header (buffer.take length) direction).toOption.map RecordHeader.ofHost := by
  obtain ⟨bytes, hbytes⟩ : ∃ bytes, bytes = buffer.take length := ⟨_, rfl⟩
  have hlength : bytes.length = length := by rw [hbytes, List.length_take, Nat.min_eq_left hle]
  have hmagic : (magic direction).length = 4 := by cases direction <;> rfl
  rw [decodeRecordHeader, decode_record_header, ← hbytes, hlength, hmagic]
  by_cases hsize : length < RECORD_HEADER_SIZE + TAG_SIZE ∨ length > MAX_DATAGRAM_SIZE
  · rw [if_pos hsize, if_pos (by tauto)]
    rfl
  have hlong : 64 ≤ length := by simp only [RECORD_HEADER_SIZE, TAG_SIZE] at hsize; omega
  have htake : buffer.take 4 = bytes.take 4 := by rw [hbytes, List.take_take, Nat.min_eq_left (by omega)]
  have hbyte : ∀ {i}, i < 64 → buffer.getD i 0 = bytes.getD i 0 := fun hi => by
    rw [hbytes, getD_take (by omega)]
  have hshort : ∀ {i}, i + 2 ≤ 64 → (readUnsignedShort buffer i).toNat = (read_u16 bytes i).toNat := fun hi => by
    rw [← readUnsignedShort_take (show _ ≤ length by omega), ← hbytes, readUnsignedShort_toNat (by omega)]
  have hlongs : ∀ {i}, i + 8 ≤ 64 → readLong buffer i = (read_u64 bytes i).toBitVec := fun hi => by
    rw [← readLong_take (show _ ≤ length by omega), ← hbytes, readLong_eq (by omega)]
  have hflags : (readUnsignedShort buffer 40).setWidth 64 ||| ((readUnsignedShort buffer 42).setWidth 64 <<< 16) =
      (read_u32 bytes 40).toBitVec.setWidth 64 := by
    rw [← readUnsignedShort_take (show 40 + 2 ≤ length by omega), ← readUnsignedShort_take (show 42 + 2 ≤ length by omega),
      ← hbytes]
    exact flags_eq (by omega)
  rw [if_neg hsize, if_neg (by simp only [not_true_eq_false, ne_eq, false_or]; omega), htake, magic_eq]
  by_cases hm : bytes.take 4 = direction.magic
  swap
  · rw [if_pos hm, if_pos hm]
    rfl
  rw [if_neg (not_not_intro hm), if_neg (not_not_intro hm), hbyte (by decide)]
  by_cases hv : bytes.getD 4 0 = PROTOCOL_VERSION
  swap
  · rw [if_pos hv, if_pos (show bytes.getD 4 0 ≠ VERSION from hv)]
    rfl
  rw [if_neg (not_not_intro hv), if_neg (not_not_intro (show bytes.getD 4 0 = VERSION from hv))]
  dsimp only
  have hreserved : readUnsignedShort buffer 46 = 0 ↔ read_u16 bytes 46 = 0 := by
    rw [← BitVec.toNat_inj, ← UInt16.toNat_inj, hshort (by decide)]
    rfl
  rw [hshort (by decide), hshort (by decide)]
  by_cases hl : RECORD_HEADER_SIZE + (read_u16 bytes 44).toNat + TAG_SIZE ≠ length ∨ (read_u16 bytes 6).toNat ≠ length
  · rw [if_pos hl, if_pos (by tauto)]
    rfl
  by_cases hr : read_u16 bytes 46 = 0
  swap
  · rw [if_neg hl, if_pos hr, if_pos (.inl (fun h => hr (hreserved.1 h)))]
    rfl
  rw [if_neg hl, if_neg (not_not_intro hr), if_neg (by have := hreserved.2 hr; tauto)]
  have hpayload : readUnsignedShort buffer 44 = (read_u16 bytes 44).toBitVec.setWidth 32 := by
    apply BitVec.eq_of_toNat_eq
    have hlt := (read_u16 bytes 44).toNat_lt
    rw [hshort (by decide), BitVec.toNat_setWidth, UInt16.toNat_toBitVec, Nat.mod_eq_of_lt (by omega)]
  rw [hbyte (by decide), hlongs (by decide), hlongs (by decide), hlongs (by decide), hlongs (by decide), hflags, hpayload]
  rfl

theorem fromWire_agrees (value : UInt8) :
    (fromWire (value.toBitVec.setWidth 32)).toOption = (TransportKind.try_from value).toOption := by
  have hwide : ∀ n : UInt8, value.toBitVec.setWidth 32 = n.toBitVec.setWidth 32 ↔ value = n := by
    intro n
    rw [← BitVec.toNat_inj, byte_toNat _ (by decide), byte_toNat _ (by decide), UInt8.toNat_inj]
  have hone : value.toBitVec.setWidth 32 = 1 ↔ value = 1 := hwide 1
  have htwo : value.toBitVec.setWidth 32 = 2 ↔ value = 2 := hwide 2
  rw [fromWire, TransportKind.try_from]
  by_cases h1 : value = 1
  · rw [if_pos (hone.2 h1), if_pos h1]
    rfl
  · rw [if_neg (fun h => h1 (hone.1 h)), if_neg h1]
    by_cases h2 : value = 2
    · rw [if_pos (htwo.2 h2), if_pos h2]
      rfl
    · rw [if_neg (fun h => h2 (htwo.1 h)), if_neg h2]
      rfl

/-- The phone accepts the envelopes the host accepts, with the same fields, though it checks them in another order. -/
theorem decodePairEnvelope_agrees {buffer : Bytes} {length : Nat} (hle : length ≤ buffer.length) :
    (decodePairEnvelope buffer length).toOption =
      (decode_pair_envelope (buffer.take length)).toOption.map PairEnvelope.ofHost := by
  obtain ⟨bytes, hbytes⟩ : ∃ bytes, bytes = buffer.take length := ⟨_, rfl⟩
  have hlength : bytes.length = length := by rw [hbytes, List.length_take, Nat.min_eq_left hle]
  rw [decodePairEnvelope, decode_pair_envelope, ← hbytes]
  simp only [hlength]
  by_cases hsize : length < PAIR_HEADER_SIZE ∨ length > MAX_DATAGRAM_SIZE
  · rw [if_pos (by tauto), dif_pos hsize]
    rfl
  rw [if_neg (by omega), dif_neg hsize]
  simp only [ByteBuffer.getBytes, ByteBuffer.get, ByteBuffer.getShort, ByteBuffer.getInt, Nat.zero_add, Nat.reduceAdd]
  by_cases hm : bytes.take 4 = Trackpad.PAIR_MAGIC
  swap
  · rw [if_pos (show slice bytes 0 4 ≠ PAIR_MAGIC from hm), if_pos hm]
    rfl
  rw [if_neg (not_not_intro (show slice bytes 0 4 = PAIR_MAGIC from hm)), if_neg (not_not_intro hm)]
  have hversion : (bytes.getD 4 0).toBitVec = VERSION.toBitVec ↔ bytes.getD 4 0 = PROTOCOL_VERSION := UInt8.toBitVec_inj
  by_cases hv : bytes.getD 4 0 = PROTOCOL_VERSION
  swap
  · rw [if_pos (fun h => hv (hversion.1 h)), if_pos hv]
    rfl
  rw [if_neg (not_not_intro (hversion.2 hv)), if_neg (not_not_intro hv)]
  have hwire := fromWire_agrees (bytes.getD 30 0)
  have hsuite : (bytes.getD 31 0).toBitVec = 1 ↔ bytes.getD 31 0 = 1 :=
    ⟨fun h => UInt8.toBitVec_inj.1 h, fun h => congrArg _ h⟩
  simp only [UInt16.toNat_toBitVec]
  cases hjava : fromWire ((bytes.getD 30 0).toBitVec.setWidth 32) with
  | error message =>
    rw [hjava] at hwire
    cases hhost : TransportKind.try_from (bytes.getD 30 0) with
    | error e =>
      simp only []
      split
      · rfl
      · split <;> rfl
    | ok transport => rw [hhost] at hwire; cases hwire
  | ok transport =>
    rw [hjava] at hwire
    cases hhost : TransportKind.try_from (bytes.getD 30 0) with
    | error e => rw [hhost] at hwire; cases hwire
    | ok transport' =>
      rw [hhost] at hwire
      obtain rfl : transport = transport' := Option.some.inj hwire
      simp only []
      by_cases hl : (read_u16 bytes 6).toNat ≠ length ∨ PAIR_HEADER_SIZE + (read_u16 bytes 28).toNat ≠ length
      · rw [if_pos hl, if_pos (by tauto)]
        rfl
      by_cases hs : bytes.getD 31 0 = 1
      swap
      · rw [if_neg hl, if_pos hs, if_pos (.inl (fun h => hs (hsuite.1 h)))]
        rfl
      rw [if_neg hl, if_neg (not_not_intro hs), if_neg (by have := hsuite.2 hs; tauto)]
      have hpayload : slice bytes 32 (read_u16 bytes 28).toNat = bytes.drop 32 := by
        rw [slice, List.take_of_length_le]
        rw [List.length_drop]
        simp only [PAIR_HEADER_SIZE] at hl
        omega
      rw [hpayload]
      rfl

theorem byte_ofBitVec (b : UInt8) : UInt8.ofBitVec ((b.toBitVec.setWidth 32).setWidth 8) = b := by
  apply UInt8.toNat_inj.1
  have hlt := b.toNat_lt
  rw [UInt8.toNat_ofBitVec, BitVec.toNat_setWidth, byte_toNat b (by decide), Nat.mod_eq_of_lt hlt]

theorem u32_narrowed (v : UInt32) : ((v.toBitVec.setWidth 64).setWidth 32).toNat = v.toNat := by
  have hlt := v.toNat_lt
  rw [BitVec.toNat_setWidth, BitVec.toNat_setWidth, UInt32.toNat_toBitVec, Nat.mod_eq_of_lt (by omega),
    Nat.mod_eq_of_lt (by omega)]

/-- The phone writes the envelopes the host writes. -/
theorem encodePairEnvelope_agrees (e : Trackpad.PairEnvelope) :
    (encodePairEnvelope (PairEnvelope.ofHost e).kind (PairEnvelope.ofHost e).exchangeId (PairEnvelope.ofHost e).step
      (PairEnvelope.ofHost e).transport (PairEnvelope.ofHost e).payload).toOption = e.encode.toOption := by
  rw [encodePairEnvelope, Trackpad.PairEnvelope.encode, encode_pair_envelope, PairEnvelope.ofHost]
  simp only [e.exchange_id.length, byte_ofBitVec, u32_narrowed, ne_eq, not_true_eq_false, if_false]
  by_cases hlong : PAIR_HEADER_SIZE + e.payload.length > MAX_DATAGRAM_SIZE ∨ e.payload.length > 0xFFFF
  · rw [if_pos hlong, if_pos hlong]
    rfl
  · rw [if_neg hlong, if_neg hlong]
    rfl

/-- The phone writes its record headers as the host does. -/
theorem sendHeader_agrees {header : Trackpad.RecordHeader} (h : header.direction = .PhoneToHost) :
    sendHeader (RecordHeader.ofHost header) = write_record_header header := by
  have hlt := header.payload_length.toNat_lt
  have hpayload : (header.payload_length.toBitVec.setWidth 32).toNat = header.payload_length.toNat := by
    rw [BitVec.toNat_setWidth, UInt16.toNat_toBitVec, Nat.mod_eq_of_lt (by omega)]
  have hshort : ((header.payload_length.toBitVec.setWidth 32).setWidth 16).toNat = header.payload_length.toNat := by
    rw [BitVec.toNat_setWidth, hpayload, Nat.mod_eq_of_lt hlt]
  rw [sendHeader, write_record_header, RecordHeader.ofHost]
  simp only [byte_ofBitVec, u32_narrowed, hpayload, hshort, h]
  rfl

/-- Both wire formats are canonical and the two halves agree: an envelope or a record header decodes exactly where it
is the encoding of the result, and the phone decodes the same datagrams to the same unsigned fields and writes the
same bytes. -/
theorem codecs_agree :
    (∀ bytes e, decode_pair_envelope bytes = .ok e ↔ e.encode = .ok bytes) ∧
    (∀ bytes direction header, decode_record_header bytes direction = .ok header ↔
      header.direction = direction ∧ RECORD_HEADER_SIZE + header.payload_length.toNat + TAG_SIZE ≤ MAX_DATAGRAM_SIZE ∧
      ∃ body, body.length = header.payload_length.toNat + TAG_SIZE ∧ bytes = write_record_header header ++ body) ∧
    (∀ buffer length, length ≤ buffer.length → (decodePairEnvelope buffer length).toOption =
      (decode_pair_envelope (buffer.take length)).toOption.map PairEnvelope.ofHost) ∧
    (∀ direction buffer length, length ≤ buffer.length →
      (decodeRecordHeader buffer length (magic direction)).toOption =
        (decode_record_header (buffer.take length) direction).toOption.map RecordHeader.ofHost) ∧
    (∀ e : Trackpad.PairEnvelope, (encodePairEnvelope (PairEnvelope.ofHost e).kind (PairEnvelope.ofHost e).exchangeId
      (PairEnvelope.ofHost e).step (PairEnvelope.ofHost e).transport (PairEnvelope.ofHost e).payload).toOption =
        e.encode.toOption) ∧
    ∀ header : Trackpad.RecordHeader, header.direction = .PhoneToHost →
      sendHeader (RecordHeader.ofHost header) = write_record_header header :=
  ⟨fun _ _ => decode_pair_envelope_iff, fun _ _ _ => decode_record_header_iff, fun _ _ => decodePairEnvelope_agrees,
    fun direction _ _ => decodeRecordHeader_agrees direction, encodePairEnvelope_agrees, fun _ => sendHeader_agrees⟩

end Trackpad.V5Protocol
