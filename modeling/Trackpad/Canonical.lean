import Trackpad.Record
/-!
# Canonical headers

A datagram that decodes is the encoding of what it decodes to: no byte of a record header or of a pairing envelope is
left unchecked or unread. `slice` is the piece of a datagram that one field takes up.
-/

namespace Trackpad

/-! ## Slices -/

def slice (bytes : Bytes) (offset n : Nat) : Bytes := (bytes.drop offset).take n

theorem slice_length {bytes : Bytes} {offset n : Nat} (h : offset + n ≤ bytes.length) : (slice bytes offset n).length = n := by
  rw [slice, List.length_take, List.length_drop]
  omega

/-- The next field joins those before it. -/
theorem take_slice (bytes : Bytes) {offset n stop : Nat} (h : offset + n = stop) :
    bytes.take offset ++ slice bytes offset n = bytes.take stop := by
  rw [← h, List.take_add]
  rfl

theorem slice_slice (bytes : Bytes) (offset m n : Nat) :
    slice bytes offset m ++ slice bytes (offset + m) n = slice bytes offset (m + n) := by
  rw [slice, slice, slice, List.take_add, List.drop_drop]

theorem encode_slice {bytes : Bytes} {offset n : Nat} (h : offset + n ≤ bytes.length) :
    LittleEndian.encode n (LittleEndian.decode (slice bytes offset n)) = slice bytes offset n := by
  have henc := LittleEndian.encode_decode (slice bytes offset n)
  rwa [slice_length h] at henc

theorem decode_slice_lt {bytes : Bytes} {offset n : Nat} (h : offset + n ≤ bytes.length) :
    LittleEndian.decode (slice bytes offset n) < 256 ^ n := by
  have hlt := LittleEndian.decode_lt (slice bytes offset n)
  rwa [slice_length h] at hlt

theorem encode_read_u16 {bytes : Bytes} {offset : Nat} (h : offset + 2 ≤ bytes.length) :
    LittleEndian.encode 2 (read_u16 bytes offset).toNat = slice bytes offset 2 := by
  rw [← encode_slice h]
  exact congrArg _ (UInt16.toNat_ofNat_of_lt' (decode_slice_lt h))

theorem encode_read_u32 {bytes : Bytes} {offset : Nat} (h : offset + 4 ≤ bytes.length) :
    LittleEndian.encode 4 (read_u32 bytes offset).toNat = slice bytes offset 4 := by
  rw [← encode_slice h]
  exact congrArg _ (UInt32.toNat_ofNat_of_lt' (decode_slice_lt h))

theorem encode_read_u64 {bytes : Bytes} {offset : Nat} (h : offset + 8 ≤ bytes.length) :
    LittleEndian.encode 8 (read_u64 bytes offset).toNat = slice bytes offset 8 := by
  rw [← encode_slice h]
  exact congrArg _ (UInt64.toNat_ofNat_of_lt' (decode_slice_lt h))

theorem getD_drop (bytes : Bytes) (offset index : Nat) : (bytes.drop offset).getD index 0 = bytes.getD (offset + index) 0 := by
  simp [List.getD_eq_getElem?_getD]

theorem read_u16_drop (bytes : Bytes) (offset index : Nat) :
    read_u16 (bytes.drop offset) index = read_u16 bytes (offset + index) := by
  rw [read_u16, read_u16, List.drop_drop]

theorem byte_slice {bytes : Bytes} {offset : Nat} (h : offset < bytes.length) :
    [bytes.getD offset 0] = slice bytes offset 1 := by
  rw [slice, List.drop_eq_getElem_cons h, List.take_succ_cons, List.take_zero, List.getD_eq_getElem _ _ h]

theorem bytes_slice {bytes : Bytes} {offset : Nat} (h : offset + 2 ≤ bytes.length) :
    [bytes.getD offset 0, bytes.getD (offset + 1) 0] = slice bytes offset 2 := by
  have h₁ : offset < bytes.length := by omega
  have h₂ : offset + 1 < bytes.length := by omega
  rw [slice, List.drop_eq_getElem_cons h₁, List.drop_eq_getElem_cons h₂, List.take_succ_cons, List.take_succ_cons,
    List.take_zero, List.getD_eq_getElem _ _ h₁, List.getD_eq_getElem _ _ h₂]

/-! ## Record headers -/

/-- A datagram whose header decodes starts with that header as it is written. -/
theorem decode_record_header_ok {bytes : Bytes} {direction : Direction} {header : RecordHeader}
    (h : decode_record_header bytes direction = .ok header) :
    header.direction = direction ∧ RECORD_HEADER_SIZE + header.payload_length.toNat + TAG_SIZE = bytes.length ∧
    bytes.length ≤ MAX_DATAGRAM_SIZE ∧ bytes.take RECORD_HEADER_SIZE = write_record_header header := by
  unfold decode_record_header at h
  split at h
  · cases h
  rename_i hlength
  split at h
  · cases h
  rename_i hmagic
  split at h
  · cases h
  rename_i hversion
  dsimp only at h
  split at h
  · cases h
  rename_i hdeclared
  split at h
  · cases h
  rename_i hreserved
  obtain rfl := (Except.ok.inj h).symm
  simp only [not_or, ne_eq, Decidable.not_not] at hlength hmagic hversion hdeclared hreserved
  obtain ⟨hexpected, hdeclared⟩ := hdeclared
  have hlong : 64 ≤ bytes.length := by simp only [RECORD_HEADER_SIZE, TAG_SIZE] at hlength; omega
  refine ⟨rfl, hexpected, by omega, ?_⟩
  have hzero : ([0, 0] : Bytes) = slice bytes 46 2 := by
    rw [← encode_read_u16 (by omega), hreserved]
    rfl
  have htype : [PROTOCOL_VERSION, bytes.getD 5 0] = slice bytes 4 2 := by
    rw [← bytes_slice (by omega), hversion]
  have hcomplete : LittleEndian.encode 2 (RECORD_HEADER_SIZE + (read_u16 bytes 44).toNat + TAG_SIZE) = slice bytes 6 2 := by
    rw [hexpected, ← hdeclared, encode_read_u16 (by omega)]
  rw [write_record_header]
  dsimp only
  rw [← hmagic, htype, hcomplete, encode_read_u64 (by omega), encode_read_u64 (by omega), encode_read_u64 (by omega),
    encode_read_u64 (by omega), encode_read_u32 (by omega), encode_read_u16 (by omega), hzero,
    take_slice bytes (show 4 + 2 = 6 from rfl), take_slice bytes (show 6 + 2 = 8 from rfl),
    take_slice bytes (show 8 + 8 = 16 from rfl), take_slice bytes (show 16 + 8 = 24 from rfl),
    take_slice bytes (show 24 + 8 = 32 from rfl), take_slice bytes (show 32 + 8 = 40 from rfl),
    take_slice bytes (show 40 + 4 = 44 from rfl), take_slice bytes (show 44 + 2 = 46 from rfl),
    take_slice bytes (show 46 + 2 = 48 from rfl)]
  rfl

/-- The accepted datagrams are a written header that fits, then a ciphertext and tag of the declared length. -/
theorem decode_record_header_iff {bytes : Bytes} {direction : Direction} {header : RecordHeader} :
    decode_record_header bytes direction = .ok header ↔
      header.direction = direction ∧ RECORD_HEADER_SIZE + header.payload_length.toNat + TAG_SIZE ≤ MAX_DATAGRAM_SIZE ∧
      ∃ body, body.length = header.payload_length.toNat + TAG_SIZE ∧ bytes = write_record_header header ++ body := by
  constructor
  · intro h
    obtain ⟨hdirection, hlength, hmax, htake⟩ := decode_record_header_ok h
    refine ⟨hdirection, by omega, bytes.drop RECORD_HEADER_SIZE, ?_, ?_⟩
    · rw [List.length_drop]
      omega
    · rw [← htake, List.take_append_drop]
  · rintro ⟨rfl, hmax, body, hbody, rfl⟩
    exact decode_written hbody hmax

/-! ## Pairing envelopes -/

def PAIR_HEADER_SIZE : Nat := 32
def PAIR_MAGIC : Bytes := [0x48, 0x50, 0x50, 0x35]

inductive TransportKind
  | Usb | Wifi
deriving DecidableEq, Repr

namespace TransportKind

def as_u8 : TransportKind → UInt8
  | .Usb => 1
  | .Wifi => 2

def try_from (value : UInt8) : Except WireError TransportKind :=
  if value = 1 then .ok .Usb
  else if value = 2 then .ok .Wifi
  else .error (.BadTransport value)

theorem try_from_ok {value : UInt8} {transport : TransportKind} :
    try_from value = .ok transport ↔ value = transport.as_u8 := by
  rw [try_from]
  constructor
  · intro h
    split at h
    · next husb => cases h; exact husb
    · split at h
      · next hwifi => cases h; exact hwifi
      · cases h
  · rintro rfl
    cases transport <;> rfl

end TransportKind

/-- The sixteen bytes that name a pairing exchange. -/
structure ExchangeId where
  bytes : Bytes
  length : bytes.length = 16
deriving DecidableEq

structure PairEnvelope where
  kind : UInt8
  exchange_id : ExchangeId
  step : UInt32
  transport : TransportKind
  payload : Bytes
deriving DecidableEq

def encode_pair_envelope (kind : UInt8) (exchange_id : ExchangeId) (step : UInt32) (transport : TransportKind)
    (payload : Bytes) : Except WireError Bytes :=
  let length := PAIR_HEADER_SIZE + payload.length
  if length > MAX_DATAGRAM_SIZE ∨ payload.length > 0xFFFF then .error (.BadLength length)
  else
    .ok (PAIR_MAGIC ++ [PROTOCOL_VERSION, kind] ++ LittleEndian.encode 2 length ++ exchange_id.bytes ++
      LittleEndian.encode 4 step.toNat ++ LittleEndian.encode 2 payload.length ++ [transport.as_u8, 1] ++ payload)

def PairEnvelope.encode (e : PairEnvelope) : Except WireError Bytes :=
  encode_pair_envelope e.kind e.exchange_id e.step e.transport e.payload

def decode_pair_envelope (bytes : Bytes) : Except WireError PairEnvelope :=
  if outside : bytes.length < PAIR_HEADER_SIZE ∨ bytes.length > MAX_DATAGRAM_SIZE then .error (.BadLength bytes.length)
  else if bytes.take 4 ≠ PAIR_MAGIC then .error .BadMagic
  else if bytes.getD 4 0 ≠ PROTOCOL_VERSION then .error (.BadVersion (bytes.getD 4 0))
  else
    let declared := (read_u16 bytes 6).toNat
    let payload_length := (read_u16 bytes 28).toNat
    if declared ≠ bytes.length ∨ PAIR_HEADER_SIZE + payload_length ≠ bytes.length then .error (.BadLength declared)
    else if bytes.getD 31 0 ≠ 1 then .error (.BadSuite (bytes.getD 31 0))
    else
      match TransportKind.try_from (bytes.getD 30 0) with
      | .error e => .error e
      | .ok transport =>
        .ok { kind := bytes.getD 5 0
              exchange_id := ⟨slice bytes 8 16, slice_length (by simp only [PAIR_HEADER_SIZE] at outside; omega)⟩
              step := read_u32 bytes 24
              transport := transport
              payload := bytes.drop PAIR_HEADER_SIZE }

/-- The envelope as it is written, for an exchange id that stands between two known pieces. -/
theorem read_envelope (kind : UInt8) (exchange_id : ExchangeId) (step : UInt32) (transport : TransportKind)
    (payload : Bytes) {length : Nat} (hlength : length = PAIR_HEADER_SIZE + payload.length) (hsmall : length < 2 ^ 16)
    {bytes : Bytes} (hbytes : bytes = PAIR_MAGIC ++ [PROTOCOL_VERSION, kind] ++ LittleEndian.encode 2 length ++
      exchange_id.bytes ++ LittleEndian.encode 4 step.toNat ++ LittleEndian.encode 2 payload.length ++
      [transport.as_u8, 1] ++ payload) :
    bytes.length = length ∧ bytes.take 4 = PAIR_MAGIC ∧ bytes.getD 4 0 = PROTOCOL_VERSION ∧ bytes.getD 5 0 = kind ∧
    (read_u16 bytes 6).toNat = length ∧ slice bytes 8 16 = exchange_id.bytes ∧ read_u32 bytes 24 = step ∧
    (read_u16 bytes 28).toNat = payload.length ∧ bytes.getD 30 0 = transport.as_u8 ∧ bytes.getD 31 0 = 1 ∧
    bytes.drop PAIR_HEADER_SIZE = payload := by
  obtain ⟨front, hfront⟩ : ∃ front, front = PAIR_MAGIC ++ [PROTOCOL_VERSION, kind] ++ LittleEndian.encode 2 length := ⟨_, rfl⟩
  obtain ⟨back, hback⟩ : ∃ back, back = LittleEndian.encode 4 step.toNat ++ LittleEndian.encode 2 payload.length ++
    [transport.as_u8, 1] ++ payload := ⟨_, rfl⟩
  have hparts : bytes = front ++ (exchange_id.bytes ++ back) := by
    rw [hbytes, hfront, hback]
    simp only [List.append_assoc]
  have hfrontLength : front.length = 8 := by rw [hfront]; rfl
  have hexchange : bytes.drop 8 = exchange_id.bytes ++ back := by rw [hparts]; exact List.drop_left' hfrontLength
  have hdrop : bytes.drop 24 = back := by
    rw [show 24 = 8 + 16 from rfl, ← List.drop_drop, hexchange]
    exact List.drop_left' exchange_id.length
  have hu16 : ∀ {n : Nat}, n < 2 ^ 16 → (UInt16.ofNat (LittleEndian.decode (LittleEndian.encode 2 n))).toNat = n := by
    intro n hn
    rw [LittleEndian.decode_encode_of_lt hn, UInt16.toNat_ofNat_of_lt' hn]
  refine ⟨?_, by rw [hparts, hfront]; rfl, by rw [hparts, hfront]; rfl, by rw [hparts, hfront]; rfl, ?_, ?_, ?_, ?_, ?_, ?_, ?_⟩
  · rw [hbytes, hlength]
    simp only [List.length_append, LittleEndian.encode_length, exchange_id.length, List.length_cons, List.length_nil,
      PAIR_MAGIC, PAIR_HEADER_SIZE]
  · rw [hparts, hfront]
    exact hu16 hsmall
  · rw [slice, hexchange]
    exact List.take_left' exchange_id.length
  · rw [read_u32, hdrop, hback]
    exact u32_round_trip step
  · rw [show 28 = 24 + 4 from rfl, ← read_u16_drop, hdrop, hback]
    exact hu16 (by omega)
  · rw [show 30 = 24 + 6 from rfl, ← getD_drop, hdrop, hback]
    rfl
  · rw [show 31 = 24 + 7 from rfl, ← getD_drop, hdrop, hback]
    rfl
  · rw [show PAIR_HEADER_SIZE = 24 + 8 from rfl, ← List.drop_drop, hdrop, hback]
    rfl

/-- The accepted datagrams are the encoded envelopes. -/
theorem decode_pair_envelope_iff {bytes : Bytes} {e : PairEnvelope} :
    decode_pair_envelope bytes = .ok e ↔ e.encode = .ok bytes := by
  constructor
  · intro h
    unfold decode_pair_envelope at h
    split at h
    · cases h
    rename_i hlength
    split at h
    · cases h
    rename_i hmagic
    split at h
    · cases h
    rename_i hversion
    dsimp only at h
    split at h
    · cases h
    rename_i hdeclared
    split at h
    · cases h
    rename_i hsuite
    split at h
    · cases h
    rename_i transport htransport
    obtain rfl := (Except.ok.inj h).symm
    simp only [not_or, ne_eq, Decidable.not_not] at hlength hmagic hversion hdeclared hsuite
    obtain ⟨hdeclared, hpayload⟩ := hdeclared
    have hshort := hlength.2
    simp only [PAIR_HEADER_SIZE, MAX_DATAGRAM_SIZE] at hlength hpayload hshort
    have hrest : (bytes.drop PAIR_HEADER_SIZE).length = (read_u16 bytes 28).toNat := by
      rw [List.length_drop, PAIR_HEADER_SIZE]
      omega
    rw [PairEnvelope.encode, encode_pair_envelope, hrest, if_neg (by simp only [PAIR_HEADER_SIZE, MAX_DATAGRAM_SIZE]; omega)]
    have hkind : [PROTOCOL_VERSION, bytes.getD 5 0] = slice bytes 4 2 := by
      rw [← bytes_slice (by omega), hversion]
    have htail : [transport.as_u8, 1] = slice bytes 30 2 := by
      rw [← bytes_slice (by omega), hsuite, TransportKind.try_from_ok.1 htransport]
    have hcomplete : LittleEndian.encode 2 (PAIR_HEADER_SIZE + (read_u16 bytes 28).toNat) = slice bytes 6 2 := by
      rw [PAIR_HEADER_SIZE, hpayload, ← hdeclared, encode_read_u16 (by omega)]
    dsimp only
    rw [← hmagic, hkind, hcomplete, encode_read_u32 (by omega), encode_read_u16 (by omega), htail,
      take_slice bytes (show 4 + 2 = 6 from rfl), take_slice bytes (show 6 + 2 = 8 from rfl),
      take_slice bytes (show 8 + 16 = 24 from rfl), take_slice bytes (show 24 + 4 = 28 from rfl),
      take_slice bytes (show 28 + 2 = 30 from rfl), take_slice bytes (show 30 + 2 = 32 from rfl)]
    exact congrArg _ (List.take_append_drop 32 bytes)
  · intro h
    rw [PairEnvelope.encode, encode_pair_envelope] at h
    split at h
    · cases h
    rename_i hfits
    simp only [not_or, Nat.not_lt] at hfits
    have hmax := hfits.1
    simp only [MAX_DATAGRAM_SIZE] at hmax
    obtain ⟨hlength, hmagic, hversion, hkind, hdeclared, hexchange, hstep, hpayload, htransport, hsuite, hrest⟩ :=
      read_envelope e.kind e.exchange_id e.step e.transport e.payload rfl (by omega) (Except.ok.inj h).symm
    have htry : TransportKind.try_from (bytes.getD 30 0) = .ok e.transport := TransportKind.try_from_ok.2 htransport
    rw [decode_pair_envelope, dif_neg (by rw [hlength]; omega), if_neg (not_not_intro hmagic),
      if_neg (not_not_intro hversion)]
    dsimp only
    rw [if_neg (by rw [hdeclared, hpayload, hlength]; simp), if_neg (not_not_intro hsuite), htry]
    simp only [hkind, hexchange, hstep, hrest]

end Trackpad
