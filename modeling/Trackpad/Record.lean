import Trackpad.Protocol
import Trackpad.Replay
import Trackpad.Lib.LittleEndian
/-!
# Authenticated records

One v5 record is a 48-byte header, a payload and a tag; the header is the AEAD's associated data
and the packet number its nonce. The AEAD itself is a parameter. Buffers are the datagrams they
hold: sealing returns the bytes written, opening returns the header and the payload.
-/

namespace Trackpad

def PROTOCOL_VERSION : UInt8 := 5
def PHONE_MAGIC : Bytes := [0x48, 0x50, 0x54, 0x35]
def HOST_MAGIC : Bytes := [0x48, 0x50, 0x41, 0x35]
def RECORD_HEADER_SIZE : Nat := 48
def TAG_SIZE : Nat := 16
def MAX_DATAGRAM_SIZE : Nat := 1200
def U64_MAX : UInt64 := 18446744073709551615

inductive Direction
  | PhoneToHost | HostToPhone
deriving DecidableEq, Repr

def Direction.magic : Direction → Bytes
  | .PhoneToHost => PHONE_MAGIC
  | .HostToPhone => HOST_MAGIC

inductive WireError
  | BadMagic
  | BadVersion (version : UInt8)
  | BadSuite (suite : UInt8)
  | BadTransport (transport : UInt8)
  | BadLength (length : Nat)
  | ReservedBits
  | WrongConnection
  | Replay
  | BadTag
  | EncryptFailed
  | PacketNumberExhausted
  | HandshakeIncomplete
  | BadMessage
  | BadAction (action : UInt8)
  | BadContactCount (count : Nat)
  | DuplicatePointer (pointer : UInt8)
  | BadSessionStart
  | RandomUnavailable
deriving DecidableEq, Repr

structure RecordHeader where
  direction : Direction
  message_type : UInt8
  connection_id : UInt64
  session_id : UInt64
  packet_number : UInt64
  logical_id : UInt64
  flags : UInt32
  payload_length : UInt16
deriving DecidableEq, Repr

/-! ## The header on the wire -/

def read_u16 (bytes : Bytes) (offset : Nat) : UInt16 := .ofNat (LittleEndian.decode ((bytes.drop offset).take 2))
def read_u32 (bytes : Bytes) (offset : Nat) : UInt32 := .ofNat (LittleEndian.decode ((bytes.drop offset).take 4))
def read_u64 (bytes : Bytes) (offset : Nat) : UInt64 := .ofNat (LittleEndian.decode ((bytes.drop offset).take 8))

def write_record_header (header : RecordHeader) : Bytes :=
  let complete_length := RECORD_HEADER_SIZE + header.payload_length.toNat + TAG_SIZE
  header.direction.magic ++ [PROTOCOL_VERSION, header.message_type] ++ LittleEndian.encode 2 complete_length ++
    LittleEndian.encode 8 header.connection_id.toNat ++ LittleEndian.encode 8 header.session_id.toNat ++
    LittleEndian.encode 8 header.packet_number.toNat ++ LittleEndian.encode 8 header.logical_id.toNat ++
    LittleEndian.encode 4 header.flags.toNat ++ LittleEndian.encode 2 header.payload_length.toNat ++ [0, 0]

def decode_record_header (bytes : Bytes) (expected_direction : Direction) : Except WireError RecordHeader :=
  if bytes.length < RECORD_HEADER_SIZE + TAG_SIZE ∨ bytes.length > MAX_DATAGRAM_SIZE then .error (.BadLength bytes.length)
  else if bytes.take 4 ≠ expected_direction.magic then .error .BadMagic
  else if bytes.getD 4 0 ≠ PROTOCOL_VERSION then .error (.BadVersion (bytes.getD 4 0))
  else
    let payload_length := read_u16 bytes 44
    let expected_length := RECORD_HEADER_SIZE + payload_length.toNat + TAG_SIZE
    let declared_length := (read_u16 bytes 6).toNat
    if expected_length ≠ bytes.length ∨ declared_length ≠ bytes.length then .error (.BadLength declared_length)
    else if read_u16 bytes 46 ≠ 0 then .error .ReservedBits
    else
      .ok { direction := expected_direction
            message_type := bytes.getD 5 0
            connection_id := read_u64 bytes 8
            session_id := read_u64 bytes 16
            packet_number := read_u64 bytes 24
            logical_id := read_u64 bytes 32
            flags := read_u32 bytes 40
            payload_length := payload_length }

/-! ## The cipher -/

/-- ChaCha20-Poly1305 with a detached tag. -/
structure Aead where
  encrypt : (key nonce associated_data plaintext : Bytes) → Option (Bytes × Bytes)
  decrypt : (key nonce associated_data ciphertext tag : Bytes) → Option Bytes

/-- What any AEAD does on its own output: a ciphertext as long as its plaintext, a 16-byte tag, and the
plaintext back. -/
structure Aead.Lawful (aead : Aead) : Prop where
  lengths : ∀ {key nonce associated_data plaintext ciphertext tag},
    aead.encrypt key nonce associated_data plaintext = some (ciphertext, tag) →
    ciphertext.length = plaintext.length ∧ tag.length = TAG_SIZE
  decrypts : ∀ {key nonce associated_data plaintext ciphertext tag},
    aead.encrypt key nonce associated_data plaintext = some (ciphertext, tag) →
    aead.decrypt key nonce associated_data ciphertext tag = some plaintext

/-- Directional keys and packet state of one completed handshake. -/
structure RecordCipher where
  send_key : Bytes
  receive_key : Bytes
  connection_id : UInt64
  next_packet_number : UInt64
  replay : ReplayWindow

def noise_nonce (packet_number : UInt64) : Bytes := [0, 0, 0, 0] ++ LittleEndian.encode 8 packet_number.toNat

namespace RecordCipher

def from_keys (send_key receive_key : Bytes) (connection_id : UInt64) : RecordCipher :=
  ⟨send_key, receive_key, connection_id, 0, ReplayWindow.default⟩

section
variable (aead : Aead)

/-- Seals a record into a buffer of `output_length` bytes; every attempt burns a fresh nonce. -/
def seal_into (direction : Direction) (message_type : UInt8) (session_id logical_id : UInt64) (flags : UInt32)
    (payload : Bytes) (output_length : Nat) (c : RecordCipher) : Except WireError Bytes × RecordCipher :=
  let packet_number := c.next_packet_number
  if packet_number = U64_MAX then (.error .PacketNumberExhausted, c)
  else
    let c := { c with next_packet_number := packet_number + 1 }
    let complete_length := RECORD_HEADER_SIZE + payload.length + TAG_SIZE
    if complete_length > MAX_DATAGRAM_SIZE ∨ complete_length > output_length then (.error (.BadLength complete_length), c)
    else
      let header := write_record_header
        { direction := direction
          message_type := message_type
          connection_id := c.connection_id
          session_id := session_id
          packet_number := packet_number
          logical_id := logical_id
          flags := flags
          payload_length := .ofNat payload.length }
      match aead.encrypt c.send_key (noise_nonce packet_number) header payload with
      | none => (.error .EncryptFailed, c)
      | some (encrypted, tag) => (.ok (header ++ encrypted ++ tag), c)

def open_in_place (expected_direction : Direction) (bytes : Bytes) (c : RecordCipher) :
    Except WireError (RecordHeader × Bytes) × RecordCipher :=
  match decode_record_header bytes expected_direction with
  | .error e => (.error e, c)
  | .ok header =>
    if header.connection_id ≠ c.connection_id then (.error .WrongConnection, c)
    else if c.replay.would_accept header.packet_number.toNat = false then (.error .Replay, c)
    else
      let associated_data := bytes.take RECORD_HEADER_SIZE
      let encrypted_and_tag := bytes.drop RECORD_HEADER_SIZE
      let payload := encrypted_and_tag.take header.payload_length.toNat
      let tag := encrypted_and_tag.drop header.payload_length.toNat
      match aead.decrypt c.receive_key (noise_nonce header.packet_number) associated_data payload tag with
      | none => (.error .BadTag, c)
      | some payload => (.ok (header, payload), { c with replay := c.replay.commit header.packet_number.toNat })

end

end RecordCipher

/-! ## Round trips -/

@[simp] theorem magic_length (d : Direction) : d.magic.length = 4 := by cases d <;> rfl

theorem magic_injective {a b : Direction} (h : a.magic = b.magic) : a = b := by
  cases a <;> cases b <;> first | rfl | (exact absurd h (by decide))

theorem write_length (header : RecordHeader) : (write_record_header header).length = RECORD_HEADER_SIZE := by
  simp [write_record_header, RECORD_HEADER_SIZE]

theorem u16_round_trip (v : UInt16) : UInt16.ofNat (LittleEndian.decode (LittleEndian.encode 2 v.toNat)) = v := by
  rw [LittleEndian.decode_encode_of_lt v.toNat_lt, UInt16.ofNat_toNat]

theorem u32_round_trip (v : UInt32) : UInt32.ofNat (LittleEndian.decode (LittleEndian.encode 4 v.toNat)) = v := by
  rw [LittleEndian.decode_encode_of_lt v.toNat_lt, UInt32.ofNat_toNat]

theorem u64_round_trip (v : UInt64) : UInt64.ofNat (LittleEndian.decode (LittleEndian.encode 8 v.toNat)) = v := by
  rw [LittleEndian.decode_encode_of_lt v.toNat_lt, UInt64.ofNat_toNat]

/-- The header fields are where they were written, whatever follows them. -/
theorem read_written (header : RecordHeader) (rest : Bytes) :
    (write_record_header header ++ rest).take 4 = header.direction.magic ∧
    (write_record_header header ++ rest).getD 4 0 = PROTOCOL_VERSION ∧
    (write_record_header header ++ rest).getD 5 0 = header.message_type ∧
    read_u16 (write_record_header header ++ rest) 6 =
      .ofNat (LittleEndian.decode (LittleEndian.encode 2 (RECORD_HEADER_SIZE + header.payload_length.toNat + TAG_SIZE))) ∧
    read_u64 (write_record_header header ++ rest) 8 = header.connection_id ∧
    read_u64 (write_record_header header ++ rest) 16 = header.session_id ∧
    read_u64 (write_record_header header ++ rest) 24 = header.packet_number ∧
    read_u64 (write_record_header header ++ rest) 32 = header.logical_id ∧
    read_u32 (write_record_header header ++ rest) 40 = header.flags ∧
    read_u16 (write_record_header header ++ rest) 44 = header.payload_length ∧
    read_u16 (write_record_header header ++ rest) 46 = 0 := by
  obtain ⟨a, b, c, d, hm⟩ : ∃ a b c d, header.direction.magic = [a, b, c, d] := by
    cases header.direction <;> exact ⟨_, _, _, _, rfl⟩
  simp only [write_record_header, hm]
  refine ⟨rfl, rfl, rfl, rfl, ?_, ?_, ?_, ?_, ?_, ?_, rfl⟩
  · exact u64_round_trip header.connection_id
  · exact u64_round_trip header.session_id
  · exact u64_round_trip header.packet_number
  · exact u64_round_trip header.logical_id
  · exact u32_round_trip header.flags
  · exact u16_round_trip header.payload_length

theorem read_header {header : RecordHeader} {bytes : Bytes} {direction : Direction} {h : RecordHeader}
    (hd : decode_record_header bytes direction = .ok h) (hb : bytes.take RECORD_HEADER_SIZE = write_record_header header) :
    h = header := by
  have hbytes : bytes = write_record_header header ++ bytes.drop RECORD_HEADER_SIZE := by
    rw [← hb, List.take_append_drop]
  obtain ⟨hmagic, -, htype, -, hcid, hsid, hpn, hlid, hflags, hlen, -⟩ :=
    read_written header (bytes.drop RECORD_HEADER_SIZE)
  rw [← hbytes] at hmagic htype hcid hsid hpn hlid hflags hlen
  unfold decode_record_header at hd
  split at hd
  · cases hd
  split at hd
  · cases hd
  rename_i hexpected
  have hdirection : header.direction = direction := magic_injective (by
    rw [← hmagic]
    exact Decidable.not_not.1 hexpected)
  split at hd
  · cases hd
  dsimp only at hd
  split at hd
  · cases hd
  split at hd
  · cases hd
  obtain rfl := (Except.ok.inj hd).symm
  rw [htype, hcid, hsid, hpn, hlid, hflags, hlen, ← hdirection]

/-- A whole record, as sealing wrote it, decodes to its header. -/
theorem decode_written {header : RecordHeader} {body : Bytes}
    (hbody : body.length = header.payload_length.toNat + TAG_SIZE)
    (hmax : RECORD_HEADER_SIZE + header.payload_length.toNat + TAG_SIZE ≤ MAX_DATAGRAM_SIZE) :
    decode_record_header (write_record_header header ++ body) header.direction = .ok header := by
  have hlength : (write_record_header header ++ body).length = RECORD_HEADER_SIZE + header.payload_length.toNat + TAG_SIZE := by
    rw [List.length_append, write_length, hbody, Nat.add_assoc]
  obtain ⟨hmagic, hversion, htype, hcomplete, hcid, hsid, hpn, hlid, hflags, hlen, hzero⟩ := read_written header body
  have hsmall : RECORD_HEADER_SIZE + header.payload_length.toNat + TAG_SIZE < 2 ^ 16 := by
    simp only [MAX_DATAGRAM_SIZE] at hmax; omega
  have hdeclared : (read_u16 (write_record_header header ++ body) 6).toNat =
      RECORD_HEADER_SIZE + header.payload_length.toNat + TAG_SIZE := by
    rw [hcomplete, LittleEndian.decode_encode_of_lt hsmall, UInt16.toNat_ofNat_of_lt' hsmall]
  unfold decode_record_header
  rw [if_neg (by rw [hlength]; omega), if_neg (fun h => h hmagic), if_neg (fun h => h hversion)]
  dsimp only
  rw [if_neg (by rw [hdeclared, hlen, hlength]; simp), if_neg (by simp [hzero]), htype, hcid, hsid, hpn, hlid, hflags, hlen]

/-! ## What one call does -/

namespace RecordCipher

variable (aead : Aead)

/-- The header a call seals under. -/
def header_of (direction : Direction) (message_type : UInt8) (session_id logical_id : UInt64) (flags : UInt32)
    (payload : Bytes) (c : RecordCipher) : RecordHeader where
  direction := direction
  message_type := message_type
  connection_id := c.connection_id
  session_id := session_id
  packet_number := c.next_packet_number
  logical_id := logical_id
  flags := flags
  payload_length := .ofNat payload.length

theorem seal_exhausted (direction : Direction) (message_type : UInt8) (session_id logical_id : UInt64) (flags : UInt32)
    (payload : Bytes) (output_length : Nat) {c : RecordCipher} (h : c.next_packet_number = U64_MAX) :
    c.seal_into aead direction message_type session_id logical_id flags payload output_length =
      (.error .PacketNumberExhausted, c) := by
  simp [seal_into, h]

/-- Sealing burns its number whatever comes of it; the record it returns is its header and what the
AEAD made of the payload. -/
theorem seal_cases (direction : Direction) (message_type : UInt8) (session_id logical_id : UInt64) (flags : UInt32)
    (payload : Bytes) (output_length : Nat) {c : RecordCipher} (h : c.next_packet_number ≠ U64_MAX) :
    (∃ e, c.seal_into aead direction message_type session_id logical_id flags payload output_length =
      (.error e, { c with next_packet_number := c.next_packet_number + 1 })) ∨
    ∃ encrypted tag, RECORD_HEADER_SIZE + payload.length + TAG_SIZE ≤ MAX_DATAGRAM_SIZE ∧
      aead.encrypt c.send_key (noise_nonce c.next_packet_number)
        (write_record_header (c.header_of direction message_type session_id logical_id flags payload)) payload =
          some (encrypted, tag) ∧
      c.seal_into aead direction message_type session_id logical_id flags payload output_length =
        (.ok (write_record_header (c.header_of direction message_type session_id logical_id flags payload) ++
          encrypted ++ tag), { c with next_packet_number := c.next_packet_number + 1 }) := by
  simp only [seal_into, if_neg h]
  split
  · exact .inl ⟨_, rfl⟩
  · rename_i hfits
    split
    · exact .inl ⟨_, rfl⟩
    · rename_i encrypted tag henc
      refine .inr ⟨encrypted, tag, ?_, henc, rfl⟩
      apply Nat.le_of_not_lt
      exact fun hlt => hfits (.inl hlt)

/-- Opening changes the cipher only when it succeeds, and then only by committing the number. -/
theorem open_cases (direction : Direction) (bytes : Bytes) (c : RecordCipher) :
    (∃ e, c.open_in_place aead direction bytes = (.error e, c)) ∨
    ∃ header payload, decode_record_header bytes direction = .ok header ∧
      header.connection_id = c.connection_id ∧ c.replay.would_accept header.packet_number.toNat = true ∧
      aead.decrypt c.receive_key (noise_nonce header.packet_number) (bytes.take RECORD_HEADER_SIZE)
        ((bytes.drop RECORD_HEADER_SIZE).take header.payload_length.toNat)
        ((bytes.drop RECORD_HEADER_SIZE).drop header.payload_length.toNat) = some payload ∧
      c.open_in_place aead direction bytes =
        (.ok (header, payload), { c with replay := c.replay.commit header.packet_number.toNat }) := by
  unfold open_in_place
  split
  · exact .inl ⟨_, rfl⟩
  · rename_i header hd
    split
    · exact .inl ⟨_, rfl⟩
    split
    · exact .inl ⟨_, rfl⟩
    rename_i hcid haccept
    dsimp only
    split
    · exact .inl ⟨_, rfl⟩
    · rename_i payload hdec
      exact .inr ⟨header, payload, hd, Decidable.not_not.1 hcid, by simpa using haccept, hdec, rfl⟩

end RecordCipher

end Trackpad
