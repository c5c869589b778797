import Trackpad.Record
/-!
# The authenticated record channel

Both parties of a handshake seal and open records while an adversary picks every datagram that is
delivered. A step is one call on one cipher; the state logs what was sealed, which numbers failed
attempts drew and what was opened. The AEAD is ideal at every delivery: a tag verifies only on what
some seal produced under that key.
-/

namespace Trackpad.Channel

open Relation

inductive Party
  | Phone | Host
deriving DecidableEq, Repr

def Party.peer : Party → Party
  | .Phone => .Host
  | .Host => .Phone

/-- One successful `seal_into`: who called it, under which key, and the datagram it wrote. -/
structure Sealed where
  sender : Party
  key : Bytes
  header : RecordHeader
  payload : Bytes
  datagram : Bytes
deriving DecidableEq

namespace Sealed

def number (x : Sealed) : Party × UInt64 := (x.sender, x.header.packet_number)
def associated_data (x : Sealed) : Bytes := x.datagram.take RECORD_HEADER_SIZE
def encrypted (x : Sealed) : Bytes := (x.datagram.drop RECORD_HEADER_SIZE).take x.payload.length
def tag (x : Sealed) : Bytes := (x.datagram.drop RECORD_HEADER_SIZE).drop x.payload.length

end Sealed

structure State where
  cipher : Party → RecordCipher
  sealed : List Sealed
  failed : List (Party × UInt64)
  opened : Party → List (RecordHeader × Bytes)

/-- Both ends of a finished handshake: one party's send key is the other's receive key. -/
def start (k₁ k₂ : Bytes) (connection_id : UInt64) : State where
  cipher
    | .Phone => .from_keys k₁ k₂ connection_id
    | .Host => .from_keys k₂ k₁ connection_id
  sealed := []
  failed := []
  opened _ := []

variable (aead : Aead)

def State.seal (p : Party) (direction : Direction) (message_type : UInt8) (session_id logical_id : UInt64) (flags : UInt32)
    (payload : Bytes) (output_length : Nat) (s : State) : State :=
  match (s.cipher p).seal_into aead direction message_type session_id logical_id flags payload output_length with
  | (.ok datagram, c) =>
    { s with
      cipher := Function.update s.cipher p c
      sealed := ⟨p, (s.cipher p).send_key,
        (s.cipher p).header_of direction message_type session_id logical_id flags payload, payload, datagram⟩ :: s.sealed }
  | (.error _, c) =>
    { s with
      cipher := Function.update s.cipher p c
      failed := (p, (s.cipher p).next_packet_number) :: s.failed }

def State.deliver (p : Party) (direction : Direction) (bytes : Bytes) (s : State) : State :=
  match (s.cipher p).open_in_place aead direction bytes with
  | (.ok record, c) =>
    { s with
      cipher := Function.update s.cipher p c
      opened := Function.update s.opened p (record :: s.opened p) }
  | (.error _, c) => { s with cipher := Function.update s.cipher p c }

/-- If this call of the AEAD verifies its tag, some seal made exactly this ciphertext. -/
def Unforged (sealed : List Sealed) (key nonce associated_data encrypted tag : Bytes) : Prop :=
  ∀ payload, aead.decrypt key nonce associated_data encrypted tag = some payload →
    ∃ x ∈ sealed, x.key = key ∧ noise_nonce x.header.packet_number = nonce ∧ x.associated_data = associated_data ∧
      x.encrypted = encrypted ∧ x.tag = tag

inductive Step : State → State → Prop
  | seal_into (p : Party) (direction : Direction) (message_type : UInt8) (session_id logical_id : UInt64) (flags : UInt32)
      (payload : Bytes) (output_length : Nat) (s : State) :
      Step s (s.seal aead p direction message_type session_id logical_id flags payload output_length)
  | open_in_place (p : Party) (direction : Direction) (bytes : Bytes) (s : State)
      (ideal : ∀ header, decode_record_header bytes direction = .ok header →
        Unforged aead s.sealed (s.cipher p).receive_key (noise_nonce header.packet_number) (bytes.take RECORD_HEADER_SIZE)
          ((bytes.drop RECORD_HEADER_SIZE).take header.payload_length.toNat)
          ((bytes.drop RECORD_HEADER_SIZE).drop header.payload_length.toNat)) :
      Step s (s.deliver aead p direction bytes)

/-- The packet numbers `p` has opened. -/
def State.opened_numbers (s : State) (p : Party) : Set Nat := {n | ∃ r ∈ s.opened p, r.1.packet_number.toNat = n}

/-- The records `p` sealed, the last first. -/
def State.sealed_by (s : State) (p : Party) : List Sealed := s.sealed.filter (·.sender = p)

/-! ## Invariant -/

/-- What a logged record is: the header it was sealed under, and the AEAD's output for its payload. -/
structure Genuine (x : Sealed) : Prop where
  datagram : ∃ encrypted tag, x.datagram = write_record_header x.header ++ encrypted ++ tag ∧
    aead.encrypt x.key (noise_nonce x.header.packet_number) (write_record_header x.header) x.payload = some (encrypted, tag)
  length : x.header.payload_length.toNat = x.payload.length
  fits : RECORD_HEADER_SIZE + x.payload.length + TAG_SIZE ≤ MAX_DATAGRAM_SIZE

structure Inv (k₁ k₂ : Bytes) (connection_id : UInt64) (s : State) : Prop where
  keys : ∀ p, (s.cipher p).send_key = ((start k₁ k₂ connection_id).cipher p).send_key ∧
    (s.cipher p).receive_key = ((start k₁ k₂ connection_id).cipher p).receive_key ∧
    (s.cipher p).connection_id = connection_id
  genuine : ∀ x ∈ s.sealed, Genuine aead x
  sealer : ∀ x ∈ s.sealed, x.key = ((start k₁ k₂ connection_id).cipher x.sender).send_key ∧
    x.header.connection_id = connection_id
  numbered : ∀ x ∈ s.sealed, x.header.packet_number < (s.cipher x.sender).next_packet_number
  drawn : ∀ n ∈ s.failed, n.2 < (s.cipher n.1).next_packet_number ∨ n.2 = U64_MAX
  unused : ∀ x ∈ s.sealed, x.number ∉ s.failed
  numbers : (s.sealed.map Sealed.number).Nodup
  authentic : ∀ p, ∀ r ∈ s.opened p, ∃ x ∈ s.sealed, x.sender = p.peer ∧ x.header = r.1 ∧ x.payload = r.2
  once : ∀ p, ((s.opened p).map (·.1.packet_number)).Nodup
  window : ∀ p, ReplayWindow.Remembers (s.cipher p).replay (s.opened_numbers p)

theorem start_inv (k₁ k₂ : Bytes) (connection_id : UInt64) : Inv aead k₁ k₂ connection_id (start k₁ k₂ connection_id) where
  keys p := by cases p <;> exact ⟨rfl, rfl, rfl⟩
  genuine := by simp [start]
  sealer := by simp [start]
  numbered := by simp [start]
  drawn := by simp [start]
  unused := by simp [start]
  numbers := by simp [start]
  authentic := by simp [start]
  once := by simp [start]
  window p := by
    have h : (start k₁ k₂ connection_id).opened_numbers p = ∅ := by simp [State.opened_numbers, start]
    rw [h]
    cases p <;> exact ReplayWindow.remembers_default

/-! ## Sealing -/

theorem next_toNat {n : UInt64} (h : n ≠ U64_MAX) : (n + 1).toNat = n.toNat + 1 := by
  have hlt := n.toNat_lt
  have hne : n.toNat ≠ 18446744073709551615 := fun e => h (UInt64.toNat_inj.1 e)
  rw [UInt64.toNat_add, UInt64.toNat_one]
  omega

/-- The ciphers once `p` drew its next packet number. -/
def State.drawn (s : State) (p : Party) : Party → RecordCipher :=
  Function.update s.cipher p { s.cipher p with next_packet_number := (s.cipher p).next_packet_number + 1 }

theorem drawn_frame (s : State) (p q : Party) :
    (s.drawn p q).send_key = (s.cipher q).send_key ∧ (s.drawn p q).receive_key = (s.cipher q).receive_key ∧
    (s.drawn p q).connection_id = (s.cipher q).connection_id ∧ (s.drawn p q).replay = (s.cipher q).replay := by
  by_cases hq : q = p
  · subst hq
    simp [State.drawn]
  · simp [State.drawn, Function.update_of_ne hq]

theorem drawn_next {s : State} {p : Party} (hne : (s.cipher p).next_packet_number ≠ U64_MAX) {q : Party} {n : UInt64}
    (h : n < (s.cipher q).next_packet_number) : n < (s.drawn p q).next_packet_number := by
  by_cases hq : q = p
  · subst hq
    simp only [State.drawn, Function.update_self]
    rw [UInt64.lt_iff_toNat_lt] at h ⊢
    rw [next_toNat hne]
    omega
  · rwa [State.drawn, Function.update_of_ne hq]

theorem drawn_self {s : State} {p : Party} (hne : (s.cipher p).next_packet_number ≠ U64_MAX) :
    (s.cipher p).next_packet_number < (s.drawn p p).next_packet_number := by
  simp only [State.drawn, Function.update_self]
  rw [UInt64.lt_iff_toNat_lt, next_toNat hne]
  omega

variable {aead} {k₁ k₂ : Bytes} {connection_id : UInt64} {s : State}

theorem next_unused (h : Inv aead k₁ k₂ connection_id s) {x : Sealed} (hx : x ∈ s.sealed) {p : Party} :
    x.number ≠ (p, (s.cipher p).next_packet_number) := by
  intro he
  have hlt := h.numbered x hx
  obtain ⟨hp, hnum⟩ := Prod.mk.inj he
  rw [hp, hnum] at hlt
  exact absurd hlt (UInt64.lt_irrefl _)

/-- The state a failed attempt with a drawn number leaves. -/
theorem failed_inv (h : Inv aead k₁ k₂ connection_id s) {p : Party} (hne : (s.cipher p).next_packet_number ≠ U64_MAX) :
    Inv aead k₁ k₂ connection_id
      { s with cipher := s.drawn p, failed := (p, (s.cipher p).next_packet_number) :: s.failed } where
  keys q := by
    obtain ⟨hs, hr, hc, -⟩ := drawn_frame s p q
    exact ⟨hs.trans (h.keys q).1, hr.trans (h.keys q).2.1, hc.trans (h.keys q).2.2⟩
  genuine := h.genuine
  sealer := h.sealer
  numbered x hx := drawn_next hne (h.numbered x hx)
  drawn n hn := by
    rcases List.mem_cons.1 hn with rfl | hn
    · exact .inl (drawn_self hne)
    · exact (h.drawn n hn).imp_left (drawn_next hne)
  unused x hx := by
    intro hn
    rcases List.mem_cons.1 hn with he | hn
    · exact next_unused h hx he
    · exact h.unused x hx hn
  numbers := h.numbers
  authentic := h.authentic
  once := h.once
  window q := by
    rw [(drawn_frame s p q).2.2.2]
    exact h.window q

/-- An attempt after the last number changes nothing but the log of failures. -/
theorem exhausted_inv (h : Inv aead k₁ k₂ connection_id s) {p : Party} (hmax : (s.cipher p).next_packet_number = U64_MAX) :
    Inv aead k₁ k₂ connection_id { s with failed := (p, (s.cipher p).next_packet_number) :: s.failed } :=
  { h with
    drawn := by
      intro n hn
      rcases List.mem_cons.1 hn with rfl | hn
      · exact .inr hmax
      · exact h.drawn n hn
    unused := by
      intro x hx hn
      rcases List.mem_cons.1 hn with he | hn
      · exact next_unused h hx he
      · exact h.unused x hx hn }

/-- The state a new record leaves: its number was never drawn before. -/
theorem sealed_inv (h : Inv aead k₁ k₂ connection_id s) {x : Sealed}
    (hne : (s.cipher x.sender).next_packet_number ≠ U64_MAX) (hx : Genuine aead x)
    (hkey : x.key = (s.cipher x.sender).send_key) (hcid : x.header.connection_id = (s.cipher x.sender).connection_id)
    (hnumber : x.header.packet_number = (s.cipher x.sender).next_packet_number) :
    Inv aead k₁ k₂ connection_id { s with cipher := s.drawn x.sender, sealed := x :: s.sealed } where
  keys q := by
    obtain ⟨hs, hr, hc, -⟩ := drawn_frame s x.sender q
    exact ⟨hs.trans (h.keys q).1, hr.trans (h.keys q).2.1, hc.trans (h.keys q).2.2⟩
  genuine y hy := by
    rcases List.mem_cons.1 hy with rfl | hy
    · exact hx
    · exact h.genuine y hy
  sealer y hy := by
    rcases List.mem_cons.1 hy with rfl | hy
    · exact ⟨hkey.trans (h.keys _).1, hcid.trans (h.keys _).2.2⟩
    · exact h.sealer y hy
  numbered y hy := by
    rcases List.mem_cons.1 hy with rfl | hy
    · rw [hnumber]
      exact drawn_self hne
    · exact drawn_next hne (h.numbered y hy)
  drawn n hn := (h.drawn n hn).imp_left (drawn_next hne)
  unused y hy := by
    rcases List.mem_cons.1 hy with rfl | hy
    · intro hn
      rcases h.drawn _ hn with hlt | hmax
      · rw [Sealed.number, hnumber] at hlt
        exact absurd hlt (UInt64.lt_irrefl _)
      · exact hne (hnumber.symm.trans hmax)
    · exact h.unused y hy
  numbers := by
    rw [List.map_cons, List.nodup_cons]
    refine ⟨fun hmem => ?_, h.numbers⟩
    obtain ⟨y, hy, he⟩ := List.mem_map.1 hmem
    rw [Sealed.number, Sealed.number, hnumber] at he
    exact next_unused h hy he
  authentic q r hr := by
    obtain ⟨y, hy, hrest⟩ := h.authentic q r hr
    exact ⟨y, List.mem_cons_of_mem _ hy, hrest⟩
  once := h.once
  window q := by
    rw [(drawn_frame s x.sender q).2.2.2]
    exact h.window q

theorem payload_length_toNat {payload : Bytes} (h : RECORD_HEADER_SIZE + payload.length + TAG_SIZE ≤ MAX_DATAGRAM_SIZE) :
    (UInt16.ofNat payload.length).toNat = payload.length := by
  apply UInt16.toNat_ofNat_of_lt'
  simp only [MAX_DATAGRAM_SIZE, UInt16.size] at h ⊢
  omega

theorem seal_inv (h : Inv aead k₁ k₂ connection_id s) (p : Party) (direction : Direction) (message_type : UInt8)
    (session_id logical_id : UInt64) (flags : UInt32) (payload : Bytes) (output_length : Nat) :
    Inv aead k₁ k₂ connection_id (s.seal aead p direction message_type session_id logical_id flags payload output_length) := by
  by_cases hmax : (s.cipher p).next_packet_number = U64_MAX
  · simp only [State.seal, RecordCipher.seal_exhausted aead direction message_type session_id logical_id flags payload
      output_length hmax, Function.update_eq_self]
    exact exhausted_inv h hmax
  rcases RecordCipher.seal_cases aead direction message_type session_id logical_id flags payload output_length hmax with
    ⟨e, he⟩ | ⟨encrypted, tag, hfits, henc, hok⟩
  · simp only [State.seal, he]
    exact failed_inv h hmax
  · simp only [State.seal, hok]
    refine sealed_inv (x := ⟨p, _, _, payload, _⟩) h hmax ⟨⟨encrypted, tag, rfl, henc⟩, ?_, hfits⟩ rfl rfl rfl
    exact payload_length_toNat hfits

/-! ## Opening -/

theorem Genuine.header_written {x : Sealed} (h : Genuine aead x) : x.associated_data = write_record_header x.header := by
  obtain ⟨encrypted, tag, hd, -⟩ := h.datagram
  rw [Sealed.associated_data, hd, List.append_assoc]
  exact List.take_left' (write_length _)

/-- The parts of a logged record are the AEAD's output. -/
theorem Genuine.encrypts (lawful : aead.Lawful) {x : Sealed} (h : Genuine aead x) :
    aead.encrypt x.key (noise_nonce x.header.packet_number) (write_record_header x.header) x.payload =
      some (x.encrypted, x.tag) := by
  obtain ⟨encrypted, tag, hd, henc⟩ := h.datagram
  have hbody : x.datagram.drop RECORD_HEADER_SIZE = encrypted ++ tag := by
    rw [hd, List.append_assoc]
    exact List.drop_left' (write_length _)
  have hlength := (lawful.lengths henc).1
  rw [henc, Sealed.encrypted, Sealed.tag, hbody, List.take_left' hlength, List.drop_left' hlength]

theorem Genuine.decodes (lawful : aead.Lawful) {x : Sealed} (h : Genuine aead x) :
    decode_record_header x.datagram x.header.direction = .ok x.header := by
  obtain ⟨encrypted, tag, hd, henc⟩ := h.datagram
  obtain ⟨hlength, htag⟩ := lawful.lengths henc
  rw [hd, List.append_assoc]
  apply decode_written
  · rw [List.length_append, hlength, htag, h.length]
  · rw [h.length]
    exact h.fits

/-- Only the peer seals under the key a party opens with. -/
theorem sender_eq (distinct : k₁ ≠ k₂) (connection_id : UInt64) {p q : Party}
    (h : ((start k₁ k₂ connection_id).cipher q).send_key = ((start k₁ k₂ connection_id).cipher p).receive_key) :
    q = p.peer := by
  cases p with
  | Phone =>
    cases q with
    | Phone => exact absurd h distinct
    | Host => rfl
  | Host =>
    cases q with
    | Phone => rfl
    | Host => exact absurd h.symm distinct

/-- Whatever the AEAD verified is a record the peer sealed. -/
theorem opened_genuine (lawful : aead.Lawful) (distinct : k₁ ≠ k₂) (h : Inv aead k₁ k₂ connection_id s) {p : Party}
    {direction : Direction} {bytes : Bytes} {header : RecordHeader} {payload : Bytes}
    (hd : decode_record_header bytes direction = .ok header)
    (ideal : Unforged aead s.sealed (s.cipher p).receive_key (noise_nonce header.packet_number)
      (bytes.take RECORD_HEADER_SIZE) ((bytes.drop RECORD_HEADER_SIZE).take header.payload_length.toNat)
      ((bytes.drop RECORD_HEADER_SIZE).drop header.payload_length.toNat))
    (hdec : aead.decrypt (s.cipher p).receive_key (noise_nonce header.packet_number) (bytes.take RECORD_HEADER_SIZE)
      ((bytes.drop RECORD_HEADER_SIZE).take header.payload_length.toNat)
      ((bytes.drop RECORD_HEADER_SIZE).drop header.payload_length.toNat) = some payload) :
    ∃ x ∈ s.sealed, x.sender = p.peer ∧ x.header = header ∧ x.payload = payload := by
  obtain ⟨x, hx, hkey, hnonce, had, hencrypted, htag⟩ := ideal payload hdec
  have hgenuine := h.genuine x hx
  have hheader : header = x.header := read_header hd (by rw [← had, hgenuine.header_written])
  have hplain := lawful.decrypts (hgenuine.encrypts lawful)
  rw [hkey, hnonce, hencrypted, htag, ← hgenuine.header_written, had, hdec] at hplain
  refine ⟨x, hx, sender_eq distinct connection_id ?_, hheader.symm, (Option.some.inj hplain).symm⟩
  rw [← (h.sealer x hx).1, hkey, (h.keys p).2.1]

theorem opened_numbers_cons (s : State) (p : Party) (record : RecordHeader × Bytes) :
    { n | ∃ r ∈ record :: s.opened p, r.1.packet_number.toNat = n } =
      insert record.1.packet_number.toNat (s.opened_numbers p) := by
  ext n
  simp [State.opened_numbers, eq_comm]

/-- The ciphers once `p` committed a number to its window. -/
def State.committed (s : State) (p : Party) (number : UInt64) : Party → RecordCipher :=
  Function.update s.cipher p { s.cipher p with replay := (s.cipher p).replay.commit number.toNat }

theorem committed_frame (s : State) (p : Party) (number : UInt64) (q : Party) :
    (s.committed p number q).send_key = (s.cipher q).send_key ∧
    (s.committed p number q).receive_key = (s.cipher q).receive_key ∧
    (s.committed p number q).connection_id = (s.cipher q).connection_id ∧
    (s.committed p number q).next_packet_number = (s.cipher q).next_packet_number := by
  by_cases hq : q = p
  · subst hq
    simp [State.committed]
  · simp [State.committed, Function.update_of_ne hq]

/-- The state a record leaves that the window had not seen. -/
theorem opened_inv (h : Inv aead k₁ k₂ connection_id s) {p : Party} {header : RecordHeader} {payload : Bytes}
    (haccept : (s.cipher p).replay.would_accept header.packet_number.toNat = true)
    (hsealed : ∃ x ∈ s.sealed, x.sender = p.peer ∧ x.header = header ∧ x.payload = payload) :
    Inv aead k₁ k₂ connection_id
      { s with
        cipher := s.committed p header.packet_number
        opened := Function.update s.opened p ((header, payload) :: s.opened p) } where
  keys q := by
    obtain ⟨hs, hr, hc, -⟩ := committed_frame s p header.packet_number q
    exact ⟨hs.trans (h.keys q).1, hr.trans (h.keys q).2.1, hc.trans (h.keys q).2.2⟩
  genuine := h.genuine
  sealer := h.sealer
  numbered x hx := by
    rw [(committed_frame s p header.packet_number x.sender).2.2.2]
    exact h.numbered x hx
  drawn n hn := by
    rw [(committed_frame s p header.packet_number n.1).2.2.2]
    exact h.drawn n hn
  unused := h.unused
  numbers := h.numbers
  authentic q r hr := by
    by_cases hq : q = p
    · subst hq
      simp only [Function.update_self] at hr
      rcases List.mem_cons.1 hr with rfl | hr
      · exact hsealed
      · exact h.authentic q r hr
    · simp only [Function.update_of_ne hq] at hr
      exact h.authentic q r hr
  once q := by
    by_cases hq : q = p
    · subst hq
      have hfresh := (ReplayWindow.would_accept_iff (h.window q) _).1 haccept
      simp only [Function.update_self, List.map_cons, List.nodup_cons]
      refine ⟨fun hmem => hfresh.1 ?_, h.once q⟩
      obtain ⟨r, hr, he⟩ := List.mem_map.1 hmem
      exact ⟨r, hr, congrArg UInt64.toNat he⟩
    · simp only [Function.update_of_ne hq]
      exact h.once q
  window q := by
    by_cases hq : q = p
    · subst hq
      simp only [State.opened_numbers, State.committed, Function.update_self]
      rw [opened_numbers_cons]
      exact ReplayWindow.commit_remembers (h.window q) _
    · simp only [State.opened_numbers, State.committed, Function.update_of_ne hq]
      exact h.window q

theorem deliver_inv (lawful : aead.Lawful) (distinct : k₁ ≠ k₂) (h : Inv aead k₁ k₂ connection_id s) (p : Party)
    (direction : Direction) (bytes : Bytes)
    (ideal : ∀ header, decode_record_header bytes direction = .ok header →
      Unforged aead s.sealed (s.cipher p).receive_key (noise_nonce header.packet_number) (bytes.take RECORD_HEADER_SIZE)
        ((bytes.drop RECORD_HEADER_SIZE).take header.payload_length.toNat)
        ((bytes.drop RECORD_HEADER_SIZE).drop header.payload_length.toNat)) :
    Inv aead k₁ k₂ connection_id (s.deliver aead p direction bytes) := by
  rcases RecordCipher.open_cases aead direction bytes (s.cipher p) with ⟨e, he⟩ | ⟨header, payload, hd, -, haccept, hdec, hok⟩
  · simp only [State.deliver, he, Function.update_eq_self]
    exact h
  · simp only [State.deliver, hok]
    exact opened_inv h haccept (opened_genuine lawful distinct h hd (ideal header hd) hdec)

theorem run_inv (lawful : aead.Lawful) (distinct : k₁ ≠ k₂)
    (run : ReflTransGen (Step aead) (start k₁ k₂ connection_id) s) : Inv aead k₁ k₂ connection_id s := by
  induction run with
  | refl => exact start_inv aead k₁ k₂ connection_id
  | tail _ step ih =>
    cases step with
    | seal_into p direction message_type session_id logical_id flags payload output_length =>
      exact seal_inv ih p direction message_type session_id logical_id flags payload output_length
    | open_in_place p direction bytes s ideal => exact deliver_inv lawful distinct ih p direction bytes ideal

/-! ## The channel -/

/-- Once its last number is drawn a party seals nothing more. -/
theorem exhausted_run {p : Party} (hmax : (s.cipher p).next_packet_number = U64_MAX) {s' : State}
    (run : ReflTransGen (Step aead) s s') :
    (s'.cipher p).next_packet_number = U64_MAX ∧ s'.sealed_by p = s.sealed_by p := by
  induction run with
  | refl => exact ⟨hmax, rfl⟩
  | @tail t _ _ step ih =>
    obtain ⟨hnext, hsealed⟩ := ih
    cases step with
    | seal_into q direction message_type session_id logical_id flags payload output_length =>
      by_cases hq : p = q
      · subst hq
        simp only [State.seal, RecordCipher.seal_exhausted aead direction message_type session_id logical_id flags payload
          output_length hnext, Function.update_eq_self]
        exact ⟨hnext, hsealed⟩
      · unfold State.seal
        split
        · refine ⟨by simpa only [Function.update_of_ne hq] using hnext, ?_⟩
          rw [← hsealed, State.sealed_by, List.filter_cons_of_neg (by simpa using Ne.symm hq)]
          rfl
        · exact ⟨by simpa only [Function.update_of_ne hq] using hnext, hsealed⟩
    | open_in_place q direction bytes ideal =>
      rcases RecordCipher.open_cases aead direction bytes (t.cipher q) with ⟨e, he⟩ | ⟨header, payload, -, -, -, -, hok⟩
      · simp only [State.deliver, he, Function.update_eq_self]
        exact ⟨hnext, hsealed⟩
      · simp only [State.deliver, hok]
        exact ⟨(committed_frame t q header.packet_number p).2.2.2.trans hnext, hsealed⟩

theorem open_error {direction : Direction} {bytes : Bytes} {c : RecordCipher} {e : WireError}
    (h : (c.open_in_place aead direction bytes).1 = .error e) : (c.open_in_place aead direction bytes).2 = c := by
  rcases RecordCipher.open_cases aead direction bytes c with ⟨e', he⟩ | ⟨header, payload, -, -, -, -, hok⟩
  · rw [he]
  · rw [hok] at h
    cases h

/-- A record the window still accepts opens, and to what was sealed. -/
theorem opens (lawful : aead.Lawful) (h : Inv aead k₁ k₂ connection_id s) {x : Sealed} (hx : x ∈ s.sealed)
    (hfresh : ReplayWindow.Fresh (s.opened_numbers x.sender.peer) x.header.packet_number.toNat) :
    ((s.cipher x.sender.peer).open_in_place aead x.header.direction x.datagram).1 = .ok (x.header, x.payload) := by
  have hgenuine := h.genuine x hx
  have hkey : (s.cipher x.sender.peer).receive_key = x.key := by
    rw [(h.keys x.sender.peer).2.1, (h.sealer x hx).1]
    cases x.sender <;> rfl
  have hdec := lawful.decrypts (hgenuine.encrypts lawful)
  rw [← hgenuine.header_written, Sealed.associated_data, Sealed.encrypted, Sealed.tag, ← hgenuine.length, ← hkey] at hdec
  unfold RecordCipher.open_in_place
  rw [hgenuine.decodes lawful]
  dsimp only
  rw [if_neg (by rw [(h.sealer x hx).2, (h.keys x.sender.peer).2.2]; simp),
    (ReplayWindow.would_accept_iff (h.window _) _).2 hfresh, if_neg (by simp), hdec]

/-- With directional keys and an ideal AEAD the two ciphers are an authenticated channel, whatever
either party seals and whatever is delivered: an opened record is one record the peer sealed, with its
header and payload, and none is opened twice; a packet number serves one record at most, a failed
attempt's none, and the last number ends sealing; a refused datagram changes nothing; and a record
within the last 1,024 of every opened one still opens. -/
theorem record_channel (lawful : aead.Lawful) (distinct : k₁ ≠ k₂) (connection_id : UInt64)
    (run : ReflTransGen (Step aead) (start k₁ k₂ connection_id) s) :
    (∀ p, ∀ r ∈ s.opened p, ∃! x, x ∈ s.sealed ∧ x.sender = p.peer ∧ x.header = r.1 ∧ x.payload = r.2) ∧
    (∀ p, ((s.opened p).map (·.1.packet_number)).Nodup) ∧
    (s.sealed.map Sealed.number).Nodup ∧ (∀ x ∈ s.sealed, x.number ∉ s.failed) ∧
    (∀ p, (s.cipher p).next_packet_number = U64_MAX →
      ∀ s', ReflTransGen (Step aead) s s' → s'.sealed_by p = s.sealed_by p ∧
        ∀ direction message_type session_id logical_id flags payload output_length,
          (s'.cipher p).seal_into aead direction message_type session_id logical_id flags payload output_length =
            (.error .PacketNumberExhausted, s'.cipher p)) ∧
    (∀ p direction bytes e, ((s.cipher p).open_in_place aead direction bytes).1 = .error e →
      ((s.cipher p).open_in_place aead direction bytes).2 = s.cipher p) ∧
    (∀ x ∈ s.sealed, (∀ r ∈ s.opened x.sender.peer, r.1.packet_number ≠ x.header.packet_number ∧
        r.1.packet_number.toNat < x.header.packet_number.toNat + REPLAY_WINDOW_BITS) →
      ((s.cipher x.sender.peer).open_in_place aead x.header.direction x.datagram).1 = .ok (x.header, x.payload)) := by
  have h := run_inv lawful distinct run
  refine ⟨fun p r hr => ?_, h.once, h.numbers, h.unused, fun p hmax s' run' => ?_, fun p direction bytes e he => open_error he,
    fun x hx hwithin => ?_⟩
  · obtain ⟨x, hx, hsender, hheader, hpayload⟩ := h.authentic p r hr
    refine ⟨x, ⟨hx, hsender, hheader, hpayload⟩, ?_⟩
    rintro y ⟨hy, hysender, hyheader, -⟩
    apply List.inj_on_of_nodup_map h.numbers hy hx
    rw [Sealed.number, Sealed.number, hysender, hyheader, hsender, hheader]
  · obtain ⟨hnext, hsealed⟩ := exhausted_run hmax run'
    exact ⟨hsealed, fun _ _ _ _ _ _ _ => RecordCipher.seal_exhausted aead _ _ _ _ _ _ _ hnext⟩
  · apply opens lawful h hx
    constructor
    · rintro ⟨r, hr, he⟩
      exact (hwithin r hr).1 (UInt64.toNat_inj.1 he)
    · rintro n ⟨r, hr, rfl⟩
      exact (hwithin r hr).2

/-- A cipher that tags with its key and hides nothing. -/
def keyTag : Aead where
  encrypt key _ _ plaintext := some (plaintext, (key ++ List.replicate TAG_SIZE 0).take TAG_SIZE)
  decrypt key _ _ ciphertext tag := if tag = (key ++ List.replicate TAG_SIZE 0).take TAG_SIZE then some ciphertext else none

theorem keyTag_lawful : keyTag.Lawful where
  lengths h := by
    obtain ⟨rfl, rfl⟩ := Prod.mk.inj (Option.some.inj h)
    simp [TAG_SIZE]
  decrypts h := by
    obtain ⟨rfl, rfl⟩ := Prod.mk.inj (Option.some.inj h)
    simp [keyTag]

/-- The phone seals one byte. -/
def oneSealed : State := (start [1] [2] 9).seal keyTag .Phone .PhoneToHost 0x10 7 0 0 [42] MAX_DATAGRAM_SIZE

/-- The host opens it. -/
def oneOpened : State := oneSealed.deliver keyTag .Host .PhoneToHost ((oneSealed.sealed_by .Phone).map Sealed.datagram).flatten

theorem oneOpened_run : ReflTransGen (Step keyTag) (start [1] [2] 9) oneOpened := by
  apply ReflTransGen.tail
  · exact ReflTransGen.single (.seal_into .Phone .PhoneToHost 0x10 7 0 0 [42] MAX_DATAGRAM_SIZE _)
  · refine .open_in_place .Host .PhoneToHost _ oneSealed fun header hd => ?_
    obtain rfl : _ = header := Except.ok.inj hd
    intro payload _
    refine ⟨_, List.mem_singleton_self _, ?_⟩
    decide

theorem record_channel_once :
    (oneOpened.opened .Host).map (·.2) = [[42]] ∧ ((oneOpened.opened .Host).map (·.1.packet_number)).Nodup :=
  ⟨by decide, (record_channel keyTag_lawful (by decide) 9 oneOpened_run).2.1 .Host⟩

end Trackpad.Channel
