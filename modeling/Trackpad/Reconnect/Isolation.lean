import Trackpad.Reconnect.Sessions
/-!
# No record crosses from one session to another

What the channels of all handshakes have in common: a record is opened in the session it was sealed in, once, and no
nonce is used twice under one key.
-/

namespace Trackpad.Reconnect

open Channel (Party Sealed)

variable {α : Type} {y : Pair α} {s s' : State α}

/-! ## Records -/

/-- What differs within each class differs everywhere, together with its class. -/
theorem nodup_classes {β κ ν : Type} [DecidableEq κ] (f : β → κ) (g : β → ν) {l : List β}
    (h : ∀ k, ((l.filter fun x => f x = k).map g).Nodup) : (l.map fun x => (f x, g x)).Nodup := by
  induction l with
  | nil => exact List.nodup_nil
  | cons x l ih =>
    rw [List.map_cons, List.nodup_cons]
    constructor
    · intro hmem
      obtain ⟨x', hx', heq⟩ := List.mem_map.1 hmem
      obtain ⟨hf, hg⟩ := Prod.mk.inj heq
      have hclass := h (f x)
      rw [List.filter_cons_of_pos (by simp), List.map_cons, List.nodup_cons] at hclass
      exact hclass.1 (List.mem_map.2 ⟨x', List.mem_filter.2 ⟨hx', by simpa using hf⟩, hg⟩)
    · refine ih fun k => List.Nodup.sublist ?_ (h k)
      exact ((List.sublist_cons_self x l).filter _).map g

/-- What both parties did with the keys of one handshake. -/
theorem channel_inv (lawful : y.noise.Lawful) (aead_lawful : y.aead.Lawful) {a : Accept} {c : Channel.State}
    (hc : Follows y s a c) :
    Channel.Inv y.aead (a.split y).initiator_key (a.split y).responder_key
      (connection_id y.blake2s (a.split y).handshake_hash) c :=
  Channel.run_inv aead_lawful (lawful.directions _ _ _ _ _ _ _) hc.run

/-- A key has one sender. -/
theorem one_sender {aead : Aead} {k₁ k₂ : Bytes} {connection_id : UInt64} {c : Channel.State}
    (h : Channel.Inv aead k₁ k₂ connection_id c) (distinct : k₁ ≠ k₂) {x x' : Sealed} (hx : x ∈ c.sealed)
    (hx' : x' ∈ c.sealed)
    (hkey : x.key = x'.key) : x.sender = x'.sender := by
  rw [(h.sealer x hx).1, (h.sealer x' hx').1] at hkey
  cases hs : x.sender <;> cases hs' : x'.sender <;> rw [hs, hs'] at hkey
  · exact absurd hkey distinct
  · exact absurd hkey.symm distinct

/-- Records of one key have different packet numbers. -/
theorem sealed_numbers (lawful : y.noise.Lawful) (aead_lawful : y.aead.Lawful) (h : Inv y s) :
    (s.sealed.map fun x => (x.key, x.header.packet_number)).Nodup := by
  refine nodup_classes _ _ fun key => ?_
  by_cases hnone : ∃ x ∈ s.sealed, x.key = key
  · obtain ⟨x, hx, hkey⟩ := hnone
    obtain ⟨a, ha, hhas⟩ := h.sealed_key x hx
    obtain ⟨c, hc⟩ := h.follows a ha
    have hinv := channel_inv lawful aead_lawful hc
    have hsublist : (s.sealed.filter fun x => x.key = key).Sublist c.sealed := by
      rw [hc.sealed]
      refine List.monotone_filter_right _ fun x' hx' => ?_
      rw [of_decide_eq_true hx', ← hkey]
      exact hhas
    have hnumbers : ((s.sealed.filter fun x => x.key = key).map Sealed.number).Nodup :=
      hinv.numbers.sublist (hsublist.map _)
    refine (List.nodup_map_iff_inj_on hnumbers.of_map).2 fun x₁ h₁ x₂ h₂ hnumber => ?_
    have hsame : x₁.key = x₂.key :=
      (of_decide_eq_true (List.mem_filter.1 h₁).2).trans (of_decide_eq_true (List.mem_filter.1 h₂).2).symm
    have hsender := one_sender hinv (lawful.directions _ _ _ _ _ _ _) (hsublist.subset h₁) (hsublist.subset h₂) hsame
    exact List.inj_on_of_nodup_map hnumbers h₁ h₂ (by rw [Sealed.number, Sealed.number, hsender, hnumber])
  · rw [List.filter_eq_nil_iff.2 fun x hx hkey => hnone ⟨x, hx, of_decide_eq_true hkey⟩]
    exact List.nodup_nil

/-- No record is opened twice. -/
theorem opened_once (lawful : y.noise.Lawful) (aead_lawful : y.aead.Lawful) (h : Inv y s) (p : Party) :
    ((s.opened p).map fun r => (r.1, r.2.1.packet_number)).Nodup := by
  refine nodup_classes _ _ fun key => ?_
  by_cases hnone : ∃ r ∈ s.opened p, r.1 = key
  · obtain ⟨r, hr, hkey⟩ := hnone
    obtain ⟨a, ha, hreceive⟩ := h.opened_key p r hr
    obtain ⟨c, hc⟩ := h.follows a ha
    have honce := (channel_inv lawful aead_lawful hc).once p
    rw [hc.opened, List.map_map] at honce
    refine honce.sublist (List.Sublist.map _ (List.monotone_filter_right _ fun r' hr' => ?_))
    rw [of_decide_eq_true hr', ← hkey, hreceive]
    exact has_receive_key y a p
  · rw [List.filter_eq_nil_iff.2 fun r hr hkey => hnone ⟨r, hr, of_decide_eq_true hkey⟩]
    exact List.nodup_nil

/-- The record that was opened. -/
theorem opened_sealed (lawful : y.noise.Lawful) (aead_lawful : y.aead.Lawful) (h : Inv y s) {p : Party}
    {r : Bytes × RecordHeader × Bytes}
    (hr : r ∈ s.opened p) :
    ∃ x ∈ s.sealed, x.sender = p.peer ∧ x.key = r.1 ∧ x.header = r.2.1 ∧ x.payload = r.2.2 := by
  obtain ⟨a, ha, hreceive⟩ := h.opened_key p r hr
  obtain ⟨c, hc⟩ := h.follows a ha
  have hinv := channel_inv lawful aead_lawful hc
  have hopened : r.2 ∈ c.opened p := by
    rw [hc.opened]
    refine List.mem_map.2 ⟨r, List.mem_filter.2 ⟨hr, ?_⟩, rfl⟩
    rw [hreceive]
    exact has_receive_key y a p
  obtain ⟨x, hx, hsender, hheader, hpayload⟩ := hinv.authentic p r.2 hopened
  have hkey : x.key = r.1 := by
    rw [(hinv.sealer x hx).1, hsender, hreceive]
    cases p <;> rfl
  rw [hc.sealed] at hx
  exact ⟨x, (List.mem_filter.1 hx).1, hsender, hkey, hheader, hpayload⟩

/-! ## Both together -/

section

variable [DecidableEq α]

/-- A host and the phone it is paired with, over any number of handshakes and whatever the network delivers: a record
that one of them opens is the one record that the other sealed in the session of the same handshake, and is opened
once; no key and packet number are used twice; where the phone has a channel, the host accepted that very request over
that transport and has, or had, the same keys; where the host has a connection, it is on a request of its phone. -/
theorem sessions_isolated (lawful : y.noise.Lawful) (aead_lawful : y.aead.Lawful) (h : Reaches y s) :
    (∀ p, ∀ r ∈ s.opened p, ∃! x, x ∈ s.sealed ∧ x.sender = p.peer ∧ x.key = r.1 ∧ x.header = r.2.1 ∧ x.payload = r.2.2) ∧
    (∀ p, ((s.opened p).map fun r => (r.1, r.2.1.packet_number)).Nodup) ∧
    (s.sealed.map fun x => (x.key, x.header.packet_number)).Nodup ∧
    (∀ attempt peer channel, s.phone = .Established attempt peer channel →
      ∃ a ∈ s.accepts, Answers y a attempt ∧ SameKeys channel ((a.start y).cipher .Phone)) ∧
    (∀ peer c, s.host = .Connected peer c →
      ∃ a ∈ s.accepts, SameKeys c.cipher ((a.start y).cipher .Host) ∧ ∃ attempt ∈ s.attempts, Answers y a attempt) := by
  have hinv := h.inv lawful
  refine ⟨fun p r hr => ?_, opened_once lawful aead_lawful hinv, sealed_numbers lawful aead_lawful hinv,
    fun attempt peer channel hphone => ?_, fun peer c hhost => ?_⟩
  · obtain ⟨x, hx, hsender, hkey, hheader, hpayload⟩ := opened_sealed lawful aead_lawful hinv hr
    refine ⟨x, ⟨hx, hsender, hkey, hheader, hpayload⟩, ?_⟩
    rintro x' ⟨hx', -, hkey', hheader', -⟩
    refine List.inj_on_of_nodup_map (sealed_numbers lawful aead_lawful hinv) hx' hx ?_
    rw [hkey', hkey, hheader', hheader]
  · obtain ⟨a, ha, hkeys, hanswers, -⟩ := hinv.phone attempt peer channel hphone
    exact ⟨a, ha, hanswers, hkeys⟩
  · obtain ⟨a, ha, hkeys⟩ := hinv.host peer c hhost
    exact ⟨a, ha, hkeys, hinv.requested a ha⟩

end

/-! ## Two sessions -/

/-- Whether a datagram may be delivered to this cipher. -/
def authentic (s : State α) (c : RecordCipher) (direction : Direction) (bytes : Bytes) : Bool :=
  match decode_record_header bytes direction with
  | .error _ => true
  | .ok header => s.sealed.any fun x => x.key = c.receive_key &&
      noise_nonce x.header.packet_number = noise_nonce header.packet_number &&
      x.associated_data = bytes.take RECORD_HEADER_SIZE &&
      x.encrypted = (bytes.drop RECORD_HEADER_SIZE).take header.payload_length.toNat &&
      x.tag = (bytes.drop RECORD_HEADER_SIZE).drop header.payload_length.toNat

theorem authentic_true {c : RecordCipher} {direction : Direction} {bytes : Bytes}
    (h : authentic s c direction bytes = true) :
    Authentic y s c direction bytes := by
  intro header hheader payload _
  unfold authentic at h
  rw [hheader] at h
  obtain ⟨x, hx, hsame⟩ := List.any_eq_true.1 h
  simp only [Bool.and_eq_true, decide_eq_true_eq] at hsame
  obtain ⟨⟨⟨⟨hkey, hnonce⟩, hdata⟩, hencrypted⟩, htag⟩ := hsame
  exact ⟨x, hx, hkey, hnonce, hdata, hencrypted, htag⟩

/-- Whether a step may be taken; it decides `Fresh` and, for what the other one made, `Ideal`. -/
def permitted (y : Pair α) (s : State α) (a : Action α) : Bool :=
  match a with
  | .HostReceives arrival ephemeral => !(s.accepts.any fun b => b.ephemeral = ephemeral) &&
    match s.host with
    | .Idle => true
    | .Waiting transport => (wanted_envelope transport arrival).all fun envelope => s.attempts.any fun attempt =>
        attempt.prologue = prologue transport envelope.exchange_id &&
          attempt.message y.noise y.phone_private y.host_public = envelope.payload
    | .Connected _ c => authentic s c.cipher .PhoneToHost arrival.bytes
  | .PhoneReceives _ _ bytes =>
    match s.phone with
    | .Closed => true
    | .Establishing attempt _ => (awaitedEnvelope attempt bytes).all fun envelope => s.accepts.any fun b =>
        prologue b.transport b.exchange_id = attempt.prologue &&
          b.request = attempt.message y.noise y.phone_private y.host_public &&
        y.noise.write_response y.host_private attempt.prologue b.request b.ephemeral = envelope.payload
    | .Established _ _ channel => authentic s channel .HostToPhone bytes
  | .PhoneOpens attempt => !(s.attempts.any fun b => b.exchange_id = attempt.exchange_id)
  | _ => true

theorem permitted_true {a : Action α} (h : permitted y s a = true) : Fresh s a ∧ Ideal y s a := by
  cases a with
  | HostReceives arrival ephemeral =>
    simp only [permitted, Bool.and_eq_true, Bool.not_eq_true', List.any_eq_false, decide_eq_true_eq] at h
    obtain ⟨hfresh, hideal⟩ := h
    constructor
    · intro hmem
      obtain ⟨b, hb, heq⟩ := List.mem_map.1 hmem
      exact hfresh b hb heq
    · unfold Ideal
      cases hhost : s.host with
      | Idle => trivial
      | Waiting transport =>
        rw [hhost] at hideal
        dsimp only at hideal
        intro envelope hwanted _
        rw [hwanted, Option.all_some] at hideal
        obtain ⟨attempt, hmem, hsame⟩ := List.any_eq_true.1 hideal
        simp only [Bool.and_eq_true, decide_eq_true_eq] at hsame
        exact ⟨attempt, hmem, hsame⟩
      | Connected peer c =>
        rw [hhost] at hideal
        exact authentic_true hideal
  | PhoneReceives source onSelectedSubnet bytes =>
    simp only [permitted] at h
    refine ⟨trivial, ?_⟩
    unfold Ideal
    cases hphone : s.phone with
    | Closed => trivial
    | Establishing attempt request =>
      rw [hphone] at h
      dsimp only at h
      intro envelope hawaited result _
      rw [hawaited, Option.all_some] at h
      obtain ⟨b, hmem, hsame⟩ := List.any_eq_true.1 h
      simp only [Bool.and_eq_true, decide_eq_true_eq] at hsame
      exact ⟨b, hmem, hsame.1.1, hsame.1.2, hsame.2⟩
    | Established attempt peer channel =>
      rw [hphone] at h
      exact authentic_true h
  | PhoneOpens attempt =>
    refine ⟨fun hmem => ?_, trivial⟩
    simp only [permitted, Bool.not_eq_true', List.any_eq_false, decide_eq_true_eq] at h
    obtain ⟨b, hb, heq⟩ := List.mem_map.1 hmem
    exact h b hb heq
  | _ => exact ⟨trivial, trivial⟩

variable [DecidableEq α]

/-- A run of steps that may be taken, each chosen when its turn comes. -/
def permitted_run (y : Pair α) (script : List (State α → Action α)) (s : State α) : Option (State α) :=
  script.foldlM (fun s f => if permitted y s (f s) then step y (f s) s else none) s

theorem permitted_run_reaches {script : List (State α → Action α)} (h : Reaches y s)
    (hrun : permitted_run y script s = some s') :
    Reaches y s' := by
  induction script generalizing s with
  | nil =>
    cases hrun
    exact h
  | cons f script ih =>
    obtain ⟨next, hstep, hrest⟩ := Option.bind_eq_some_iff.1 hrun
    obtain ⟨hpermitted, hstep⟩ := Option.ite_none_right_eq_some.1 hstep
    obtain ⟨hfresh, hideal⟩ := permitted_true hpermitted
    exact ih (h.tail ⟨f s, hfresh, hideal, hstep⟩) hrest

def key_at (bytes : Bytes) (offset : Nat) : Key := Vector.ofFn fun i => bytes.getD (offset + i) 0

/-- A handshake that hides nothing. -/
def plainNoise : Noise where
  public_key k := k
  write_request k _ _ e := e.toList ++ k.toList ++ List.replicate 32 0
  read_request _ _ request := .ok (some (key_at request 32))
  write_response _ _ _ e := e.toList ++ List.replicate 16 0
  responder_split _ _ _ e := ⟨e.toList, 1 :: e.toList, 2 :: e.toList⟩
  read_response _ _ _ _ response :=
    let e := key_at response 0
    some (0, ⟨e.toList, 1 :: e.toList, 2 :: e.toList⟩)

theorem key_at_append {before after : Bytes} {offset : Nat} (k : Key) (h : before.length = offset) :
    key_at (before ++ k.toList ++ after) offset = k := by
  apply Vector.ext
  intro i hi
  simp [key_at, List.getD_eq_getElem?_getD, List.getElem?_append, h]

theorem plainNoise_lawful : plainNoise.Lawful where
  request_length := by simp [plainNoise]
  response_length := by simp [plainNoise]
  reads_request initiator responder _ ephemeral := by
    simp only [plainNoise]
    rw [key_at_append initiator (by simp)]
  reads_response {_ _ _ _ _ answering} _ := by
    have hkey : key_at (answering.toList ++ List.replicate 16 0) 0 = answering := @key_at_append [] _ 0 answering rfl
    simp only [plainNoise, hkey]
  directions := by simp [plainNoise]
  initiator_keys h := Vector.toList_inj.1 (List.tail_eq_of_cons_eq h)
  responder_keys h := Vector.toList_inj.1 (List.tail_eq_of_cons_eq h)

def sampled : Pair Nat where
  noise := plainNoise
  aead := Channel.keyTag
  blake2s _ := ⟨List.replicate 32 0, rfl⟩
  host_private := .replicate 32 3
  phone_private := .replicate 32 4
  host_address := 1

/-- The attempt from a socket of the phone. -/
def attempt_from (address : Nat) : Attempt Nat :=
  ⟨.Wifi, ⟨List.replicate 16 (.ofNat address), List.length_replicate⟩, .replicate 32 5, address⟩

/-- What a party sent last. -/
def last_sent (p : Party) (s : State Nat) : Bytes := ((s.sent.find? fun e => e.1 = p).map fun e => e.2.2).getD []

/-- A session over this socket in which one record arrives. -/
def one_session (address : Nat) : List (State Nat → Action Nat) :=
  [fun _ => .HostListens .Wifi, fun _ => .PhoneOpens (attempt_from address), fun _ => .PhoneRequests,
   fun s => .HostReceives ⟨address, true, true, last_sent .Phone s⟩ (.replicate 32 (.ofNat address)),
   fun s => .PhoneReceives 1 true (last_sent .Host s),
   fun _ => .PhoneSeals ⟨PHONE_TOUCH, 7, 0, 0, [42]⟩,
   fun s => .HostReceives ⟨address, true, true, last_sent .Phone s⟩ (.replicate 32 0),
   fun _ => .HostEnds, fun _ => .PhoneCloses]

/-- The first records of two sessions. -/
theorem sessions_isolated_twice :
    ∃ s, Reaches sampled s ∧ (s.opened .Host).map (fun r => r.2.1.packet_number) = [0, 0] ∧
      ((s.opened .Host).map fun r => (r.1, r.2.1.packet_number)).Nodup := by
  have hruns : ((permitted_run sampled (one_session 9 ++ one_session 10) setup).any fun s =>
      (s.opened .Host).map (fun r => r.2.1.packet_number) = [0, 0]) = true := by decide +kernel
  obtain ⟨s, hrun, hopened⟩ := (Option.any_eq_true _ _).1 hruns
  have hreaches : Reaches sampled s := permitted_run_reaches .refl hrun
  exact ⟨s, hreaches, of_decide_eq_true hopened, (sessions_isolated plainNoise_lawful Channel.keyTag_lawful hreaches).2.1 .Host⟩

end Trackpad.Reconnect
