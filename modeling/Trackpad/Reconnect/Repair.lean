import Trackpad.Reconnect.Isolation
/-!
# A handshake that the network disturbs

The network may lose, repeat, delay and reorder what the two send, but nobody else sends. Then no handshake fails, and while
the phone still asks, one request and one response are enough, also where the host had answered before.
-/

namespace Trackpad.Reconnect

open V5Host (HostV5Error V5Connection)
open Channel (Party Sealed Unforged)
open Relation

variable {α : Type} {y : Pair α} {s s' : State α}

/-! ## What is sent -/

/-- A response as the host sends it. -/
def Accept.response (y : Pair α) (a : Accept) : Except WireError Bytes :=
  encode_pair_envelope IK_CONTINUE a.exchange_id 2 a.transport
    (y.noise.write_response y.host_private (prologue a.transport a.exchange_id) a.request a.ephemeral)

def Accept.envelope (y : Pair α) (a : Accept) : PairEnvelope :=
  ⟨IK_CONTINUE, a.exchange_id, 2, a.transport,
    y.noise.write_response y.host_private (prologue a.transport a.exchange_id) a.request a.ephemeral⟩

def IsRecord (bytes : Bytes) : Prop := ∃ header rest, bytes = write_record_header header ++ rest

/-- A record has another magic number than an envelope. -/
theorem record_no_envelope {bytes : Bytes} (h : IsRecord bytes) (envelope : PairEnvelope) :
    decode_pair_envelope bytes ≠ .ok envelope := by
  obtain ⟨header, rest, rfl⟩ := h
  intro hdecode
  have hmagic : (write_record_header header ++ rest).take 4 = header.direction.magic := by
    rw [write_record_header]
    simp only [List.append_assoc]
    exact List.take_left' (magic_length _)
  have hother : header.direction.magic ≠ PAIR_MAGIC := by cases header.direction <;> decide
  unfold decode_pair_envelope at hdecode
  split at hdecode
  · cases hdecode
  · rw [hmagic, if_pos hother] at hdecode
    cases hdecode

/-- The envelope of a request. -/
def Attempt.envelope (y : Pair α) (a : Attempt α) : PairEnvelope :=
  ⟨IK_MESSAGE_1, a.exchange_id, 1, a.transport, a.message y.noise y.phone_private y.host_public⟩

/-- The phone's encoder writes what the host's decoder reads. -/
theorem request_decodes {a : Attempt α} {bytes : Bytes} (h : a.request y.noise y.phone_private y.host_public = .ok bytes) :
    decode_pair_envelope bytes = .ok (a.envelope y) := by
  have hagrees := V5Protocol.encodePairEnvelope_agrees (a.envelope y)
  have hphone : (V5Protocol.encodePairEnvelope (V5Protocol.PairEnvelope.ofHost (a.envelope y)).kind
      (V5Protocol.PairEnvelope.ofHost (a.envelope y)).exchangeId (V5Protocol.PairEnvelope.ofHost (a.envelope y)).step
      (V5Protocol.PairEnvelope.ofHost (a.envelope y)).transport (V5Protocol.PairEnvelope.ofHost (a.envelope y)).payload) =
        .ok bytes := h
  rw [hphone] at hagrees
  apply decode_pair_envelope_iff.2
  cases hencode : (a.envelope y).encode with
  | error e =>
    rw [hencode] at hagrees
    cases hagrees
  | ok bytes' =>
    rw [hencode] at hagrees
    cases hagrees
    rfl

theorem request_encodes (lawful : y.noise.Lawful) (a : Attempt α) :
    ∃ bytes, a.request y.noise y.phone_private y.host_public = .ok bytes := by
  unfold Attempt.request V5Protocol.encodePairEnvelope
  have hlength : (a.message y.noise y.phone_private y.host_public).length = 96 := lawful.request_length _ _ _ _
  rw [if_neg (by simp [a.exchange_id.length]), hlength]
  exact ⟨_, rfl⟩

theorem response_encodes (lawful : y.noise.Lawful) (a : Accept) : ∃ bytes, a.response y = .ok bytes := by
  unfold Accept.response encode_pair_envelope
  rw [lawful.response_length]
  exact ⟨_, rfl⟩

theorem response_decodes {a : Accept} {bytes : Bytes} (h : a.response y = .ok bytes) :
    decode_pair_envelope bytes = .ok (a.envelope y) := decode_pair_envelope_iff.2 h

theorem phone_decodes {bytes : Bytes} {envelope : PairEnvelope} (h : decode_pair_envelope bytes = .ok envelope) :
    V5Protocol.decodePairEnvelope bytes bytes.length = .ok (V5Protocol.PairEnvelope.ofHost envelope) := by
  have hagrees := V5Protocol.decodePairEnvelope_agrees (le_refl bytes.length)
  rw [List.take_length, h] at hagrees
  cases hphone : V5Protocol.decodePairEnvelope bytes bytes.length with
  | error e =>
    rw [hphone] at hagrees
    cases hagrees
  | ok envelope' =>
    rw [hphone] at hagrees
    cases hagrees
    rfl

theorem phone_rejects {bytes : Bytes} (h : IsRecord bytes) (envelope : V5Protocol.PairEnvelope) :
    V5Protocol.decodePairEnvelope bytes bytes.length ≠ .ok envelope := by
  intro hphone
  have hagrees := V5Protocol.decodePairEnvelope_agrees (le_refl bytes.length)
  rw [List.take_length, hphone] at hagrees
  cases hdecode : decode_pair_envelope bytes with
  | error e =>
    rw [hdecode] at hagrees
    cases hagrees
  | ok envelope' => exact record_no_envelope h envelope' hdecode

/-- A sealed datagram is a record. -/
theorem sealed_record {p : Party} {direction : Direction} {m : Message} {cipher : RecordCipher} {x : Sealed}
    (h : x ∈ (State.sealed_by y p direction m cipher).1) : IsRecord x.datagram := by
  unfold State.sealed_by at h
  by_cases hmax : cipher.next_packet_number = U64_MAX
  · rw [RecordCipher.seal_exhausted y.aead direction m.message_type m.session_id m.logical_id m.flags m.payload _ hmax] at h
    cases h
  · rcases RecordCipher.seal_cases y.aead direction m.message_type m.session_id m.logical_id m.flags m.payload MAX_DATAGRAM_SIZE hmax
      with ⟨e, he⟩ | ⟨encrypted, tag, -, -, hok⟩
    · rw [he] at h
      cases h
    · rw [hok] at h
      cases h
      exact ⟨_, encrypted ++ tag, List.append_assoc _ _ _⟩

/-! ## An orderly network -/

/-- What the sender of a datagram may have sent. -/
def Known (y : Pair α) (s : State α) (sent : Party × α × Bytes) : Prop :=
  IsRecord sent.2.2 ∨
  (sent.1 = .Phone ∧ ∃ a ∈ s.attempts, a.request y.noise y.phone_private y.host_public = .ok sent.2.2) ∨
  (sent.1 = .Host ∧ ∃ a ∈ s.accepts, a.response y = .ok sent.2.2)

/-- What the connection of the host keeps of its handshake: the request and the response, until it opened a record. -/
def Caches (y : Pair α) (s : State α) (c : V5Connection) : Prop :=
  (∃ a ∈ s.accepts, ∃ attempt ∈ s.attempts, ∃ request response, SameKeys c.cipher ((a.start y).cipher .Host) ∧
    Answers y a attempt ∧
    attempt.request y.noise y.phone_private y.host_public = .ok request ∧ a.response y = .ok response ∧
    c.cached_handshake = some (request, response)) ∨
  c.cached_handshake = none ∧ ∃ r ∈ s.opened .Host, r.1 = c.cipher.receive_key

structure Orderly (y : Pair α) (s : State α) : Prop where
  known : ∀ sent ∈ s.sent, Known y s sent
  exchanges : (s.attempts.map Attempt.exchange_id).Nodup
  establishing : ∀ attempt request, s.phone = .Establishing attempt request →
    attempt.request y.noise y.phone_private y.host_public = .ok request
  caches : ∀ peer c, s.host = .Connected peer c → Caches y s c
  calm : s.failures = []

theorem setup_orderly (y : Pair α) : Orderly y setup := by
  constructor <;> simp [setup]

theorem Known.mono {sent : Party × α × Bytes} (haccepts : s.accepts ⊆ s'.accepts) (hattempts : s.attempts ⊆ s'.attempts)
    (h : Known y s sent) : Known y s' sent := by
  rcases h with h | ⟨hsender, a, ha, h⟩ | ⟨hsender, a, ha, h⟩
  · exact .inl h
  · exact .inr (.inl ⟨hsender, a, hattempts ha, h⟩)
  · exact .inr (.inr ⟨hsender, a, haccepts ha, h⟩)

theorem Caches.mono {c : V5Connection} (haccepts : s.accepts ⊆ s'.accepts) (hattempts : s.attempts ⊆ s'.attempts)
    (hopened : s.opened .Host ⊆ s'.opened .Host) (h : Caches y s c) : Caches y s' c := by
  rcases h with ⟨a, ha, attempt, hattempt, hrest⟩ | ⟨hnone, r, hr, hkey⟩
  · exact .inl ⟨a, haccepts ha, attempt, hattempts hattempt, hrest⟩
  · exact .inr ⟨hnone, r, hopened hr, hkey⟩

/-- A step that draws nothing and after which nobody waits or is connected who was not. -/
theorem Orderly.rests (h : Orderly y s) (haccepts : s'.accepts = s.accepts) (hattempts : s'.attempts = s.attempts)
    (hknown : ∀ sent ∈ s'.sent, sent ∈ s.sent ∨ Known y s sent)
    (hphone : ∀ attempt request, s'.phone = .Establishing attempt request → s.phone = .Establishing attempt request)
    (hcaches : ∀ peer c, s'.host = .Connected peer c → Caches y s' c) (hcalm : s'.failures = s.failures) :
    Orderly y s' where
  known sent hsent := by
    refine Known.mono (s := s) (haccepts ▸ List.Subset.refl _) (hattempts ▸ List.Subset.refl _) ?_
    exact (hknown sent hsent).elim (h.known sent) id
  exchanges := by
    rw [hattempts]
    exact h.exchanges
  establishing attempt request heq := h.establishing attempt request (hphone attempt request heq)
  caches := hcaches
  calm := hcalm.trans h.calm

/-- The host's answer to this attempt. -/
def Attempt.accepted (y : Pair α) (a : Attempt α) (ephemeral : Key) : Accept :=
  ⟨a.transport, a.exchange_id, a.message y.noise y.phone_private y.host_public, ephemeral⟩

theorem accept_attempt (lawful : y.noise.Lawful) (a : Attempt α) (ephemeral : Key) (bytes : Bytes) :
    ∃ response, (a.accepted y ephemeral).response y = .ok response ∧
      accept_request y.noise y.blake2s y.host_private y.phone_public a.transport ephemeral bytes (a.envelope y) =
        .ok (response, .new (((a.accepted y ephemeral).start y).cipher .Host) (some (bytes, response))) := by
  obtain ⟨response, hresponse⟩ := response_encodes lawful (a.accepted y ephemeral)
  have hread : y.noise.read_request y.host_private (prologue a.transport a.exchange_id)
      (a.message y.noise y.phone_private y.host_public) = .ok (some y.phone_public) := lawful.reads_request _ _ _ _
  have hencode : encode_pair_envelope IK_CONTINUE a.exchange_id 2 a.transport
      (y.noise.write_response y.host_private (prologue a.transport a.exchange_id)
        (a.message y.noise y.phone_private y.host_public)
        ephemeral) = .ok response := hresponse
  refine ⟨response, hresponse, ?_⟩
  unfold accept_request Attempt.envelope
  dsimp only
  rw [hread]
  dsimp only
  rw [if_neg (not_not_intro rfl), hencode]
  rfl

theorem wanted_envelope_some {transport : TransportKind} {a : Arrival α} {envelope : PairEnvelope}
    (h : wanted_envelope transport a = some envelope) : decode_pair_envelope a.bytes = .ok envelope ∧
      envelope.transport = transport := by
  unfold wanted_envelope at h
  split at h
  · cases h
  split at h
  · cases h
  · next envelope' hdecode =>
    split at h
    · cases h
    · next htransport =>
      split at h
      · cases h
      split at h
      · cases h
      · cases h
        exact ⟨hdecode, Decidable.not_not.1 htransport⟩

/-- A request that the host takes is one of the phone's. -/
theorem Known.request {transport : TransportKind} {arrival : Arrival α} {envelope : PairEnvelope}
    (h : Known y s (.Phone, arrival.source, arrival.bytes)) (hwanted : wanted_envelope transport arrival = some envelope) :
    ∃ a ∈ s.attempts, a.request y.noise y.phone_private y.host_public = .ok arrival.bytes ∧ envelope = a.envelope y ∧
      a.transport = transport := by
  obtain ⟨hdecode, htransport⟩ := wanted_envelope_some hwanted
  rcases h with h | ⟨-, a, ha, hrequest⟩ | ⟨hsender, -⟩
  · exact absurd hdecode (record_no_envelope h envelope)
  · have henvelope := (request_decodes hrequest).symm.trans hdecode
    cases henvelope
    exact ⟨a, ha, hrequest, rfl, htransport⟩
  · cases hsender

/-- The host accepts the phone's request. -/
theorem accept_orderly (lawful : y.noise.Lawful) (h : Orderly y s) {transport : TransportKind} {arrival : Arrival α}
    {ephemeral : Key}
    {envelope : PairEnvelope} (hdelivered : (.Phone, arrival.source, arrival.bytes) ∈ s.sent)
    (hwanted : wanted_envelope transport arrival = some envelope) :
    Orderly y (s.accept y transport arrival ephemeral envelope) := by
  obtain ⟨a, ha, hrequest, rfl, rfl⟩ := (h.known _ hdelivered).request hwanted
  obtain ⟨response, hresponse, haccept⟩ := accept_attempt lawful a ephemeral arrival.bytes
  unfold State.accept
  rw [haccept]
  constructor
  · intro sent hsent
    rcases List.mem_cons.1 hsent with rfl | hsent
    · exact .inr (.inr ⟨rfl, a.accepted y ephemeral, List.mem_cons_self, hresponse⟩)
    · exact (h.known sent hsent).mono (List.subset_cons_self _ _) (List.Subset.refl _)
  · exact h.exchanges
  · exact h.establishing
  · intro peer c heq
    cases heq
    exact .inl ⟨a.accepted y ephemeral, List.mem_cons_self, a, ha, arrival.bytes, response, ⟨rfl, rfl, rfl⟩,
      ⟨rfl, rfl, rfl⟩, hrequest,
      hresponse, rfl⟩
  · exact h.calm

/-- The response to an attempt, read by the phone. -/
theorem finish_attempt (lawful : y.noise.Lawful) {attempt : Attempt α} {a : Accept} (hanswers : Answers y a attempt)
    {bytes : Bytes}
    (hresponse : a.response y = .ok bytes) :
    ∃ envelope, awaitedEnvelope attempt bytes = some envelope ∧
      finishHandshake y.noise y.blake2s y.phone_private y.host_public attempt envelope = .ok
        ((a.start y).cipher .Phone) := by
  refine ⟨.ofHost (a.envelope y), ?_, ?_⟩
  · unfold awaitedEnvelope
    rw [phone_decodes (response_decodes hresponse)]
    dsimp only [V5Protocol.PairEnvelope.ofHost, Accept.envelope]
    rw [hanswers.transport, hanswers.exchange_id, if_neg (by simp)]
  · have hread : y.noise.read_response y.phone_private y.host_public attempt.prologue attempt.ephemeral
        (V5Protocol.PairEnvelope.ofHost (a.envelope y)).payload = some (0, a.split y) := by
      rw [Attempt.prologue, ← hanswers.transport, ← hanswers.exchange_id]
      refine lawful.reads_response ?_
      rw [hanswers.request, hanswers.transport, hanswers.exchange_id]
      rfl
    unfold finishHandshake
    rw [hread]
    rfl

theorem keep_known {p : Party} {direction : Direction} {m : Message} {cipher : RecordCipher} (address : α)
    (sent : Party × α × Bytes) (hsent : sent ∈ (s.keep address (State.sealed_by y p direction m cipher).1).sent) :
    sent ∈ s.sent ∨ Known y s sent := by
  rcases List.mem_append.1 hsent with hnew | hold
  · obtain ⟨x, hx, rfl⟩ := Option.map_eq_some_iff.1 (Option.mem_toList.1 hnew)
    exact .inr (.inl (sealed_record hx))
  · exact .inl hold

theorem phone_opens_orderly (lawful : y.noise.Lawful) (h : Orderly y s) {attempt : Attempt α}
    (hfresh : attempt.exchange_id ∉ s.attempts.map Attempt.exchange_id) : Orderly y (s.phone_opens y attempt) := by
  obtain ⟨request, hrequest⟩ := request_encodes lawful attempt
  unfold State.phone_opens
  rw [hrequest]
  dsimp only
  have hattempts : s.attempts ⊆ attempt :: s.attempts := List.subset_cons_self _ _
  constructor
  · exact fun sent hsent => (h.known sent hsent).mono (List.Subset.refl s.accepts) hattempts
  · exact List.nodup_cons.2 ⟨hfresh, h.exchanges⟩
  · intro attempt' request' heq
    cases heq
    exact hrequest
  · exact fun peer c hhost => (h.caches peer c hhost).mono (List.Subset.refl s.accepts) hattempts
      (List.Subset.refl (s.opened .Host))
  · exact h.calm

/-- The only response an attempt gets is one to itself. -/
theorem Known.response (hinv : Inv y s) (h : Orderly y s) {attempt : Attempt α} (hattempt : attempt ∈ s.attempts)
    {source : α}
    {bytes : Bytes} (hknown : Known y s (.Host, source, bytes)) {envelope : V5Protocol.PairEnvelope}
    (hawaited : awaitedEnvelope attempt bytes = some envelope) :
    ∃ a ∈ s.accepts, Answers y a attempt ∧ a.response y = .ok bytes := by
  unfold awaitedEnvelope at hawaited
  split at hawaited
  · cases hawaited
  · next envelope' hdecode =>
    split at hawaited
    · cases hawaited
    · next hmine =>
      rcases hknown with hrecord | ⟨hsender, -⟩ | ⟨-, a, ha, hresponse⟩
      · exact absurd hdecode (phone_rejects hrecord envelope')
      · cases hsender
      · have henvelope := (phone_decodes (response_decodes hresponse)).symm.trans hdecode
        cases henvelope
        simp only [V5Protocol.PairEnvelope.ofHost, Accept.envelope, ne_eq, not_or, Decidable.not_not] at hmine
        obtain ⟨attempt', hattempt', hanswers⟩ := hinv.requested a ha
        have hexchange : a.exchange_id = attempt.exchange_id := by
          cases hid : a.exchange_id
          cases hid' : attempt.exchange_id
          rw [hid, hid'] at hmine
          obtain rfl := hmine.2.1
          rfl
        obtain rfl := List.inj_on_of_nodup_map h.exchanges hattempt' hattempt (hanswers.exchange_id.symm.trans hexchange)
        exact ⟨a, ha, hanswers, hresponse⟩

section

variable [DecidableEq α]

/-- What the network may deliver: what the other one sent, from where it did. -/
def Delivered (s : State α) : Action α → Prop
  | .HostReceives arrival _ => (.Phone, arrival.source, arrival.bytes) ∈ s.sent
  | .PhoneReceives source _ bytes => (.Host, source, bytes) ∈ s.sent
  | _ => True

theorem host_receives_orderly (h : Orderly y s) {peer : α} {c : V5Connection} (hhost : s.host = .Connected peer c)
    (arrival : Arrival α) :
    Orderly y (s.host_receives y peer arrival c) := by
  have hcaches := h.caches peer c hhost
  unfold State.host_receives
  rcases receive_cases y.aead peer arrival c with heq | ⟨response, hcached, heq⟩ | ⟨result, next, hopen, heq⟩
  · rw [heq]
    refine h.rests rfl rfl (fun sent hsent => .inl hsent) (fun _ _ hphone => hphone) (fun peer' c' heq' => ?_) rfl
    cases heq'
    exact hcaches
  · rw [heq]
    refine h.rests rfl rfl (fun sent hsent => ?_) (fun _ _ hphone => hphone) (fun peer' c' heq' => ?_) rfl
    · rcases List.mem_cons.1 hsent with rfl | hold
      · rcases hcaches with ⟨a, ha, attempt, -, request, response', -, -, -, hresponse, hcached'⟩ | hopened
        · rw [hcached] at hcached'
          cases hcached'
          exact .inr (.inr (.inr ⟨rfl, a, ha, hresponse⟩))
        · rw [hcached] at hopened
          cases hopened.1
      · exact .inl hold
    · cases heq'
      exact hcaches
  · rw [heq]
    refine h.rests rfl rfl (fun sent hsent => .inl hsent) (fun _ _ hphone => hphone) (fun peer' c' heq' => ?_) rfl
    cases heq'
    cases result with
    | error e =>
      obtain rfl : next = c.cipher := by
        have hsame := @Channel.open_error y.aead _ _ _ _ (by rw [hopen])
        rw [hopen] at hsame
        exact hsame
      exact hcaches
    | ok record => exact .inr ⟨rfl, (c.cipher.receive_key, record), List.mem_cons_self,
        (opened_keys hopen).receive_key.symm⟩

/-- The phone reads a response. -/
theorem phone_establishes_orderly (lawful : y.noise.Lawful) (hinv : Inv y s) (h : Orderly y s) {attempt : Attempt α}
    {request : Bytes}
    (hphone : s.phone = .Establishing attempt request) {source : α} {onSelectedSubnet : Bool} {bytes : Bytes}
    (hdelivered : (.Host, source, bytes) ∈ s.sent) : Orderly y
    (s.phone_establishes y attempt source onSelectedSubnet bytes) := by
  unfold State.phone_establishes
  split
  · exact h
  · next envelope hawaited =>
    split
    · exact h
    · obtain ⟨a, ha, hanswers, hresponse⟩ :=
        (h.known _ hdelivered).response hinv h (hinv.establishing attempt request hphone).1 hawaited
      obtain ⟨envelope', hawaited', hfinish⟩ := finish_attempt lawful hanswers hresponse
      rw [hawaited] at hawaited'
      cases hawaited'
      unfold State.phone_finishes
      rw [hfinish]
      exact h.rests rfl rfl (fun sent hsent => .inl hsent) (fun _ _ heq => (by cases heq)) h.caches rfl

theorem step_orderly (lawful : y.noise.Lawful) (hinv : Inv y s) (h : Orderly y s) {a : Action α} (hfresh : Fresh s a)
    (hdelivered : Delivered s a) (hstep : step y a s = some s') : Orderly y s' := by
  cases a with
  | HostListens transport =>
    simp only [step] at hstep
    split at hstep
    · cases hstep
      exact h.rests rfl rfl (fun sent hsent => .inl hsent) (fun _ _ heq => heq) (fun _ _ heq => (by cases heq)) rfl
    · cases hstep
  | HostEnds =>
    cases hstep
    exact h.rests rfl rfl (fun sent hsent => .inl hsent) (fun _ _ heq => heq) (fun _ _ heq => (by cases heq)) rfl
  | HostReceives arrival ephemeral =>
    simp only [step] at hstep
    split at hstep
    · cases hstep
    · split at hstep
      · cases hstep
        exact h
      · next hwanted =>
        cases hstep
        exact accept_orderly lawful h hdelivered hwanted
    · next peer c hhost =>
      cases hstep
      exact host_receives_orderly h hhost arrival
  | HostSeals message =>
    simp only [step] at hstep
    split at hstep
    · next peer c hhost =>
      cases hstep
      refine h.rests rfl rfl (keep_known y.host_address) (fun _ _ heq => heq) (fun peer' c' heq => ?_) rfl
      cases heq
      obtain ⟨hkeys, -, -⟩ := sealed_by_step y .Host .HostToPhone message c.cipher
      rcases h.caches peer c hhost with ⟨a, ha, attempt, hattempt, request, response, hsame, hrest⟩ | ⟨hnone, r, hr, hkey⟩
      · exact .inl ⟨a, ha, attempt, hattempt, request, response, hkeys.trans hsame, hrest⟩
      · exact .inr ⟨hnone, r, hr, hkey.trans hkeys.receive_key.symm⟩
    · cases hstep
  | PhoneOpens attempt =>
    simp only [step] at hstep
    split at hstep
    · cases hstep
      exact phone_opens_orderly lawful h hfresh
    · cases hstep
  | PhoneRequests =>
    simp only [step] at hstep
    split at hstep
    · next attempt request hphone =>
      cases hstep
      refine h.rests rfl rfl (fun sent hsent => ?_) (fun _ _ heq => heq) h.caches rfl
      rcases List.mem_cons.1 hsent with rfl | hold
      · exact .inr (.inr (.inl ⟨rfl, attempt, (hinv.establishing attempt request hphone).1,
          h.establishing attempt request hphone⟩))
      · exact .inl hold
    · cases hstep
  | PhoneReceives source onSelectedSubnet bytes =>
    simp only [step] at hstep
    split at hstep
    · cases hstep
    · next attempt request hphone =>
      cases hstep
      exact phone_establishes_orderly lawful hinv h hphone hdelivered
    · next attempt peer channel hphone =>
      cases hstep
      unfold State.phone_receives
      refine h.rests rfl rfl (fun sent hsent => .inl hsent) (fun _ _ heq => (by cases heq)) (fun peer' c heq => ?_) rfl
      exact (h.caches peer' c heq).mono (List.Subset.refl _) (List.Subset.refl _) (List.Subset.refl _)
  | PhoneSeals message =>
    simp only [step] at hstep
    split at hstep
    · next attempt peer channel hphone =>
      cases hstep
      exact h.rests rfl rfl (keep_known attempt.address) (fun _ _ heq => (by cases heq)) h.caches rfl
    · cases hstep
  | PhoneCloses =>
    cases hstep
    exact h.rests rfl rfl (fun sent hsent => .inl hsent) (fun _ _ heq => (by cases heq)) h.caches rfl

def OrderlySteps (y : Pair α) (s s' : State α) : Prop :=
  ∃ a, Fresh s a ∧ Ideal y s a ∧ Delivered s a ∧ step y a s = some s'

def OrderlyReaches (y : Pair α) (s : State α) : Prop := ReflTransGen (OrderlySteps y) setup s

theorem OrderlyReaches.reaches (h : OrderlyReaches y s) : Reaches y s := by
  refine ReflTransGen.mono (fun s s' hstep => ?_) _ _ h
  obtain ⟨a, hfresh, hideal, -, hstep⟩ := hstep
  exact ⟨a, hfresh, hideal, hstep⟩

theorem OrderlyReaches.orderly (lawful : y.noise.Lawful) (h : OrderlyReaches y s) : Orderly y s := by
  induction h with
  | refl => exact setup_orderly y
  | tail hbefore hstep ih =>
    obtain ⟨a, hfresh, -, hdelivered, hstep⟩ := hstep
    exact step_orderly lawful ((OrderlyReaches.reaches hbefore).inv lawful) ih hfresh hdelivered hstep

end

/-! ## The repair -/

/-- An envelope is not a record. -/
theorem envelope_authentic {bytes : Bytes} {envelope : PairEnvelope} (h : decode_pair_envelope bytes = .ok envelope)
    (c : RecordCipher)
    (direction : Direction) : Authentic y s c direction bytes := by
  intro header hheader
  obtain ⟨-, -, body, -, hbytes⟩ := decode_record_header_iff.1 hheader
  exact absurd h (record_no_envelope ⟨header, body, hbytes⟩ envelope)

/-- Nothing was sealed for a handshake that the phone has not finished. -/
theorem unfinished_unopened (lawful : y.noise.Lawful) (aead_lawful : y.aead.Lawful) (hinv : Inv y s) {a : Accept}
    (ha : a ∈ s.accepts)
    (hunused : a.exchange_id ∉ s.established) {r : Bytes × RecordHeader × Bytes} (hr : r ∈ s.opened .Host) :
    r.1 ≠ ((a.start y).cipher .Host).receive_key := by
  intro hkey
  obtain ⟨x, hx, hsender, hxkey, -⟩ := opened_sealed lawful aead_lawful hinv hr
  obtain ⟨c, hc⟩ := hinv.follows a ha
  have hmem : x ∈ c.sealed := by
    rw [hc.sealed]
    refine List.mem_filter.2 ⟨hx, ?_⟩
    rw [hxkey, hkey]
    exact has_receive_key y a .Host
  have hnumber := (channel_inv lawful aead_lawful hc).numbered x hmem
  rw [hsender, show Party.peer .Host = .Phone from rfl, hc.unused hunused] at hnumber
  exact absurd (UInt64.lt_iff_toNat_lt.1 hnumber) (Nat.not_lt_zero _)

/-- Both ends of one session. -/
structure Joined (host phone : RecordCipher) : Prop where
  to_host : phone.send_key = host.receive_key
  to_phone : host.send_key = phone.receive_key
  connection_id : host.connection_id = phone.connection_id

theorem SameKeys.joined {host phone : RecordCipher} {a : Accept} (hhost : SameKeys host ((a.start y).cipher .Host))
    (hphone : SameKeys phone ((a.start y).cipher .Phone)) : Joined host phone where
  to_host := hphone.send_key.trans hhost.receive_key.symm
  to_phone := hhost.send_key.trans hphone.receive_key.symm
  connection_id := hhost.connection_id.trans hphone.connection_id.symm

variable [DecidableEq α]

/-- The host waits for the phone, or is connected on this attempt. -/
def Reachable (y : Pair α) (s : State α) (attempt : Attempt α) : Prop :=
  s.host = .Waiting attempt.transport ∨
  ∃ c, s.host = .Connected attempt.address c ∧ ∃ a ∈ s.accepts, Answers y a attempt ∧
    SameKeys c.cipher ((a.start y).cipher .Host)

def run (y : Pair α) (actions : List (Action α)) (s : State α) : Option (State α) :=
  actions.foldlM (fun s a => step y a s) s

/-- The request of an attempt, from the phone's socket. -/
def Attempt.arrival (a : Attempt α) (request : Bytes) : Arrival α := ⟨a.address, true, true, request⟩

/-- The host is connected on the attempt, keeps request and response, and has just sent the response. -/
structure Answered (y : Pair α) (attempt : Attempt α) (request : Bytes) (s s' : State α) (c : V5Connection)
    (response : Bytes) : Prop where
  host : s'.host = .Connected attempt.address c
  accepted : ∃ a ∈ s'.accepts, Answers y a attempt ∧ SameKeys c.cipher ((a.start y).cipher .Host) ∧
    a.response y = .ok response
  cached : c.cached_handshake = some (request, response)
  sent : s'.sent = (.Host, y.host_address, response) :: s.sent

/-- The host takes the request. -/
theorem host_accepts (lawful : y.noise.Lawful) {attempt : Attempt α} {request : Bytes} (hattempt : attempt ∈ s.attempts)
    (hrequest : attempt.request y.noise y.phone_private y.host_public = .ok request)
    (hhost : s.host = .Waiting attempt.transport)
    (ephemeral : Key) :
    Ideal y s (.HostReceives (attempt.arrival request) ephemeral) ∧
    ∃ s' c response, step y (.HostReceives (attempt.arrival request) ephemeral) s = some s' ∧ s'.phone = s.phone ∧
      Answered y attempt request s s' c response := by
  have hwanted : wanted_envelope attempt.transport (attempt.arrival request) = some (attempt.envelope y) := by
    unfold wanted_envelope Attempt.arrival
    rw [request_decodes hrequest]
    simp [Attempt.envelope]
  constructor
  · simp only [Ideal, hhost]
    intro envelope henvelope _
    rw [hwanted] at henvelope
    cases henvelope
    exact ⟨attempt, hattempt, rfl, rfl⟩
  · obtain ⟨response, hresponse, haccept⟩ := accept_attempt lawful attempt ephemeral request
    have hstep : step y (.HostReceives (attempt.arrival request) ephemeral) s =
        some (s.accept y attempt.transport (attempt.arrival request) ephemeral (attempt.envelope y)) := by
      simp only [step, hhost, hwanted]
    have hstate : s.accept y attempt.transport (attempt.arrival request) ephemeral (attempt.envelope y) =
        { s with
          host := .Connected attempt.address (.new (((attempt.accepted y ephemeral).start y).cipher .Host)
            (some (request, response)))
          accepts := attempt.accepted y ephemeral :: s.accepts
          sent := (.Host, y.host_address, response) :: s.sent } := by
      unfold State.accept
      rw [show (attempt.arrival request).bytes = request from rfl, haccept]
      rfl
    rw [hstate] at hstep
    exact ⟨_, _, response, hstep, rfl, rfl,
      ⟨attempt.accepted y ephemeral, List.mem_cons_self, ⟨rfl, rfl, rfl⟩, ⟨rfl, rfl, rfl⟩, hresponse⟩, rfl, rfl⟩

/-- The host is connected on that request and the phone does not know: it still has the response. -/
theorem host_repeats (lawful : y.noise.Lawful) (aead_lawful : y.aead.Lawful) (hinv : Inv y s) (h : Orderly y s)
    {attempt : Attempt α}
    {request : Bytes} (hphone : s.phone = .Establishing attempt request) {c : V5Connection}
    (hhost : s.host = .Connected attempt.address c) {a : Accept} (ha : a ∈ s.accepts) (hanswers : Answers y a attempt)
    (hkeys : SameKeys c.cipher ((a.start y).cipher .Host)) (ephemeral : Key) :
    Ideal y s (.HostReceives (attempt.arrival request) ephemeral) ∧
    ∃ s' response, step y (.HostReceives (attempt.arrival request) ephemeral) s = some s' ∧ s'.phone = s.phone ∧
      Answered y attempt request s s' c response := by
  have hrequest := h.establishing attempt request hphone
  obtain ⟨hattempt, hunused⟩ := hinv.establishing attempt request hphone
  constructor
  · simp only [Ideal, hhost]
    exact envelope_authentic (request_decodes hrequest) c.cipher .PhoneToHost
  · have hcached : ∃ response, a.response y = .ok response ∧ c.cached_handshake = some (request, response) := by
      rcases h.caches attempt.address c hhost with
        ⟨a', ha', attempt', hattempt', request', response, hkeys', hanswers', hrequest', hresponse, hcached⟩ |
          ⟨-, r, hr, hkey⟩
      · -- One accept has this key, and one attempt its exchange id.
        have hsame : a' = a := by
          refine hinv.accept_unique lawful ha' ha (has_receive_key y a' .Host) ?_
          rw [← hkeys'.receive_key, hkeys.receive_key]
          exact has_receive_key y a .Host
        subst hsame
        obtain rfl := List.inj_on_of_nodup_map h.exchanges hattempt' hattempt
          (hanswers'.exchange_id.symm.trans hanswers.exchange_id)
        rw [hrequest] at hrequest'
        cases hrequest'
        exact ⟨response, hresponse, hcached⟩
      · -- The cache is dropped once a record opens, and this phone has sealed none.
        rw [← hanswers.exchange_id] at hunused
        exact absurd (hkey.trans hkeys.receive_key) (unfinished_unopened lawful aead_lawful hinv ha hunused hr)
    obtain ⟨response, hresponse, hcached⟩ := hcached
    have hreceive : receive_datagram y.aead attempt.address (attempt.arrival request) c = (some response, none, c) := by
      unfold receive_datagram Attempt.arrival
      rw [if_neg (by simp), hcached]
      exact if_pos rfl
    have hstep : step y (.HostReceives (attempt.arrival request) ephemeral) s =
        some { s.note .Host c.cipher.receive_key none with
          host := .Connected attempt.address c
          sent := (.Host, y.host_address, response) :: s.sent } := by
      simp only [step, hhost, State.host_receives, hreceive]
      rfl
    exact ⟨_, response, hstep, rfl, rfl, ⟨a, ha, hanswers, hkeys, hresponse⟩, hcached, rfl⟩

/-- The phone takes the response. -/
theorem phone_joins (lawful : y.noise.Lawful) {attempt : Attempt α} {request : Bytes}
    (hphone : s'.phone = .Establishing attempt request)
    {c : V5Connection} {response : Bytes} (hanswered : Answered y attempt request s s' c response) :
    Ideal y s' (.PhoneReceives y.host_address true response) ∧
    ∃ next channel, step y (.PhoneReceives y.host_address true response) s' = some next ∧
      next.host = .Connected attempt.address c ∧
      next.phone = .Established attempt y.host_address channel ∧ Joined c.cipher channel := by
  obtain ⟨a, ha, hanswers, hkeys, hresponse⟩ := hanswered.accepted
  obtain ⟨envelope, hawaited, hfinish⟩ := finish_attempt lawful hanswers hresponse
  constructor
  · simp only [Ideal, hphone]
    intro envelope' henvelope result _
    unfold awaitedEnvelope at henvelope
    rw [phone_decodes (response_decodes hresponse)] at henvelope
    dsimp only at henvelope
    split at henvelope
    · cases henvelope
    · cases henvelope
      refine ⟨a, ha, ?_, hanswers.request, ?_⟩
      · rw [hanswers.transport, hanswers.exchange_id]
        rfl
      · rw [Attempt.prologue, ← hanswers.transport, ← hanswers.exchange_id]
        rfl
  · have hstep : step y (.PhoneReceives y.host_address true response) s' =
        some { s' with
          phone := .Established attempt y.host_address ((a.start y).cipher .Phone)
          established := attempt.exchange_id :: s'.established } := by
      simp only [step, hphone, State.phone_establishes, hawaited, acceptAndPin, Bool.not_true, Bool.false_eq_true, if_false,
        State.phone_finishes, hfinish]
    exact ⟨_, _, hstep, hanswered.host, rfl, hkeys.joined ⟨rfl, rfl, rfl⟩⟩

/-- A host and the phone it is paired with, where the network loses, repeats, delays and reorders but adds nothing: no
handshake ever fails, and while the phone asks a host that waits, or that accepted the request before, one more
request and its response join both in one session. A host that accepted it before sends the response it still has. -/
theorem handshake_repaired (lawful : y.noise.Lawful) (aead_lawful : y.aead.Lawful) (h : OrderlyReaches y s) :
    s.failures = [] ∧
    ∀ attempt request, s.phone = .Establishing attempt request → Reachable y s attempt →
      ∀ ephemeral, ephemeral ∉ s.accepts.map Accept.ephemeral →
      ∃ answered s' response c channel,
        run y [.PhoneRequests, .HostReceives (attempt.arrival request) ephemeral] s = some answered ∧
        answered.sent = (.Host, y.host_address, response) :: (.Phone, attempt.address, request) :: s.sent ∧
        (∀ peer before, s.host = .Connected peer before → before.cached_handshake = some (request, response)) ∧
        run y [.PhoneRequests, .HostReceives (attempt.arrival request) ephemeral,
          .PhoneReceives y.host_address true response] s = some s' ∧
        OrderlyReaches y s' ∧ s'.host = .Connected attempt.address c ∧
          s'.phone = .Established attempt y.host_address channel ∧
        Joined c.cipher channel := by
  refine ⟨(h.orderly lawful).calm, fun attempt request hphone hreachable ephemeral hfresh => ?_⟩
  obtain ⟨s₁, hs₁⟩ : ∃ s₁ : State α, s₁ = { s with sent := (.Phone, attempt.address, request) :: s.sent } := ⟨_, rfl⟩
  have hask : step y .PhoneRequests s = some s₁ := by
    rw [hs₁]
    simp only [step, hphone]
  have h₁ : OrderlyReaches y s₁ := h.tail ⟨.PhoneRequests, trivial, trivial, trivial, hask⟩
  have hphone₁ : s₁.phone = .Establishing attempt request := by rw [hs₁]; exact hphone
  have hinv₁ := h₁.reaches.inv lawful
  have horderly₁ := h₁.orderly lawful
  have hanswers : Ideal y s₁ (.HostReceives (attempt.arrival request) ephemeral) ∧
      ∃ s' c response, step y (.HostReceives (attempt.arrival request) ephemeral) s₁ = some s' ∧ s'.phone = s₁.phone ∧
        Answered y attempt request s₁ s' c response ∧ ∀ peer before, s.host = .Connected peer before → before = c := by
    rcases hreachable with hhost | ⟨c, hhost, a, ha, hmine, hkeys⟩
    · obtain ⟨hideal, s', c, response, hstep, hphone', hanswered⟩ := host_accepts lawful
        (hinv₁.establishing attempt request hphone₁).1 (horderly₁.establishing attempt request hphone₁)
        (by rw [hs₁]; exact hhost) ephemeral
      refine ⟨hideal, s', c, response, hstep, hphone', hanswered, fun peer before hbefore => ?_⟩
      cases hhost.symm.trans hbefore
    · obtain ⟨hideal, s', response, hstep, hphone', hanswered⟩ := host_repeats lawful aead_lawful hinv₁ horderly₁ hphone₁
        (c := c) (by rw [hs₁]; exact hhost) (a := a) (by rw [hs₁]; exact ha) hmine hkeys ephemeral
      refine ⟨hideal, s', c, response, hstep, hphone', hanswered, fun peer before hbefore => ?_⟩
      cases hhost.symm.trans hbefore
      rfl
  obtain ⟨hideal₁, s₂, c, response, hanswer, hphone₂, hanswered, hsame⟩ := hanswers
  have h₂ : OrderlyReaches y s₂ :=
    h₁.tail ⟨.HostReceives (attempt.arrival request) ephemeral, by rw [hs₁]; exact hfresh, hideal₁,
      by rw [hs₁]; exact List.mem_cons_self, hanswer⟩
  obtain ⟨hideal₂, s₃, channel, hjoin, hhost₃, hphone₃, hjoined⟩ := phone_joins lawful (hphone₂.trans hphone₁) hanswered
  have hsent : (.Host, y.host_address, response) ∈ s₂.sent := by
    rw [hanswered.sent]
    exact List.mem_cons_self
  have h₃ : OrderlyReaches y s₃ :=
    h₂.tail ⟨.PhoneReceives y.host_address true response, trivial, hideal₂, hsent, hjoin⟩
  refine ⟨s₂, s₃, response, c, channel, ?_, by rw [hanswered.sent, hs₁], fun peer before hbefore => ?_, ?_, h₃, hhost₃,
    hphone₃, hjoined⟩
  · simp only [run, List.foldlM_cons, List.foldlM_nil, hask, hanswer, Option.bind_eq_bind, Option.bind_some, pure]
  · rw [hsame peer before hbefore]
    exact hanswered.cached
  · simp only [run, List.foldlM_cons, List.foldlM_nil, hask, hanswer, hjoin, Option.bind_eq_bind, Option.bind_some, pure]

/-! ## A lost response -/

def delivered (s : State α) (a : Action α) : Bool :=
  match a with
  | .HostReceives arrival _ => s.sent.contains (.Phone, arrival.source, arrival.bytes)
  | .PhoneReceives source _ bytes => s.sent.contains (.Host, source, bytes)
  | _ => true

theorem delivered_true {a : Action α} (h : delivered s a = true) : Delivered s a := by
  cases a with
  | HostReceives arrival ephemeral => exact List.contains_iff_mem.1 h
  | PhoneReceives source onSelectedSubnet bytes => exact List.contains_iff_mem.1 h
  | _ => trivial

def orderly_run (y : Pair α) (script : List (State α → Action α)) (s : State α) : Option (State α) :=
  script.foldlM (fun s f => if permitted y s (f s) && delivered s (f s) then step y (f s) s else none) s

theorem orderly_run_reaches {script : List (State α → Action α)} (h : OrderlyReaches y s)
    (hrun : orderly_run y script s = some s') :
    OrderlyReaches y s' := by
  induction script generalizing s with
  | nil =>
    cases hrun
    exact h
  | cons f script ih =>
    obtain ⟨next, hstep, hrest⟩ := Option.bind_eq_some_iff.1 hrun
    obtain ⟨hallowed, hstep⟩ := Option.ite_none_right_eq_some.1 hstep
    obtain ⟨hpermitted, hdelivered⟩ := Bool.and_eq_true_iff.1 hallowed
    obtain ⟨hfresh, hideal⟩ := permitted_true hpermitted
    exact ih (h.tail ⟨f s, hfresh, hideal, delivered_true hdelivered, hstep⟩) hrest

/-- Whether the phone still asks a host that is connected on its only attempt. -/
def unanswered (s : State Nat) : Bool :=
  match s.phone, s.host with
  | .Establishing attempt _, .Connected peer _ => peer = attempt.address &&
      s.attempts.all fun b => b.exchange_id = attempt.exchange_id
  | _, _ => false

theorem unanswered_reachable {y : Pair Nat} {s : State Nat} (hinv : Inv y s) (h : Orderly y s)
    (hunanswered : unanswered s = true) :
    ∃ attempt request c, s.phone = .Establishing attempt request ∧ s.host = .Connected attempt.address c ∧
      Reachable y s attempt := by
  unfold unanswered at hunanswered
  split at hunanswered
  · next attempt request peer c hphone hhost =>
    simp only [Bool.and_eq_true, decide_eq_true_eq, List.all_eq_true] at hunanswered
    obtain ⟨rfl, hall⟩ := hunanswered
    obtain ⟨a, ha, hkeys⟩ := hinv.host attempt.address c hhost
    obtain ⟨attempt', hattempt', hanswers⟩ := hinv.requested a ha
    obtain rfl := List.inj_on_of_nodup_map h.exchanges hattempt' (hinv.establishing attempt request hphone).1
      (hall attempt' hattempt')
    exact ⟨attempt', request, c, hphone, hhost, .inr ⟨c, hhost, a, ha, hanswers, hkeys⟩⟩
  · cases hunanswered

/-- The host accepted the request and the phone did not get the response: asking again has the host repeat the response
that it kept, and joins them. -/
theorem handshake_repaired_lost :
    ∃ s s' attempt request response before c channel, orderly_run sampled ((one_session 9).take 4) setup = some s ∧
      unanswered s = true ∧ s.host = .Connected attempt.address before ∧
      before.cached_handshake = some (request, response) ∧
      (run sampled [.PhoneRequests, .HostReceives (attempt.arrival request) (.replicate 32 0)] s).map State.sent =
        some ((.Host, sampled.host_address, response) :: (.Phone, attempt.address, request) :: s.sent) ∧
      OrderlyReaches sampled s' ∧ s'.host = .Connected attempt.address c ∧
      s'.phone = .Established attempt sampled.host_address channel ∧ Joined c.cipher channel := by
  have hruns : ((orderly_run sampled ((one_session 9).take 4) setup).any fun s =>
      unanswered s && !(s.accepts.any fun a => a.ephemeral = .replicate 32 0)) = true := by decide +kernel
  obtain ⟨s, hrun, hstate⟩ := (Option.any_eq_true _ _).1 hruns
  simp only [Bool.and_eq_true, Bool.not_eq_true', List.any_eq_false, decide_eq_true_eq] at hstate
  obtain ⟨hunanswered, hunused⟩ := hstate
  have hreaches : OrderlyReaches sampled s := orderly_run_reaches .refl hrun
  obtain ⟨attempt, request, before, hphone, hhost, hreachable⟩ :=
    unanswered_reachable (hreaches.reaches.inv plainNoise_lawful) (hreaches.orderly plainNoise_lawful) hunanswered
  have hfresh : Vector.replicate 32 0 ∉ s.accepts.map Accept.ephemeral := by
    intro hmem
    obtain ⟨a, ha, heq⟩ := List.mem_map.1 hmem
    exact hunused a ha heq
  obtain ⟨answered, s', response, c, channel, hanswered, hsent, hcached, -, hreaches', hhost', hphone', hjoined⟩ :=
    (handshake_repaired plainNoise_lawful Channel.keyTag_lawful hreaches).2 attempt request hphone hreachable
    (.replicate 32 0) hfresh
  refine ⟨s, s', attempt, request, response, before, c, channel, hrun, hunanswered, hhost, hcached _ _ hhost, ?_,
    hreaches', hhost', hphone', hjoined⟩
  rw [hanswered, Option.map_some, hsent]

end Trackpad.Reconnect
