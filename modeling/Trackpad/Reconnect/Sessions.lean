import Trackpad.Reconnect.System
/-!
# The channel of each handshake

To each request the host accepted there belongs one channel of two ciphers, and what both parties do with keys of that
handshake is a run of that channel, whatever they did before or do later.
-/

namespace Trackpad.Reconnect

open V5Host (HostV5Error V5Connection)
open Channel (Party Sealed Unforged)
open Relation

variable {α : Type} {y : Pair α} {s s' : State α}

/-! ## The channel of a handshake -/

def Accept.split (y : Pair α) (a : Accept) : Split :=
  y.noise.responder_split y.host_private (prologue a.transport a.exchange_id) a.request a.ephemeral

/-- Both ciphers as the handshake leaves them. -/
def Accept.start (y : Pair α) (a : Accept) : Channel.State :=
  Channel.start (a.split y).initiator_key (a.split y).responder_key (connection_id y.blake2s (a.split y).handshake_hash)

def Accept.has_key (y : Pair α) (a : Accept) (key : Bytes) : Bool :=
  key = (a.split y).initiator_key || key = (a.split y).responder_key

def HostPhase.cipher : HostPhase α → Option RecordCipher
  | .Connected _ c => some c.cipher
  | _ => none

def PhonePhase.cipher : PhonePhase α → Option RecordCipher
  | .Established _ _ channel => some channel
  | _ => none

theorem HostPhase.cipher_some {phase : HostPhase α} {cipher : RecordCipher} (h : phase.cipher = some cipher) :
    ∃ peer c, phase = .Connected peer c ∧ c.cipher = cipher := by
  cases phase with
  | Connected peer c => exact ⟨peer, c, rfl, Option.some.inj h⟩
  | _ => cases h

theorem PhonePhase.cipher_some {phase : PhonePhase α} {cipher : RecordCipher} (h : phase.cipher = some cipher) :
    ∃ attempt peer, phase = .Established attempt peer cipher := by
  cases phase with
  | Established attempt peer channel => exact ⟨attempt, peer, by rw [Option.some.inj h]⟩
  | _ => cases h

/-- The cipher that a party has now. -/
def State.cipher_of (s : State α) : Party → Option RecordCipher
  | .Host => s.host.cipher
  | .Phone => s.phone.cipher

structure SameKeys (c c' : RecordCipher) : Prop where
  send_key : c.send_key = c'.send_key
  receive_key : c.receive_key = c'.receive_key
  connection_id : c.connection_id = c'.connection_id

theorem SameKeys.trans {c₁ c₂ c₃ : RecordCipher} (h : SameKeys c₁ c₂) (h' : SameKeys c₂ c₃) : SameKeys c₁ c₃ :=
  ⟨h.send_key.trans h'.send_key, h.receive_key.trans h'.receive_key, h.connection_id.trans h'.connection_id⟩

theorem has_send_key (y : Pair α) (a : Accept) (p : Party) : a.has_key y ((a.start y).cipher p).send_key = true := by
  cases p <;> simp [Accept.has_key, Accept.start, Channel.start, RecordCipher.from_keys]

theorem has_receive_key (y : Pair α) (a : Accept) (p : Party) : a.has_key y ((a.start y).cipher p).receive_key = true := by
  cases p <;> simp [Accept.has_key, Accept.start, Channel.start, RecordCipher.from_keys]

/-- Two handshakes that have a key in common were answered with one ephemeral key. -/
theorem has_key_ephemeral (lawful : y.noise.Lawful) {a a' : Accept} {key : Bytes} (h : a.has_key y key = true)
    (h' : a'.has_key y key = true) : a.ephemeral = a'.ephemeral := by
  simp only [Accept.has_key, Bool.or_eq_true, decide_eq_true_eq] at h h'
  rcases h with h | h <;> rcases h' with h' | h'
  · exact lawful.initiator_keys (h.symm.trans h')
  · exact absurd (h.symm.trans h') (lawful.directions _ _ _ _ _ _ _)
  · exact absurd (h'.symm.trans h) (lawful.directions _ _ _ _ _ _ _)
  · exact lawful.responder_keys (h.symm.trans h')

/-- `c` is what became of the channel of `a`. -/
structure Follows (y : Pair α) (s : State α) (a : Accept) (c : Channel.State) : Prop where
  run : ReflTransGen (Channel.Step y.aead) (a.start y) c
  sealed : c.sealed = s.sealed.filter fun x => a.has_key y x.key
  opened : ∀ p, c.opened p = ((s.opened p).filter fun r => a.has_key y r.1).map Prod.snd
  current : ∀ p cipher, s.cipher_of p = some cipher → a.has_key y cipher.receive_key = true → c.cipher p = cipher
  unused : a.exchange_id ∉ s.established → c.cipher .Phone = (a.start y).cipher .Phone

/-- The attempt that an accepted request came from. -/
structure Answers (y : Pair α) (a : Accept) (attempt : Attempt α) : Prop where
  transport : a.transport = attempt.transport
  exchange_id : a.exchange_id = attempt.exchange_id
  request : a.request = attempt.message y.noise y.phone_private y.host_public

structure Inv (y : Pair α) (s : State α) : Prop where
  follows : ∀ a ∈ s.accepts, ∃ c, Follows y s a c
  ephemerals : (s.accepts.map Accept.ephemeral).Nodup
  requested : ∀ a ∈ s.accepts, ∃ attempt ∈ s.attempts, Answers y a attempt
  sealed_key : ∀ x ∈ s.sealed, ∃ a ∈ s.accepts, a.has_key y x.key = true
  opened_key : ∀ p, ∀ r ∈ s.opened p, ∃ a ∈ s.accepts, r.1 = ((a.start y).cipher p).receive_key
  host : ∀ peer c, s.host = .Connected peer c → ∃ a ∈ s.accepts, SameKeys c.cipher ((a.start y).cipher .Host)
  phone : ∀ attempt peer channel, s.phone = .Established attempt peer channel →
    ∃ a ∈ s.accepts, SameKeys channel ((a.start y).cipher .Phone) ∧ Answers y a attempt ∧
      attempt.exchange_id ∈ s.established
  establishing : ∀ attempt request, s.phone = .Establishing attempt request →
    attempt ∈ s.attempts ∧ attempt.exchange_id ∉ s.established
  established : ∀ id ∈ s.established, id ∈ s.attempts.map Attempt.exchange_id

theorem Inv.current (h : Inv y s) {p : Party} {cipher : RecordCipher} (hcurrent : s.cipher_of p = some cipher) :
    ∃ a ∈ s.accepts, SameKeys cipher ((a.start y).cipher p) ∧ (p = .Phone → a.exchange_id ∈ s.established) := by
  cases p with
  | Host =>
    obtain ⟨peer, c, hhost, rfl⟩ := HostPhase.cipher_some hcurrent
    obtain ⟨a, hmem, hkeys⟩ := h.host peer c hhost
    exact ⟨a, hmem, hkeys, fun hp => by cases hp⟩
  | Phone =>
    obtain ⟨attempt, peer, hphone⟩ := PhonePhase.cipher_some hcurrent
    obtain ⟨a, hmem, hkeys, hanswers, hestablished⟩ := h.phone attempt peer cipher hphone
    exact ⟨a, hmem, hkeys, fun _ => by rwa [hanswers.exchange_id]⟩

theorem Inv.accept_unique (lawful : y.noise.Lawful) (h : Inv y s) {a a' : Accept} (ha : a ∈ s.accepts)
    (ha' : a' ∈ s.accepts)
    {key : Bytes} (hkey : a.has_key y key = true) (hkey' : a'.has_key y key = true) : a = a' :=
  List.inj_on_of_nodup_map h.ephemerals ha ha' (has_key_ephemeral lawful hkey hkey')

theorem setup_inv (y : Pair α) : Inv y setup := by
  constructor <;> simp [setup]

/-! ## Steps that use no key -/

/-- A step that only ends what was going on, or sends again what was sent. -/
theorem Inv.rests (h : Inv y s) (hhost : s'.host = s.host ∨ ∀ peer c, s'.host ≠ .Connected peer c)
    (hphone : s'.phone = s.phone ∨ s'.phone = .Closed) (haccepts : s'.accepts = s.accepts)
    (hattempts : s'.attempts = s.attempts)
    (hestablished : s'.established = s.established) (hsealed : s'.sealed = s.sealed) (hopened : s'.opened = s.opened) :
    Inv y s' := by
  have hcurrent : ∀ p cipher, s'.cipher_of p = some cipher → s.cipher_of p = some cipher := by
    intro p cipher hcipher
    cases p with
    | Host =>
      rcases hhost with hhost | hhost
      · simpa only [State.cipher_of, hhost] using hcipher
      · obtain ⟨peer, c, hconnected, -⟩ := HostPhase.cipher_some hcipher
        exact absurd hconnected (hhost peer c)
    | Phone =>
      rcases hphone with hphone | hphone
      · simpa only [State.cipher_of, hphone] using hcipher
      · simp only [State.cipher_of, hphone, PhonePhase.cipher, reduceCtorEq] at hcipher
  constructor
  · intro a ha
    rw [haccepts] at ha
    obtain ⟨c, hc⟩ := h.follows a ha
    refine ⟨c, hc.run, ?_, ?_, fun p cipher hcipher => hc.current p cipher (hcurrent p cipher hcipher), ?_⟩
    · rw [hsealed]
      exact hc.sealed
    · rw [hopened]
      exact hc.opened
    · rw [hestablished]
      exact hc.unused
  · rw [haccepts]
    exact h.ephemerals
  · rw [haccepts, hattempts]
    exact h.requested
  · rw [haccepts, hsealed]
    exact h.sealed_key
  · rw [haccepts, hopened]
    exact h.opened_key
  · rcases hhost with hhost | hhost
    · rw [haccepts, hhost]
      exact h.host
    · exact fun peer c hconnected => absurd hconnected (hhost peer c)
  · rcases hphone with hphone | hphone
    · rw [haccepts, hphone, hestablished]
      exact h.phone
    · intro attempt peer channel heq
      rw [hphone] at heq
      cases heq
  · rcases hphone with hphone | hphone
    · rw [hphone, hattempts, hestablished]
      exact h.establishing
    · intro attempt request heq
      rw [hphone] at heq
      cases heq
  · rw [hestablished, hattempts]
    exact h.established

/-! ## Steps that use a key -/

/-- A party used its cipher: it may have sealed a record or opened one. On any channel where it has that cipher and
where what is sealed with the other key is on record, it does the same. -/
structure Moves (y : Pair α) (p : Party) (cipher next : RecordCipher) (x : Option Sealed)
    (record : Option (RecordHeader × Bytes))
    (s s' : State α) : Prop where
  before : s.cipher_of p = some cipher
  after : s'.cipher_of = Function.update s.cipher_of p (some next)
  keys : SameKeys next cipher
  key : ∀ x' ∈ x, x'.key = cipher.send_key
  accepts : s'.accepts = s.accepts
  attempts : s'.attempts = s.attempts
  established : s'.established = s.established
  sealed : s'.sealed = x.toList ++ s.sealed
  opened : s'.opened = Function.update s.opened p ((record.map fun r => (cipher.receive_key, r)).toList ++ s.opened p)
  attempt : ∀ attempt peer channel, s'.phone = .Established attempt peer channel →
    ∃ channel', s.phone = .Established attempt peer channel' ∧ SameKeys channel channel'
  establishing : ∀ attempt request, s'.phone = .Establishing attempt request → s.phone = .Establishing attempt request
  step : ∀ c : Channel.State, c.cipher p = cipher → (∀ x' ∈ s.sealed, x'.key = cipher.receive_key → x' ∈ c.sealed) →
    ∃ c', ReflTransGen (Channel.Step y.aead) c c' ∧ c'.cipher = Function.update c.cipher p next ∧
      c'.sealed = x.toList ++ c.sealed ∧ c'.opened = Function.update c.opened p (record.toList ++ c.opened p)

section

variable {p : Party} {cipher next : RecordCipher} {x : Option Sealed} {record : Option (RecordHeader × Bytes)}

/-- The channel of the key goes on. -/
theorem Moves.follows (hm : Moves y p cipher next x record s s') {a : Accept} {c : Channel.State} (hc : Follows y s a c)
    (hkeys : SameKeys cipher ((a.start y).cipher p)) (hused : p = .Phone → a.exchange_id ∈ s.established) :
    ∃ c', Follows y s' a c' := by
  have hreceive : a.has_key y cipher.receive_key = true := by
    rw [hkeys.receive_key]
    exact has_receive_key y a p
  have hsend : ∀ x' ∈ x.toList, a.has_key y x'.key = true := by
    intro x' hx
    rw [hm.key x' (Option.mem_toList.1 hx), hkeys.send_key]
    exact has_send_key y a p
  obtain ⟨c', hrun, hcipher, hsealed, hopened⟩ := hm.step c (hc.current p cipher hm.before hreceive) (by
    intro x' hx hkey
    rw [hc.sealed]
    exact List.mem_filter.2 ⟨hx, by rwa [hkey]⟩)
  refine ⟨c', hc.run.trans hrun, ?_, fun q => ?_, fun q cipher' hq hkey => ?_, fun hunused => ?_⟩
  · rw [hsealed, hm.sealed, List.filter_append, List.filter_eq_self.2 hsend, hc.sealed]
  · rw [hopened, hm.opened]
    by_cases hq : q = p
    · subst hq
      rw [Function.update_self, Function.update_self, List.filter_append, List.map_append, ← hc.opened]
      cases record with
      | none => rfl
      | some r => simp only [Option.map_some, Option.toList_some, List.filter_cons_of_pos, hreceive, List.filter_nil,
          List.map_cons, List.map_nil]
    · rw [Function.update_of_ne hq, Function.update_of_ne hq]
      exact hc.opened q
  · rw [hm.after] at hq
    rw [hcipher]
    by_cases hqp : q = p
    · subst hqp
      rw [Function.update_self] at hq ⊢
      exact Option.some.inj hq
    · rw [Function.update_of_ne hqp] at hq ⊢
      exact hc.current q cipher' hq hkey
  · rw [hm.established] at hunused
    have hp : Party.Phone ≠ p := fun hp => hunused (hused hp.symm)
    rw [hcipher, Function.update_of_ne hp]
    exact hc.unused hunused

/-- Every other channel stays as it is. -/
theorem Moves.stays (hm : Moves y p cipher next x record s s') {a : Accept} {c : Channel.State} (hc : Follows y s a c)
    (hsend : a.has_key y cipher.send_key = false) (hreceive : a.has_key y cipher.receive_key = false) :
    Follows y s' a c := by
  refine ⟨hc.run, ?_, fun q => ?_, fun q cipher' hq hkey => ?_, ?_⟩
  · rw [hm.sealed, List.filter_append, List.filter_eq_nil_iff.2, List.nil_append]
    · exact hc.sealed
    · intro x' hx
      rw [hm.key x' (Option.mem_toList.1 hx), hsend]
      exact Bool.false_ne_true
  · rw [hm.opened]
    by_cases hq : q = p
    · subst hq
      rw [Function.update_self, List.filter_append, List.map_append, ← hc.opened]
      cases record with
      | none => rfl
      | some r => simp only [Option.map_some, Option.toList_some, hreceive, Bool.false_eq_true, not_false_eq_true,
          List.filter_cons_of_neg,
          List.filter_nil, List.map_nil, List.nil_append]
    · rw [Function.update_of_ne hq]
      exact hc.opened q
  · rw [hm.after] at hq
    by_cases hqp : q = p
    · subst hqp
      rw [Function.update_self] at hq
      cases hq
      rw [hm.keys.receive_key, hreceive] at hkey
      cases hkey
    · rw [Function.update_of_ne hqp] at hq
      exact hc.current q cipher' hq hkey
  · rw [hm.established]
    exact hc.unused

theorem Inv.moves (lawful : y.noise.Lawful) (h : Inv y s) (hm : Moves y p cipher next x record s s') : Inv y s' := by
  obtain ⟨a, ha, hkeys, hused⟩ := h.current hm.before
  have hsend : a.has_key y cipher.send_key = true := by
    rw [hkeys.send_key]
    exact has_send_key y a p
  have hreceive : a.has_key y cipher.receive_key = true := by
    rw [hkeys.receive_key]
    exact has_receive_key y a p
  constructor
  · intro a' ha'
    rw [hm.accepts] at ha'
    obtain ⟨c, hc⟩ := h.follows a' ha'
    by_cases hsame : a' = a
    · subst hsame
      exact hm.follows hc hkeys hused
    · have hapart : ∀ key, a.has_key y key = true → a'.has_key y key = false := by
        intro key hkey
        exact Bool.eq_false_iff.2 fun hkey' => hsame (h.accept_unique lawful ha' ha hkey' hkey)
      exact ⟨c, hm.stays hc (hapart _ hsend) (hapart _ hreceive)⟩
  · rw [hm.accepts]
    exact h.ephemerals
  · rw [hm.accepts, hm.attempts]
    exact h.requested
  · intro x' hx
    rw [hm.accepts]
    rw [hm.sealed] at hx
    rcases List.mem_append.1 hx with hx | hx
    · exact ⟨a, ha, by rwa [hm.key x' (Option.mem_toList.1 hx)]⟩
    · exact h.sealed_key x' hx
  · intro q r hr
    rw [hm.accepts]
    rw [hm.opened] at hr
    by_cases hq : q = p
    · subst hq
      rw [Function.update_self] at hr
      rcases List.mem_append.1 hr with hr | hr
      · obtain ⟨r', -, rfl⟩ := Option.map_eq_some_iff.1 (Option.mem_toList.1 hr)
        exact ⟨a, ha, hkeys.receive_key⟩
      · exact h.opened_key q r hr
    · rw [Function.update_of_ne hq] at hr
      exact h.opened_key q r hr
  · intro peer c hhost
    have hcipher : s'.cipher_of .Host = some c.cipher := by
      simp only [State.cipher_of, hhost, HostPhase.cipher]
    rw [hm.accepts]
    rw [hm.after] at hcipher
    by_cases hp : Party.Host = p
    · subst hp
      rw [Function.update_self] at hcipher
      cases hcipher
      exact ⟨a, ha, hm.keys.trans hkeys⟩
    · rw [Function.update_of_ne hp] at hcipher
      obtain ⟨a', ha', hkeys', -⟩ := h.current hcipher
      exact ⟨a', ha', hkeys'⟩
  · intro attempt peer channel hphone
    obtain ⟨channel', hphone', hsame⟩ := hm.attempt attempt peer channel hphone
    obtain ⟨a', ha', hkeys', hanswers, hestablished⟩ := h.phone attempt peer channel' hphone'
    rw [hm.accepts, hm.established]
    exact ⟨a', ha', hsame.trans hkeys', hanswers, hestablished⟩
  · intro attempt request hphone
    rw [hm.attempts, hm.established]
    exact h.establishing attempt request (hm.establishing attempt request hphone)
  · rw [hm.established, hm.attempts]
    exact h.established

end

/-- What sealing leaves, in the state and on the channel. -/
theorem sealed_by_step (y : Pair α) (p : Party) (direction : Direction) (m : Message) (cipher : RecordCipher) :
    SameKeys (State.sealed_by y p direction m cipher).2 cipher ∧
    (∀ x ∈ (State.sealed_by y p direction m cipher).1, x.key = cipher.send_key ∧ x.sender = p) ∧
    ∀ c : Channel.State, c.cipher p = cipher →
      ∃ c', ReflTransGen (Channel.Step y.aead) c c' ∧ c'.cipher = Function.update c.cipher p
        (State.sealed_by y p direction m cipher).2 ∧
        c'.sealed = (State.sealed_by y p direction m cipher).1.toList ++ c.sealed ∧ c'.opened = c.opened := by
  have hkeys : SameKeys (cipher.seal_into y.aead direction m.message_type m.session_id m.logical_id m.flags m.payload
      MAX_DATAGRAM_SIZE).2 cipher := by
    by_cases hmax : cipher.next_packet_number = U64_MAX
    · rw [RecordCipher.seal_exhausted y.aead direction m.message_type m.session_id m.logical_id m.flags m.payload _ hmax]
      exact ⟨rfl, rfl, rfl⟩
    · rcases RecordCipher.seal_cases y.aead direction m.message_type m.session_id m.logical_id m.flags m.payload MAX_DATAGRAM_SIZE hmax
        with ⟨e, he⟩ | ⟨encrypted, tag, -, -, hok⟩
      · rw [he]
        exact ⟨rfl, rfl, rfl⟩
      · rw [hok]
        exact ⟨rfl, rfl, rfl⟩
  have hstep : ∀ c : Channel.State, Channel.Step y.aead c
      (c.seal y.aead p direction m.message_type m.session_id m.logical_id m.flags m.payload MAX_DATAGRAM_SIZE) :=
    fun c => .seal_into p direction m.message_type m.session_id m.logical_id m.flags m.payload MAX_DATAGRAM_SIZE c
  unfold State.sealed_by
  rcases hseal : cipher.seal_into y.aead direction m.message_type m.session_id m.logical_id m.flags m.payload MAX_DATAGRAM_SIZE
    with ⟨e | datagram, after⟩
  · rw [hseal] at hkeys
    refine ⟨hkeys, fun x hx => (by cases hx), fun c hc => ⟨_, .single (hstep c), ?_⟩⟩
    simp only [Channel.State.seal, hc, hseal, Option.toList_none, List.nil_append, and_self]
  · rw [hseal] at hkeys
    refine ⟨hkeys, fun x hx => ?_, fun c hc => ⟨_, .single (hstep c), ?_⟩⟩
    · cases hx
      exact ⟨rfl, rfl⟩
    · simp only [Channel.State.seal, hc, hseal, Option.toList_some, List.singleton_append, and_self]

theorem opened_keys {aead : Aead} {direction : Direction} {bytes : Bytes} {cipher next : RecordCipher}
    {result : Except WireError (RecordHeader × Bytes)} (hopen : cipher.open_in_place aead direction bytes =
    (result, next)) :
    SameKeys next cipher := by
  rcases RecordCipher.open_cases aead direction bytes cipher with ⟨e, he⟩ | ⟨header, payload, -, -, -, -, hok⟩
  · rw [hopen] at he
    cases he
    exact ⟨rfl, rfl, rfl⟩
  · rw [hopen] at hok
    cases hok
    exact ⟨rfl, rfl, rfl⟩

/-- What opening a datagram leaves. -/
theorem open_step {y : Pair α} {s : State α} {p : Party} {direction : Direction} {bytes : Bytes} {cipher : RecordCipher}
    (hideal : Authentic y s cipher direction bytes) {result : Except WireError (RecordHeader × Bytes)} {next : RecordCipher}
    (hopen : cipher.open_in_place y.aead direction bytes = (result, next)) :
    SameKeys next cipher ∧
    ∀ c : Channel.State, c.cipher p = cipher → (∀ x' ∈ s.sealed, x'.key = cipher.receive_key → x' ∈ c.sealed) →
      ∃ c', ReflTransGen (Channel.Step y.aead) c c' ∧ c'.cipher = Function.update c.cipher p next ∧
        c'.sealed = c.sealed ∧ c'.opened = Function.update c.opened p (result.toOption.toList ++ c.opened p) := by
  constructor
  · exact opened_keys hopen
  · intro c hc hsealed
    have hstep : Channel.Step y.aead c (c.deliver y.aead p direction bytes) := by
      refine .open_in_place p direction bytes c fun header hheader payload hpayload => ?_
      rw [hc] at hpayload
      obtain ⟨x', hx, hkey, hrest⟩ := hideal header hheader payload hpayload
      exact ⟨x', hsealed x' hx hkey, by rw [hc]; exact hkey, hrest⟩
    refine ⟨_, .single hstep, ?_⟩
    rw [Channel.State.deliver, hc, hopen]
    cases result with
    | error e => exact ⟨rfl, rfl, (Function.update_eq_self p c.opened).symm⟩
    | ok record => exact ⟨rfl, rfl, rfl⟩

theorem host_seals {peer : α} {c : V5Connection} (hhost : s.host = .Connected peer c) (m : Message) :
    Moves y .Host c.cipher (State.sealed_by y .Host .HostToPhone m c.cipher).2
      (State.sealed_by y .Host .HostToPhone m c.cipher).1 none s
      { s.keep y.host_address (State.sealed_by y .Host .HostToPhone m c.cipher).1 with
        host := .Connected peer { c with cipher := (State.sealed_by y .Host .HostToPhone m c.cipher).2 } } := by
  obtain ⟨hkeys, hkey, hstep⟩ := sealed_by_step y .Host .HostToPhone m c.cipher
  refine ⟨by simp only [State.cipher_of, hhost, HostPhase.cipher], ?_, hkeys, fun x hx => (hkey x hx).1, rfl, rfl, rfl, rfl,
    (Function.update_eq_self _ _).symm, fun attempt peer channel hphone => ⟨channel, hphone, rfl, rfl, rfl⟩,
      fun _ _ h => h, ?_⟩
  · funext q
    cases q <;> rfl
  · intro channel hc _
    obtain ⟨c', hrun, hcipher, hsealed, hopened⟩ := hstep channel hc
    exact ⟨c', hrun, hcipher, hsealed, hopened.trans (Function.update_eq_self _ _).symm⟩

theorem phone_seals {attempt : Attempt α} {peer : α} {channel : RecordCipher}
    (hphone : s.phone = .Established attempt peer channel)
    (m : Message) :
    Moves y .Phone channel (State.sealed_by y .Phone .PhoneToHost m channel).2
      (State.sealed_by y .Phone .PhoneToHost m channel).1 none s
      { s.keep attempt.address (State.sealed_by y .Phone .PhoneToHost m channel).1 with
        phone := .Established attempt peer (State.sealed_by y .Phone .PhoneToHost m channel).2 } := by
  obtain ⟨hkeys, hkey, hstep⟩ := sealed_by_step y .Phone .PhoneToHost m channel
  refine ⟨by simp only [State.cipher_of, hphone, PhonePhase.cipher], ?_, hkeys, fun x hx => (hkey x hx).1, rfl,
    rfl, rfl, rfl,
    (Function.update_eq_self _ _).symm, ?_, fun _ _ h => (by cases h), ?_⟩
  · funext q
    cases q <;> rfl
  · intro attempt' peer' channel' h
    cases h
    exact ⟨channel, hphone, hkeys⟩
  · intro c hc _
    obtain ⟨c', hrun, hcipher, hsealed, hopened⟩ := hstep c hc
    exact ⟨c', hrun, hcipher, hsealed, hopened.trans (Function.update_eq_self _ _).symm⟩

section

variable [DecidableEq α]

/-- A connection that receives: nothing, its request again, or a datagram that its cipher is given. -/
theorem receive_cases (aead : Aead) (peer : α) (a : Arrival α) (c : V5Connection) :
    receive_datagram aead peer a c = (none, none, c) ∨
    (∃ response, c.cached_handshake = some (a.bytes, response) ∧
      receive_datagram aead peer a c = (some response, none, c)) ∨
    ∃ result next, c.cipher.open_in_place aead .PhoneToHost a.bytes = (result, next) ∧
      receive_datagram aead peer a c = (none, result.toOption,
        { c with cipher := next, cached_handshake := if result.toOption.isSome then none else c.cached_handshake }) := by
  unfold receive_datagram
  split
  · exact .inl rfl
  split
  · next hrepeated =>
    obtain ⟨⟨request, response⟩, hcached, heq⟩ := Option.map_eq_some_iff.1 hrepeated
    refine .inr (.inl ⟨response, ?_, by rw [hcached]; rfl⟩)
    rw [hcached, ← heq]
  rcases hopen : c.cipher.open_in_place aead .PhoneToHost a.bytes with ⟨e | record, next⟩
  · exact .inr (.inr ⟨.error e, next, rfl, rfl⟩)
  · exact .inr (.inr ⟨.ok record, next, rfl, rfl⟩)

theorem authenticated_cases (aead : Aead) (pinned source : α) (bytes : Bytes) (channel : RecordCipher) :
    receiveAuthenticated aead pinned source bytes channel = (none, channel) ∨
    ∃ result next, channel.open_in_place aead .HostToPhone bytes = (result, next) ∧
      receiveAuthenticated aead pinned source bytes channel = (result.toOption, next) := by
  unfold receiveAuthenticated
  split
  · exact .inl rfl
  rcases hopen : channel.open_in_place aead .HostToPhone bytes with ⟨e | record, next⟩
  · exact .inr ⟨.error e, next, rfl, rfl⟩
  · exact .inr ⟨.ok record, next, rfl, rfl⟩

theorem host_moves {peer : α} {c : V5Connection} (hhost : s.host = .Connected peer c) {a : Arrival α}
    (hideal : Authentic y s c.cipher .PhoneToHost a.bytes) :
    ∃ next record, Moves y .Host c.cipher next none record s (s.host_receives y peer a c) := by
  have hbefore : s.cipher_of .Host = some c.cipher := by simp only [State.cipher_of, hhost, HostPhase.cipher]
  have hidle : ∀ response, ∃ next record, Moves y .Host c.cipher next none record s
      { s.note .Host c.cipher.receive_key none with host := .Connected peer c, sent := response ++ s.sent } := by
    intro response
    refine ⟨c.cipher, none, hbefore, ?_, ⟨rfl, rfl, rfl⟩, fun x hx => (by cases hx), rfl, rfl, rfl, rfl, rfl,
      fun attempt peer channel hphone => ⟨channel, hphone, rfl, rfl, rfl⟩, fun _ _ h => h, ?_⟩
    · funext q
      cases q <;> rfl
    · intro channel hc _
      exact ⟨channel, .refl, by rw [← hc, Function.update_eq_self], rfl, (Function.update_eq_self _ _).symm⟩
  unfold State.host_receives
  rcases receive_cases y.aead peer a c with heq | ⟨response, -, heq⟩ | ⟨result, next, hopen, heq⟩
  · rw [heq]
    exact hidle _
  · rw [heq]
    exact hidle _
  · rw [heq]
    obtain ⟨hkeys, hstep⟩ := open_step (p := .Host) hideal hopen
    refine ⟨next, result.toOption, hbefore, ?_, hkeys, fun x hx => (by cases hx), rfl, rfl, rfl, rfl, rfl,
      fun attempt peer channel hphone => ⟨channel, hphone, rfl, rfl, rfl⟩, fun _ _ h => h, hstep⟩
    funext q
    cases q <;> rfl

theorem phone_moves {attempt : Attempt α} {peer : α} {channel : RecordCipher}
    (hphone : s.phone = .Established attempt peer channel)
    {source : α} {bytes : Bytes} (hideal : Authentic y s channel .HostToPhone bytes) :
    ∃ next record, Moves y .Phone channel next none record s (s.phone_receives y attempt peer source bytes channel) := by
  have hbefore : s.cipher_of .Phone = some channel := by simp only [State.cipher_of, hphone, PhonePhase.cipher]
  unfold State.phone_receives
  rcases authenticated_cases y.aead peer source bytes channel with heq | ⟨result, next, hopen, heq⟩
  · rw [heq]
    refine ⟨channel, none, hbefore, ?_, ⟨rfl, rfl, rfl⟩, fun x hx => (by cases hx), rfl, rfl, rfl, rfl, rfl, ?_,
      fun _ _ h => (by cases h), ?_⟩
    · funext q
      cases q <;> rfl
    · intro attempt' peer' channel' h
      cases h
      exact ⟨channel, hphone, rfl, rfl, rfl⟩
    · intro c hc _
      exact ⟨c, .refl, by rw [← hc, Function.update_eq_self], rfl, (Function.update_eq_self _ _).symm⟩
  · rw [heq]
    obtain ⟨hkeys, hstep⟩ := open_step (p := .Phone) hideal hopen
    refine ⟨next, result.toOption, hbefore, ?_, hkeys, fun x hx => (by cases hx), rfl, rfl, rfl, rfl, rfl, ?_,
      fun _ _ h => (by cases h), hstep⟩
    · funext q
      cases q <;> rfl
    · intro attempt' peer' channel' h
      cases h
      exact ⟨channel, hphone, hkeys⟩

end

/-! ## The handshake -/

theorem from_handshake_start (y : Pair α) (a : Accept) :
    from_handshake y.blake2s (a.split y) false = (a.start y).cipher .Host ∧
    from_handshake y.blake2s (a.split y) true = (a.start y).cipher .Phone := ⟨rfl, rfl⟩

/-- What `accept_request` makes of a request it accepts. -/
theorem accept_request_ok {transport : TransportKind} {ephemeral : Key} {request_bytes response : Bytes}
    {request : PairEnvelope}
    {connection : V5Connection}
    (h : accept_request y.noise y.blake2s y.host_private y.phone_public transport ephemeral request_bytes request =
      .ok (response, connection)) :
    y.noise.read_request y.host_private (prologue transport request.exchange_id) request.payload = .ok
      (some y.phone_public) ∧
    encode_pair_envelope IK_CONTINUE request.exchange_id 2 transport
      (y.noise.write_response y.host_private (prologue transport request.exchange_id) request.payload ephemeral) =
        .ok response ∧
    connection = .new ((Accept.start y ⟨transport, request.exchange_id, request.payload, ephemeral⟩).cipher .Host)
      (some (request_bytes, response)) := by
  unfold accept_request at h
  dsimp only at h
  split at h
  · cases h
  · cases h
  · next actual_phone hread =>
    split at h
    · cases h
    · next hphone =>
      split at h
      · cases h
      · next response' hencode =>
        cases h
        rw [Decidable.not_not.1 hphone] at hread
        exact ⟨hread, hencode, rfl⟩

/-- The host connects: the new handshake shares no key with those before. -/
theorem Inv.accepts (lawful : y.noise.Lawful) (h : Inv y s) {a : Accept} {peer : α} {connection : V5Connection}
    {sent : List (Party × α × Bytes)}
    (hfresh : a.ephemeral ∉ s.accepts.map Accept.ephemeral) (hrequested : ∃ attempt ∈ s.attempts, Answers y a attempt)
    (hcipher : connection.cipher = (a.start y).cipher .Host) :
    Inv y { s with host := .Connected peer connection, accepts := a :: s.accepts, sent := sent } := by
  have hnew : ∀ a' ∈ s.accepts, ∀ key, a'.has_key y key = true → a.has_key y key = false := by
    intro a' ha' key hkey
    refine Bool.eq_false_iff.2 fun hkey' => hfresh ?_
    rw [has_key_ephemeral lawful hkey' hkey]
    exact List.mem_map_of_mem ha'
  have hreceive : ∀ a' ∈ s.accepts, a'.has_key y connection.cipher.receive_key = false := by
    intro a' ha'
    refine Bool.eq_false_iff.2 fun hkey => ?_
    have hkey' := hnew a' ha' _ hkey
    rw [hcipher, has_receive_key] at hkey'
    cases hkey'
  constructor
  · intro a' ha'
    rcases List.mem_cons.1 ha' with rfl | ha'
    · refine ⟨a'.start y, .refl, ?_, fun p => ?_, fun p cipher hcurrent hkey => ?_, fun _ => rfl⟩
      · refine (List.filter_eq_nil_iff.2 fun x hx => ?_).symm
        obtain ⟨b, hb, hkey⟩ := h.sealed_key x hx
        rw [hnew b hb _ hkey]
        exact Bool.false_ne_true
      · have hnone : ((s.opened p).filter fun r => a'.has_key y r.1) = [] := by
          refine List.filter_eq_nil_iff.2 fun r hr => ?_
          obtain ⟨b, hb, hkey⟩ := h.opened_key p r hr
          rw [hnew b hb r.1 (by rw [hkey]; exact has_receive_key y b p)]
          exact Bool.false_ne_true
        exact (congrArg (List.map Prod.snd) hnone).symm
      · cases p with
        | Host =>
          cases hcurrent
          exact hcipher.symm
        | Phone =>
          obtain ⟨b, hb, hkeys, -⟩ := h.current (p := .Phone) hcurrent
          rw [hnew b hb _ (by rw [hkeys.receive_key]; exact has_receive_key y b .Phone)] at hkey
          cases hkey
    · obtain ⟨c, hc⟩ := h.follows a' ha'
      refine ⟨c, hc.run, hc.sealed, hc.opened, fun p cipher hcurrent hkey => ?_, hc.unused⟩
      cases p with
      | Host =>
        cases hcurrent
        rw [hreceive a' ha'] at hkey
        cases hkey
      | Phone => exact hc.current .Phone cipher hcurrent hkey
  · exact List.nodup_cons.2 ⟨hfresh, h.ephemerals⟩
  · intro a' ha'
    rcases List.mem_cons.1 ha' with rfl | ha'
    · exact hrequested
    · exact h.requested a' ha'
  · intro x hx
    obtain ⟨b, hb, hkey⟩ := h.sealed_key x hx
    exact ⟨b, List.mem_cons_of_mem _ hb, hkey⟩
  · intro p r hr
    obtain ⟨b, hb, hkey⟩ := h.opened_key p r hr
    exact ⟨b, List.mem_cons_of_mem _ hb, hkey⟩
  · intro peer' c hhost
    cases hhost
    exact ⟨a, List.mem_cons_self, by rw [hcipher]; exact ⟨rfl, rfl, rfl⟩⟩
  · intro attempt peer' channel hphone
    obtain ⟨b, hb, hrest⟩ := h.phone attempt peer' channel hphone
    exact ⟨b, List.mem_cons_of_mem _ hb, hrest⟩
  · exact h.establishing
  · exact h.established

/-- The phone has its channel: of the handshake that answers its attempt, and it never used that before. -/
theorem Inv.establishes (lawful : y.noise.Lawful) (h : Inv y s) {attempt : Attempt α} {request : Bytes} {peer : α}
    {a : Accept}
    (hphone : s.phone = .Establishing attempt request) (ha : a ∈ s.accepts) (hanswers : Answers y a attempt) :
    Inv y { s with
      phone := .Established attempt peer ((a.start y).cipher .Phone)
      established := attempt.exchange_id :: s.established } := by
  obtain ⟨hattempt, hunused⟩ := h.establishing attempt request hphone
  constructor
  · intro a' ha'
    obtain ⟨c, hc⟩ := h.follows a' ha'
    refine ⟨c, hc.run, hc.sealed, hc.opened, fun p cipher hcurrent hkey => ?_,
      fun hnew => hc.unused fun hold => hnew (.tail _ hold)⟩
    cases p with
    | Host => exact hc.current .Host cipher hcurrent hkey
    | Phone =>
      cases hcurrent
      obtain rfl := h.accept_unique lawful ha ha' (has_receive_key y a .Phone) hkey
      exact hc.unused (by rwa [hanswers.exchange_id])
  · exact h.ephemerals
  · exact h.requested
  · exact h.sealed_key
  · exact h.opened_key
  · exact h.host
  · intro attempt' peer' channel heq
    cases heq
    exact ⟨a, ha, ⟨rfl, rfl, rfl⟩, hanswers, List.mem_cons_self⟩
  · intro attempt' request' heq
    cases heq
  · intro id hid
    rcases List.mem_cons.1 hid with rfl | hid
    · exact List.mem_map_of_mem hattempt
    · exact h.established id hid

theorem Inv.opens (h : Inv y s) {attempt : Attempt α} (request : Bytes)
    (hclosed : s.phone = .Closed) (hfresh : attempt.exchange_id ∉ s.attempts.map Attempt.exchange_id) :
    Inv y { s with phone := .Establishing attempt request, attempts := attempt :: s.attempts } := by
  have hphone : s.phone.cipher = none := by rw [hclosed]; rfl
  constructor
  · intro a ha
    obtain ⟨c, hc⟩ := h.follows a ha
    refine ⟨c, hc.run, hc.sealed, hc.opened, fun p cipher hcurrent hkey => ?_, hc.unused⟩
    cases p with
    | Host => exact hc.current .Host cipher hcurrent hkey
    | Phone => cases hcurrent
  · exact h.ephemerals
  · intro a ha
    obtain ⟨attempt', hmem, hanswers⟩ := h.requested a ha
    exact ⟨attempt', List.mem_cons_of_mem _ hmem, hanswers⟩
  · exact h.sealed_key
  · exact h.opened_key
  · exact h.host
  · intro attempt' peer channel heq
    cases heq
  · intro attempt' request' heq
    cases heq
    exact ⟨List.mem_cons_self, fun hused => hfresh (h.established _ hused)⟩
  · intro id hid
    exact List.mem_cons_of_mem _ (h.established id hid)

/-- The channel of the phone is the one that the response belongs to. -/
theorem finishHandshake_ok (lawful : y.noise.Lawful) {attempt : Attempt α} {envelope : V5Protocol.PairEnvelope}
    {channel : RecordCipher}
    (hideal : Responded y s attempt envelope.payload)
    (h : finishHandshake y.noise y.blake2s y.phone_private y.host_public attempt envelope = .ok channel) :
    ∃ a ∈ s.accepts, Answers y a attempt ∧ channel = (a.start y).cipher .Phone := by
  unfold finishHandshake at h
  split at h
  · cases h
  · next decrypted split hread =>
    split at h
    · cases h
    · cases h
      obtain ⟨a, ha, hprologue, hrequest, hresponse⟩ := hideal _ hread
      obtain ⟨htransport, hexchange⟩ := prologue_injective hprologue
      refine ⟨a, ha, ⟨htransport, hexchange, hrequest⟩, ?_⟩
      rw [← hresponse] at hread
      have hsplit := hread.symm.trans (lawful.reads_response hrequest)
      simp only [Option.some.injEq, Prod.mk.injEq] at hsplit
      rw [hsplit.2, ← hprologue]
      rfl

theorem accept_inv (lawful : y.noise.Lawful) (h : Inv y s) {transport : TransportKind} {arrival : Arrival α}
    {ephemeral : Key}
    {request : PairEnvelope} (hfresh : ephemeral ∉ s.accepts.map Accept.ephemeral)
    (hideal : Requested y s (prologue transport request.exchange_id) request.payload) :
    Inv y (s.accept y transport arrival ephemeral request) := by
  unfold State.accept
  split
  · exact h.rests (.inr fun _ _ heq => (by cases heq)) (.inl rfl) rfl rfl rfl rfl rfl
  · next response connection hok =>
    obtain ⟨hread, -, rfl⟩ := accept_request_ok hok
    obtain ⟨attempt, hattempt, hprologue, hmessage⟩ := hideal hread
    obtain ⟨htransport, hexchange⟩ := prologue_injective hprologue
    exact h.accepts lawful hfresh ⟨attempt, hattempt, htransport.symm, hexchange.symm, hmessage.symm⟩ rfl

/-! ## Runs -/

variable [DecidableEq α]

theorem phone_establishes_inv (lawful : y.noise.Lawful) (h : Inv y s) {attempt : Attempt α} {request : Bytes}
    (hphone : s.phone = .Establishing attempt request) {source : α} {onSelectedSubnet : Bool} {bytes : Bytes}
    (hideal : ∀ envelope, awaitedEnvelope attempt bytes = some envelope → Responded y s attempt envelope.payload) :
    Inv y (s.phone_establishes y attempt source onSelectedSubnet bytes) := by
  unfold State.phone_establishes
  split
  · exact h
  · next envelope hawaited =>
    split
    · exact h
    · unfold State.phone_finishes
      split
      · exact h.rests (.inl rfl) (.inr rfl) rfl rfl rfl rfl rfl
      · next channel hok =>
        obtain ⟨a, ha, hanswers, rfl⟩ := finishHandshake_ok lawful (hideal envelope hawaited) hok
        exact h.establishes lawful hphone ha hanswers

theorem step_inv (lawful : y.noise.Lawful) (h : Inv y s) {a : Action α} (hfresh : Fresh s a) (hideal : Ideal y s a)
    (hstep : step y a s = some s') : Inv y s' := by
  cases a with
  | HostListens transport =>
    simp only [step] at hstep
    split at hstep
    · cases hstep
      exact h.rests (.inr fun _ _ heq => (by cases heq)) (.inl rfl) rfl rfl rfl rfl rfl
    · cases hstep
  | HostEnds =>
    cases hstep
    exact h.rests (.inr fun _ _ heq => (by cases heq)) (.inl rfl) rfl rfl rfl rfl rfl
  | HostReceives arrival ephemeral =>
    simp only [step] at hstep
    simp only [Ideal] at hideal
    split at hstep
    · cases hstep
    · next transport hhost =>
      rw [hhost] at hideal
      split at hstep
      · cases hstep
        exact h
      · next request hwanted =>
        cases hstep
        exact accept_inv lawful h hfresh (hideal request hwanted)
    · next peer c hhost =>
      rw [hhost] at hideal
      cases hstep
      obtain ⟨next, record, hmoves⟩ := host_moves hhost hideal
      exact h.moves lawful hmoves
  | HostSeals message =>
    simp only [step] at hstep
    split at hstep
    · next peer c hhost =>
      cases hstep
      exact h.moves lawful (host_seals hhost message)
    · cases hstep
  | PhoneOpens attempt =>
    simp only [step] at hstep
    split at hstep
    · next hclosed =>
      cases hstep
      unfold State.phone_opens
      split
      · exact h.rests (.inl rfl) (.inl rfl) rfl rfl rfl rfl rfl
      · next request hrequest => exact h.opens request hclosed hfresh
    · cases hstep
  | PhoneRequests =>
    simp only [step] at hstep
    split at hstep
    · cases hstep
      exact h.rests (.inl rfl) (.inl rfl) rfl rfl rfl rfl rfl
    · cases hstep
  | PhoneReceives source onSelectedSubnet bytes =>
    simp only [step] at hstep
    simp only [Ideal] at hideal
    split at hstep
    · cases hstep
    · next attempt request hphone =>
      rw [hphone] at hideal
      cases hstep
      exact phone_establishes_inv lawful h hphone hideal
    · next attempt peer channel hphone =>
      rw [hphone] at hideal
      cases hstep
      obtain ⟨next, record, hmoves⟩ := phone_moves hphone hideal
      exact h.moves lawful hmoves
  | PhoneSeals message =>
    simp only [step] at hstep
    split at hstep
    · next attempt peer channel hphone =>
      cases hstep
      exact h.moves lawful (phone_seals hphone message)
    · cases hstep
  | PhoneCloses =>
    cases hstep
    exact h.rests (.inl rfl) (.inr rfl) rfl rfl rfl rfl rfl

theorem Reaches.inv (lawful : y.noise.Lawful) (h : Reaches y s) : Inv y s := by
  induction h with
  | refl => exact setup_inv y
  | tail _ hstep ih =>
    obtain ⟨a, hfresh, hideal, hstep⟩ := hstep
    exact step_inv lawful ih hfresh hideal hstep

end Trackpad.Reconnect
