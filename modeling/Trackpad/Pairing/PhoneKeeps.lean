import Trackpad.Pairing.HostKeeps
/-!
# What a step of the phone keeps

As on the host, except that the phone does complain about one record of an honest peer: a commitment that opens once
the users compare.
-/

namespace Trackpad.Pairing

open V5Host Sas Logs

variable {s : Session} {log : List Event}

/-! ## What a justified log says -/

section Log

variable (h : Justified (Allowed s) log)
include h

/-- A commitment the phone holds is the host's. -/
theorem held_by_phone {commitment : Bytes} (hholds : PhoneHolds log commitment) :
    ∃ random, .HostDraws random ∈ log ∧ commitment = (sas_commit s.blake2s 2 s.handshake_hash random).val := by
  obtain ⟨r, hmem, htype, rfl⟩ := hholds
  cases opened_by_phone h hmem with
  | commitment random drawn control => exact ⟨random, drawn, control.payload⟩
  | reveal random commitment drawn holds control => exact absurd (htype.symm.trans control.message_type) (by decide)
  | probe id wifi bounded message_type session_id logical_id flags length =>
    exact absurd (htype.symm.trans message_type) (by decide)
  | complete time persisted control => exact absurd (htype.symm.trans control.message_type) (by decide)
  | abort reason control => exact absurd (htype.symm.trans control.message_type) (by decide)

theorem revealed_to_phone {r : OpenedRecord} (hmem : .PhoneOpened r ∈ log) (htype : r.header.message_type = HOST_SAS_REVEAL) :
    .HostDraws r.payload ∈ log ∧ Control .HostToPhone HOST_SAS_REVEAL r.payload r := by
  cases opened_by_phone h hmem with
  | commitment random drawn control => exact absurd (htype.symm.trans control.message_type) (by decide)
  | reveal random commitment drawn holds control => exact control.payload ▸ ⟨drawn, control.payload ▸ control⟩
  | probe id wifi bounded message_type session_id logical_id flags length =>
    exact absurd (htype.symm.trans message_type) (by decide)
  | complete time persisted control => exact absurd (htype.symm.trans control.message_type) (by decide)
  | abort reason control => exact absurd (htype.symm.trans control.message_type) (by decide)

/-- Where the host has a confirmation, the phone compared. -/
theorem confirmed_compared (hconfirmed : Confirmed log) : ∃ pattern, .PhoneDerives pattern ∈ log ∧ .PhoneCompares pattern ∈ log := by
  obtain ⟨r, hopened, control⟩ := hconfirmed
  have htype := control.message_type
  cases opened_by_host h hopened with
  | commitment random drawn control => exact absurd (htype.symm.trans control.message_type) (by decide)
  | reveal random commitment drawn holds control => exact absurd (htype.symm.trans control.message_type) (by decide)
  | confirm pattern derived compared control => exact ⟨pattern, derived, compared⟩
  | reply wifi message_type session_id flags decodes => exact absurd (htype.symm.trans message_type) (by decide)
  | abort reason reasons control => exact absurd (htype.symm.trans control.message_type) (by decide)

theorem persisted_compared {key : Bytes} {time : Nat} (hmem : .HostPersists key time ∈ log) :
    ∃ pattern, .PhoneDerives pattern ∈ log ∧ .PhoneCompares pattern ∈ log := by
  obtain ⟨older, ⟨-, hconfirmed, -⟩, -, hsub⟩ := h.before hmem
  exact confirmed_compared h (hconfirmed.mono hsub)

/-- The pattern of what both sides drew. -/
def Agreed (s : Session) (log : List Event) (pattern : List UInt8) : Prop :=
  ∃ phone_random host_random fuel, .PhoneDraws phone_random ∈ log ∧ .HostDraws host_random ∈ log ∧
    sas_pattern s.blake2s fuel (sas_digest s.blake2s s.handshake_hash phone_random host_random) = some pattern

theorem agreed_unique {a b : List UInt8} (ha : Agreed s log a) (hb : Agreed s log b) : a = b := by
  obtain ⟨phone_random, host_random, fuel, hphone, hhost, hpattern⟩ := ha
  obtain ⟨phone_random', host_random', fuel', hphone', hhost', hpattern'⟩ := hb
  rw [phone_draw_unique h hphone' hphone, host_draw_unique h hhost' hhost] at hpattern'
  exact sas_pattern_unique s.blake2s hpattern hpattern'

theorem shown_agreed {pattern : List UInt8} {time : Nat} (hmem : .HostShows pattern time ∈ log) : Agreed s log pattern := by
  obtain ⟨older, ⟨phone_random, host_random, fuel, ⟨r, hopened, htype, rfl⟩, -, hdrawn, hpattern⟩, -, hsub⟩ := h.before hmem
  exact ⟨r.payload, host_random, fuel, (revealed_to_host h (hsub hopened) htype).1, hsub hdrawn, hpattern⟩

omit h in
theorem sasDigest_ok {phoneRandom hostRandom : Bytes} {digest : Digest}
    (hdigest : sasDigest s.blake2s s.handshake_hash phoneRandom hostRandom = .ok digest) :
    digest = sas_digest s.blake2s s.handshake_hash phoneRandom hostRandom := by
  unfold sasDigest at hdigest
  split at hdigest
  · cases hdigest
  · exact (Except.ok.inj hdigest).symm

theorem derived_agreed {pattern : List Int} (hmem : .PhoneDerives pattern ∈ log) :
    ∃ shown, Agreed s log shown ∧ pattern = ints shown := by
  obtain ⟨older, ⟨phoneRandom, hostRandom, fuel, digest, ⟨r, hopened, htype, rfl⟩, -, hdrawn, hdigest, hpattern⟩, -, hsub⟩ :=
    h.before hmem
  rw [sasDigest_ok hdigest, sasPattern_eq] at hpattern
  obtain ⟨shown, hshown, heq⟩ := Option.map_eq_some_iff.1 (Except.ok.inj hpattern)
  exact ⟨shown, ⟨phoneRandom, r.payload, fuel, hsub hdrawn, (revealed_to_phone h (hsub hopened) htype).1, hshown⟩, heq.symm⟩

theorem derived_unique {a b : List Int} (ha : .PhoneDerives a ∈ log) (hb : .PhoneDerives b ∈ log) : a = b := by
  obtain ⟨shown, hshown, rfl⟩ := derived_agreed h ha
  obtain ⟨shown', hshown', rfl⟩ := derived_agreed h hb
  rw [agreed_unique h hshown hshown']

end Log

/-! ## Replies -/

theorem currentSignal_level (hlevel : s.Documented) (transport : TransportKind) (wifiInfo : Option (Int × Int)) :
    -1 ≤ (currentSignal s.calculateSignalLevel transport wifiInfo).level ∧
      (currentSignal s.calculateSignalLevel transport wifiInfo).level ≤ 4 := by
  unfold currentSignal
  split
  · decide
  · decide
  · next rssi frequency =>
    dsimp only
    generalize (if rssi > 0 ∨ rssi ≤ -127 then -32768 else rssi) = heard
    have hbounds := hlevel heard
    split
    · decide
    · omega

theorem replyPayload_length (quality : Quality) (repairOnly : Bool) (signal : SignalInfo) (sendNanos : Int) :
    (replyPayload quality repairOnly signal sendNanos).length = 32 := by
  simp [replyPayload]

theorem reply_decodes {signal : SignalInfo} (hsignal : -1 ≤ signal.level ∧ signal.level ≤ 4) (quality : Quality)
    (repairOnly : Bool) (sendNanos : Int) (number : Nat) (sequence : UInt64) :
    ∃ reply, decode_quality_reply (sealed_record s .PhoneToHost number PHONE_QUALITY_REPLY sequence 0
      (replyPayload quality repairOnly signal sendNanos)) = .ok reply := by
  have hrepair : (replyPayload quality repairOnly signal sendNanos).getD 24 0 = if repairOnly then 1 else 0 := rfl
  have hlevel : ((replyPayload quality repairOnly signal sendNanos).getD 25 0).toBitVec.toInt = signal.level := by
    have hbyte : (replyPayload quality repairOnly signal sendNanos).getD 25 0 = .ofInt signal.level := rfl
    rw [hbyte]
    obtain ⟨hlow, hhigh⟩ := hsignal
    interval_cases signal.level <;> rfl
  have hvalid : ¬ ((if repairOnly then (1 : UInt8) else 0) > 1 ∨
      (signal.level ≠ -1 ∧ ¬ (0 ≤ signal.level ∧ signal.level ≤ 4))) := by
    rintro (hmore | ⟨hnone, hrange⟩)
    · cases repairOnly <;> exact absurd hmore (by decide)
    · omega
  unfold decode_quality_reply
  rw [if_neg (by simp [sealed_record, replyPayload_length])]
  dsimp only [sealed_record]
  rw [hrepair, hlevel, if_neg hvalid]
  exact ⟨_, rfl⟩

/-! ## What a step writes -/

/-- More records of the phone, and nothing else. -/
def Event.unsent : Event → Bool
  | .PhoneSent _ => false
  | _ => true

theorem Grows.sent {log' : List Event} (h : Grows Event.unsent log log') : Grows Event.once log log' := by
  refine h.imp fun e hother => ?_
  cases e <;> first | rfl | cases hother

structure PhoneWrites (s : Session) (log : List Event) (p : Phone) : Prop where
  justified : Justified (Allowed s) p.log
  grows : Grows Event.by_host log p.log
  entered : ∀ pattern, p.inbox.submittedPattern = some pattern → .Enters pattern ∈ p.log

/-- What a step keeps; it complains only if `late`. -/
structure PhoneKeeps (s : Session) (late : Prop) (log : List Event) (p : Phone) : Prop where
  writes : PhoneWrites s log p
  known : p.phase.Known s p.log
  tolerates : ∀ e, p.phase = .Ended (.error e) → PhoneRejects p.log e → late

namespace Phone

variable {p : Phone} {next : Phone → Phone} {late : Prop}

theorem writes_note (hw : PhoneWrites s log p) {e : Event} (hother : e.by_host = false)
    (hallowed : Allowed s e p.log) : PhoneWrites s log (p.note e) where
  justified := ⟨hallowed, hw.justified⟩
  grows := hw.grows.cons hother
  entered pattern hsome := List.mem_cons_of_mem _ (hw.entered pattern hsome)

theorem keeps_fail (hw : PhoneWrites s log p) {e : PairingException} (he : PhoneRejects p.log e → late) :
    PhoneKeeps s late log (p.fail e) where
  writes := ⟨hw.justified, hw.grows, hw.entered⟩
  known := trivial
  tolerates e' heq := by
    cases heq
    exact he

theorem keeps_sending (hw : PhoneWrites s log p) {loop : PhoneLoop} (hknown : loop.Known s p.log) :
    PhoneKeeps s late log (p.go (.Sending loop)) :=
  ⟨⟨hw.justified, hw.grows, hw.entered⟩, hknown, fun e heq => (by cases heq)⟩

theorem keeps_receiving (hw : PhoneWrites s log p) {loop : PhoneLoop} (hknown : loop.Known s p.log) :
    PhoneKeeps s late log (p.go (.Receiving loop)) :=
  ⟨⟨hw.justified, hw.grows, hw.entered⟩, hknown, fun e heq => (by cases heq)⟩

/-! ## Sending -/

/-- A step that only sends. -/
structure Sent (s : Session) (log : List Event) (p p' : Phone) : Prop where
  writes : PhoneWrites s log p'
  grows : Grows Event.unsent p.log p'.log

theorem Sent.refl (hw : PhoneWrites s log p) : Sent s log p p := ⟨hw, .refl _ _⟩

theorem Sent.seal {p' : Phone} (h : Sent s log p p') {messageType : UInt8} {logicalId : UInt64} {payload : Bytes}
    (hrecord : ∀ log' number, p.log ⊆ log' →
      PhoneRecord s log' (sealed_record s .PhoneToHost number messageType logicalId 0 payload)) :
    Sent s log p (p'.sealRecord s messageType logicalId payload) :=
  ⟨writes_note h.writes rfl (hrecord _ _ h.grows.sub), h.grows.cons rfl⟩

theorem Sent.copies (hw : PhoneWrites s log p) (failure : SendFailure) {first second : Phone → Phone}
    (hfirst : ∀ p', Sent s log p p' → Sent s log p (first p'))
    (hsecond : ∀ p', Sent s log p p' → Sent s log p (second p')) :
    Sent s log p (p.sendCopies failure first second) := by
  unfold sendCopies
  split
  · exact hsecond _ (hfirst _ (.refl hw))
  · exact hfirst _ (.refl hw)
  · exact .refl hw

theorem keeps_orThrow {failure : SendFailure} {p' : Phone} (hsent : Sent s log p p')
    (hnext : PhoneKeeps s late log (next p')) : PhoneKeeps s late log (orThrow failure next p') := by
  unfold orThrow
  split
  · exact hnext
  · exact keeps_fail hsent.writes False.elim

theorem keeps_redundant (hw : PhoneWrites s log p) {messageType : UInt8} {payload : Bytes} {failure : SendFailure}
    (hrecord : ∀ log' number, p.log ⊆ log' →
      PhoneRecord s log' (sealed_record s .PhoneToHost number messageType 0 0 payload))
    (hnext : ∀ p', Sent s log p p' → PhoneKeeps s late log (next p')) :
    PhoneKeeps s late log (p.sendRecordRedundant s messageType payload failure next) := by
  have hsent := Sent.copies hw failure (fun _ h => h.seal hrecord) (fun _ h => h.seal hrecord)
  exact keeps_orThrow hsent (hnext _ hsent)

theorem sent_abort (hw : PhoneWrites s log p) (reason : Nat) (hreason : 1 ≤ reason ∧ reason ≤ 4) (failure : SendFailure) :
    Sent s log p (p.sendAuthenticatedAbort s reason failure) := by
  have hrecord : ∀ log' number, p.log ⊆ log' → PhoneRecord s log'
      (sealed_record s .PhoneToHost number PHONE_AUTH_ABORT 0 0 (LittleEndian.encode 2 reason)) :=
    fun log' number _ => .abort reason hreason (sealed_control ..)
  exact Sent.copies hw failure (fun _ h => h.seal hrecord) (fun _ h => h.seal hrecord)

theorem keeps_quality_reply (hwifi : s.transport = .Wifi) (hw : PhoneWrites s log p) {o : Replying} {sequence : UInt64} {quality : Quality}
    {repairOnly : Bool} (hnext : ∀ p', Sent s log p p' → PhoneKeeps s late log (next p')) :
    PhoneKeeps s late log (p.sendQualityReply s o sequence quality repairOnly next) := by
  have hrecord : ∀ sendNanos log' number, p.log ⊆ log' → PhoneRecord s log'
      (sealed_record s .PhoneToHost number PHONE_QUALITY_REPLY sequence 0
        (replyPayload quality repairOnly (currentSignal s.calculateSignalLevel s.transport o.wifiInfo) sendNanos)) :=
    fun sendNanos log' number _ => .reply hwifi rfl rfl rfl fun hlevel =>
      reply_decodes (currentSignal_level hlevel s.transport o.wifiInfo) quality repairOnly sendNanos number sequence
  have hfirst : ∀ p', Sent s log p p' → Sent s log p
      ((if repairOnly then id else sealRecord s PHONE_QUALITY_REPLY sequence
        (replyPayload quality repairOnly (currentSignal s.calculateSignalLevel s.transport o.wifiInfo) o.sendNanos.1)) p') := by
    intro p' h
    split
    · exact h
    · exact h.seal (hrecord _)
  have hsent := Sent.copies hw o.failure hfirst fun _ h => h.seal (hrecord o.sendNanos.2)
  exact keeps_orThrow hsent (hnext _ hsent)

/-! ## `waitForPairRecord` -/

theorem accepts_socket (message : String) : PhoneRejects log (.Socket message) → late := False.elim

theorem accepts_message {message : String} (hother : message ∉ COMPLAINTS) : PhoneRejects log (.Io message) → late :=
  fun h => absurd h hother

theorem require_control {direction : Direction} {messageType : UInt8} {payload : Bytes} {record : OpenedRecord}
    (hcontrol : Control direction messageType payload record) (p : Phone) (next : Phone → Phone) :
    p.requirePairRecord record payload.length next = next p := by
  rw [requirePairRecord, hcontrol.session_id, hcontrol.flags, hcontrol.logical_id, hcontrol.payload]
  exact if_neg (by simp)

theorem keeps_waitSend (hw : PhoneWrites s log p) {o : SendingHalf} {retryType : UInt8} {retryPayload : Bytes}
    {resume : PairRecordWait → PhoneLoop}
    (hknown : ∀ log', Grows Event.once p.log log' → ∀ w, (resume w).Known s log')
    (hrecord : ∀ log' number, p.log ⊆ log' →
      PhoneRecord s log' (sealed_record s .PhoneToHost number retryType 0 0 retryPayload)) (w : PairRecordWait) :
    PhoneKeeps s late log (p.waitSend s o retryType retryPayload resume w) := by
  have hretry : ∀ w, PhoneKeeps s late log (waitSend.retry s o retryType retryPayload resume w p) := by
    intro w
    unfold waitSend.retry
    split
    · exact keeps_redundant hw hrecord fun p' hsent => keeps_receiving hsent.writes (hknown _ hsent.grows.sent _)
    · exact keeps_receiving hw (hknown _ (.refl _ _) _)
  unfold waitSend
  split
  · split
    · split
      · exact hretry _
      · exact keeps_fail hw (accepts_message (by decide))
    · exact hretry _
  · exact keeps_fail hw (accepts_message (by decide))

theorem keeps_waitReceive (hw : PhoneWrites s log p) {received : Option OpenedRecord} {expectedType : UInt8}
    {again : PhoneLoop} (hknown : again.Known s p.log) {next : OpenedRecord → Phone → Phone}
    (hnext : ∀ record, received = some record → record.header.message_type = expectedType →
      PhoneKeeps s late log (next record p)) :
    PhoneKeeps s late log (p.waitReceive received expectedType again next) := by
  unfold waitReceive
  split
  · exact keeps_sending hw hknown
  · next record =>
    split
    · exact keeps_fail hw (accepts_message (by decide))
    · split
      · next htype => exact hnext record rfl htype
      · exact keeps_sending hw hknown

/-! ## The commitment and the reveal -/

theorem sasCommit_ok {role : UInt8} (hrole : role = 1 ∨ role = 2) {random : Bytes} (hlength : random.length = 32) :
    sasCommit s.blake2s role s.handshake_hash random = .ok (sas_commit s.blake2s role s.handshake_hash random) := by
  refine if_neg ?_
  rintro (⟨hone, htwo⟩ | hne)
  · exact hrole.elim hone htwo
  · exact hne hlength

theorem keeps_commit (hw : PhoneWrites s log p) (hnone : ∀ r, .PhoneDraws r ∉ p.log) (hcompares : ∀ e, .PhoneCompares e ∉ p.log)
    (o : ReceivingHalf) : PhoneKeeps s late log (p.commit s o) := by
  have hdrawn := writes_note hw (e := .PhoneDraws o.random.val) rfl ⟨o.random.property, hnone⟩
  unfold commit
  dsimp only
  rw [sasCommit_ok (.inl rfl) o.random.property]
  refine keeps_redundant hdrawn (fun log' number hsub => ?_) fun p' hsent => ?_
  · exact .commitment o.random.val (hsub List.mem_cons_self) (sealed_control ..)
  · refine keeps_sending hsent.writes ⟨hsent.grows.sub List.mem_cons_self, rfl, fun e hmem => ?_⟩
    rcases List.mem_cons.1 (hsent.grows.mine _ hmem rfl) with heq | hmem
    · cases heq
    · exact hcompares e hmem

theorem keeps_reveal (hw : PhoneWrites s log p) {phoneRandom : Bytes} (hdrawn : .PhoneDraws phoneRandom ∈ p.log)
    (hcompares : ∀ e, .PhoneCompares e ∉ p.log) {record : OpenedRecord} (hopened : .PhoneOpened record ∈ p.log)
    (htype : record.header.message_type = HOST_SAS_COMMITMENT) (o : ReceivingHalf) :
    PhoneKeeps s late log (p.reveal s o phoneRandom record) := by
  have hheld : PhoneHolds p.log record.payload := ⟨record, hopened, htype, rfl⟩
  have hpasses : ∀ next : Phone → Phone, p.requirePairRecord record 32 next = next p := by
    intro next
    cases opened_by_phone hw.justified hopened with
    | commitment random drawn control =>
      have hlength := (sas_commit s.blake2s 2 s.handshake_hash random).property
      exact hlength ▸ require_control control p next
    | reveal random commitment drawn holds control => exact absurd (htype.symm.trans control.message_type) (by decide)
    | probe id wifi bounded message_type session_id logical_id flags length =>
      exact absurd (htype.symm.trans message_type) (by decide)
    | complete time persisted control => exact absurd (htype.symm.trans control.message_type) (by decide)
    | abort reason control => exact absurd (htype.symm.trans control.message_type) (by decide)
  rw [reveal, hpasses]
  refine keeps_redundant hw (fun log' number hsub => ?_) fun p' hsent => ?_
  · exact .reveal phoneRandom record.payload (hsub hdrawn) (hheld.mono hsub) (sealed_control ..)
  · have hgrown := hsent.grows.sub
    exact keeps_sending hsent.writes
      ⟨hgrown hdrawn, hheld.mono hgrown, fun e hmem => hcompares e (hsent.grows.mine _ hmem rfl)⟩

theorem newRepairs_known (hderived : .PhoneDerives pattern ∈ p.log) (hcompares : ∀ e, .PhoneCompares e ∉ p.log) (now : Int) :
    (⟨pattern, false, 0, now, newRepairs, []⟩ : Matching).Known s p.log where
  derived := hderived
  unmatched _ := hcompares
  matched h := by cases h
  distinct := List.nodup_nil
  seen id hmem := by cases hmem
  queued := ⟨rfl, Nat.le_refl _, fun _ => ⟨rfl, rfl⟩⟩

theorem keeps_derive (hw : PhoneWrites s log p) {phoneRandom hostCommit : Bytes}
    (hdrawn : .PhoneDraws phoneRandom ∈ p.log) (hheld : PhoneHolds p.log hostCommit) (hcompares : ∀ e, .PhoneCompares e ∉ p.log)
    {record : OpenedRecord} (hopened : .PhoneOpened record ∈ p.log) (htype : record.header.message_type = HOST_SAS_REVEAL)
    (o : ReceivingHalf) : PhoneKeeps s late log (p.derive s o phoneRandom hostCommit record) := by
  obtain ⟨hhost, hcontrol⟩ := revealed_to_phone hw.justified hopened htype
  obtain ⟨random, hrandom, hopens⟩ := held_by_phone hw.justified hheld
  -- The host draws once, so that its reveal opens its commitment.
  rw [host_draw_unique hw.justified hrandom hhost] at hopens
  have hlength := host_draw_length hw.justified hhost
  have hpasses := fun next => hlength ▸ require_control hcontrol p next
  rw [derive, hpasses, sasCommit_ok (.inr rfl) hlength]
  dsimp only
  rw [if_neg (not_not.mpr hopens)]
  split
  · next message hmessage =>
    unfold sasDigest at hmessage
    rw [if_neg (by simp [phone_draw_length hw.justified hdrawn, hlength])] at hmessage
    cases hmessage
  · next digest hdigest =>
    rw [sasPattern_eq]
    cases hpattern : sas_pattern s.blake2s o.fuel digest with
    | none => exact ⟨⟨hw.justified, hw.grows, hw.entered⟩, trivial, fun e heq => (by cases heq)⟩
    | some pattern =>
      have hallowed : Allowed s (.PhoneDerives (ints pattern)) p.log := by
        refine ⟨phoneRandom, record.payload, o.fuel, digest, ⟨record, hopened, htype, rfl⟩, hopens ▸ hheld, hdrawn, hdigest, ?_⟩
        rw [sasPattern_eq, hpattern]
        rfl
      have hnoted := writes_note hw rfl hallowed
      refine keeps_sending hnoted (newRepairs_known List.mem_cons_self (fun e hmem => ?_) _)
      rcases List.mem_cons.1 hmem with heq | hmem
      · cases heq
      · exact hcompares e hmem

/-! ## The comparison -/

theorem next_frames (repairs : V5SendQueue Quality) (now : Int) (window : Nat) :
    (repairs.next now window).2.capacity = repairs.capacity ∧ (repairs.next now window).2.tail = repairs.tail := by
  unfold V5SendQueue.next
  dsimp only
  split
  · exact ⟨rfl, rfl⟩
  · split <;> exact ⟨rfl, rfl⟩

/-- An empty queue that never held a frame has nothing to send. -/
theorem next_unprobed {repairs : V5SendQueue Quality} (htail : repairs.tail = 0) (himmediate : repairs.immediate = 0) (now : Int)
    (window : Nat) : repairs.next now window = (none, repairs.settle window) ∧ (repairs.settle window).immediate = 0 := by
  have hsettled : (repairs.settle window).immediate = 0 := by
    simp [V5SendQueue.settle, htail, himmediate, V5SendQueue.skipSent]
  have hempty : (repairs.settle window).tail = 0 := htail
  refine ⟨?_, hsettled⟩
  unfold V5SendQueue.next
  dsimp only
  rw [if_neg (fun hc => absurd (hsettled ▸ hc.1) (Nat.not_lt_zero _)), if_neg]
  rw [hempty, Nat.zero_min]
  exact Nat.not_lt_zero _

theorem Sent.trans {p' p'' : Phone} (h : Sent s log p p') (h' : Sent s log p' p'') : Sent s log p p'' :=
  ⟨h'.writes, h.grows.trans h'.grows⟩

/-- Each turn sends a reply, which is fine where the host probes at all. -/
theorem keeps_sendRepairs {replying : Nat → Replying} {next : Int → V5SendQueue Quality → Phone → Phone} {seen fuel : Nat} {now : Int}
    {repairs : V5SendQueue Quality} (hw : PhoneWrites s log p) (hqueued : Queued s seen repairs)
    (hnext : ∀ now repairs p', Sent s log p p' → Queued s seen repairs →
      PhoneKeeps s late log (next now repairs p')) :
    PhoneKeeps s late log (p.sendRepairs s replying next fuel now repairs) := by
  induction fuel generalizing p now repairs with
  | zero => exact hnext _ _ _ (.refl hw) hqueued
  | succ fuel ih =>
    obtain ⟨hcapacity, htail⟩ := next_frames repairs now MAX_HOST_WINDOW
    cases htransport : s.transport with
    | Usb =>
      obtain ⟨hempty, himmediate⟩ := hqueued.unprobed htransport
      obtain ⟨hnone, hsettled⟩ := next_unprobed hempty himmediate now MAX_HOST_WINDOW
      rw [sendRepairs, hnone]
      exact hnext _ _ _ (.refl hw) ⟨hqueued.capacity, hqueued.bounded, fun _ => ⟨hempty, hsettled⟩⟩
    | Wifi =>
      have hwired : s.transport ≠ .Usb := by rw [htransport]; decide
      have hpassed : Queued s seen (repairs.next now MAX_HOST_WINDOW).2 :=
        ⟨hcapacity.trans hqueued.capacity, htail ▸ hqueued.bounded, fun husb => absurd husb hwired⟩
      rw [sendRepairs]
      generalize repairs.next now MAX_HOST_WINDOW = step at hpassed ⊢
      obtain ⟨repair | repair, passed⟩ := step
      · exact hnext _ _ _ (.refl hw) hpassed
      · have hremoved : Queued s seen passed.removeFirst :=
          ⟨hpassed.capacity, hpassed.bounded, fun husb => absurd husb hwired⟩
        refine keeps_quality_reply htransport hw fun p' hsent => ?_
        exact ih hsent.writes hremoved fun now repairs p'' hsent' => hnext now repairs p'' (hsent.trans hsent')

theorem keeps_confirmAgain (hw : PhoneWrites s log p) {c : Matching} (hc : c.Known s p.log) (o : SendingHalf) (now : Int) :
    PhoneKeeps s late log (p.confirmAgain s o now c) := by
  unfold confirmAgain
  split
  · next hconfirmed =>
    refine keeps_redundant hw (fun log' number hsub => ?_) fun p' hsent => ?_
    · exact .confirm c.expectedPattern (hsub hc.derived) (hsub (hc.matched hconfirmed.1)) (sealed_control ..)
    · exact keeps_receiving hsent.writes { hc.mono hsent.grows.sent with }
  · exact keeps_receiving hw hc

theorem keeps_compare (hw : PhoneWrites s log p) {c : Matching} (hc : c.Known s p.log) (o : SendingHalf) (now : Int) :
    PhoneKeeps s late log (p.compare s o now c) := by
  have hcleared : PhoneWrites s log { p with inbox.submittedPattern := none } :=
    ⟨hw.justified, hw.grows, fun pattern h => (by cases h)⟩
  unfold compare
  split
  · next entered hentered hunconfirmed =>
    have hnone := hc.unmatched hunconfirmed
    have hallowed : Allowed s (.PhoneCompares entered) p.log :=
      ⟨hw.entered entered hentered, ⟨c.expectedPattern, hc.derived⟩, hnone⟩
    have hcompared := writes_note hcleared rfl hallowed
    dsimp only
    split
    · next hwrong =>
      have hsent := sent_abort hcompared 2 (by decide) o.failure
      refine ⟨⟨hsent.writes.justified, hsent.writes.grows, hsent.writes.entered⟩, trivial, fun e heq hrejects => ?_⟩
      cases heq
      have hderived := hrejects entered (hsent.grows.sub List.mem_cons_self)
      have hexpected := hsent.grows.sub (List.mem_cons_of_mem _ hc.derived)
      exact absurd (derived_unique hsent.writes.justified hderived hexpected) hwrong
    · next hright =>
      rw [not_not] at hright
      refine keeps_redundant hcompared (fun log' number hsub => ?_) fun p' hsent => ?_
      · exact .confirm entered (hsub (List.mem_cons_of_mem _ (hright ▸ hc.derived))) (hsub List.mem_cons_self) (sealed_control ..)
      · refine keeps_confirmAgain hsent.writes ?_ o now
        have hgrown := hsent.grows.sub
        exact {
          derived := hgrown (List.mem_cons_of_mem _ hc.derived)
          unmatched := fun h => (by cases h)
          matched := fun _ => hright ▸ hgrown List.mem_cons_self
          distinct := hc.distinct
          seen := hc.seen
          queued := hc.queued }
  · exact keeps_confirmAgain hcleared hc o now

theorem keeps_compareSend (hw : PhoneWrites s log p) {c : Matching} (hc : c.Known s p.log) (o : SendingHalf) :
    PhoneKeeps s late log (p.compareSend s o c) := by
  have hrepair : ∀ c : Matching, c.Known s p.log →
      PhoneKeeps s late log (compareSend.repair s o c p) := by
    intro c hc
    refine keeps_sendRepairs hw hc.queued fun now repairs p' hsent hqueued => ?_
    have hknown := hc.mono hsent.grows.sent
    have hrequeued : ({ c with repairs := repairs } : Matching).Known s p'.log := { hknown with queued := hqueued }
    exact keeps_compare hsent.writes hrequeued o now
  unfold compareSend
  split
  · split
    · split
      · exact hrepair _ { hc with }
      · exact keeps_fail hw (accepts_message (by decide))
    · exact hrepair _ hc
  · have hsent := sent_abort hw 3 (by decide) o.failure
    exact keeps_fail hsent.writes (accepts_message (by decide))

/-- The host numbers fewer probes than the queue has room for. -/
theorem seen_few {seen : List UInt64} (hdistinct : seen.Nodup) (hseen : ∀ id ∈ seen, id.toNat < PROBES) : seen.length ≤ PROBES := by
  have hnodup : (seen.map UInt64.toNat).Nodup := hdistinct.map fun _ _ h => UInt64.toNat_inj.1 h
  have hsub : (seen.map UInt64.toNat).toFinset ⊆ Finset.range PROBES := by
    intro n hn
    obtain ⟨id, hmem, rfl⟩ := List.mem_map.1 (List.mem_toFinset.1 hn)
    exact Finset.mem_range.2 (hseen id hmem)
  calc seen.length = (seen.map UInt64.toNat).length := (List.length_map _).symm
    _ = (seen.map UInt64.toNat).toFinset.card := (List.toFinset_card_of_nodup hnodup).symm
    _ ≤ (Finset.range PROBES).card := Finset.card_le_card hsub
    _ = PROBES := Finset.card_range PROBES

/-- A probe is answered, at once or from the queue, unless it was before. -/
theorem keeps_answer (hw : PhoneWrites s log p) {c : Matching} (hc : c.Known s p.log) {record : OpenedRecord} {id : Nat}
    (hwifi : s.transport = .Wifi) (hid : id < PROBES) (hlogical : record.header.logical_id = .ofNat id)
    (hflags : record.header.flags = 0 ∨ record.header.flags = QUALITY_REPAIR_ONLY) (hlength : record.payload.length = 8)
    (o : ReceivingHalf) : PhoneKeeps s late log (p.answer s o c record) := by
  have hwired : s.transport ≠ .Usb := by rw [hwifi]; decide
  have hmasked : record.header.flags &&& ~~~QUALITY_REPAIR_ONLY = 0 := by
    rcases hflags with heq | heq <;> rw [heq] <;> rfl
  have hnumber : record.header.logical_id.toNat < PROBES := by
    rw [hlogical, UInt64.toNat_ofNat']
    exact Nat.lt_of_le_of_lt (Nat.mod_le _ _) hid
  unfold answer
  rw [if_neg (by simp [hwifi, hlength, hmasked])]
  split
  · exact keeps_sending hw hc
  · next hnew =>
    have hdistinct : (record.header.logical_id :: c.qualitySeen).Nodup := List.nodup_cons.2 ⟨hnew, hc.distinct⟩
    have hseen : ∀ n ∈ record.header.logical_id :: c.qualitySeen, n.toNat < PROBES := by
      intro n hn
      rcases List.mem_cons.1 hn with rfl | hn
      · exact hnumber
      · exact hc.seen n hn
    have hpassed : ∀ log' repairs, Grows Event.once p.log log' → Queued s (c.qualitySeen.length + 1) repairs →
        (⟨c.expectedPattern, c.patternConfirmed, c.lastConfirmSend, c.lastInterfaceCheck, repairs,
          record.header.logical_id :: c.qualitySeen⟩ : Matching).Known s log' := by
      intro log' repairs hgrows hqueued
      exact { hc.mono hgrows with distinct := hdistinct, seen := hseen, queued := hqueued }
    dsimp only
    split
    · -- The queue holds at most as many frames as probes were seen.
      have hroom : c.repairs.size < c.repairs.capacity := by
        have hfew := seen_few hdistinct hseen
        rw [List.length_cons] at hfew
        have hbounded := hc.queued.bounded
        rw [hc.queued.capacity, V5SendQueue.size]
        have hprobes : PROBES < MAX_HOST_WINDOW := by decide
        omega
      rw [V5SendQueue.add_some hroom]
      refine keeps_sending hw (hpassed p.log _ (.refl _ _) ?_)
      exact ⟨hc.queued.capacity, Nat.succ_le_succ hc.queued.bounded, fun husb => absurd husb hwired⟩
    · refine keeps_quality_reply hwifi hw fun p' hsent => ?_
      refine keeps_sending hsent.writes (hpassed p'.log _ hsent.grows.sent ?_)
      exact ⟨hc.queued.capacity, Nat.le_succ_of_le hc.queued.bounded, fun husb => absurd husb hwired⟩

/-- Whatever an honest host sent is consumed or ignored, but for a commitment. -/
theorem keeps_compareReceive (hw : PhoneWrites s log p) {received : Option OpenedRecord}
    (hopened : ∀ record, received = some record → .PhoneOpened record ∈ p.log)
    (hlate : ∀ record, received = some record → record.header.message_type = HOST_SAS_COMMITMENT → late) {c : Matching}
    (hc : c.Known s p.log) (o : ReceivingHalf) :
    PhoneKeeps s late log (p.compareReceive s o received c) := by
  cases received with
  | none => exact keeps_sending hw hc
  | some record =>
    have hmem := hopened record rfl
    unfold compareReceive
    dsimp only
    cases opened_by_phone hw.justified hmem with
    | commitment random drawn control =>
      rw [control.session_id, control.message_type, if_neg (by simp), if_neg (by decide), if_neg (by decide), if_neg (by decide),
        if_neg (by decide)]
      exact keeps_fail hw fun _ => hlate record rfl control.message_type
    | reveal random commitment drawn holds control =>
      have hlength := host_draw_length hw.justified drawn
      have hpasses := fun next => hlength ▸ require_control control p next
      rw [control.session_id, control.message_type, if_neg (by simp), if_neg (by decide), if_neg (by decide), if_neg (by decide),
        if_pos rfl, hpasses]
      exact keeps_sending hw hc
    | probe id wifi bounded message_type session_id logical_id flags length =>
      rw [session_id, message_type, if_neg (by simp), if_pos rfl]
      exact keeps_answer hw hc wifi bounded logical_id flags length o
    | complete time persisted control =>
      obtain ⟨pattern, -, hcompared⟩ := persisted_compared hw.justified persisted
      have hconfirmed : c.patternConfirmed = true := by
        by_contra hnot
        exact hc.unmatched (Bool.eq_false_iff.2 hnot) pattern hcompared
      have hpasses := fun next => require_control control p next
      rw [List.length_nil] at hpasses
      rw [control.session_id, control.message_type, if_neg (by simp), if_neg (by decide), if_pos rfl, hpasses,
        if_neg (by rw [hconfirmed]; decide)]
      split
      · exact keeps_fail hw False.elim
      · have hallowed : Allowed s (.PhoneStores s.host_key) p.log :=
          ⟨rfl, ⟨c.expectedPattern, hc.derived, hc.matched hconfirmed⟩, time, persisted⟩
        have hstored := writes_note hw rfl hallowed
        exact ⟨⟨hstored.justified, hstored.grows, hstored.entered⟩, trivial, fun e heq => (by cases heq)⟩
    | abort reason control =>
      rw [control.session_id, control.message_type, if_neg (by simp), if_neg (by decide), if_neg (by decide), if_pos rfl]
      exact keeps_fail hw (accepts_message (by decide))

/-! ## The halves -/

/-- A phone that complained before is one that does. -/
theorem keeps_same {t : State} (ht : Inv s t)
    (hbefore : ∀ e, t.phone_phase = .Ended (.error e) → PhoneRejects t.log e → late) :
    PhoneKeeps s late t.log t.phone :=
  ⟨⟨ht.justified, .refl _ _, ht.entered⟩, ht.phone, hbefore⟩

theorem keeps_start {t : State} (ht : Inv s t)
    (hbefore : ∀ e, t.phone_phase = .Ended (.error e) → PhoneRejects t.log e → late) (o : ReceivingHalf) :
    PhoneKeeps s late t.log (t.phone.start s o) := by
  have hw : PhoneWrites s t.log t.phone := ⟨ht.justified, .refl _ _, ht.entered⟩
  have hknown : t.phone.phase.Known s t.log := ht.phone
  unfold start
  split
  · next heq =>
    rw [heq] at hknown
    exact keeps_commit hw hknown.1 hknown.2 o
  · exact keeps_same ht hbefore

theorem keeps_send {t : State} (ht : Inv s t) (hbefore : ∀ e, t.phone_phase = .Ended (.error e) → PhoneRejects t.log e → late) (o : SendingHalf) :
    PhoneKeeps s late t.log (t.phone.send s o) := by
  have hw : PhoneWrites s t.log t.phone := ⟨ht.justified, .refl _ _, ht.entered⟩
  have hknown : t.phone.phase.Known s t.log := ht.phone
  unfold send
  split
  · next phoneRandom phoneCommit w heq =>
    rw [heq] at hknown
    obtain ⟨hdrawn, hcommit, hcompares⟩ := hknown
    have hloop : ∀ log', Grows Event.once t.phone.log log' →
        ∀ w, (PhoneLoop.Commitment phoneRandom phoneCommit w).Known s log' :=
      fun log' hgrows w => ⟨hgrows.sub hdrawn, hcommit, fun e hmem => hcompares e (hgrows.mine _ hmem rfl)⟩
    refine keeps_waitSend hw hloop (fun log' number hsub => ?_) w
    rw [hcommit]
    exact .commitment phoneRandom (hsub hdrawn) (sealed_control ..)
  · next phoneRandom hostCommit w heq =>
    rw [heq] at hknown
    obtain ⟨hdrawn, hheld, hcompares⟩ := hknown
    have hloop : ∀ log', Grows Event.once t.phone.log log' →
        ∀ w, (PhoneLoop.Reveal phoneRandom hostCommit w).Known s log' :=
      fun log' hgrows w => ⟨hgrows.sub hdrawn, hheld.mono hgrows.sub, fun e hmem => hcompares e (hgrows.mine _ hmem rfl)⟩
    refine keeps_waitSend hw hloop (fun log' number hsub => ?_) w
    exact .reveal phoneRandom hostCommit (hsub hdrawn) (hheld.mono hsub) (sealed_control ..)
  · next c heq =>
    rw [heq] at hknown
    exact keeps_compareSend hw hknown o
  · exact keeps_same ht hbefore

/-- The phone's receive, of a record that was just noted as opened if there is one. -/
theorem keeps_receive {t : State} (ht : Inv s t) {loop : PhoneLoop} (hphase : t.phone_phase = .Receiving loop) {log' : List Event}
    (hw : PhoneWrites s t.log ⟨t.phone_phase, t.inbox, log'⟩) (honce : Grows Event.once t.log log') (o : ReceivingHalf)
    {received : Except String (Option OpenedRecord)}
    (hopened : ∀ record, received = .ok (some record) → .PhoneOpened record ∈ log')
    (hlate : ∀ record c, received = .ok (some record) → loop = .Comparing c →
      record.header.message_type = HOST_SAS_COMMITMENT → late) :
    PhoneKeeps s late t.log (receive s o received ⟨t.phone_phase, t.inbox, log'⟩) := by
  have hknown : t.phone_phase.Known s log' := ht.phone.mono honce
  rw [hphase] at hknown hw ⊢
  have hloop : loop.Known s log' := hknown
  unfold receive
  cases received with
  | error message => exact keeps_fail hw (accepts_socket message)
  | ok record =>
    have hmem : ∀ opened, record = some opened → .PhoneOpened opened ∈ log' := fun opened hsome => hopened opened (by rw [hsome])
    cases loop with
    | Commitment phoneRandom phoneCommit w =>
      refine keeps_waitReceive hw hloop fun opened hsome htype => ?_
      exact keeps_reveal hw hloop.1 hloop.2.2 (hmem opened hsome) htype o
    | Reveal phoneRandom hostCommit w =>
      refine keeps_waitReceive hw hloop fun opened hsome htype => ?_
      exact keeps_derive hw hloop.1 hloop.2.1 hloop.2.2 (hmem opened hsome) htype o
    | Comparing c =>
      exact keeps_compareReceive hw hmem (fun opened hsome htype => hlate opened c (by rw [hsome]) rfl htype) hloop o

theorem keeps_submit {t : State} (ht : Inv s t)
    (hbefore : ∀ e, t.phone_phase = .Ended (.error e) → PhoneRejects t.log e → late) (pattern : List Int) :
    PhoneKeeps s late t.log (submitPairingPattern pattern (t.phone.note (.Enters pattern))) := by
  have hgrows : Grows Event.once t.log (.Enters pattern :: t.log) := (Grows.refl _ _).cons rfl
  have hbegun : PhoneWrites s t.log t.phone := ⟨ht.justified, .refl _ _, ht.entered⟩
  have hw := writes_note hbegun (e := .Enters pattern) rfl trivial
  have hafter : ∀ e, t.phone_phase = .Ended (.error e) → PhoneRejects (.Enters pattern :: t.log) e → late :=
    fun e heq hrejects => hbefore e heq (hrejects.mono hgrows)
  unfold submitPairingPattern
  split
  · exact ⟨hw, ht.phone.mono hgrows, hafter⟩
  · refine ⟨⟨hw.justified, hw.grows, fun submitted hsome => ?_⟩, ht.phone.mono hgrows, hafter⟩
    cases hsome
    exact List.mem_cons_self

theorem keeps_close {t : State} (ht : Inv s t)
    (hbefore : ∀ e, t.phone_phase = .Ended (.error e) → PhoneRejects t.log e → late) (failure : SendFailure) :
    PhoneKeeps s late t.log (t.phone.close s failure) := by
  have hw : PhoneWrites s t.log t.phone := ⟨ht.justified, .refl _ _, ht.entered⟩
  have hsent := sent_abort hw 1 (by decide) failure
  have hphase : (t.phone.sendAuthenticatedAbort s 1 failure).phase = t.phone_phase := by
    rcases failure with - | ⟨- | -, message⟩ <;> rfl
  refine ⟨⟨hsent.writes.justified, hsent.writes.grows, hsent.writes.entered⟩, ?_, fun e heq hrejects => ?_⟩
  · show (t.phone.sendAuthenticatedAbort s 1 failure).phase.Known s _
    rw [hphase]
    exact ht.phone.mono hsent.grows.sent
  · exact hbefore e (hphase.symm.trans heq) (hrejects.mono hsent.grows.sent)

theorem keeps_cancel {t : State} (ht : Inv s t)
    (hbefore : ∀ e, t.phone_phase = .Ended (.error e) → PhoneRejects t.log e → late) (failure : SendFailure) :
    PhoneKeeps s late t.log (t.phone.cancelPairing s failure) := by
  unfold cancelPairing
  split
  · exact keeps_close ht hbefore failure
  · exact keeps_same ht hbefore

end Phone
end Trackpad.Pairing
