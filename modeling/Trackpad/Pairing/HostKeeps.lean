import Trackpad.Pairing.Knowledge
/-!
# What a step of the host keeps

Whatever half of an iteration runs, the events it adds are allowed, the host knows what its new phase says, and it ends
with no complaint about a record.
-/

namespace Trackpad.Pairing

open V5Host Sas Logs

variable {s : Session} {log : List Event}

/-! ## What a justified log says -/

section Log

variable (h : Justified (Allowed s) log)
include h

theorem host_record {r : OpenedRecord} (hmem : .HostSent r ∈ log) : HostRecord s log r := by
  obtain ⟨older, hallowed, -, hsub⟩ := h.before hmem
  exact HostRecord.mono hsub hallowed

theorem phone_record {r : OpenedRecord} (hmem : .PhoneSent r ∈ log) : PhoneRecord s log r := by
  obtain ⟨older, hallowed, -, hsub⟩ := h.before hmem
  exact PhoneRecord.mono hsub hallowed

theorem opened_by_host {r : OpenedRecord} (hmem : .HostOpened r ∈ log) : PhoneRecord s log r := by
  obtain ⟨older, hallowed, -, hsub⟩ := h.before hmem
  exact phone_record h (hsub hallowed)

theorem opened_by_phone {r : OpenedRecord} (hmem : .PhoneOpened r ∈ log) : HostRecord s log r := by
  obtain ⟨older, hallowed, -, hsub⟩ := h.before hmem
  exact host_record h (hsub hallowed)

theorem phone_draw_unique {a b : Bytes} (ha : .PhoneDraws a ∈ log) (hb : .PhoneDraws b ∈ log) : a = b := by
  have hfirst : ∀ e older, (∃ r, e = .PhoneDraws r) → Allowed s e older → ∀ e' ∈ older, ¬ ∃ r, e' = .PhoneDraws r := by
    rintro e older ⟨r, rfl⟩ hallowed e' hmem ⟨r', rfl⟩
    exact hallowed.2 r' hmem
  exact Event.PhoneDraws.inj (h.once (fun e => ∃ r, e = .PhoneDraws r) hfirst ha hb ⟨a, rfl⟩ ⟨b, rfl⟩)

theorem host_draw_unique {a b : Bytes} (ha : .HostDraws a ∈ log) (hb : .HostDraws b ∈ log) : a = b := by
  have hfirst : ∀ e older, (∃ r, e = .HostDraws r) → Allowed s e older → ∀ e' ∈ older, ¬ ∃ r, e' = .HostDraws r := by
    rintro e older ⟨r, rfl⟩ hallowed e' hmem ⟨r', rfl⟩
    exact hallowed.2 r' hmem
  exact Event.HostDraws.inj (h.once (fun e => ∃ r, e = .HostDraws r) hfirst ha hb ⟨a, rfl⟩ ⟨b, rfl⟩)

/-- A commitment the host holds is the phone's. -/
theorem held_by_host {commitment : Bytes} (hholds : HostHolds log commitment) :
    ∃ random, .PhoneDraws random ∈ log ∧ commitment = (sas_commit s.blake2s 1 s.handshake_hash random).val := by
  obtain ⟨r, hmem, htype, rfl⟩ := hholds
  cases opened_by_host h hmem with
  | commitment random drawn control => exact ⟨random, drawn, control.payload⟩
  | reveal random commitment drawn holds control => exact absurd (htype.symm.trans control.message_type) (by decide)
  | confirm pattern derived compared control => exact absurd (htype.symm.trans control.message_type) (by decide)
  | reply wifi message_type session_id flags decodes => exact absurd (htype.symm.trans message_type) (by decide)
  | abort reason reasons control => exact absurd (htype.symm.trans control.message_type) (by decide)

theorem revealed_to_host {r : OpenedRecord} (hmem : .HostOpened r ∈ log) (htype : r.header.message_type = PHONE_SAS_REVEAL) :
    .PhoneDraws r.payload ∈ log ∧ Control .PhoneToHost PHONE_SAS_REVEAL r.payload r := by
  cases opened_by_host h hmem with
  | commitment random drawn control => exact absurd (htype.symm.trans control.message_type) (by decide)
  | reveal random commitment drawn holds control => exact control.payload ▸ ⟨drawn, control.payload ▸ control⟩
  | confirm pattern derived compared control => exact absurd (htype.symm.trans control.message_type) (by decide)
  | reply wifi message_type session_id flags decodes => exact absurd (htype.symm.trans message_type) (by decide)
  | abort reason reasons control => exact absurd (htype.symm.trans control.message_type) (by decide)

theorem phone_draw_length {random : Bytes} (hmem : .PhoneDraws random ∈ log) : random.length = 32 := by
  obtain ⟨older, hallowed, -⟩ := h.before hmem
  exact hallowed.1

theorem host_draw_length {random : Bytes} (hmem : .HostDraws random ∈ log) : random.length = 32 := by
  obtain ⟨older, hallowed, -⟩ := h.before hmem
  exact hallowed.1

end Log

/-! ## What a half may end with -/

theorem accepts_cancelled : ¬ HostRejects .Cancelled := id
theorem accepts_timed_out (message : String) : ¬ HostRejects (.TimedOut message) := id
theorem accepts_interface (message : String) : ¬ HostRejects (.Interface message) := id
theorem accepts_io (e : IoError) : ¬ HostRejects (.Io e) := id

/-- A log the host wrote to. -/
structure HostWrites (s : Session) (log log' : List Event) : Prop where
  justified : Justified (Allowed s) log'
  grows : Grows Event.by_phone log log'

structure HostKeeps (s : Session) (log : List Event) (h : Host) : Prop where
  writes : HostWrites s log h.log
  known : h.phase.Known s h.log
  tolerates : s.Documented → ∀ e, h.phase = .Ended (.error e) → ¬ HostRejects e

theorem HostWrites.note {log' : List Event} (h : HostWrites s log log') {e : Event} (hother : e.by_phone = false)
    (hallowed : Allowed s e log') : HostWrites s log (e :: log') :=
  ⟨⟨hallowed, h.justified⟩, h.grows.cons hother⟩

namespace Host

variable {h : Host} {next : Host → Host} {o : Observed}

theorem keeps_reject (hw : HostWrites s log h.log) {e : HostV5Error} (he : s.Documented → ¬ HostRejects e) :
    HostKeeps s log (h.fail e) where
  writes := hw
  known := trivial
  tolerates hlevel e' heq := by
    cases heq
    exact he hlevel

theorem keeps_fail (hw : HostWrites s log h.log) {e : HostV5Error} (he : ¬ HostRejects e) : HostKeeps s log (h.fail e) :=
  keeps_reject hw fun _ => he

theorem keeps_polling (hw : HostWrites s log h.log) {loop : HostLoop} (hknown : loop.Known s h.log) :
    HostKeeps s log (h.go (.Polling loop)) := ⟨hw, hknown, fun _ e heq => (by cases heq)⟩

theorem keeps_receiving (hw : HostWrites s log h.log) {loop : HostLoop} (hknown : loop.Known s h.log) :
    HostKeeps s log (h.go (.Receiving loop)) := ⟨hw, hknown, fun _ e heq => (by cases heq)⟩

theorem log_seal (h : Host) (message_type : UInt8) (logical_id : UInt64) (flags : UInt32) (payload : Bytes) :
    h.log ⊆ (h.seal_record s message_type logical_id flags payload).log := List.subset_cons_self _ _

theorem writes_seal (hw : HostWrites s log h.log) {message_type : UInt8} {logical_id : UInt64} {flags : UInt32}
    {payload : Bytes}
    (hrecord : ∀ number, HostRecord s h.log
      (sealed_record s .HostToPhone number message_type logical_id flags payload)) :
    HostWrites s log (h.seal_record s message_type logical_id flags payload).log := hw.note rfl (hrecord _)

/-- Two copies of an honest record. -/
theorem keeps_redundant (hw : HostWrites s log h.log) {message_type : UInt8} {payload : Bytes}
    (hrecord : ∀ number, HostRecord s h.log (sealed_record s .HostToPhone number message_type 0 0 payload))
    {failure : Option IoError}
    (hnext : ∀ h' : Host, HostWrites s log h'.log → h.log ⊆ h'.log → HostKeeps s log (next h')) :
    HostKeeps s log (h.send_record_redundant s message_type 0 0 payload failure next) := by
  unfold send_record_redundant
  cases failure with
  | some e => exact keeps_fail hw (accepts_io e)
  | none =>
    have hfirst := writes_seal hw hrecord
    have hgrown := log_seal (s := s) h message_type 0 0 payload
    have hsecond := writes_seal hfirst fun number => (hrecord number).mono hgrown
    exact hnext _ hsecond (List.Subset.trans hgrown (log_seal _ _ _ _ _))

theorem keeps_once (hw : HostWrites s log h.log) {message_type : UInt8} {payload : Bytes}
    (hrecord : ∀ number, HostRecord s h.log (sealed_record s .HostToPhone number message_type 0 0 payload))
    {failure : Option IoError}
    (hnext : ∀ h' : Host, HostWrites s log h'.log → h.log ⊆ h'.log → HostKeeps s log (next h')) :
    HostKeeps s log (h.send_record_once s message_type 0 0 payload failure next) := by
  unfold send_record_once
  cases failure with
  | some e => exact keeps_fail hw (accepts_io e)
  | none => exact hnext _ (writes_seal hw hrecord) (List.subset_cons_self _ _)

theorem keeps_abort (hw : HostWrites s log h.log) {reason : Nat} {failure : Option IoError} {e : HostV5Error}
    (he : ¬ HostRejects e) : HostKeeps s log (h.send_abort s reason failure (fail e)) :=
  keeps_redundant hw (fun _ => .abort reason (sealed_control ..)) fun _ hw' _ => keeps_fail hw' he

/-! ## `wait_for_application` -/

theorem keeps_wait_poll (hw : HostWrites s log h.log) {o : Polled} {resume : Waiting → HostLoop}
    (hknown : ∀ w, (resume w).Known s h.log) (w : Waiting) : HostKeeps s log (h.wait_poll s o resume w) := by
  unfold wait_poll
  split
  · have hpolled : HostWrites s log ({ h with inbox := h.inbox.try_recv.2 } : Host).log := hw
    dsimp only
    split
    · exact keeps_abort hpolled accepts_cancelled
    · exact keeps_abort hpolled accepts_cancelled
    all_goals
      split
      · split
        · exact keeps_fail hpolled (accepts_interface _)
        · exact keeps_receiving hpolled (hknown _)
      · exact keeps_receiving hpolled (hknown _)
  · exact keeps_abort hw (accepts_timed_out _)

theorem keeps_wait_receive (hw : HostWrites s log h.log) {received : Option OpenedRecord} {expected_type : UInt8}
    {retry : Option (UInt8 × Bytes)} {resume : Waiting → HostLoop} {next : OpenedRecord → Host → Host}
    (hknown : ∀ w, (resume w).Known s h.log)
    (hretry : ∀ message_type payload, retry = some (message_type, payload) → ∀ h' : Host, h.log ⊆ h'.log →
      (∀ number, HostRecord s h'.log (sealed_record s .HostToPhone number message_type 0 0 payload)) ∧
      ∀ w, (resume w).Known s h'.log)
    (hnext : ∀ record, received = some record → record.header.message_type = expected_type →
      HostKeeps s log (next record h)) (w : Waiting) :
    HostKeeps s log (h.wait_receive s o received expected_type retry resume next w) := by
  have hagain : HostKeeps s log (h.wait_retry s o retry resume w) := by
    unfold wait_retry
    split
    · exact keeps_polling hw (hknown w)
    · next message_type payload =>
      split
      · exact keeps_redundant hw (hretry _ _ rfl h (List.Subset.refl _)).1
          fun h' hw' hsub => keeps_polling hw' ((hretry _ _ rfl h' hsub).2 _)
      · exact keeps_polling hw (hknown w)
  unfold wait_receive
  split
  · exact hagain
  · next record =>
    split
    · next htype => exact hnext record rfl htype.2.2
    · split
      · exact keeps_fail hw accepts_cancelled
      · exact hagain

/-! ## The commitment and the reveal -/

theorem require_control {direction : Direction} {message_type : UInt8} {payload : Bytes} {record : OpenedRecord}
    (hcontrol : Control direction message_type payload record) (h : Host) (next : Host → Host) :
    h.require_pair_record record payload.length next = next h := by
  rw [require_pair_record, hcontrol.session_id, hcontrol.flags, hcontrol.logical_id, hcontrol.payload]
  exact if_neg (by simp)

theorem keeps_commit (hw : HostWrites s log h.log) (hnone : ∀ r, .HostDraws r ∉ h.log) {record : OpenedRecord}
    (hopened : .HostOpened record ∈ h.log) (htype : record.header.message_type = PHONE_SAS_COMMITMENT) :
    HostKeeps s log (h.commit s o record) := by
  have hheld : HostHolds h.log record.payload := ⟨record, hopened, htype, rfl⟩
  have hpasses : ∀ next : Host → Host, h.require_pair_record record 32 next = next h := by
    intro next
    cases opened_by_host hw.justified hopened with
    | commitment random drawn control =>
      have hlength := (sas_commit s.blake2s 1 s.handshake_hash random).property
      exact hlength ▸ require_control control h next
    | reveal random commitment drawn holds control => exact absurd (htype.symm.trans control.message_type) (by decide)
    | confirm pattern derived compared control => exact absurd (htype.symm.trans control.message_type) (by decide)
    | reply wifi message_type session_id flags decodes => exact absurd (htype.symm.trans message_type) (by decide)
    | abort reason reasons control => exact absurd (htype.symm.trans control.message_type) (by decide)
  rw [commit, hpasses]
  split
  · exact keeps_fail hw (fun hne => hne rfl)
  · next host_random _ =>
    have hdrawn := hw.note (e := .HostDraws host_random.val) rfl ⟨host_random.property, hnone⟩
    refine keeps_redundant (h := h.note (.HostDraws host_random.val)) hdrawn (fun number => ?_) fun h' hw' hsub => ?_
    · exact .commitment host_random.val List.mem_cons_self (sealed_control ..)
    · exact keeps_polling hw' ⟨hheld.mono fun e he => hsub (List.mem_cons_of_mem _ he), hsub List.mem_cons_self⟩

theorem known_comparing (hw : HostWrites s log h.log) {o : Observed} {commitment host_random : Bytes} {record : OpenedRecord}
    (hheld : HostHolds h.log commitment) (hdrawn : .HostDraws host_random ∈ h.log) (hopened : .HostOpened record ∈ h.log)
    (htype : record.header.message_type = PHONE_SAS_REVEAL)
    (hopens : commitment = (sas_commit s.blake2s 1 s.handshake_hash record.payload).val) {pattern : List UInt8}
    (hpattern : sas_pattern s.blake2s o.fuel (sas_digest s.blake2s s.handshake_hash record.payload host_random) = some pattern) :
    HostKeeps s log (h.show_pattern o commitment record.payload host_random pattern) := by
  have hrevealed : ∃ r, .HostOpened r ∈ h.log ∧ r.header.message_type = PHONE_SAS_REVEAL ∧ r.payload = record.payload :=
    ⟨record, hopened, htype, rfl⟩
  have hallowed : Allowed s (.HostShows pattern o.now) h.log :=
    ⟨record.payload, host_random, o.fuel, hrevealed, hopens ▸ hheld, hdrawn, hpattern⟩
  have hsub : h.log ⊆ (h.note (.HostShows pattern o.now)).log := List.subset_cons_self _ _
  refine keeps_polling (h := h.note (.HostShows pattern o.now)) (hw.note rfl hallowed) ?_
  exact {
    commitment := hheld.mono hsub
    revealed := ⟨record, hsub hopened, htype, rfl⟩
    drawn := hsub hdrawn
    shown := ⟨pattern, List.mem_cons_self⟩
    confirmed := fun hc => (by cases hc)
    elapsed := fun hc => (by cases hc)
    probes := by simp }

theorem keeps_reveal (hw : HostWrites s log h.log) {commitment host_random : Bytes} {record : OpenedRecord}
    (hheld : HostHolds h.log commitment) (hdrawn : .HostDraws host_random ∈ h.log) (hopened : .HostOpened record ∈ h.log)
    (htype : record.header.message_type = PHONE_SAS_REVEAL) :
    HostKeeps s log (h.reveal s o commitment host_random record) := by
  obtain ⟨hphone, hcontrol⟩ := revealed_to_host hw.justified hopened htype
  obtain ⟨random, hrandom, hopens⟩ := held_by_host hw.justified hheld
  -- The phone draws once, so that its reveal opens its commitment.
  rw [phone_draw_unique hw.justified hrandom hphone] at hopens
  have hpasses : ∀ next : Host → Host, h.require_pair_record record 32 next = next h := by
    intro next
    have hlength := phone_draw_length hw.justified hphone
    exact hlength ▸ require_control hcontrol h next
  rw [reveal, hpasses]
  dsimp only
  rw [if_neg (not_not.mpr hopens)]
  refine keeps_redundant hw (fun number => ?_) fun h' hw' hsub => ?_
  · exact .reveal host_random commitment hdrawn hheld (sealed_control ..)
  · split
    · next pattern hpattern => exact known_comparing hw' (hheld.mono hsub) (hsub hdrawn) (hsub hopened) htype hopens hpattern
    · exact ⟨hw', trivial, fun _ e heq => (by cases heq)⟩

/-! ## The comparison -/

theorem keeps_send_quality_probe (hw : HostWrites s log h.log) {probe_id : Nat} {flags : UInt32}
    (hrecord : ∀ stamp number, HostRecord s h.log (sealed_record s .HostToPhone number HOST_QUALITY_PROBE
      (.ofNat probe_id) flags (LittleEndian.encode 8 stamp)))
    {stamps : Nat × Nat} {failure : Option IoError}
    (hnext : ∀ h' : Host, HostWrites s log h'.log → h.log ⊆ h'.log → HostKeeps s log (next h')) :
    HostKeeps s log (h.send_quality_probe s probe_id flags stamps failure next) := by
  unfold send_quality_probe
  cases failure with
  | some e => exact keeps_fail hw (accepts_io e)
  | none =>
    have hfirst := writes_seal hw (hrecord stamps.1)
    have hgrown := log_seal (s := s) h HOST_QUALITY_PROBE (.ofNat probe_id) flags (LittleEndian.encode 8 stamps.1)
    have hsecond := writes_seal hfirst fun number => (hrecord stamps.2 number).mono hgrown
    exact hnext _ hsecond (List.Subset.trans hgrown (log_seal _ _ _ _ _))

theorem keeps_probe (hw : HostWrites s log h.log) {o : Polled} {c : Comparison} (hc : c.Known s h.log) :
    HostKeeps s log (h.probe s o c) := by
  have helapsed : (s.transport = .Usb || decide (o.now - c.quality_started ≥ QUALITY_DURATION)) = true →
      s.transport = .Wifi → c.quality_started + QUALITY_DURATION ≤ o.now := by
    intro hdone hwifi
    rw [hwifi] at hdone
    have hlate : QUALITY_DURATION ≤ o.now - c.quality_started := by simpa using hdone
    have hpos : 0 < QUALITY_DURATION := by decide
    omega
  have hpolled : ∀ log', h.log ⊆ log' → ({ c with
      now := o.now
      quality_done := s.transport = .Usb || decide (o.now - c.quality_started ≥ QUALITY_DURATION) } : Comparison).Known s log' :=
    fun log' hsub => { hc.mono hsub with elapsed := helapsed }
  unfold probe
  dsimp only
  split
  · next hdue =>
    obtain ⟨hwifi, hearly, hnow⟩ := hdue
    have hbounded : c.next_probe_id < PROBES := by
      have hprobes := hc.probes
      have hshort : o.now - c.quality_started < QUALITY_DURATION := by simpa [hwifi] using hearly
      rw [hprobes] at hnow
      have hticks : c.next_probe_id * QUALITY_INTERVAL < QUALITY_DURATION := by omega
      rw [PROBES]
      exact (Nat.lt_div_iff_mul_lt' (by decide) _).2 (by rwa [Nat.mul_comm])
    have hflags : (if c.next_probe_id % 10 = 9 then QUALITY_REPAIR_ONLY else 0) = 0 ∨
        (if c.next_probe_id % 10 = 9 then QUALITY_REPAIR_ONLY else 0) = QUALITY_REPAIR_ONLY := by
      split
      · exact .inr rfl
      · exact .inl rfl
    refine keeps_send_quality_probe hw (fun stamp number => ?_) fun h' hw' hsub => ?_
    · exact .probe c.next_probe_id hwifi hbounded rfl rfl rfl hflags (LittleEndian.encode_length 8 stamp)
    · refine keeps_receiving hw' { hpolled _ hsub with probes := ?_ }
      dsimp only
      rw [hc.probes]
      ring
  · exact keeps_receiving hw (hpolled _ (List.Subset.refl _))

theorem keeps_compare_poll (hw : HostWrites s log h.log) {o : Polled} {c : Comparison} (hc : c.Known s h.log) :
    HostKeeps s log (h.compare_poll s o c) := by
  have hpolled : HostWrites s log ({ h with inbox := h.inbox.try_recv.2 } : Host).log := hw
  have hcheck : ∀ c : Comparison, c.Known s h.log →
      HostKeeps s log (compare_poll.check s o c { h with inbox := h.inbox.try_recv.2 }) := by
    intro c hc
    unfold compare_poll.check
    split
    · split
      · exact keeps_fail hpolled (accepts_interface _)
      · exact keeps_probe hpolled { hc with }
    · exact keeps_probe hpolled hc
  unfold compare_poll
  split
  · dsimp only
    split
    · exact keeps_abort hpolled accepts_cancelled
    · exact keeps_fail hpolled accepts_cancelled
    · exact hcheck _ { hc with }
    · exact hcheck _ hc
  · exact keeps_abort hw (accepts_timed_out _)

theorem keeps_persist (hw : HostWrites s log h.log) {c : Comparison} (hc : c.Known s h.log) :
    HostKeeps s log (h.persist s o c) := by
  unfold persist persist_pairing_if_authorized
  split
  · next e herror =>
    split at herror
    · cases herror
    · split at herror
      · cases herror
        exact keeps_fail hw id
      · cases herror
  · exact keeps_polling hw hc
  · next hpersisted =>
    split at hpersisted
    · cases hpersisted
    · next hauthorized =>
      simp only [Bool.or_eq_true, Bool.not_eq_true', not_or, Bool.not_eq_false] at hauthorized
      obtain ⟨pattern, hshown⟩ := hc.shown
      have hallowed : Allowed s (.HostPersists s.phone_key c.now) h.log :=
        ⟨rfl, hc.confirmed hauthorized.1.1, pattern, c.quality_started, hshown, hc.elapsed hauthorized.2⟩
      have hnoted := hw.note rfl hallowed
      have hrecord : ∀ log' number, .HostPersists s.phone_key c.now ∈ log' →
          HostRecord s log' (sealed_record s .HostToPhone number HOST_PAIR_COMPLETE 0 0 []) :=
        fun log' number hmem => .complete c.now hmem (sealed_control ..)
      refine keeps_redundant (h := h.note (.HostPersists s.phone_key c.now)) hnoted
        (fun number => hrecord _ number List.mem_cons_self) fun h' hw' hsub => ?_
      refine keeps_once hw' (fun number => hrecord _ number (hsub List.mem_cons_self)) fun h'' hw'' _ => ?_
      exact ⟨hw'', trivial, fun _ e heq => (by cases heq)⟩

theorem keeps_settle (hw : HostWrites s log h.log) {c : Comparison} (hc : c.Known s h.log) :
    HostKeeps s log (h.settle s o c) := by
  unfold settle
  split
  · refine keeps_redundant hw (fun number => ?_) fun h' hw' hsub => ?_
    · exact .reveal c.host_random c.phone_commitment hc.drawn hc.commitment (sealed_control ..)
    · exact keeps_persist hw' { hc.mono hsub with }
  · exact keeps_persist hw hc

theorem require_abort {reason : Nat} (hreason : 1 ≤ reason ∧ reason ≤ 4) {record : OpenedRecord}
    (hcontrol : Control .PhoneToHost PHONE_AUTH_ABORT (LittleEndian.encode 2 reason) record) (h : Host) (next : Host → Host) :
    h.require_pair_abort record next = next h := by
  have hread : (read_u16 (LittleEndian.encode 2 reason) 0).toNat = reason := by
    obtain ⟨hlow, hhigh⟩ := hreason
    interval_cases reason <;> rfl
  have hpasses := fun next => require_control hcontrol h next
  rw [LittleEndian.encode_length] at hpasses
  rw [require_pair_abort, hpasses, hcontrol.payload]
  dsimp only
  rw [hread, if_neg (not_not.mpr hreason)]

/-- Whatever an honest phone sent is consumed or ignored. -/
theorem keeps_compare_receive (hw : HostWrites s log h.log) {received : Option OpenedRecord}
    (hopened : ∀ record, received = some record → .HostOpened record ∈ h.log) {c : Comparison} (hc : c.Known s h.log) :
    HostKeeps s log (h.compare_receive s o received c) := by
  have hsettled := keeps_settle (o := o) hw hc
  cases received with
  | none => exact hsettled
  | some record =>
    have hmem := hopened record rfl
    unfold compare_receive
    dsimp only
    cases opened_by_host hw.justified hmem with
    | commitment random drawn control =>
      obtain ⟨random', drawn', hheld⟩ := held_by_host hw.justified hc.commitment
      have hsame : record.payload = c.phone_commitment := by
        rw [control.payload, hheld, phone_draw_unique hw.justified drawn drawn']
      have hlength := (sas_commit s.blake2s 1 s.handshake_hash random).property
      have hpasses := fun next => hlength ▸ require_control control h next
      rw [control.session_id, control.flags, control.message_type, if_neg (by simp), if_neg (by decide),
        if_neg (fun hreply => absurd hreply.1 (by decide)), if_pos rfl, hpasses, if_neg (not_not.mpr hsame)]
      exact hsettled
    | reveal random commitment drawn holds control =>
      obtain ⟨r, hr, htype, hpayload⟩ := hc.revealed
      have hsame : record.payload = c.phone_random := by
        rw [control.payload, ← hpayload]
        exact phone_draw_unique hw.justified drawn (revealed_to_host hw.justified hr htype).1
      have hlength := phone_draw_length hw.justified drawn
      have hpasses := fun next => hlength ▸ require_control control h next
      rw [control.session_id, control.flags, control.message_type, if_neg (by simp), if_neg (by decide),
        if_neg (fun hreply => absurd hreply.1 (by decide)), if_neg (by decide), if_pos rfl, hpasses,
        if_neg (not_not.mpr hsame)]
      exact hsettled
    | confirm pattern derived compared control =>
      rw [control.session_id, control.flags, control.message_type, if_neg (by simp), if_pos rfl]
      have hpasses := fun next => require_control control h next
      rw [List.length_nil] at hpasses
      rw [hpasses]
      exact keeps_settle hw { hc with confirmed := fun _ => ⟨record, hmem, control⟩ }
    | reply wifi message_type session_id flags decodes =>
      rw [session_id, flags, message_type, if_neg (by simp), if_neg (by decide), if_pos ⟨rfl, wifi⟩]
      split
      · next e herror =>
        refine keeps_reject hw fun hlevel => ?_
        obtain ⟨reply, hreply⟩ := decodes hlevel
        cases herror.symm.trans hreply
      · exact hsettled
    | abort reason reasons control =>
      rw [control.session_id, control.flags, control.message_type, if_neg (by simp), if_neg (by decide),
        if_neg (fun hreply => absurd hreply.1 (by decide)), if_neg (by decide), if_neg (by decide), if_pos rfl,
        require_abort reasons control]
      exact keeps_fail hw accepts_cancelled

/-! ## The halves -/

theorem keeps_poll {t : State} (ht : Inv s t) (o : Polled) : HostKeeps s t.log (t.host.poll s o) := by
  have hw : HostWrites s t.log t.host.log := ⟨ht.justified, .refl _ _⟩
  have hknown : t.host.phase.Known s t.log := ht.host
  unfold poll
  split
  · next w heq =>
    rw [heq] at hknown
    have hloop : ∀ w, (HostLoop.Commitment w).Known s t.host.log := fun _ => hknown
    exact keeps_wait_poll hw hloop w
  · next phone_commitment host_random w heq =>
    rw [heq] at hknown
    have hloop : ∀ w, (HostLoop.Reveal phone_commitment host_random w).Known s t.host.log := fun _ => hknown
    exact keeps_wait_poll hw hloop w
  · next c heq =>
    rw [heq] at hknown
    exact keeps_compare_poll hw hknown
  · exact ⟨hw, ht.host, ht.tolerated⟩

/-- The host's receive, of a record that was just noted as opened if there is one. -/
theorem keeps_receive {t : State} (ht : Inv s t) {loop : HostLoop} (hphase : t.host_phase = .Receiving loop)
    {log' : List Event} (hw : HostWrites s t.log log') (hdraws : ∀ r, .HostDraws r ∈ log' → .HostDraws r ∈ t.log)
    (o : Observed) {received : Except IoError (Option OpenedRecord)}
    (hopened : ∀ record, received = .ok (some record) → .HostOpened record ∈ log') :
    HostKeeps s t.log (receive s o received ⟨t.host_phase, t.commands, log'⟩) := by
  have hwrites : HostWrites s t.log (⟨t.host_phase, t.commands, log'⟩ : Host).log := hw
  have hknown : t.host_phase.Known s t.log := ht.host
  have hsub := hw.grows.sub
  rw [hphase] at hknown hwrites ⊢
  unfold receive
  cases received with
  | error e => exact keeps_fail hwrites (accepts_io e)
  | ok record =>
    have hmem : ∀ opened, record = some opened → .HostOpened opened ∈ log' := fun opened hsome => hopened opened (by rw [hsome])
    cases loop with
    | Commitment w =>
      have hnone : ∀ r, .HostDraws r ∉ log' := fun r hmem => hknown r (hdraws r hmem)
      have hloop : ∀ w, (HostLoop.Commitment w).Known s log' := fun _ => hnone
      refine keeps_wait_receive hwrites hloop (fun _ _ hretry => (by cases hretry)) (fun opened hsome htype => ?_) w
      exact keeps_commit hwrites hnone (hmem opened hsome) htype
    | Reveal phone_commitment host_random w =>
      have hloop : ∀ log'', log' ⊆ log'' → ∀ w, (HostLoop.Reveal phone_commitment host_random w).Known s log'' :=
        fun log'' hsub' _ => ⟨(hknown.1.mono hsub).mono hsub', hsub' (hsub hknown.2)⟩
      refine keeps_wait_receive hwrites (hloop log' (List.Subset.refl _)) ?_ (fun opened hsome htype => ?_) w
      · intro message_type payload hretry h' hsub'
        cases hretry
        exact ⟨fun number => .commitment host_random (hsub' (hsub hknown.2)) (sealed_control ..), hloop h'.log hsub'⟩
      · exact keeps_reveal hwrites (hknown.1.mono hsub) (hsub hknown.2) (hmem opened hsome) htype
    | Comparing c => exact keeps_compare_receive hwrites hmem (Comparison.Known.mono hsub hknown)

end Host
end Trackpad.Pairing
