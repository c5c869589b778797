import Trackpad.Host
import Trackpad.Phone.Transport
/-!
# What the phone keeps

While a session runs, the send queue holds the frames from the first unacknowledged one on, each with
the content it was queued with, and every record sent carries the session's id and either a frame as
it was queued or a ping.
-/

namespace Trackpad.V5Transport

/-- What was queued, the last first. -/
def history : List PhoneEvent → List (Cause × Content)
  | [] => []
  | .queued cause content :: earlier => (cause, content) :: history earlier
  | .offered _ :: earlier => history earlier

/-- The content queued as `sequence`. -/
def contentAt (trace : List PhoneEvent) (sequence : Nat) : Option Content := (history trace).reverse[sequence]?.map Prod.snd

theorem contentAt_lt {trace : List PhoneEvent} {sequence : Nat} {content : Content} (h : contentAt trace sequence = some content) :
    sequence < (history trace).length := by
  obtain ⟨pair, hpair, -⟩ := Option.map_eq_some_iff.1 h
  have hlt := (List.getElem?_eq_some_iff.1 hpair).1
  rwa [List.length_reverse] at hlt

theorem contentAt_queued {trace : List PhoneEvent} (cause : Cause) (content : Content) :
    contentAt (.queued cause content :: trace) (history trace).length = some content := by
  simp [contentAt, history]

/-- Queueing more leaves what was queued. -/
theorem contentAt_cons {trace : List PhoneEvent} {sequence : Nat} {content : Content} (h : contentAt trace sequence = some content)
    (e : PhoneEvent) : contentAt (e :: trace) sequence = some content := by
  have hlt := contentAt_lt h
  cases e with
  | offered sample => exact h
  | queued cause content' =>
    rw [contentAt, history, List.reverse_cons, List.getElem?_append_left (by rwa [List.length_reverse])]
    exact h

theorem contentAt_cons_cases {trace : List PhoneEvent} {cause : Cause} {content content' : Content} {sequence : Nat}
    (h : contentAt (.queued cause content :: trace) sequence = some content') :
    contentAt trace sequence = some content' ∨ sequence = (history trace).length ∧ content' = content := by
  have hlt := contentAt_lt h
  simp only [history, List.length_cons] at hlt
  rcases Nat.lt_succ_iff_lt_or_eq.1 hlt with hlt | rfl
  · left
    rwa [contentAt, history, List.reverse_cons, List.getElem?_append_left (by rwa [List.length_reverse])] at h
  · right
    rw [contentAt_queued] at h
    exact ⟨rfl, (Option.some.inj h).symm⟩

/-! ## Records -/

/-- A record the phone may have in flight. -/
inductive Honest (sid : UInt64) (trace : List PhoneEvent) : RecordHeader × Bytes → Prop
  | touch {header : RecordHeader} {content : Content} (sendNanos echoHostSendNanos controlReceiveNanos : UInt64)
      (direction : header.direction = .PhoneToHost) (message_type : header.message_type = PHONE_TOUCH)
      (session : header.session_id = sid) (flags : header.flags = 0)
      (queued : contentAt trace header.logical_id.toNat = some content) :
      Honest sid trace (header, content.payload sendNanos echoHostSendNanos controlReceiveNanos)
  | ping {header : RecordHeader} {payload : Bytes} (message_type : header.message_type = PHONE_PING)
      (session : header.session_id = sid) (flags : header.flags = 0) (length : header.payload_length = 0) :
      Honest sid trace (header, payload)
  | abort {header : RecordHeader} {payload : Bytes} (message_type : header.message_type = PHONE_AUTH_ABORT) :
      Honest sid trace (header, payload)

theorem Honest.cons {sid : UInt64} {trace : List PhoneEvent} {record : RecordHeader × Bytes} (h : Honest sid trace record)
    (e : PhoneEvent) : Honest sid (e :: trace) record := by
  cases h with
  | touch t₁ t₂ t₃ direction message_type session flags queued =>
    exact .touch t₁ t₂ t₃ direction message_type session flags (contentAt_cons queued e)
  | ping message_type session flags length => exact .ping message_type session flags length
  | abort message_type => exact .abort message_type

/-! ## The running session -/

/-- The queue and the log of what was queued. -/
structure Holds (p : V5Transport) : Prop where
  capacity : p.unacknowledged.capacity = MAX_HOST_WINDOW
  queue : p.unacknowledged.Inv p.hostWindow
  next : p.nextSequence = p.unacknowledged.tail
  queued : (history p.trace).length = p.unacknowledged.tail
  contents : ∀ i, p.unacknowledged.head ≤ i → i < p.unacknowledged.tail →
    contentAt p.trace i = some (p.unacknowledged.get i).payload
  valid : ∀ i content, contentAt p.trace i = some content → content.Valid i
  packets : p.unacknowledged.firsts ≤ p.nextPacketNumber
  numbers : p.nextPacketNumber ≤ 2 ^ 64 - 1

/-- The phone of session `sid` while it runs. -/
structure Running (sid : UInt64) (p : V5Transport) : Prop extends Holds p where
  head : p.unacknowledged.head = p.highestAcknowledged.elim 0 (· + 1)
  before : p.hostReady = false → p.sessionStarted = false ∧ p.unacknowledged.tail = 0 ∧ p.highestAcknowledged = none ∧
    p.nextPingId = 0 ∧ p.sent = []
  after : p.hostReady = true → p.sessionStarted = true ∧ p.sessionId = sid ∧ p.hostWindow = V5Host.RECEIVE_WINDOW ∧
    0 < p.unacknowledged.tail
  touches : ∀ record ∈ p.sent, record.1.message_type = PHONE_TOUCH → record.1.logical_id.toNat < p.unacknowledged.firsts
  pings : ∀ record ∈ p.sent, record.1.message_type = PHONE_PING → record.1.logical_id.toNat < p.nextPingId

/-- What holds of a phone, closed or not: its records, and its state while it runs. -/
structure Ok (sid : UInt64) (p : V5Transport) : Prop where
  running : p.running = true → Running sid p
  sent : ∀ record ∈ p.sent, Honest sid p.trace record
  valid : ∀ i content, contentAt p.trace i = some content → content.Valid i

theorem frameFlags_valid (locked sessionStart historical : Bool) :
    frameFlags locked sessionStart historical &&& ~~~VALID_FRAME_FLAGS = 0 := by
  cases locked <;> cases sessionStart <;> cases historical <;> rfl

theorem frameFlags_follow (locked historical : Bool) :
    frameFlags locked false historical &&& FRAME_FLAG_SESSION_START = 0 := by
  cases locked <;> cases historical <;> rfl

theorem startContent_valid (now : Int) : (startContent now).Valid 0 where
  action := by simp [startContent]
  flags := frameFlags_valid _ _ _
  starts _ := ⟨rfl, rfl, rfl⟩
  follows h := absurd rfl h

theorem retainedContent_valid (snapshot : Snapshot) (now : Int) {sequence : Nat} (h : sequence ≠ 0) :
    (retainedContent snapshot now).Valid sequence where
  action := by simp [retainedContent]
  flags := frameFlags_valid _ _ _
  starts hz := absurd hz h
  follows _ := frameFlags_follow _ _

theorem sampleContent_valid (sample : Sample) {sequence : Nat} (h : sequence ≠ 0) : sample.content.Valid sequence where
  action := sample.known
  flags := frameFlags_valid _ _ _
  starts hz := absurd hz h
  follows _ := frameFlags_follow _ _

/-! ## Queueing -/

/-- A full queue takes nothing; otherwise the frame gets the next sequence number. -/
theorem enqueue_cases {p : V5Transport} (h : Holds p) (cause : Cause) (content : Content) (now : Int) :
    (MAX_HOST_WINDOW ≤ p.unacknowledged.size ∧
      p.enqueueFrameLocked cause content now = { p with queueOverflowed := true }) ∨
    (p.unacknowledged.size < MAX_HOST_WINDOW ∧
      p.enqueueFrameLocked cause content now =
        { p with
          nextSequence := p.nextSequence + 1
          unacknowledged := p.unacknowledged.append ⟨p.nextSequence, content, now, 0, 0⟩
          trace := .queued cause content :: p.trace }) := by
  unfold enqueueFrameLocked
  split
  · rename_i hfull
    exact .inl ⟨hfull, rfl⟩
  · rename_i hroom
    have hlt : p.unacknowledged.size < MAX_HOST_WINDOW := Nat.lt_of_not_le hroom
    rw [V5SendQueue.add_some (h.capacity ▸ hlt)]
    exact .inr ⟨hlt, rfl⟩

theorem enqueue_holds {p : V5Transport} (h : Holds p) (cause : Cause) {content : Content} (now : Int)
    (hv : content.Valid p.nextSequence) : Holds (p.enqueueFrameLocked cause content now) := by
  rcases enqueue_cases h cause content now with ⟨-, he⟩ | ⟨hroom, he⟩
  · rw [he]
    exact ⟨h.capacity, h.queue, h.next, h.queued, h.contents, h.valid, h.packets, h.numbers⟩
  · rw [he]
    have hnext := h.next
    have hadd := V5SendQueue.add_some (q := p.unacknowledged) (h.capacity ▸ hroom) p.unacknowledged.tail content now
    obtain ⟨hinv, -, hfirsts, hkeep⟩ := V5SendQueue.add_spec h.queue hadd
    rw [hnext] at hv ⊢
    refine ⟨h.capacity, hinv, rfl, congrArg (· + 1) h.queued, ?_, ?_, ?_, h.numbers⟩
    · intro i hi hlt
      rcases Nat.lt_succ_iff_lt_or_eq.1 hlt with hlt | rfl
      · dsimp only
        rw [hkeep i hi hlt]
        exact contentAt_cons (h.contents i hi hlt) _
      · dsimp only
        rw [V5SendQueue.get_append_self, ← h.queued]
        exact contentAt_queued cause content
    · intro i content' hi
      rcases contentAt_cons_cases hi with hi | ⟨rfl, rfl⟩
      · exact h.valid i content' hi
      · rw [h.queued]
        exact hv
    · dsimp only
      rw [hfirsts]
      exact h.packets

/-- The fields the invariant reads. -/
def essence (p : V5Transport) :=
  (p.unacknowledged, p.hostWindow, p.nextSequence, p.trace, p.nextPacketNumber, p.highestAcknowledged, p.hostReady,
    p.sessionStarted, p.sessionId, p.nextPingId, p.sent)

theorem Running.congr {sid : UInt64} {p p' : V5Transport} (h : Running sid p) (he : p'.essence = p.essence) : Running sid p' := by
  simp only [essence, Prod.mk.injEq] at he
  obtain ⟨hu, hw, hn, ht, hp, ha, hr, hs, hi, hg, hsent⟩ := he
  refine ⟨⟨?_, ?_, ?_, ?_, ?_, ?_, ?_, ?_⟩, ?_, ?_, ?_, ?_, ?_⟩
  · rw [hu]; exact h.capacity
  · rw [hu, hw]; exact h.queue
  · rw [hu, hn]; exact h.next
  · rw [hu, ht]; exact h.queued
  · rw [hu, ht]; exact h.contents
  · rw [ht]; exact h.valid
  · rw [hu, hp]; exact h.packets
  · rw [hp]; exact h.numbers
  · rw [hu, ha]; exact h.head
  · rw [hr, hs, hu, ha, hg, hsent]; exact h.before
  · rw [hr, hs, hi, hw, hu]; exact h.after
  · rw [hu, hsent]; exact h.touches
  · rw [hg, hsent]; exact h.pings

theorem enqueue_running {sid : UInt64} {p : V5Transport} (h : Running sid p) (hr : p.hostReady = true) (cause : Cause)
    {content : Content} (now : Int) (hv : content.Valid p.nextSequence) :
    Running sid (p.enqueueFrameLocked cause content now) := by
  have hholds := enqueue_holds h.toHolds cause now hv
  rcases enqueue_cases h.toHolds cause content now with ⟨-, he⟩ | ⟨hroom, he⟩
  · rw [he] at hholds ⊢
    exact ⟨hholds, h.head, h.before, h.after, h.touches, h.pings⟩
  · rw [he] at hholds ⊢
    have hadd := V5SendQueue.add_some (q := p.unacknowledged) (h.capacity ▸ hroom) p.unacknowledged.tail content now
    obtain ⟨-, -, hfirsts, -⟩ := V5SendQueue.add_spec h.queue hadd
    obtain ⟨hs, hi, hw, -⟩ := h.after hr
    refine ⟨hholds, h.head, fun hnot => ?_, fun _ => ⟨hs, hi, hw, Nat.succ_pos _⟩, ?_, h.pings⟩
    · simp only [hr] at hnot
      cases hnot
    · dsimp only
      rw [h.next, hfirsts]
      exact h.touches

/-- While a session is started every later frame is numbered above 0. -/
theorem Running.started {sid : UInt64} {p : V5Transport} (h : Running sid p) (hs : p.sessionStarted = true) :
    p.hostReady = true ∧ p.nextSequence ≠ 0 := by
  rcases hr : p.hostReady with _ | _
  · rw [(h.before hr).1] at hs
    cases hs
  · refine ⟨rfl, ?_⟩
    have hpos := (h.after hr).2.2.2
    have hnext := h.next
    omega

/-! ## Samples and heartbeats -/

/-- Only the clock of the active path moves. -/
theorem updateActivePath_eq (wasActive : Bool) (now : Int) (p : V5Transport) :
    ∃ nanos, p.updateActivePathStateLocked wasActive now = { p with activePathStartedNanos := nanos } := by
  unfold updateActivePathStateLocked
  split
  · exact ⟨now, rfl⟩
  split
  · exact ⟨0, rfl⟩
  · exact ⟨p.activePathStartedNanos, rfl⟩

theorem enqueue_keeps (cause : Cause) (content : Content) (now : Int) (p : V5Transport) :
    (p.enqueueFrameLocked cause content now).sent = p.sent ∧ (p.enqueueFrameLocked cause content now).running = p.running ∧
    (p.enqueueFrameLocked cause content now).highestAcknowledged = p.highestAcknowledged ∧
    (p.enqueueFrameLocked cause content now).hostReady = p.hostReady ∧
    ((p.enqueueFrameLocked cause content now).trace = p.trace ∨
      (p.enqueueFrameLocked cause content now).trace = .queued cause content :: p.trace) := by
  unfold enqueueFrameLocked
  split
  · exact ⟨rfl, rfl, rfl, rfl, .inl rfl⟩
  split
  · exact ⟨rfl, rfl, rfl, rfl, .inl rfl⟩
  · exact ⟨rfl, rfl, rfl, rfl, .inr rfl⟩

theorem Ok.congr {sid : UInt64} {p p' : V5Transport} (h : Ok sid p) (hr : p'.running = p.running) (he : p'.essence = p.essence) :
    Ok sid p' := by
  have he' := he
  simp only [essence, Prod.mk.injEq] at he'
  obtain ⟨-, -, -, ht, -, -, -, -, -, -, hsent⟩ := he'
  refine ⟨fun hrun => (h.running (hr ▸ hrun)).congr he, ?_, ?_⟩
  · rw [hsent, ht]
    exact h.sent
  · rw [ht]
    exact h.valid

theorem enqueue_ok {sid : UInt64} {p : V5Transport} (h : Ok sid p) (hrun : p.running = true) (hr : p.hostReady = true)
    (cause : Cause) {content : Content} (now : Int) (hv : content.Valid p.nextSequence) :
    Ok sid (p.enqueueFrameLocked cause content now) := by
  obtain ⟨hsent, hrunning, -, -, htrace⟩ := enqueue_keeps cause content now p
  have hnew := enqueue_running (h.running hrun) hr cause now hv
  refine ⟨fun _ => hnew, ?_, hnew.valid⟩
  rw [hsent]
  rcases htrace with ht | ht
  · rw [ht]
    exact h.sent
  · rw [ht]
    exact fun record hrecord => (h.sent record hrecord).cons _

/-- The phone once it took a sample and before it queues it. -/
def taken (sample : Sample) (p : V5Transport) : V5Transport :=
  { p.retainContactsLocked sample.snapshot with trace := .offered sample :: p.trace }

theorem taken_holds {p : V5Transport} (h : Holds p) (sample : Sample) : Holds (p.taken sample) :=
  ⟨h.capacity, h.queue, h.next, h.queued, h.contents, h.valid, h.packets, h.numbers⟩

/-- A sample is only retained, or it is queued. -/
theorem offerFrame_cases (sample : Sample) (queuedNanos now : Int) (p : V5Transport) :
    ((p.running = false ∨ p.sessionStarted = false) ∧ p.offerFrame sample queuedNanos now = p.retainContactsLocked sample.snapshot) ∨
    (p.running = true ∧ p.sessionStarted = true ∧ ∃ nanos, p.offerFrame sample queuedNanos now =
      { (p.taken sample).enqueueFrameLocked (.sample sample) sample.content queuedNanos with activePathStartedNanos := nanos }) := by
  by_cases hopen : (!p.running || !p.sessionStarted) = true
  · exact .inl ⟨by simpa using hopen, if_pos hopen⟩
  · obtain ⟨nanos, heq⟩ := updateActivePath_eq p.hasActiveDataPathLocked now
      ((p.taken sample).enqueueFrameLocked (.sample sample) sample.content queuedNanos)
    simp only [Bool.or_eq_true, Bool.not_eq_true', not_or, Bool.not_eq_false] at hopen
    refine .inr ⟨hopen.1, hopen.2, nanos, Eq.trans (if_neg ?_) heq⟩
    exact fun hclosed => absurd hclosed (by simp [retainContactsLocked, hopen.1, hopen.2])

theorem offerFrame_ok {sid : UInt64} {p : V5Transport} (h : Ok sid p) (sample : Sample) (queuedNanos now : Int) :
    Ok sid (p.offerFrame sample queuedNanos now) := by
  rcases offerFrame_cases sample queuedNanos now p with ⟨-, he⟩ | ⟨hrun, hstarted, nanos, he⟩
  · rw [he]
    exact h.congr rfl rfl
  · have hp := h.running hrun
    obtain ⟨hready, hne⟩ := hp.started hstarted
    have htaken : Ok sid (p.taken sample) :=
      ⟨fun _ => ⟨taken_holds hp.toHolds sample, hp.head, hp.before, hp.after, hp.touches, hp.pings⟩,
        fun record hrecord => (h.sent record hrecord).cons _, h.valid⟩
    rw [he]
    exact (enqueue_ok htaken hrun hready (.sample sample) queuedNanos (sampleContent_valid sample hne)).congr rfl rfl

theorem heartbeat_ok {sid : UInt64} {p : V5Transport} (h : Ok sid p) (hrun : p.running = true) (now : Int) :
    Ok sid (p.maybeEnqueueHeartbeatLocked now) := by
  unfold maybeEnqueueHeartbeatLocked
  split
  · exact h
  rename_i hdue
  simp only [Bool.or_eq_true, Bool.not_eq_true', not_or, Bool.not_eq_false] at hdue
  obtain ⟨hready, hne⟩ := (h.running hrun).started hdue.1.1.1.2
  have hmarked : Ok sid { p with lastHeartbeatNanos := now } := h.congr rfl rfl
  exact enqueue_ok hmarked hrun hready .heartbeat now (retainedContent_valid _ _ hne)

/-! ## Sending -/

theorem sealInto_some {messageType : UInt8} {sessionId : UInt64} {logicalId : Nat} {payload : Bytes} {p p' : V5Transport}
    (h : p.sealInto messageType sessionId logicalId payload = some p') :
    p.nextPacketNumber ≠ 2 ^ 64 - 1 ∧
    p' = { p with
      nextPacketNumber := p.nextPacketNumber + 1
      sent := (p.header messageType sessionId logicalId payload, payload) :: p.sent } := by
  unfold sealInto at h
  split at h
  · cases h
  rename_i hne
  split at h
  · cases h
  exact ⟨hne, (Option.some.inj h).symm⟩

theorem ofNat_toNat_le (n : Nat) : (UInt64.ofNat n).toNat ≤ n := by
  rw [UInt64.toNat_ofNat']
  exact Nat.mod_le _ _

theorem abort_sent {sid : UInt64} {p : V5Transport} (h : ∀ record ∈ p.sent, Honest sid p.trace record) (reason : Nat) :
    (∀ record ∈ (p.sendAuthenticatedAbort reason).sent, Honest sid p.trace record) ∧
    (p.sendAuthenticatedAbort reason).trace = p.trace ∧
    ∀ record ∈ (p.sendAuthenticatedAbort reason).sent, record ∈ p.sent ∨ record.1.message_type = PHONE_AUTH_ABORT := by
  unfold sendAuthenticatedAbort
  rcases hseal : p.sealInto PHONE_AUTH_ABORT 0 0 (LittleEndian.encode 2 reason) with _ | p'
  · exact ⟨h, rfl, fun record hrecord => .inl hrecord⟩
  · obtain ⟨-, rfl⟩ := sealInto_some hseal
    refine ⟨fun record hrecord => ?_, rfl, fun record hrecord => ?_⟩
    · rcases List.mem_cons.1 hrecord with rfl | hrecord
      · exact .abort rfl
      · exact h record hrecord
    · rcases List.mem_cons.1 hrecord with rfl | hrecord
      · exact .inr rfl
      · exact .inl hrecord

/-- Closing sends nothing but aborts. -/
theorem closeSession_spec {sid : UInt64} {p : V5Transport} (hsent : ∀ record ∈ p.sent, Honest sid p.trace record)
    (hvalid : ∀ i content, contentAt p.trace i = some content → content.Valid i) :
    Ok sid p.closeSession ∧ p.closeSession.running = false ∧ p.closeSession.trace = p.trace ∧
    ∀ record ∈ p.closeSession.sent, record ∈ p.sent ∨ record.1.message_type = PHONE_AUTH_ABORT := by
  have hreset : ∀ record ∈ p.resetSessionStateLocked.sent, Honest sid p.resetSessionStateLocked.trace record := hsent
  obtain ⟨h₁, ht₁, hs₁⟩ := abort_sent hreset 1
  rw [← ht₁] at h₁
  obtain ⟨h₂, ht₂, hs₂⟩ := abort_sent h₁ 1
  have htrace : p.closeSession.trace = p.trace := ht₂.trans ht₁
  refine ⟨⟨fun hrun => (by cases hrun), ?_, ?_⟩, rfl, htrace, ?_⟩
  · rw [htrace]
    intro record hrecord
    have := h₂ record hrecord
    rwa [ht₁] at this
  · rw [htrace]
    exact hvalid
  · intro record hrecord
    rcases hs₂ record hrecord with hrecord | habort
    · exact hs₁ record hrecord
    · exact .inr habort

/-- What a turn may send: an abort, a frame of the host's window, or a ping once the host has committed. -/
def Sends (p : V5Transport) (record : RecordHeader × Bytes) : Prop :=
  record.1.message_type = PHONE_AUTH_ABORT ∨
  (record.1.message_type = PHONE_TOUCH ∧
    record.1.logical_id.toNat < p.highestAcknowledged.elim 0 (· + 1) + V5Host.RECEIVE_WINDOW) ∨
  (record.1.message_type = PHONE_PING ∧ p.highestAcknowledged.isSome)

theorem sendTouch_spec {sid : UInt64} {p : V5Transport} (h : Ok sid p) (hrun : p.running = true) (hr : p.hostReady = true)
    {now : Int} {pending : Frame Content} {q : V5SendQueue Content}
    (hnext : p.unacknowledged.next now p.hostWindow = (some pending, q)) (sendStarted : Int) :
    Ok sid (({ p with unacknowledged := q }).sendTouch pending sendStarted) ∧
    ∀ record ∈ (({ p with unacknowledged := q }).sendTouch pending sendStarted).sent, record ∈ p.sent ∨ Sends p record := by
  have hp := h.running hrun
  obtain ⟨hs, hi, hw, hpos⟩ := hp.after hr
  have hcapacity := V5SendQueue.next_capacity hp.queue now
  obtain ⟨hinv, hhead, htail, hge, hpayload, -, hselected⟩ := V5SendQueue.next_spec hp.queue now
  rw [hnext] at hcapacity hinv hhead htail hge hpayload hselected
  obtain ⟨hlow, hlt, hwin, hcontent, hfirst, hup⟩ := hselected pending rfl
  dsimp only at hcapacity hinv hhead htail hge hpayload hfirst hup
  have hnumbers := hp.numbers
  have hpackets := hp.packets
  unfold sendTouch
  dsimp only
  rcases hseal : ({ p with unacknowledged := q } : V5Transport).sealInto PHONE_TOUCH p.sessionId pending.sequence
    (pending.payload.payload (wireTime sendStarted) p.lastHostSendNanos (wireTime p.lastControlReceiveNanos)) with _ | p'
  · have hsent : ∀ record ∈ ({ p with unacknowledged := q } : V5Transport).sent, Honest sid p.trace record := h.sent
    obtain ⟨hok, -, -, habort⟩ := closeSession_spec hsent h.valid
    exact ⟨hok, fun record hrecord => (habort record hrecord).imp_right .inl⟩
  · obtain ⟨hne, rfl⟩ := sealInto_some hseal
    have hne' : p.nextPacketNumber ≠ 2 ^ 64 - 1 := hne
    have hseq : (UInt64.ofNat pending.sequence).toNat = pending.sequence := by
      apply UInt64.toNat_ofNat_of_lt'
      simp only [UInt64.size]
      omega
    have hlogical : contentAt p.trace pending.sequence = some pending.payload := by
      rw [hp.contents _ hlow hlt, hcontent]
    have hnew : Honest sid p.trace
        (({ p with unacknowledged := q } : V5Transport).header PHONE_TOUCH p.sessionId pending.sequence
          (pending.payload.payload (wireTime sendStarted) p.lastHostSendNanos (wireTime p.lastControlReceiveNanos)),
          pending.payload.payload (wireTime sendStarted) p.lastHostSendNanos (wireTime p.lastControlReceiveNanos)) :=
      .touch _ _ _ rfl rfl hi rfl (by simp only [header, hseq]; exact hlogical)
    simp only [Option.getD_some]
    refine ⟨⟨fun _ => ⟨⟨?_, hinv, ?_, ?_, ?_, hp.valid, ?_, ?_⟩, ?_, ?_, ?_, ?_, ?_⟩, ?_, h.valid⟩, ?_⟩
    · exact hcapacity.trans hp.capacity
    · exact hp.next.trans htail.symm
    · exact hp.queued.trans htail.symm
    · intro i h₁ h₂
      have hold := hp.contents i (hhead ▸ h₁) (htail ▸ h₂)
      rw [← hpayload i (hhead ▸ h₁) (htail ▸ h₂)] at hold
      exact hold
    · exact hup.trans (Nat.succ_le_succ hpackets)
    · dsimp only
      omega
    · exact hhead.trans hp.head
    · intro hnot
      rw [hr] at hnot
      cases hnot
    · exact fun _ => ⟨hs, hi, hw, htail ▸ hpos⟩
    · intro record hrecord htouch
      rcases List.mem_cons.1 hrecord with rfl | hrecord
      · simp only [header, hseq]
        exact hfirst
      · exact Nat.lt_of_lt_of_le (hp.touches record hrecord htouch) hge
    · intro record hrecord hping
      rcases List.mem_cons.1 hrecord with rfl | hrecord
      · cases hping
      · exact hp.pings record hrecord hping
    · intro record hrecord
      rcases List.mem_cons.1 hrecord with rfl | hrecord
      · exact hnew
      · exact h.sent record hrecord
    · intro record hrecord
      rcases List.mem_cons.1 hrecord with rfl | hrecord
      · refine .inr (.inr (.inl ⟨rfl, ?_⟩))
        simp only [header, hseq]
        rw [hp.head, hw] at hwin
        exact hwin
      · exact .inl hrecord

theorem sealPing_ok {sid : UInt64} {p p' : V5Transport} (h : Ok sid p) (hrun : p.running = true) (hr : p.hostReady = true)
    {id : Nat} (hid : id < p.nextPingId) (hseal : p.sealInto PHONE_PING p.sessionId id [] = some p') :
    Ok sid p' ∧ p'.running = true ∧ p'.hostReady = true ∧ p'.sessionId = p.sessionId ∧ p'.nextPingId = p.nextPingId ∧
    ∀ record ∈ p'.sent, record ∈ p.sent ∨ record.1.message_type = PHONE_PING := by
  have hp := h.running hrun
  obtain ⟨hs, hi, hw, hpos⟩ := hp.after hr
  obtain ⟨hne, rfl⟩ := sealInto_some hseal
  have hnumbers := hp.numbers
  refine ⟨⟨fun _ => ⟨⟨hp.capacity, hp.queue, hp.next, hp.queued, hp.contents, hp.valid, hp.packets.trans (Nat.le_succ _), ?_⟩,
    hp.head, ?_, hp.after, ?_, ?_⟩, ?_, h.valid⟩, hrun, hr, rfl, rfl, ?_⟩
  · dsimp only
    omega
  · intro hnot
    rw [hr] at hnot
    cases hnot
  · intro record hrecord htouch
    rcases List.mem_cons.1 hrecord with rfl | hrecord
    · cases htouch
    · exact hp.touches record hrecord htouch
  · intro record hrecord hping
    rcases List.mem_cons.1 hrecord with rfl | hrecord
    · exact Nat.lt_of_le_of_lt (ofNat_toNat_le id) hid
    · exact hp.pings record hrecord hping
  · intro record hrecord
    rcases List.mem_cons.1 hrecord with rfl | hrecord
    · exact .ping rfl hi rfl rfl
    · exact h.sent record hrecord
  · intro record hrecord
    rcases List.mem_cons.1 hrecord with rfl | hrecord
    · exact .inr rfl
    · exact .inl hrecord

theorem sendPing_spec {sid : UInt64} {p : V5Transport} (h : Ok sid p) (hrun : p.running = true) (hr : p.hostReady = true)
    (now : Int) :
    Ok sid (p.sendPing now) ∧
    ∀ record ∈ (p.sendPing now).sent, record ∈ p.sent ∨ record.1.message_type = PHONE_AUTH_ABORT ∨ record.1.message_type = PHONE_PING := by
  have hp := h.running hrun
  have hnew : Ok sid { p with nextPingId := p.nextPingId + 1, lastPingNanos := now } := by
    refine ⟨fun _ => ⟨⟨hp.capacity, hp.queue, hp.next, hp.queued, hp.contents, hp.valid, hp.packets, hp.numbers⟩, hp.head, ?_,
      hp.after, hp.touches, ?_⟩, h.sent, h.valid⟩
    · intro hnot
      rw [hr] at hnot
      cases hnot
    · exact fun record hrecord hping => (hp.pings record hrecord hping).trans (Nat.lt_succ_self _)
  unfold sendPing
  dsimp only
  rcases hseal : ({ p with nextPingId := p.nextPingId + 1, lastPingNanos := now } : V5Transport).sealInto PHONE_PING p.sessionId
    p.nextPingId [] with _ | p₁
  · obtain ⟨hok, -, -, habort⟩ := closeSession_spec hnew.sent hnew.valid
    exact ⟨hok, fun record hrecord => (habort record hrecord).imp_right .inl⟩
  · obtain ⟨hok₁, hrun₁, hr₁, hsid₁, hid₁, hsent₁⟩ := sealPing_ok hnew hrun hr (Nat.lt_succ_self _) hseal
    have hsid : p.sessionId = p₁.sessionId := hsid₁.symm
    have hid : p.nextPingId < p₁.nextPingId := by
      rw [hid₁]
      exact Nat.lt_succ_self _
    dsimp only
    rw [hsid]
    rcases hseal₂ : p₁.sealInto PHONE_PING p₁.sessionId p.nextPingId [] with _ | p₂
    · obtain ⟨hok, -, -, habort⟩ := closeSession_spec hok₁.sent hok₁.valid
      refine ⟨hok, fun record hrecord => ?_⟩
      rcases habort record hrecord with hold | ha
      · exact (hsent₁ record hold).imp_right .inr
      · exact .inr (.inl ha)
    · obtain ⟨hok₂, -, -, -, -, hsent₂⟩ := sealPing_ok hok₁ hrun₁ hr₁ hid hseal₂
      refine ⟨hok₂, fun record hrecord => ?_⟩
      rcases hsent₂ record hrecord with hold | hping
      · exact (hsent₁ record hold).imp_right .inr
      · exact .inr (.inr hping)

theorem heartbeat_keeps (now : Int) (p : V5Transport) :
    (p.maybeEnqueueHeartbeatLocked now).sent = p.sent ∧ (p.maybeEnqueueHeartbeatLocked now).running = p.running ∧
    (p.maybeEnqueueHeartbeatLocked now).highestAcknowledged = p.highestAcknowledged := by
  unfold maybeEnqueueHeartbeatLocked
  split
  · exact ⟨rfl, rfl, rfl⟩
  · obtain ⟨hsent, hrun, hack, -, -⟩ := enqueue_keeps .heartbeat (retainedContent p.retained now) now
      { p with lastHeartbeatNanos := now }
    exact ⟨hsent, hrun, hack⟩

theorem writerTurn_spec {sid : UInt64} {p : V5Transport} (h : Ok sid p) (now sendStarted : Int) :
    Ok sid (p.writerTurn now sendStarted) ∧
    ∀ record ∈ (p.writerTurn now sendStarted).sent, record ∈ p.sent ∨ Sends p record := by
  unfold writerTurn
  split
  · exact ⟨h, fun record hrecord => .inl hrecord⟩
  rename_i hclosed
  have hrun : p.running = true := by simpa using hclosed
  have hbeat := heartbeat_ok h hrun now
  obtain ⟨hsent, hrunning, hack⟩ := heartbeat_keeps now p
  have hsends : ∀ record, Sends (p.maybeEnqueueHeartbeatLocked now) record → Sends p record := by
    intro record hs
    unfold Sends at hs ⊢
    rwa [hack] at hs
  dsimp only
  split
  · exact ⟨hbeat, fun record hrecord => .inl (hsent ▸ hrecord)⟩
  rename_i hnot
  have hr : (p.maybeEnqueueHeartbeatLocked now).hostReady = true := by simpa using hnot
  have hrun' := hrunning.trans hrun
  split
  · rename_i pending q hnext
    obtain ⟨hok, hnew⟩ := sendTouch_spec hbeat hrun' hr hnext sendStarted
    refine ⟨hok, fun record hrecord => ?_⟩
    rcases hnew record hrecord with hold | hs
    · exact .inl (hsent ▸ hold)
    · exact .inr (hsends record hs)
  · rename_i q hnext
    have hp := hbeat.running hrun'
    obtain ⟨hinv, hhead, htail, -, hpayload, hnone, -⟩ := V5SendQueue.next_spec hp.queue now
    have hcapacity := V5SendQueue.next_capacity hp.queue now
    rw [hnext] at hinv hhead htail hpayload hnone hcapacity
    have hfirsts := hnone rfl
    dsimp only at hinv hhead htail hpayload hfirsts hcapacity
    have hquiet : Ok sid { p.maybeEnqueueHeartbeatLocked now with unacknowledged := q } := by
      refine ⟨fun _ => ⟨⟨hcapacity.trans hp.capacity, hinv, hp.next.trans htail.symm, hp.queued.trans htail.symm, ?_, hp.valid,
        ?_, hp.numbers⟩, hhead.trans hp.head, ?_, ?_, ?_, hp.pings⟩, hbeat.sent, hbeat.valid⟩
      · intro i h₁ h₂
        have hold := hp.contents i (hhead ▸ h₁) (htail ▸ h₂)
        rw [← hpayload i (hhead ▸ h₁) (htail ▸ h₂)] at hold
        exact hold
      · dsimp only
        rw [hfirsts]
        exact hp.packets
      · dsimp only
        rw [htail]
        exact hp.before
      · dsimp only
        rw [htail]
        exact hp.after
      · dsimp only
        rw [hfirsts]
        exact hp.touches
    split
    · rename_i hdue
      obtain ⟨hok, hnew⟩ := sendPing_spec hquiet hrun' hr now
      refine ⟨hok, fun record hrecord => ?_⟩
      rcases hnew record hrecord with hold | habort | hping
      · exact .inl (hsent ▸ hold)
      · exact .inr (.inl habort)
      · have hacked : (p.maybeEnqueueHeartbeatLocked now).highestAcknowledged.isSome := by
          simp only [pingDue, Bool.and_eq_true] at hdue
          exact hdue.1.2
        exact .inr (hsends record (.inr (.inr ⟨hping, hacked⟩)))
    · exact ⟨hquiet, fun record hrecord => .inl (hsent ▸ hrecord)⟩

theorem checkHostTimeout_spec {sid : UInt64} {p : V5Transport} (h : Ok sid p) (now : Int) :
    Ok sid (p.checkHostTimeout now) ∧
    ∀ record ∈ (p.checkHostTimeout now).sent, record ∈ p.sent ∨ record.1.message_type = PHONE_AUTH_ABORT := by
  unfold checkHostTimeout
  split
  · exact ⟨h, fun record hrecord => .inl hrecord⟩
  split
  · obtain ⟨hok, -, -, habort⟩ := closeSession_spec h.sent h.valid
    exact ⟨hok, habort⟩
  · exact ⟨h, fun record hrecord => .inl hrecord⟩

/-! ## Acknowledgements -/

/-- Retiring up to a frame that was sent leaves the queue starting behind it. -/
theorem retire_spec {window acknowledged : Nat} (fuel : Nat) {q : V5SendQueue Content} (h : q.Inv window)
    (hsent : acknowledged < q.firsts) (hle : q.head ≤ acknowledged + 1) (hfuel : q.tail ≤ q.head + fuel) :
    (retire acknowledged fuel q).Inv window ∧ (retire acknowledged fuel q).head = acknowledged + 1 ∧
    (retire acknowledged fuel q).tail = q.tail ∧ (retire acknowledged fuel q).firsts = q.firsts ∧
    (retire acknowledged fuel q).get = q.get ∧ (retire acknowledged fuel q).capacity = q.capacity := by
  have hbound := (V5SendQueue.firsts_le h).2
  induction fuel generalizing q with
  | zero => exact ⟨h, by unfold retire; omega, rfl, rfl, rfl, rfl⟩
  | succ fuel ih =>
    unfold retire
    split
    · rename_i hempty
      have heq : q.head = q.tail := by simpa [V5SendQueue.isEmpty] using hempty
      exact ⟨h, by omega, rfl, rfl, rfl, rfl⟩
    rename_i hne
    have hlt : q.head < q.tail := by
      have hhead := h.head_le
      have himm := h.immediate_le
      have hneq : q.head ≠ q.tail := by simpa [V5SendQueue.isEmpty] using hne
      omega
    rw [h.sequences q.head (Nat.le_refl _) hlt]
    split
    · exact ⟨h, by omega, rfl, rfl, rfl, rfl⟩
    · rename_i hretired
      obtain ⟨hinv, hhead, htail, hfirsts, hget⟩ := V5SendQueue.removeFirst_spec h (by omega)
      have hcapacity : q.removeFirst.capacity = q.capacity := rfl
      obtain ⟨hinv', hhead', htail', hfirsts', hget', hcapacity'⟩ :=
        ih hinv (by rw [hfirsts]; exact hsent) (by omega) (by omega) (V5SendQueue.firsts_le hinv).2
      exact ⟨hinv', hhead', htail'.trans htail, hfirsts'.trans hfirsts, hget'.trans hget, hcapacity'.trans hcapacity⟩

/-- An ACK of a frame that was sent. -/
theorem acknowledge_ok {sid : UInt64} {p : V5Transport} (h : Ok sid p) (hrun : p.running = true) (hr : p.hostReady = true)
    {acknowledged : Nat} (hsent : acknowledged < p.unacknowledged.firsts) :
    Ok sid (p.acknowledgeLocked acknowledged).2 ∧ (p.acknowledgeLocked acknowledged).2.sent = p.sent ∧
    ∀ k, (p.acknowledgeLocked acknowledged).2.highestAcknowledged = some k → k = acknowledged ∨ p.highestAcknowledged = some k := by
  have hp := h.running hrun
  unfold acknowledgeLocked
  split
  · exact ⟨h, rfl, fun k hk => .inr hk⟩
  rename_i hnew
  simp only [not_or] at hnew
  have hle : p.unacknowledged.head ≤ acknowledged + 1 := by
    rw [hp.head]
    rcases hack : p.highestAcknowledged with _ | k
    · exact Nat.zero_le _
    · have hlt := hnew.2.1
      rw [hack] at hlt
      simp only [Option.any_some, decide_eq_true_eq] at hlt
      simp only [Option.elim_some]
      omega
  obtain ⟨hinv, hhead, htail, hfirsts, hget, hcapacity⟩ := retire_spec p.unacknowledged.size hp.queue hsent hle
    (by simp only [V5SendQueue.size]; omega)
  have hretired : Ok sid { p with
      highestAcknowledged := some acknowledged
      unacknowledged := retire acknowledged p.unacknowledged.size p.unacknowledged } := by
    have hlow : p.unacknowledged.head ≤ (retire acknowledged p.unacknowledged.size p.unacknowledged).head := by omega
    refine ⟨fun _ => ⟨⟨hcapacity.trans hp.capacity, hinv, hp.next.trans htail.symm, hp.queued.trans htail.symm, ?_, hp.valid,
      ?_, hp.numbers⟩, hhead, ?_, ?_, ?_, hp.pings⟩, h.sent, h.valid⟩
    · intro i h₁ h₂
      dsimp only
      rw [hget]
      exact hp.contents i (hlow.trans h₁) (htail ▸ h₂)
    · dsimp only
      rw [hfirsts]
      exact hp.packets
    · intro hnot
      rw [hr] at hnot
      cases hnot
    · dsimp only
      rw [htail]
      exact hp.after
    · dsimp only
      rw [hfirsts]
      exact hp.touches
  have hk : ∀ k, some acknowledged = some k → k = acknowledged ∨ p.highestAcknowledged = some k :=
    fun k hk => .inl (Option.some.inj hk).symm
  dsimp only
  split
  · exact ⟨hretired.congr rfl rfl, rfl, hk⟩
  · exact ⟨hretired, rfl, hk⟩

end Trackpad.V5Transport
