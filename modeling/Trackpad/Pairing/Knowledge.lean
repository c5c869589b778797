import Trackpad.Pairing.Exchange
/-!
# What each end knows

Why an event of a pairing happens, told from the events before it, and what an end in some phase knows of the log.
Both ends are honest: a record says what its sender drew, and was sent for a reason.
-/

namespace Trackpad.Pairing

open V5Host Sas Logs

/-! ## Records -/

/-- A pairing record with a payload and nothing else. -/
structure Control (direction : Direction) (message_type : UInt8) (payload : Bytes) (record : OpenedRecord) : Prop where
  direction : record.header.direction = direction
  message_type : record.header.message_type = message_type
  session_id : record.header.session_id = 0
  logical_id : record.header.logical_id = 0
  flags : record.header.flags = 0
  payload : record.payload = payload

theorem sealed_control (s : Session) (direction : Direction) (number : Nat) (message_type : UInt8) (payload : Bytes) :
    Control direction message_type payload (sealed_record s direction number message_type 0 0 payload) :=
  ⟨rfl, rfl, rfl, rfl, rfl, rfl⟩

/-- The host opened a commitment. -/
def HostHolds (log : List Event) (phone_commitment : Bytes) : Prop :=
  ∃ r, .HostOpened r ∈ log ∧ r.header.message_type = PHONE_SAS_COMMITMENT ∧ r.payload = phone_commitment

def PhoneHolds (log : List Event) (hostCommit : Bytes) : Prop :=
  ∃ r, .PhoneOpened r ∈ log ∧ r.header.message_type = HOST_SAS_COMMITMENT ∧ r.payload = hostCommit

/-- The host opened a well-formed confirmation. -/
def Confirmed (log : List Event) : Prop := ∃ r, .HostOpened r ∈ log ∧ Control .PhoneToHost PHONE_PAIR_CONFIRM [] r

variable (s : Session)

/-- `calculateSignalLevel` returns a level from zero to one below the number of levels. -/
def Session.Documented : Prop := ∀ rssi, 0 ≤ s.calculateSignalLevel rssi 5 ∧ s.calculateSignalLevel rssi 5 ≤ 4

/-- How many probes fit in the quality interval. -/
def PROBES : Nat := QUALITY_DURATION / QUALITY_INTERVAL

inductive HostRecord (log : List Event) (record : OpenedRecord) : Prop
  | commitment (random : Bytes) (drawn : .HostDraws random ∈ log)
    (control : Control .HostToPhone HOST_SAS_COMMITMENT (sas_commit s.blake2s 2 s.handshake_hash random).val record)
  | reveal (random commitment : Bytes) (drawn : .HostDraws random ∈ log) (holds : HostHolds log commitment)
    (control : Control .HostToPhone HOST_SAS_REVEAL random record)
  | probe (id : Nat) (wifi : s.transport = .Wifi) (bounded : id < PROBES)
    (message_type : record.header.message_type = HOST_QUALITY_PROBE) (session_id : record.header.session_id = 0)
    (logical_id : record.header.logical_id = .ofNat id)
    (flags : record.header.flags = 0 ∨ record.header.flags = QUALITY_REPAIR_ONLY) (length : record.payload.length = 8)
  | complete (time : Nat) (persisted : .HostPersists s.phone_key time ∈ log)
    (control : Control .HostToPhone HOST_PAIR_COMPLETE [] record)
  | abort (reason : Nat) (control : Control .HostToPhone HOST_AUTH_ABORT (LittleEndian.encode 2 reason) record)

inductive PhoneRecord (log : List Event) (record : OpenedRecord) : Prop
  | commitment (random : Bytes) (drawn : .PhoneDraws random ∈ log)
    (control : Control .PhoneToHost PHONE_SAS_COMMITMENT (sas_commit s.blake2s 1 s.handshake_hash random).val record)
  | reveal (random commitment : Bytes) (drawn : .PhoneDraws random ∈ log) (holds : PhoneHolds log commitment)
    (control : Control .PhoneToHost PHONE_SAS_REVEAL random record)
  | confirm (pattern : List Int) (derived : .PhoneDerives pattern ∈ log) (compared : .PhoneCompares pattern ∈ log)
    (control : Control .PhoneToHost PHONE_PAIR_CONFIRM [] record)
  | reply (wifi : s.transport = .Wifi) (message_type : record.header.message_type = PHONE_QUALITY_REPLY)
    (session_id : record.header.session_id = 0) (flags : record.header.flags = 0) (decodes : s.Documented → ∃ reply, decode_quality_reply record = .ok reply)
  | abort (reason : Nat) (reasons : 1 ≤ reason ∧ reason ≤ 4)
    (control : Control .PhoneToHost PHONE_AUTH_ABORT (LittleEndian.encode 2 reason) record)

/-! ## Events -/

/-- The host has the pattern of a phone value that its commitment opens and of its own. -/
structure HostDerived (log : List Event) (pattern : List UInt8) : Prop where
  derived : ∃ phone_random host_random fuel,
    (∃ r, .HostOpened r ∈ log ∧ r.header.message_type = PHONE_SAS_REVEAL ∧ r.payload = phone_random) ∧
    HostHolds log (sas_commit s.blake2s 1 s.handshake_hash phone_random).val ∧ .HostDraws host_random ∈ log ∧
    sas_pattern s.blake2s fuel (sas_digest s.blake2s s.handshake_hash phone_random host_random) = some pattern

structure PhoneDerived (log : List Event) (pattern : List Int) : Prop where
  derived : ∃ phoneRandom hostRandom fuel digest,
    (∃ r, .PhoneOpened r ∈ log ∧ r.header.message_type = HOST_SAS_REVEAL ∧ r.payload = hostRandom) ∧
    PhoneHolds log (sas_commit s.blake2s 2 s.handshake_hash hostRandom).val ∧ .PhoneDraws phoneRandom ∈ log ∧
    sasDigest s.blake2s s.handshake_hash phoneRandom hostRandom = .ok digest ∧
    sasPattern s.blake2s fuel digest.val = .ok (some pattern)

/-- Why an event happens. -/
def Allowed : Event → List Event → Prop
  | .HostDraws random, log => random.length = 32 ∧ ∀ r, .HostDraws r ∉ log
  | .HostSent record, log => HostRecord s log record
  | .HostOpened record, log => .PhoneSent record ∈ log
  | .HostShows pattern _, log => HostDerived s log pattern
  | .HostPersists key time, log => key = s.phone_key ∧ Confirmed log ∧
      ∃ pattern shown, .HostShows pattern shown ∈ log ∧ (s.transport = .Wifi → shown + QUALITY_DURATION ≤ time)
  | .PhoneDraws random, log => random.length = 32 ∧ ∀ r, .PhoneDraws r ∉ log
  | .PhoneSent record, log => PhoneRecord s log record
  | .PhoneOpened record, log => .HostSent record ∈ log
  | .PhoneDerives pattern, log => PhoneDerived s log pattern
  | .PhoneCompares entered, log =>
      .Enters entered ∈ log ∧ (∃ pattern, .PhoneDerives pattern ∈ log) ∧ ∀ e, .PhoneCompares e ∉ log
  | .PhoneStores key, log => key = s.host_key ∧
      (∃ pattern, .PhoneDerives pattern ∈ log ∧ .PhoneCompares pattern ∈ log) ∧ ∃ time, .HostPersists s.phone_key time ∈ log
  | .Commands _, _ | .Enters _, _ => True

/-! ## Phases -/

/-- What the host knows while the users compare. -/
structure Comparison.Known (log : List Event) (c : Comparison) : Prop where
  commitment : HostHolds log c.phone_commitment
  revealed : ∃ r, .HostOpened r ∈ log ∧ r.header.message_type = PHONE_SAS_REVEAL ∧ r.payload = c.phone_random
  drawn : .HostDraws c.host_random ∈ log
  shown : ∃ pattern, .HostShows pattern c.quality_started ∈ log
  confirmed : c.remote_confirmed = true → Confirmed log
  elapsed : c.quality_done = true → s.transport = .Wifi → c.quality_started + QUALITY_DURATION ≤ c.now
  probes : c.next_probe = c.quality_started + c.next_probe_id * QUALITY_INTERVAL

def HostLoop.Known (log : List Event) : HostLoop → Prop
  | .Commitment _ => ∀ r, .HostDraws r ∉ log
  | .Reveal phone_commitment host_random _ => HostHolds log phone_commitment ∧ .HostDraws host_random ∈ log
  | .Comparing c => c.Known s log

def HostPhase.Known (log : List Event) : HostPhase → Prop
  | .Polling loop | .Receiving loop => loop.Known s log
  | .Hashing | .Ended _ => True

/-- The repairs that wait for so many probes. -/
structure Queued (seen : Nat) (repairs : V5SendQueue Quality) : Prop where
  capacity : repairs.capacity = MAX_HOST_WINDOW
  bounded : repairs.tail ≤ seen
  unprobed : s.transport = .Usb → repairs.tail = 0 ∧ repairs.immediate = 0

/-- What the phone knows while its user enters the pattern. -/
structure Matching.Known (log : List Event) (c : Matching) : Prop where
  derived : .PhoneDerives c.expectedPattern ∈ log
  unmatched : c.patternConfirmed = false → ∀ e, .PhoneCompares e ∉ log
  matched : c.patternConfirmed = true → .PhoneCompares c.expectedPattern ∈ log
  distinct : c.qualitySeen.Nodup
  seen : ∀ id ∈ c.qualitySeen, id.toNat < PROBES
  queued : Queued s c.qualitySeen.length c.repairs

def PhoneLoop.Known (log : List Event) : PhoneLoop → Prop
  | .Commitment phoneRandom phoneCommit _ =>
    .PhoneDraws phoneRandom ∈ log ∧ phoneCommit = (sas_commit s.blake2s 1 s.handshake_hash phoneRandom).val ∧
      ∀ e, .PhoneCompares e ∉ log
  | .Reveal phoneRandom hostCommit _ =>
    .PhoneDraws phoneRandom ∈ log ∧ PhoneHolds log hostCommit ∧ ∀ e, .PhoneCompares e ∉ log
  | .Comparing c => c.Known s log

def PhonePhase.Known (log : List Event) : PhonePhase → Prop
  | .Starting => (∀ r, .PhoneDraws r ∉ log) ∧ ∀ e, .PhoneCompares e ∉ log
  | .Sending loop | .Receiving loop => loop.Known s log
  | .Hashing | .Ended _ => True

/-- The host complains about a record of its peer. -/
def HostRejects : HostV5Error → Prop
  | .Authentication _ => True
  | .Wire e => e ≠ .RandomUnavailable
  | _ => False

/-- What the phone says of a record it does not take. -/
def COMPLAINTS : List String := ["Malformed authenticated pairing control", "Pairing record used a gameplay session",
  "Malformed authenticated quality probe", "Quality probe queue overflowed",
  "Host completed pairing before phone confirmation", "Unexpected authenticated pairing record"]

/-- The phone complains about a record of its peer, or about its commitment where no wrong pattern was compared. -/
def PhoneRejects (log : List Event) : PairingException → Prop
  | .Comparison => ∀ entered, .PhoneCompares entered ∈ log → .PhoneDerives entered ∈ log
  | .Io message => message ∈ COMPLAINTS
  | .Protocol _ => True
  | .Socket _ | .Credential _ => False

/-- What holds of every state of a pairing. -/
structure Inv (t : State) : Prop where
  justified : Justified (Allowed s) t.log
  host : t.host_phase.Known s t.log
  tolerated : s.Documented → ∀ e, t.host_phase = .Ended (.error e) → ¬ HostRejects e
  phone : t.phone_phase.Known s t.log
  entered : ∀ pattern, t.inbox.submittedPattern = some pattern → .Enters pattern ∈ t.log

theorem start_inv (now : Nat) : Inv s (State.start now) where
  justified := trivial
  host r hmem := by cases hmem
  tolerated _ e h := by cases h
  phone := ⟨fun r hmem => (by cases hmem), fun e hmem => (by cases hmem)⟩
  entered pattern h := by cases h

/-! ## A log that grows -/

def Event.by_host : Event → Bool
  | .HostDraws _ | .HostSent _ | .HostOpened _ | .HostShows _ _ | .HostPersists _ _ => true
  | _ => false

def Event.by_phone : Event → Bool
  | .PhoneDraws _ | .PhoneSent _ | .PhoneOpened _ | .PhoneDerives _ | .PhoneCompares _ | .PhoneStores _ => true
  | _ => false

/-- What the phone does at most once. -/
def Event.once : Event → Bool
  | .PhoneDraws _ | .PhoneDerives _ | .PhoneCompares _ => true
  | _ => false

/-- A log with more events, none of which is `mine`. -/
structure Grows (mine : Event → Bool) (log log' : List Event) : Prop where
  added : ∃ newer, log' = newer ++ log ∧ ∀ e ∈ newer, mine e = false

theorem Grows.suffix {mine : Event → Bool} {log log' : List Event} (h : Grows mine log log') : log <:+ log' := by
  obtain ⟨newer, rfl, -⟩ := h.added
  exact List.suffix_append _ _

theorem Grows.sub {mine : Event → Bool} {log log' : List Event} (h : Grows mine log log') : log ⊆ log' := h.suffix.subset

theorem Grows.mine {mine : Event → Bool} {log log' : List Event} (h : Grows mine log log') :
    ∀ e ∈ log', mine e = true → e ∈ log := by
  obtain ⟨newer, rfl, hother⟩ := h.added
  intro e hmem hmine
  rcases List.mem_append.1 hmem with hnew | hold
  · rw [hother e hnew] at hmine
    cases hmine
  · exact hold

theorem Grows.refl (mine : Event → Bool) (log : List Event) : Grows mine log log := ⟨[], rfl, fun _ h => (by cases h)⟩

theorem Grows.trans {mine : Event → Bool} {log log' log'' : List Event} (h : Grows mine log log') (h' : Grows mine log' log'') :
    Grows mine log log'' := by
  obtain ⟨newer, rfl, hother⟩ := h.added
  obtain ⟨newest, rfl, hother'⟩ := h'.added
  refine ⟨newest ++ newer, (List.append_assoc _ _ _).symm, fun e hmem => ?_⟩
  exact (List.mem_append.1 hmem).elim (hother' e) (hother e)

/-- Fewer events may be `mine`. -/
theorem Grows.imp {mine mine' : Event → Bool} {log log' : List Event} (h : Grows mine log log')
    (himp : ∀ e, mine e = false → mine' e = false) : Grows mine' log log' := by
  obtain ⟨newer, rfl, hother⟩ := h.added
  exact ⟨newer, rfl, fun e hmem => himp e (hother e hmem)⟩

theorem Grows.once {log log' : List Event} (h : Grows Event.by_phone log log') : Grows Event.once log log' := by
  refine h.imp fun e hother => ?_
  cases e <;> first | rfl | cases hother

theorem Grows.cons {mine : Event → Bool} {log log' : List Event} (h : Grows mine log log') {e : Event} (hother : mine e = false) :
    Grows mine log (e :: log') := by
  obtain ⟨newer, rfl, hothers⟩ := h.added
  refine ⟨e :: newer, rfl, fun e' hmem => ?_⟩
  rcases List.mem_cons.1 hmem with rfl | hmem
  · exact hother
  · exact hothers e' hmem

section Mono

variable {s} {log log' : List Event} (hsub : log ⊆ log')
include hsub

theorem HostHolds.mono {commitment : Bytes} (h : HostHolds log commitment) : HostHolds log' commitment := by
  obtain ⟨r, hmem, htype⟩ := h
  exact ⟨r, hsub hmem, htype⟩

theorem PhoneHolds.mono {commitment : Bytes} (h : PhoneHolds log commitment) : PhoneHolds log' commitment := by
  obtain ⟨r, hmem, htype⟩ := h
  exact ⟨r, hsub hmem, htype⟩

theorem Confirmed.mono (h : Confirmed log) : Confirmed log' := by
  obtain ⟨r, hmem, hcontrol⟩ := h
  exact ⟨r, hsub hmem, hcontrol⟩

theorem HostRecord.mono {record : OpenedRecord} (h : HostRecord s log record) : HostRecord s log' record := by
  cases h with
  | commitment random drawn control => exact .commitment random (hsub drawn) control
  | reveal random commitment drawn holds control => exact .reveal random commitment (hsub drawn) (holds.mono hsub) control
  | probe id wifi bounded message_type session_id logical_id flags length =>
    exact .probe id wifi bounded message_type session_id logical_id flags length
  | complete time persisted control => exact .complete time (hsub persisted) control
  | abort reason control => exact .abort reason control

theorem PhoneRecord.mono {record : OpenedRecord} (h : PhoneRecord s log record) : PhoneRecord s log' record := by
  cases h with
  | commitment random drawn control => exact .commitment random (hsub drawn) control
  | reveal random commitment drawn holds control => exact .reveal random commitment (hsub drawn) (holds.mono hsub) control
  | confirm pattern derived compared control => exact .confirm pattern (hsub derived) (hsub compared) control
  | reply wifi message_type session_id flags decodes => exact .reply wifi message_type session_id flags decodes
  | abort reason reasons control => exact .abort reason reasons control

theorem Comparison.Known.mono {c : Comparison} (h : c.Known s log) : c.Known s log' where
  commitment := h.commitment.mono hsub
  revealed := by
    obtain ⟨r, hmem, htype⟩ := h.revealed
    exact ⟨r, hsub hmem, htype⟩
  drawn := hsub h.drawn
  shown := by
    obtain ⟨pattern, hmem⟩ := h.shown
    exact ⟨pattern, hsub hmem⟩
  confirmed hc := (h.confirmed hc).mono hsub
  elapsed := h.elapsed
  probes := h.probes

end Mono

section Kept

variable {s} {log log' : List Event}

theorem HostPhase.Known.mono (h : Grows Event.by_host log log') {phase : HostPhase} (hknown : phase.Known s log) :
    phase.Known s log' := by
  have hloop : ∀ loop : HostLoop, loop.Known s log → loop.Known s log' := by
    intro loop hknown
    cases loop with
    | Commitment w => exact fun r hmem => hknown r (h.mine _ hmem rfl)
    | Reveal phone_commitment host_random w => exact ⟨hknown.1.mono h.sub, h.sub hknown.2⟩
    | Comparing c => exact Comparison.Known.mono h.sub hknown
  cases phase with
  | Polling loop => exact hloop loop hknown
  | Receiving loop => exact hloop loop hknown
  | Hashing => trivial
  | Ended result => trivial

theorem Matching.Known.mono (h : Grows Event.once log log') {c : Matching} (hknown : c.Known s log) : c.Known s log' where
  derived := h.sub hknown.derived
  unmatched hc e hmem := hknown.unmatched hc e (h.mine _ hmem rfl)
  matched hc := h.sub (hknown.matched hc)
  distinct := hknown.distinct
  seen := hknown.seen
  queued := hknown.queued

theorem PhoneRejects.mono (h : Grows Event.once log log') {e : PairingException} (hrejects : PhoneRejects log' e) :
    PhoneRejects log e := by
  cases e with
  | Comparison => exact fun entered hmem => h.mine _ (hrejects entered (h.sub hmem)) rfl
  | Io message => exact hrejects
  | Protocol message => trivial
  | Socket message => exact hrejects
  | Credential message => exact hrejects

theorem PhoneLoop.Known.mono (h : Grows Event.once log log') {loop : PhoneLoop} (hknown : loop.Known s log) :
    loop.Known s log' := by
  cases loop with
  | Commitment phoneRandom phoneCommit w =>
    exact ⟨h.sub hknown.1, hknown.2.1, fun e hmem => hknown.2.2 e (h.mine _ hmem rfl)⟩
  | Reveal phoneRandom hostCommit w =>
    exact ⟨h.sub hknown.1, hknown.2.1.mono h.sub, fun e hmem => hknown.2.2 e (h.mine _ hmem rfl)⟩
  | Comparing c => exact Matching.Known.mono h hknown

theorem PhonePhase.Known.mono (h : Grows Event.once log log') {phase : PhonePhase} (hknown : phase.Known s log) :
    phase.Known s log' := by
  cases phase with
  | Starting => exact ⟨fun r hmem => hknown.1 r (h.mine _ hmem rfl), fun e hmem => hknown.2 e (h.mine _ hmem rfl)⟩
  | Sending loop => exact PhoneLoop.Known.mono h hknown
  | Receiving loop => exact PhoneLoop.Known.mono h hknown
  | Hashing => trivial
  | Ended result => trivial

end Kept

end Trackpad.Pairing
