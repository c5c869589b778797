import Trackpad.Pairing.Tolerance
/-!
# Agreement

What a pairing authorises, event by event: no value is revealed before the other side committed, no pattern is shown
that its commitment does not open, both patterns are one, and nothing is stored before both users did their part.
-/

namespace Trackpad.Pairing

open V5Host Sas Logs Relation

variable (s : Session) {log : List Event}

/-- Every commitment the host holds is of this value of the phone. -/
def HostCommitted (log : List Event) (phone_random : Bytes) : Prop :=
  .PhoneDraws phone_random ∈ log ∧ HostHolds log (sas_commit s.blake2s 1 s.handshake_hash phone_random).val ∧
    ∀ commitment, HostHolds log commitment → commitment = (sas_commit s.blake2s 1 s.handshake_hash phone_random).val

/-- Every commitment the phone holds is of this value of the host. -/
def PhoneCommitted (log : List Event) (hostRandom : Bytes) : Prop :=
  .HostDraws hostRandom ∈ log ∧ PhoneHolds log (sas_commit s.blake2s 2 s.handshake_hash hostRandom).val ∧
    ∀ hostCommit, PhoneHolds log hostCommit → hostCommit = (sas_commit s.blake2s 2 s.handshake_hash hostRandom).val

/-- Both users had the same pattern before them, and the phone's entered it. -/
def Matched (log : List Event) (pattern : List UInt8) : Prop :=
  (∃ time, .HostShows pattern time ∈ log) ∧ .PhoneDerives (ints pattern) ∈ log ∧ .Enters (ints pattern) ∈ log

/-- What must be so before an event of a pairing. -/
def Authorised : Event → List Event → Prop
  | .HostSent record, log => record.header.message_type = HOST_SAS_REVEAL →
      ∃ phone_random, HostCommitted s log phone_random
  | .PhoneSent record, log =>
      (record.header.message_type = PHONE_SAS_REVEAL → ∃ hostRandom, PhoneCommitted s log hostRandom) ∧
      (record.header.message_type = PHONE_PAIR_CONFIRM → ∃ pattern, .PhoneDerives pattern ∈ log ∧ .Enters pattern ∈ log)
  | .HostShows pattern _, log =>
      (∃ phone_random host_random fuel, HostCommitted s log phone_random ∧ .HostDraws host_random ∈ log ∧
        (∃ r, .HostOpened r ∈ log ∧ r.header.message_type = PHONE_SAS_REVEAL ∧ r.payload = phone_random) ∧
        sas_pattern s.blake2s fuel (sas_digest s.blake2s s.handshake_hash phone_random host_random) = some pattern) ∧
      ∀ derived, .PhoneDerives derived ∈ log → derived = ints pattern
  | .PhoneDerives derived, log =>
      (∃ phoneRandom hostRandom, PhoneCommitted s log hostRandom ∧ .PhoneDraws phoneRandom ∈ log ∧
        ∃ r, .PhoneOpened r ∈ log ∧ r.header.message_type = HOST_SAS_REVEAL ∧ r.payload = hostRandom) ∧
      ∀ pattern time, .HostShows pattern time ∈ log → derived = ints pattern
  | .HostPersists key time, log => key = s.phone_key ∧ Confirmed log ∧
      ∃ pattern shown, .HostShows pattern shown ∈ log ∧ Matched log pattern ∧
        (s.transport = .Wifi → shown + QUALITY_DURATION ≤ time)
  | .PhoneCompares entered, log => .Enters entered ∈ log ∧ ∀ e, .PhoneCompares e ∉ log
  | .PhoneStores key, log => key = s.host_key ∧ ∃ pattern time, Matched log pattern ∧ .HostPersists s.phone_key time ∈ log
  | _, _ => True

section

variable {s} (h : Justified (Allowed s) log)
include h

theorem host_committed {commitment : Bytes} (hholds : HostHolds log commitment) :
    ∃ phone_random, HostCommitted s log phone_random := by
  obtain ⟨random, hdrawn, rfl⟩ := held_by_host h hholds
  refine ⟨random, hdrawn, hholds, fun other hother => ?_⟩
  obtain ⟨random', hdrawn', rfl⟩ := held_by_host h hother
  rw [phone_draw_unique h hdrawn hdrawn']

theorem phone_committed {commitment : Bytes} (hholds : PhoneHolds log commitment) :
    ∃ hostRandom, PhoneCommitted s log hostRandom := by
  obtain ⟨random, hdrawn, rfl⟩ := held_by_phone h hholds
  refine ⟨random, hdrawn, hholds, fun other hother => ?_⟩
  obtain ⟨random', hdrawn', rfl⟩ := held_by_phone h hother
  rw [host_draw_unique h hdrawn hdrawn']

theorem compared_entered {entered : List Int} (hmem : .PhoneCompares entered ∈ log) : .Enters entered ∈ log := by
  obtain ⟨older, hallowed, -, hsub⟩ := h.before hmem
  exact hsub hallowed.1

theorem derived_shown {pattern : List UInt8} {time : Nat} {derived : List Int} (hshown : .HostShows pattern time ∈ log)
    (hderived : .PhoneDerives derived ∈ log) : derived = ints pattern := by
  obtain ⟨shown, hagreed, rfl⟩ := derived_agreed h hderived
  rw [agreed_unique h hagreed (shown_agreed h hshown)]

/-- The host persists what the phone's user matched. -/
theorem persisted_matched {pattern : List UInt8} {shown : Nat} (hshown : .HostShows pattern shown ∈ log)
    (hconfirmed : Confirmed log) : Matched log pattern := by
  obtain ⟨derived, hderived, hcompared⟩ := confirmed_compared h hconfirmed
  have heq := derived_shown h hshown hderived
  exact ⟨⟨shown, hshown⟩, heq ▸ hderived, heq ▸ compared_entered h hcompared⟩

theorem allowed_authorised {e : Event} (hallowed : Allowed s e log) : Authorised s e log := by
  cases e with
  | HostSent record =>
    intro htype
    cases hallowed with
    | commitment random drawn control => exact absurd (htype.symm.trans control.message_type) (by decide)
    | reveal random commitment drawn holds control => exact host_committed h holds
    | probe id wifi bounded message_type session_id logical_id flags length =>
      exact absurd (htype.symm.trans message_type) (by decide)
    | complete time persisted control => exact absurd (htype.symm.trans control.message_type) (by decide)
    | abort reason control => exact absurd (htype.symm.trans control.message_type) (by decide)
  | PhoneSent record =>
    cases hallowed with
    | commitment random drawn control =>
      exact ⟨fun htype => absurd (htype.symm.trans control.message_type) (by decide),
        fun htype => absurd (htype.symm.trans control.message_type) (by decide)⟩
    | reveal random commitment drawn holds control =>
      exact ⟨fun _ => phone_committed h holds, fun htype => absurd (htype.symm.trans control.message_type) (by decide)⟩
    | confirm pattern derived compared control =>
      exact ⟨fun htype => absurd (htype.symm.trans control.message_type) (by decide),
        fun _ => ⟨pattern, derived, compared_entered h compared⟩⟩
    | reply wifi message_type session_id flags decodes =>
      exact ⟨fun htype => absurd (htype.symm.trans message_type) (by decide),
        fun htype => absurd (htype.symm.trans message_type) (by decide)⟩
    | abort reason reasons control =>
      exact ⟨fun htype => absurd (htype.symm.trans control.message_type) (by decide),
        fun htype => absurd (htype.symm.trans control.message_type) (by decide)⟩
  | HostShows pattern time =>
    obtain ⟨phone_random, host_random, fuel, hrevealed, hholds, hdrawn, hpattern⟩ := hallowed
    obtain ⟨r, hopened, htype, rfl⟩ := hrevealed
    have hphone := (revealed_to_host h hopened htype).1
    refine ⟨⟨r.payload, host_random, fuel, ⟨hphone, hholds, fun other hother => ?_⟩, hdrawn, ⟨r, hopened, htype, rfl⟩, hpattern⟩,
      fun derived hderived => ?_⟩
    · obtain ⟨random', hdrawn', rfl⟩ := held_by_host h hother
      rw [phone_draw_unique h hphone hdrawn']
    · obtain ⟨shown, hagreed, rfl⟩ := derived_agreed h hderived
      rw [agreed_unique h hagreed ⟨r.payload, host_random, fuel, hphone, hdrawn, hpattern⟩]
  | PhoneDerives derived =>
    -- The new event is allowed, so that the log is justified with it.
    have hnow : Justified (Allowed s) (.PhoneDerives derived :: log) := ⟨hallowed, h⟩
    obtain ⟨phoneRandom, hostRandom, fuel, digest, hrevealed, hholds, hdrawn, -, -⟩ := hallowed
    obtain ⟨r, hopened, htype, rfl⟩ := hrevealed
    have hhost := (revealed_to_phone h hopened htype).1
    refine ⟨⟨phoneRandom, r.payload, ⟨hhost, hholds, fun other hother => ?_⟩, hdrawn, r, hopened, htype, rfl⟩,
      fun pattern time hshown => ?_⟩
    · obtain ⟨random', hdrawn', rfl⟩ := held_by_phone h hother
      rw [host_draw_unique h hhost hdrawn']
    · exact derived_shown hnow (List.mem_cons_of_mem _ hshown) List.mem_cons_self
  | HostPersists key time =>
    obtain ⟨hkey, hconfirmed, pattern, shown, hshown, helapsed⟩ := hallowed
    exact ⟨hkey, hconfirmed, pattern, shown, hshown, persisted_matched h hshown hconfirmed, helapsed⟩
  | PhoneCompares entered => exact ⟨hallowed.1, hallowed.2.2⟩
  | PhoneStores key =>
    obtain ⟨hkey, -, time, hpersisted⟩ := hallowed
    obtain ⟨older, ⟨-, hconfirmed, pattern, shown, hshown, -⟩, holder, hsub⟩ := h.before hpersisted
    have hmatched := persisted_matched h (hsub hshown) (hconfirmed.mono hsub)
    exact ⟨hkey, pattern, time, hmatched, hpersisted⟩
  | _ => trivial

end

/-- However records are lost, repeated and reordered and whatever both users do, every event of a pairing was
authorised by what happened before it. -/
theorem pairing_authorised {now : Nat} {t : State} (h : Reaches s (fun _ _ => True) (.start now) t) :
    Justified (Authorised s) t.log :=
  (reaches_inv h).justified.mono fun _ _ hjustified hallowed => allowed_authorised hjustified hallowed

theorem pairing_authorised_paired :
    ∃ t, Reaches (sampled .Wifi) (fun _ _ => True) (.start 0) t ∧ .PhoneStores [3] ∈ t.log ∧
      Justified (Authorised (sampled .Wifi)) t.log := by
  have hpaired : ((run (sampled .Wifi) (fun _ _ => True) (exchanged ++ compared) (.start 0)).any fun t =>
      decide (.PhoneStores [3] ∈ t.log)) = true := by decide +kernel
  obtain ⟨t, hrun, hstored⟩ := (Option.any_eq_true _ _).1 hpaired
  have hreaches := run_reaches (sampled .Wifi) hrun
  exact ⟨t, hreaches, of_decide_eq_true hstored, pairing_authorised (sampled .Wifi) hreaches⟩

end Trackpad.Pairing
