import Trackpad.Pairing.PhoneKeeps
/-!
# Honest peers tolerate each other

Records of earlier steps are repeated, delayed and reordered, so that any of them may open at any later step. The host
takes or ignores all of them. The phone does too, but for one: a commitment of the host that opens once the phone has
taken the host's reveal.
-/

namespace Trackpad.Pairing

open V5Host Sas Logs Relation

variable {s : Session} {t t' : State}

/-! ## Steps -/

/-- The host does not fail because of a record. -/
def HostTolerates (t : State) : Prop := ∀ e, t.host_phase = .Ended (.error e) → ¬ HostRejects e

/-- The phone does not fail because of a record. -/
def PhoneTolerates (t : State) : Prop := ∀ e, t.phone_phase = .Ended (.error e) → ¬ PhoneRejects t.log e

/-- The phone waits for the pattern and the completion, and for a record. -/
def PhonePhase.comparing : PhonePhase → Bool
  | .Receiving (.Comparing _) => true
  | _ => false

/-- A commitment of the host opens after the phone took the host's reveal. -/
def opens_late (t : State) : Action → Bool
  | .PhoneReceives _ (.ok (some number)) => t.phone_phase.comparing &&
      ((host_records t.log)[number]?.map fun record => record.header.message_type) == some HOST_SAS_COMMITMENT
  | _ => false

theorem comparing_phase {phase : PhonePhase} (h : phase.comparing = true) : ∃ c, phase = .Receiving (.Comparing c) := by
  unfold PhonePhase.comparing at h
  split at h
  · next c => exact ⟨c, rfl⟩
  · cases h

theorem HostKeeps.inv (ht : Inv s t) {h : Host} (hk : HostKeeps s t.log h) :
    Inv s (t.with_host h) ∧ (PhoneTolerates t → PhoneTolerates (t.with_host h)) := by
  have honce := hk.writes.grows.once
  refine ⟨⟨hk.writes.justified, hk.known, hk.tolerates, ht.phone.mono honce, fun pattern hsome => ?_⟩, fun htol e heq hrejects => ?_⟩
  · exact honce.sub (ht.entered pattern hsome)
  · exact htol e heq (hrejects.mono honce)

theorem PhoneKeeps.inv (ht : Inv s t) {late : Prop} {p : Phone} (hk : PhoneKeeps s late t.log p) :
    Inv s (t.with_phone p) ∧ (¬ late → PhoneTolerates (t.with_phone p)) := by
  refine ⟨⟨hk.writes.justified, ht.host.mono hk.writes.grows, ht.tolerated, hk.known, hk.writes.entered⟩, fun hlate e heq hrejects => ?_⟩
  exact hlate (hk.tolerates e heq hrejects)

theorem taken_some {ε : Type} {records : List OpenedRecord} {opened : OpenedRecord → Event} {log log' : List Event}
    {number : Except ε (Option Nat)} {received : Except ε (Option OpenedRecord)}
    (h : taken records opened log number = some (received, log')) :
    (log' = log ∧ (∀ n, number ≠ .ok (some n)) ∧ ∀ record, received ≠ .ok (some record)) ∨
    ∃ n record, number = .ok (some n) ∧ records[n]? = some record ∧ received = .ok (some record) ∧ log' = opened record :: log := by
  unfold taken at h
  split at h
  · cases h
    exact .inl ⟨rfl, fun n heq => (by cases heq), fun record heq => (by cases heq)⟩
  · cases h
    exact .inl ⟨rfl, fun n heq => (by cases heq), fun record heq => (by cases heq)⟩
  · next n =>
    split at h
    · cases h
    · next record hrecord =>
      split at h
      · cases h
      · cases h
        exact .inr ⟨n, record, rfl, hrecord, rfl, rfl⟩

theorem host_receives (ht : Inv s t) {loop : HostLoop} (hphase : t.host_phase = .Receiving loop) {o : Observed}
    {number : Except IoError (Option Nat)} {received : Except IoError (Option OpenedRecord)} {log' : List Event}
    (htaken : taken (phone_records t.log) .HostOpened t.log number = some (received, log')) :
    HostKeeps s t.log (Host.receive s o received ⟨t.host_phase, t.commands, log'⟩) := by
  have hw : HostWrites s t.log t.log := ⟨ht.justified, .refl _ _⟩
  rcases taken_some htaken with ⟨rfl, -, hnone⟩ | ⟨n, record, -, hrecord, rfl, rfl⟩
  · exact Host.keeps_receive ht hphase hw (fun _ h => h) o fun record heq => absurd heq (hnone record)
  · have hsent := mem_phone_records.1 (List.mem_of_getElem? hrecord)
    refine Host.keeps_receive ht hphase (hw.note (e := .HostOpened record) rfl hsent) (fun r hmem => ?_) o fun opened heq => ?_
    · rcases List.mem_cons.1 hmem with heq | hmem
      · cases heq
      · exact hmem
    · cases heq
      exact List.mem_cons_self

theorem phone_receives (ht : Inv s t) {loop : PhoneLoop} (hphase : t.phone_phase = .Receiving loop) {o : ReceivingHalf}
    {number : Except String (Option Nat)} {received : Except String (Option OpenedRecord)} {log' : List Event}
    (htaken : taken (host_records t.log) .PhoneOpened t.log number = some (received, log')) :
    PhoneKeeps s (opens_late t (.PhoneReceives o number)) t.log (Phone.receive s o received ⟨t.phone_phase, t.inbox, log'⟩) := by
  have hw : PhoneWrites s t.log ⟨t.phone_phase, t.inbox, t.log⟩ := ⟨ht.justified, .refl _ _, ht.entered⟩
  rcases taken_some htaken with ⟨rfl, -, hnone⟩ | ⟨n, record, rfl, hrecord, rfl, rfl⟩
  · exact Phone.keeps_receive ht hphase hw (.refl _ _) o (fun record heq => absurd heq (hnone record))
      fun record c heq => absurd heq (hnone record)
  · have hsent := mem_host_records.1 (List.mem_of_getElem? hrecord)
    have hnoted := Phone.writes_note hw (e := .PhoneOpened record) rfl hsent
    refine Phone.keeps_receive ht hphase hnoted ((Grows.refl _ _).cons rfl) o (fun opened heq => ?_) fun opened c heq hloop htype => ?_
    · cases heq
      exact List.mem_cons_self
    · cases heq
      have hcomparing : t.phone_phase.comparing = true := by rw [hphase, hloop]; rfl
      rw [opens_late, hcomparing, hrecord, Option.map_some, htype]
      rfl

/-- The invariant of both ends, and what the phone tolerates, whatever happens next. -/
theorem step_inv (ht : Inv s t) {a : Action} (hstep : a.step s t = some t') :
    Inv s t' ∧ (PhoneTolerates t → ¬ opens_late t a → PhoneTolerates t') := by
  have hbefore : ∀ e, t.phone_phase = .Ended (.error e) → PhoneRejects t.log e → ¬ PhoneTolerates t ∨ opens_late t a :=
    fun e heq hrejects => .inl fun htol => htol e heq hrejects
  have hphone : ∀ {p}, PhoneKeeps s (¬ PhoneTolerates t ∨ opens_late t a) t.log p →
      Inv s (t.with_phone p) ∧ (PhoneTolerates t → ¬ opens_late t a → PhoneTolerates (t.with_phone p)) := by
    intro p hk
    obtain ⟨hinv, htol⟩ := hk.inv ht
    exact ⟨hinv, fun hbefore hlate => htol fun h => h.elim (· hbefore) hlate⟩
  have hhost : ∀ {h}, HostKeeps s t.log h →
      Inv s (t.with_host h) ∧ (PhoneTolerates t → ¬ opens_late t a → PhoneTolerates (t.with_host h)) := by
    intro h hk
    obtain ⟨hinv, htol⟩ := hk.inv ht
    exact ⟨hinv, fun hbefore _ => htol hbefore⟩
  cases a with
  | HostPolls o =>
    cases hstep
    exact hhost (Host.keeps_poll ht o)
  | HostReceives o number =>
    simp only [Action.step] at hstep
    split at hstep
    · next loop hphase =>
      obtain ⟨⟨received, log'⟩, htaken, rfl⟩ := Option.map_eq_some_iff.1 hstep
      exact hhost (host_receives ht hphase htaken)
    · cases hstep
  | HostUser command =>
    cases hstep
    have hsub := List.subset_cons_self (.Commands command) t.log
    have hgrows : ∀ mine : Event → Bool, mine (.Commands command) = false → Grows mine t.log (.Commands command :: t.log) :=
      fun mine hother => (Grows.refl _ _).cons hother
    refine ⟨⟨⟨trivial, ht.justified⟩, ht.host.mono (hgrows _ rfl), ht.tolerated, ht.phone.mono (hgrows _ rfl), ?_⟩, ?_⟩
    · exact fun pattern hsome => hsub (ht.entered pattern hsome)
    · exact fun htol _ e heq hrejects => htol e heq (hrejects.mono (hgrows _ rfl))
  | HostDisconnects =>
    cases hstep
    exact ⟨⟨ht.justified, ht.host, ht.tolerated, ht.phone, ht.entered⟩, fun htol _ => htol⟩
  | PhoneStarts o =>
    cases hstep
    exact hphone (Phone.keeps_start ht hbefore o)
  | PhoneSends o =>
    cases hstep
    exact hphone (Phone.keeps_send ht hbefore o)
  | PhoneReceives o number =>
    simp only [Action.step] at hstep
    split at hstep
    · next loop hphase =>
      obtain ⟨⟨received, log'⟩, htaken, rfl⟩ := Option.map_eq_some_iff.1 hstep
      obtain ⟨hinv, htol⟩ := (phone_receives ht hphase htaken).inv ht
      exact ⟨hinv, fun _ => htol⟩
    · cases hstep
  | PhoneUser pattern =>
    cases hstep
    exact hphone (Phone.keeps_submit ht hbefore pattern)
  | PhoneCancels failure =>
    cases hstep
    exact hphone (Phone.keeps_cancel ht hbefore failure)
  | PhoneCloses failure =>
    cases hstep
    exact hphone (Phone.keeps_close ht hbefore failure)

/-! ## Runs -/

theorem reaches_inv {fits : State → Action → Prop} {now : Nat} (h : Reaches s fits (.start now) t) : Inv s t := by
  induction h with
  | refl => exact start_inv s now
  | tail _ hstep ih =>
    obtain ⟨a, -, hstep⟩ := hstep
    exact (step_inv ih hstep).1

/-- A late commitment is what the phone does not expect. -/
theorem late_rejected (ht : Inv s t) {a : Action} (hlate : opens_late t a) (hstep : a.step s t = some t') :
    t'.phone_phase = .Ended (.error (.Io "Unexpected authenticated pairing record")) := by
  unfold opens_late at hlate
  split at hlate
  · next o number =>
    obtain ⟨hcomparing, htyped⟩ := (Bool.and_eq_true _ _).mp hlate
    obtain ⟨record, hrecord, htype⟩ := Option.map_eq_some_iff.1 (beq_iff_eq.1 htyped)
    obtain ⟨c, hphase⟩ := comparing_phase hcomparing
    simp only [Action.step, hphase] at hstep
    obtain ⟨⟨received, log'⟩, htaken, rfl⟩ := Option.map_eq_some_iff.1 hstep
    -- `compareReceive` looks at the session first, and every record of a pairing has session 0.
    have hsession : record.header.session_id = 0 := by
      cases host_record ht.justified (mem_host_records.1 (List.mem_of_getElem? hrecord)) with
      | commitment random drawn control => exact control.session_id
      | reveal random commitment drawn holds control => exact control.session_id
      | probe id wifi bounded message_type session_id logical_id flags length => exact session_id
      | complete time persisted control => exact control.session_id
      | abort reason control => exact control.session_id
    rcases taken_some htaken with ⟨-, hnone, -⟩ | ⟨n, opened, heq, hopened, rfl, rfl⟩
    · exact absurd rfl (hnone number)
    · cases heq
      cases hopened.symm.trans hrecord
      simp only [Phone.receive, Phone.compareReceive]
      rw [htype, hsession, if_neg (by simp), if_neg (by decide), if_neg (by decide), if_neg (by decide), if_neg (by decide)]
      rfl
  · cases hlate

/-- However the records of a pairing are lost, repeated and reordered and whatever the users do, the host does not fail
because of a record of an honest phone; the phone fails because of a record of an honest host exactly when a commitment
opens late, and then it says that it did not expect the record. -/
theorem honest_peers_tolerated (hlevel : s.Documented) (now : Nat) :
    (∀ t, Reaches s (fun _ _ => True) (.start now) t → HostTolerates t) ∧
    (∀ t, Reaches s (fun t a => ¬ opens_late t a) (.start now) t → PhoneTolerates t) ∧
    ∀ t t' a, Reaches s (fun _ _ => True) (.start now) t → opens_late t a → a.step s t = some t' →
      t'.phone_phase = .Ended (.error (.Io "Unexpected authenticated pairing record")) ∧ ¬ PhoneTolerates t' := by
  refine ⟨fun t h => (reaches_inv h).tolerated hlevel, fun t h => ?_, fun t t' a h hlate hstep => ?_⟩
  · induction h with
    | refl => exact fun e heq => (by cases heq)
    | tail hrun hstep ih =>
      obtain ⟨a, hontime, hstep⟩ := hstep
      exact (step_inv (reaches_inv hrun) hstep).2 ih hontime
  · have hended := late_rejected (reaches_inv h) hlate hstep
    exact ⟨hended, fun htol => htol _ hended (show _ ∈ COMPLAINTS by decide)⟩

/-! ## A pairing -/

def PhonePhase.error : PhonePhase → Option PairingException
  | .Ended (.error e) => some e
  | _ => none

def phone_value : Bytes := List.replicate 32 1
def host_value : Bytes := List.replicate 32 2
def transcript : Bytes := List.replicate 32 7

/-- BLAKE2s at both commitments and at the digest of this pairing. -/
def sampled_blake2s (bytes : Bytes) : Digest :=
  if bytes = SAS_COMMIT_DOMAIN ++ [1] ++ transcript ++ phone_value then
    ⟨[42, 62, 130, 104, 105, 238, 15, 221, 140, 246, 43, 144, 23, 227, 237, 47, 217, 169, 29, 67, 12, 101, 236, 232, 148, 32,
      224, 121, 139, 24, 11, 135], rfl⟩
  else if bytes = SAS_COMMIT_DOMAIN ++ [2] ++ transcript ++ host_value then
    ⟨[122, 160, 218, 35, 51, 219, 57, 213, 9, 254, 252, 183, 171, 60, 112, 98, 202, 147, 151, 215, 17, 21, 32, 147, 184, 173,
      180, 111, 157, 107, 194, 241], rfl⟩
  else
    ⟨[228, 213, 110, 8, 39, 19, 85, 15, 205, 192, 90, 88, 170, 142, 145, 122, 182, 162, 123, 165, 189, 219, 238, 120, 37, 67,
      73, 38, 56, 108, 145, 32], rfl⟩

/-- `WifiManager.calculateSignalLevel` between -100 and -55 dBm. -/
def sampled_levels (rssi numLevels : Int) : Int :=
  if rssi ≤ -100 then 0
  else if rssi ≥ -55 then numLevels - 1
  else (rssi + 100) * (numLevels - 1) / 45

def sampled (transport : TransportKind) : Session where
  transport := transport
  connection_id := 9
  handshake_hash := transcript
  host_key := [3]
  phone_key := [4]
  host_deadline := 60000000000
  phone_deadline := 60000000000
  blake2s := sampled_blake2s
  calculateSignalLevel := sampled_levels

theorem sampled_documented (transport : TransportKind) : (sampled transport).Documented := by
  intro rssi
  show 0 ≤ sampled_levels rssi 5 ∧ sampled_levels rssi 5 ≤ 4
  unfold sampled_levels
  split_ifs <;> omega

def host_polls (now : Nat) : Action := .HostPolls ⟨now, none, none, (now, now)⟩
def host_receives_at (now : Nat) (number : Option Nat) : Action :=
  .HostReceives ⟨now, some ⟨host_value, rfl⟩, 1, none, none, none, none⟩ (.ok number)

def replying (now : Int) : Replying := ⟨some (-60, 5180), (now, now), none, now⟩
def phone_sends (now : Int) : Action := .PhoneSends ⟨now, true, fun _ => replying now, none, none⟩
def phone_starts (now : Int) : Action := .PhoneStarts ⟨now, ⟨phone_value, rfl⟩, 1, none, replying now, none⟩
def phone_receives_at (now : Int) (number : Option Nat) : Action :=
  .PhoneReceives ⟨now, ⟨phone_value, rfl⟩, 1, none, replying now, none⟩ (.ok number)

/-- Both sides have the pattern. -/
def exchanged : List Action :=
  [phone_starts 0, host_polls 0, host_receives_at 0 (some 0), phone_sends 1, phone_receives_at 1 (some 0), host_polls 1,
    host_receives_at 1 (some 2), phone_sends 2, phone_receives_at 2 (some 2)]

/-- The users compare, and everything that was sent twice opens twice but for the host's commitment. -/
def compared : List Action :=
  [host_polls 2, host_receives_at 2 (some 1), phone_sends 3, phone_receives_at 3 (some 4), .PhoneUser [2, 3, 3, 4, 5, 5, 1, 5],
    phone_sends 4, phone_receives_at 4 (some 3), host_polls 3, host_receives_at 3 (some 4), host_polls 4,
    host_receives_at 4 (some 6), .HostUser .Approve, host_polls 3000000001, host_receives_at 3000000001 (some 3),
    phone_sends 5, phone_receives_at 5 (some 6)]

/-- A pairing over Wi-Fi that both sides complete. -/
theorem honest_peers_tolerated_paired :
    ∃ t, run (sampled .Wifi) (fun t a => ¬ opens_late t a) (exchanged ++ compared) (.start 0) = some t ∧
      .PhoneStores [3] ∈ t.log ∧ .HostPersists [4] 3000000001 ∈ t.log ∧ HostTolerates t ∧ PhoneTolerates t := by
  obtain ⟨hhost, hphone, -⟩ := honest_peers_tolerated (sampled_documented .Wifi) 0
  have hpaired : ((run (sampled .Wifi) (fun t a => ¬ opens_late t a) (exchanged ++ compared) (.start 0)).any fun t =>
      decide (.PhoneStores [3] ∈ t.log ∧ .HostPersists [4] 3000000001 ∈ t.log)) = true := by decide +kernel
  obtain ⟨t, hrun, hlog⟩ := (Option.any_eq_true _ _).1 hpaired
  obtain ⟨hstored, hpersisted⟩ := of_decide_eq_true hlog
  have hreaches := run_reaches (sampled .Wifi) hrun
  exact ⟨t, hrun, hstored, hpersisted, hhost t (Reaches.any _ hreaches), hphone t hreaches⟩

-- The second copy of the host's commitment opens after its reveal, and nobody did anything yet.
example : ((run (sampled .Usb) (fun _ _ => True) (exchanged ++ [phone_sends 3, phone_receives_at 3 (some 1)])
    (.start 0)).any fun t => decide (t.phone_phase.error = some (.Io "Unexpected authenticated pairing record")) &&
      t.log.all fun e => e.by_host || e.by_phone) = true := by decide +kernel

end Trackpad.Pairing
