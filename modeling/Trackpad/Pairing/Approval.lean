import Trackpad.Pairing.Agreement
/-!
# The approval

The host takes one command an iteration, so that an approval may wait in the channel from before the pattern was shown.
What a half of the host does with the channel and the approval, and from it when the approval a host persists on was
given.
-/

namespace Trackpad.Pairing

open V5Host Sas Logs Relation

variable (s : Session)

def HostPhase.comparison : HostPhase → Option Comparison
  | .Polling (.Comparing c) | .Receiving (.Comparing c) => some c
  | _ => none

/-- The user approved after the pattern was shown. -/
def ApprovedSinceShown (log : List Event) : Prop :=
  ∃ newer older pattern time, log = newer ++ .HostShows pattern time :: older ∧ .Commands .Approve ∈ newer

/-- The host persists once `given`. -/
def Approved (given : List Event → Prop) : Event → List Event → Prop
  | .HostPersists _ _, log => given log
  | _, _ => True

/-- An approval waits when the phone's reveal opens. -/
def approved_early (t : State) : Action → Bool
  | .HostReceives _ (.ok (some number)) => decide (.Approve ∈ t.commands.queue) &&
      ((phone_records t.log)[number]?.map fun record => record.header.message_type) == some PHONE_SAS_REVEAL
  | _ => false

/-- What one half of the host, which begins with `h`, does with the channel and the log. -/
structure Listens (given : List Event → Prop) (h h' : Host) : Prop where
  suffix : h.log <:+ h'.log
  queue : h'.inbox.queue ⊆ h.inbox.queue
  approved : Justified (Approved given) h'.log

/-- It approves only once `given`, and it compares only if it did or if the pattern is `shown`. -/
structure Heeds (given : List Event → Prop) (shown : Prop) (h h' : Host) : Prop where
  listens : Listens given h h'
  approved : ∀ c, h'.phase.comparison = some c → c.local_approved = true → given h'.log
  compares : h'.phase.comparison.isSome → h.phase.comparison.isSome ∨ shown

theorem ApprovedSinceShown.suffix {log log' : List Event} (hsuffix : log <:+ log') (h : ApprovedSinceShown log) :
    ApprovedSinceShown log' := by
  obtain ⟨newest, rfl⟩ := hsuffix
  obtain ⟨newer, older, pattern, time, rfl, hmem⟩ := h
  exact ⟨newest ++ newer, older, pattern, time, (List.append_assoc _ _ _).symm, List.mem_append_right _ hmem⟩

/-- An approval after the pattern was shown. -/
theorem ApprovedSinceShown.approve {log : List Event} {pattern : List UInt8} {time : Nat}
    (hshown : .HostShows pattern time ∈ log) : ApprovedSinceShown (.Commands .Approve :: log) := by
  obtain ⟨newer, older, rfl⟩ := List.append_of_mem hshown
  exact ⟨.Commands .Approve :: newer, older, pattern, time, rfl, List.mem_cons_self⟩

theorem justified_any (log : List Event) : Justified (Approved fun _ => True) log := by
  induction log with
  | nil => trivial
  | cons e log ih => exact ⟨by cases e <;> trivial, ih⟩

namespace Host

section

variable {s} {given : List Event → Prop} {shown : Prop} {start h : Host} {next : Host → Host}

theorem listens_note (hw : Listens given start h) {e : Event} (he : Approved given e h.log) : Listens given start (h.note e) :=
  ⟨hw.suffix.trans (List.suffix_cons _ _), hw.queue, he, hw.approved⟩

theorem heeds_fail (hw : Listens given start h) (e : HostV5Error) : Heeds given shown start (h.fail e) :=
  ⟨⟨hw.suffix, hw.queue, hw.approved⟩, fun c hc => (by cases hc), fun hc => (by cases hc)⟩

theorem heeds_ended (hw : Listens given start h) (result : Except HostV5Error Unit) :
    Heeds given shown start (h.go (.Ended result)) :=
  ⟨⟨hw.suffix, hw.queue, hw.approved⟩, fun c hc => (by cases hc), fun hc => (by cases hc)⟩

/-- A loop before the comparison. -/
theorem heeds_waiting (hw : Listens given start h) {phase : HostPhase} (hphase : phase.comparison = none) :
    Heeds given shown start (h.go phase) := by
  refine ⟨⟨hw.suffix, hw.queue, hw.approved⟩, fun c hc => ?_, fun hc => ?_⟩
  · cases hphase.symm.trans hc
  · change phase.comparison.isSome = true at hc
    rw [hphase] at hc
    cases hc

theorem heeds_comparing (hw : Listens given start h) {c : Comparison} (hc : c.local_approved = true → given h.log)
    {phase : HostPhase} (hphase : phase.comparison = some c) (hcompares : start.phase.comparison.isSome ∨ shown) :
    Heeds given shown start (h.go phase) := by
  refine ⟨⟨hw.suffix, hw.queue, hw.approved⟩, fun c' hc' => ?_, fun _ => hcompares⟩
  cases hphase.symm.trans hc'
  exact hc

theorem listens_seal (hw : Listens given start h) (message_type : UInt8) (logical_id : UInt64) (flags : UInt32) (payload : Bytes) :
    Listens given start (h.seal_record s message_type logical_id flags payload) := listens_note hw trivial

theorem heeds_redundant (hw : Listens given start h)
    (hnext : ∀ h' : Host, Listens given start h' → h.log <:+ h'.log → Heeds given shown start (next h'))
    (message_type : UInt8) (logical_id : UInt64) (flags : UInt32) (payload : Bytes) (failure : Option IoError) :
    Heeds given shown start (h.send_record_redundant s message_type logical_id flags payload failure next) := by
  unfold send_record_redundant
  cases failure with
  | some e => exact heeds_fail hw _
  | none =>
    refine hnext _ (listens_seal (listens_seal hw _ _ _ _) _ _ _ _) ?_
    exact (List.suffix_cons _ _).trans (List.suffix_cons _ _)

theorem heeds_once (hw : Listens given start h) (hnext : ∀ h' : Host, Listens given start h' → Heeds given shown start (next h'))
    (message_type : UInt8) (logical_id : UInt64) (flags : UInt32) (payload : Bytes) (failure : Option IoError) :
    Heeds given shown start (h.send_record_once s message_type logical_id flags payload failure next) := by
  unfold send_record_once
  cases failure with
  | some e => exact heeds_fail hw _
  | none => exact hnext _ (listens_seal hw _ _ _ _)

theorem heeds_abort (hw : Listens given start h) (reason : Nat) (failure : Option IoError) (e : HostV5Error) :
    Heeds given shown start (h.send_abort s reason failure (fail e)) :=
  heeds_redundant hw (fun _ hw' _ => heeds_fail hw' e) _ _ _ _ _

theorem heeds_required (hw : Listens given start h) (hnext : Heeds given shown start (next h)) (record : OpenedRecord)
    (payload_length : Nat) : Heeds given shown start (h.require_pair_record record payload_length next) := by
  unfold require_pair_record
  split
  · exact heeds_fail hw _
  · exact hnext

/-- The receiver keeps what it did not return. -/
theorem try_recv_queue (r : Receiver) : r.try_recv.2.queue ⊆ r.queue ∧ ∀ command, r.try_recv.1 = .ok command → command ∈ r.queue := by
  obtain ⟨queue, disconnected⟩ := r
  cases queue with
  | nil => exact ⟨List.Subset.refl _, fun command h => (by cases h)⟩
  | cons command queue =>
    refine ⟨List.subset_cons_self _ _, fun command' h => ?_⟩
    cases h
    exact List.mem_cons_self

theorem listens_try_recv (hw : Listens given start h) : Listens given start { h with inbox := h.inbox.try_recv.2 } :=
  ⟨hw.suffix, List.Subset.trans (try_recv_queue h.inbox).1 hw.queue, hw.approved⟩

/-! ## `wait_for_application` -/

theorem heeds_wait_poll (hw : Listens given start h) {resume : Waiting → HostLoop}
    (hresume : ∀ w, (HostPhase.Receiving (resume w)).comparison = none) (o : Polled) (w : Waiting) :
    Heeds given shown start (h.wait_poll s o resume w) := by
  have hpolled := listens_try_recv hw
  unfold wait_poll
  split
  · dsimp only
    split
    · exact heeds_abort hpolled _ _ _
    · exact heeds_abort hpolled _ _ _
    all_goals
      split
      · split
        · exact heeds_fail hpolled _
        · exact heeds_waiting hpolled (hresume _)
      · exact heeds_waiting hpolled (hresume _)
  · exact heeds_abort hw _ _ _

theorem heeds_wait_receive (hw : Listens given start h) {resume : Waiting → HostLoop}
    (hresume : ∀ w, (HostPhase.Polling (resume w)).comparison = none) {received : Option OpenedRecord} {expected_type : UInt8}
    {next : OpenedRecord → Host → Host}
    (hnext : ∀ record, received = some record → record.header.message_type = expected_type →
      Heeds given shown start (next record h)) (o : Observed) (retry : Option (UInt8 × Bytes)) (w : Waiting) :
    Heeds given shown start (h.wait_receive s o received expected_type retry resume next w) := by
  have hagain : Heeds given shown start (h.wait_retry s o retry resume w) := by
    unfold wait_retry
    split
    · exact heeds_waiting hw (hresume _)
    · split
      · exact heeds_redundant hw (fun _ hw' _ => heeds_waiting hw' (hresume _)) _ _ _ _ _
      · exact heeds_waiting hw (hresume _)
  unfold wait_receive
  split
  · exact hagain
  · next record =>
    split
    · next htype => exact hnext record rfl htype.2.2
    · split
      · exact heeds_fail hw _
      · exact hagain

theorem heeds_commit (hw : Listens given start h) (o : Observed) (record : OpenedRecord) :
    Heeds given shown start (h.commit s o record) := by
  refine heeds_required hw ?_ _ _
  split
  · exact heeds_fail hw _
  · next host_random _ =>
    exact heeds_redundant (listens_note (e := .HostDraws host_random.val) hw trivial) (fun _ hw' _ => heeds_waiting hw' rfl) _ _ _ _ _

theorem heeds_reveal (hw : Listens given start h) (hshown : shown) (o : Observed) (phone_commitment host_random : Bytes)
    (record : OpenedRecord) : Heeds given shown start (h.reveal s o phone_commitment host_random record) := by
  refine heeds_required hw ?_ _ _
  dsimp only
  split
  · exact heeds_abort hw _ _ _
  · refine heeds_redundant hw (fun h' hw' _ => ?_) _ _ _ _ _
    split
    · next pattern _ =>
      have hnoted := listens_note (e := .HostShows pattern o.now) hw' trivial
      exact heeds_comparing hnoted (fun h => (by cases h)) rfl (.inr hshown)
    · exact heeds_waiting hw' rfl

/-! ## The comparison -/

variable (hsuffix : ∀ log log', log <:+ log' → given log → given log')
include hsuffix

theorem heeds_probe (hw : Listens given start h) {c : Comparison} (hc : c.local_approved = true → given h.log)
    (hcompares : start.phase.comparison.isSome) (o : Polled) : Heeds given shown start (h.probe s o c) := by
  unfold probe
  dsimp only
  split
  · unfold send_quality_probe
    split
    · exact heeds_fail hw _
    · have hfirst := listens_seal (s := s) hw HOST_QUALITY_PROBE (.ofNat c.next_probe_id)
        (if c.next_probe_id % 10 = 9 then QUALITY_REPAIR_ONLY else 0) (LittleEndian.encode 8 o.stamps.1)
      have hgrown : h.log <:+ (h.seal_record s HOST_QUALITY_PROBE (.ofNat c.next_probe_id)
        (if c.next_probe_id % 10 = 9 then QUALITY_REPAIR_ONLY else 0) (LittleEndian.encode 8 o.stamps.1)).log := List.suffix_cons _ _
      refine heeds_comparing (listens_seal hfirst _ _ _ _) (fun happroved => ?_) rfl (.inl hcompares)
      exact hsuffix _ _ (hgrown.trans (List.suffix_cons _ _)) (hc happroved)
  · refine heeds_comparing hw ?_ rfl (.inl hcompares)
    exact hc

theorem heeds_compare_poll (hw : Listens given start h) {c : Comparison} (hc : c.local_approved = true → given h.log)
    (hqueued : .Approve ∈ h.inbox.queue → given h.log) (hcompares : start.phase.comparison.isSome) (o : Polled) :
    Heeds given shown start (h.compare_poll s o c) := by
  have hpolled := listens_try_recv hw
  have hcheck : ∀ c : Comparison, (c.local_approved = true → given h.log) →
      Heeds given shown start (compare_poll.check s o c { h with inbox := h.inbox.try_recv.2 }) := by
    intro c hc
    unfold compare_poll.check
    split
    · split
      · exact heeds_fail hpolled _
      · exact heeds_probe hsuffix hpolled (c := { c with last_interface_check := o.now }) hc hcompares o
    · exact heeds_probe hsuffix hpolled hc hcompares o
  unfold compare_poll
  split
  · dsimp only
    split
    · exact heeds_abort hpolled _ _ _
    · exact heeds_fail hpolled _
    · next hcommand => exact hcheck _ fun _ => hqueued ((try_recv_queue h.inbox).2 _ hcommand)
    · exact hcheck _ hc
  · exact heeds_abort hw _ _ _

omit hsuffix in
theorem heeds_persist (hw : Listens given start h) {c : Comparison} (hc : c.local_approved = true → given h.log)
    (hcompares : start.phase.comparison.isSome) (o : Observed) : Heeds given shown start (h.persist s o c) := by
  unfold persist persist_pairing_if_authorized
  split
  · exact heeds_fail hw _
  · exact heeds_comparing hw hc rfl (.inl hcompares)
  · next hpersisted =>
    split at hpersisted
    · cases hpersisted
    · next hauthorized =>
      simp only [Bool.or_eq_true, Bool.not_eq_true', not_or, Bool.not_eq_false] at hauthorized
      have hnoted := listens_note (e := .HostPersists s.phone_key c.now) hw (hc hauthorized.1.2)
      exact heeds_redundant hnoted
        (fun _ hw' _ => heeds_once hw' (fun _ hw'' => heeds_ended hw'' _) _ _ _ _ _) _ _ _ _ _

theorem heeds_settle (hw : Listens given start h) {c : Comparison} (hc : c.local_approved = true → given h.log)
    (hcompares : start.phase.comparison.isSome) (o : Observed) : Heeds given shown start (h.settle s o c) := by
  unfold settle
  split
  · refine heeds_redundant hw (fun h' hw' hgrown => ?_) _ _ _ _ _
    exact heeds_persist hw' (c := { c with last_reveal_send := o.now }) (fun happroved => hsuffix _ _ hgrown (hc happroved)) hcompares o
  · exact heeds_persist hw hc hcompares o

theorem heeds_compare_receive (hw : Listens given start h) {c : Comparison} (hc : c.local_approved = true → given h.log)
    (hcompares : start.phase.comparison.isSome) (o : Observed) (received : Option OpenedRecord) :
    Heeds given shown start (h.compare_receive s o received c) := by
  have hsettled : Heeds given shown start (h.settle s o c) := heeds_settle hsuffix hw hc hcompares o
  unfold compare_receive
  split
  · exact hsettled
  · split
    · exact heeds_comparing hw hc rfl (.inl hcompares)
    · split
      · exact heeds_required hw (heeds_settle hsuffix hw (c := { c with remote_confirmed := true }) hc hcompares o) _ _
      · split
        · split
          · exact heeds_fail hw _
          · exact hsettled
        · split
          · refine heeds_required hw ?_ _ _
            split
            · exact heeds_fail hw _
            · exact hsettled
          · split
            · refine heeds_required hw ?_ _ _
              split
              · exact heeds_fail hw _
              · exact hsettled
            · split
              · refine heeds_required hw ?_ _ _
                dsimp only
                split
                · exact heeds_fail hw _
                · exact heeds_fail hw _
              · exact heeds_fail hw _

end

end Host

/-! ## Steps -/

/-- What the approval of a pairing rests on, where one from before the comparison counts if `early`. -/
structure Heeded (given : List Event → Prop) (early : Prop) (t : State) : Prop where
  justified : Justified (Approved given) t.log
  queued : early ∨ t.host_phase.comparison.isSome → .Approve ∈ t.commands.queue → given t.log
  approved : ∀ c, t.host_phase.comparison = some c → c.local_approved = true → given t.log

section

variable {s} {given : List Event → Prop} {early : Prop} {t t' : State}
variable (hsuffix : ∀ log log', log <:+ log' → given log → given log')
include hsuffix

omit hsuffix in
/-- A log that grows by no event of the host. -/
theorem approved_grows {log log' : List Event} (hgrows : Grows Event.by_host log log') (h : Justified (Approved given) log) :
    Justified (Approved given) log' := by
  obtain ⟨newer, rfl, hother⟩ := hgrows.added
  clear hgrows
  induction newer with
  | nil => exact h
  | cons e newer ih =>
    refine ⟨?_, ih fun e' hmem => hother e' (List.mem_cons_of_mem _ hmem)⟩
    have he := hother e List.mem_cons_self
    cases e with
    | HostPersists key time => cases he
    | _ => trivial

omit hsuffix in
theorem Heeded.imp {given' : List Event → Prop} (himp : ∀ log, given log → given' log) (ht : Heeded given early t) :
    Heeded given' early t where
  justified := ht.justified.mono fun e log _ happroved => by
    cases e with
    | HostPersists key time => exact himp log happroved
    | _ => trivial
  queued hlistens hmem := himp _ (ht.queued hlistens hmem)
  approved c hc happroved := himp _ (ht.approved c hc happroved)

theorem Heeded.phone (ht : Heeded given early t) {late : Prop} {p : Phone} (hk : PhoneKeeps s late t.log p) :
    Heeded given early (t.with_phone p) := by
  have hgrows := hk.writes.grows
  exact ⟨approved_grows hgrows ht.justified, fun hlistens hmem => hsuffix _ _ hgrows.suffix (ht.queued hlistens hmem),
    fun c hc happroved => hsuffix _ _ hgrows.suffix (ht.approved c hc happroved)⟩

theorem Heeded.host (ht : Heeded given early t) {h : Host} (hk : Heeds given (early ∨ .Approve ∉ t.commands.queue) t.host h) :
    Heeded given early (t.with_host h) := by
  refine ⟨hk.listens.approved, fun hlistens hmem => ?_, hk.approved⟩
  have hwaited : .Approve ∈ t.commands.queue := hk.listens.queue hmem
  have hheard := fun hbefore => hsuffix _ _ hk.listens.suffix (ht.queued hbefore hwaited)
  rcases hlistens with hearly | hcompares
  · exact hheard (.inl hearly)
  · rcases hk.compares hcompares with hbefore | hearly | hnone
    · exact hheard (.inr hbefore)
    · exact hheard (.inl hearly)
    · exact absurd hwaited hnone

theorem heeds_poll (ht : Heeded given early t) {shown : Prop} (o : Polled) : Heeds given shown t.host (t.host.poll s o) := by
  have hw : Listens given t.host t.host := ⟨List.suffix_rfl, List.Subset.refl _, ht.justified⟩
  unfold Host.poll
  split
  · exact Host.heeds_wait_poll hw (fun _ => rfl) o _
  · exact Host.heeds_wait_poll hw (fun _ => rfl) o _
  · next c hphase =>
    have hcomparison : t.host_phase.comparison = some c := by rw [show t.host_phase = _ from hphase]; rfl
    have hcompares : t.host_phase.comparison.isSome := by rw [hcomparison]; rfl
    exact Host.heeds_compare_poll hsuffix hw (ht.approved c hcomparison) (ht.queued (.inr hcompares)) hcompares o
  · exact ⟨hw, ht.approved, .inl⟩

theorem heeds_receive (ht : Heeded given early t) {loop : HostLoop} (hphase : t.host_phase = .Receiving loop)
    {log' : List Event} (hgrown : t.log <:+ log') (happroved : Justified (Approved given) log') {shown : Prop}
    {received : Except IoError (Option OpenedRecord)}
    (hreveals : ∀ record, received = .ok (some record) → record.header.message_type = PHONE_SAS_REVEAL → shown) (o : Observed) :
    Heeds given shown t.host (Host.receive s o received ⟨t.host_phase, t.commands, log'⟩) := by
  have hw : Listens given t.host ⟨t.host_phase, t.commands, log'⟩ := ⟨hgrown, List.Subset.refl _, happroved⟩
  rw [hphase] at hw ⊢
  unfold Host.receive
  cases received with
  | error e => exact Host.heeds_fail hw _
  | ok record =>
    cases loop with
    | Commitment w => exact Host.heeds_wait_receive hw (fun _ => rfl) (fun opened _ _ => Host.heeds_commit hw o opened) o _ w
    | Reveal phone_commitment host_random w =>
      refine Host.heeds_wait_receive hw (fun _ => rfl) (fun opened hsome htype => ?_) o _ w
      exact Host.heeds_reveal hw (hreveals opened (by rw [hsome]) htype) o _ _ opened
    | Comparing c =>
      have hcomparison : t.host_phase.comparison = some c := by rw [hphase]; rfl
      have hcompares : t.host.phase.comparison.isSome := by rw [show t.host.phase = _ from hphase]; rfl
      exact Host.heeds_compare_receive hsuffix hw (fun h => hsuffix _ _ hgrown (ht.approved c hcomparison h)) hcompares o record

/-- Whatever happens next. -/
theorem heeded_step {a : Action}
    (hgiven : a = .HostUser .Approve → early ∨ t.host_phase.comparison.isSome → given (.Commands .Approve :: t.log))
    (hinv : Inv s t) (ht : Heeded given early t) (hfresh : approved_early t a → early) (hstep : a.step s t = some t') :
    Heeded given early t' := by
  have hbefore : ∀ e, t.phone_phase = .Ended (.error e) → PhoneRejects t.log e → True := fun _ _ _ => trivial
  cases a with
  | HostPolls o =>
    cases hstep
    exact ht.host hsuffix (heeds_poll hsuffix ht o)
  | HostReceives o number =>
    simp only [Action.step] at hstep
    split at hstep
    · next loop hphase =>
      obtain ⟨⟨received, log'⟩, htaken, rfl⟩ := Option.map_eq_some_iff.1 hstep
      refine ht.host hsuffix ?_
      rcases taken_some htaken with ⟨rfl, -, hnone⟩ | ⟨n, record, rfl, hrecord, rfl, rfl⟩
      · exact heeds_receive hsuffix ht hphase List.suffix_rfl ht.justified (fun record heq => absurd heq (hnone record)) o
      · have hopened : Justified (Approved given) (.HostOpened record :: t.log) := ⟨trivial, ht.justified⟩
        refine heeds_receive hsuffix ht hphase (List.suffix_cons _ _) hopened (fun opened heq htype => ?_) o
        cases heq
        by_cases hwaits : .Approve ∈ t.commands.queue
        · refine .inl (hfresh ?_)
          rw [approved_early, hrecord, Option.map_some, htype, decide_eq_true hwaits]
          rfl
        · exact .inr hwaits
    · cases hstep
  | HostUser command =>
    cases hstep
    have hgrown : t.log <:+ .Commands command :: t.log := List.suffix_cons _ _
    refine ⟨⟨trivial, ht.justified⟩, fun hlistens hmem => ?_, fun c hc happroved => hsuffix _ _ hgrown (ht.approved c hc happroved)⟩
    rcases List.mem_append.1 hmem with hwaits | hnew
    · exact hsuffix _ _ hgrown (ht.queued hlistens hwaits)
    · have happrove : .Approve = command := List.mem_singleton.1 hnew
      subst happrove
      exact hgiven rfl hlistens
  | HostDisconnects =>
    cases hstep
    exact ⟨ht.justified, ht.queued, ht.approved⟩
  | PhoneStarts o =>
    cases hstep
    exact ht.phone hsuffix (Phone.keeps_start hinv hbefore o)
  | PhoneSends o =>
    cases hstep
    exact ht.phone hsuffix (Phone.keeps_send hinv hbefore o)
  | PhoneReceives o number =>
    simp only [Action.step] at hstep
    split at hstep
    · next loop hphase =>
      obtain ⟨⟨received, log'⟩, htaken, rfl⟩ := Option.map_eq_some_iff.1 hstep
      exact ht.phone hsuffix (phone_receives hinv hphase htaken)
    · cases hstep
  | PhoneUser pattern =>
    cases hstep
    exact ht.phone hsuffix (Phone.keeps_submit hinv hbefore pattern)
  | PhoneCancels failure =>
    cases hstep
    exact ht.phone hsuffix (Phone.keeps_cancel hinv hbefore failure)
  | PhoneCloses failure =>
    cases hstep
    exact ht.phone hsuffix (Phone.keeps_close hinv hbefore failure)

omit hsuffix in
/-- The log only grows. -/
theorem step_suffix (hinv : Inv s t) {a : Action} (hstep : a.step s t = some t') : t.log <:+ t'.log := by
  have ht : Heeded (fun _ => True) True t := ⟨justified_any _, fun _ _ => trivial, fun _ _ _ => trivial⟩
  have hbefore : ∀ e, t.phone_phase = .Ended (.error e) → PhoneRejects t.log e → True := fun _ _ _ => trivial
  cases a with
  | HostPolls o =>
    cases hstep
    have hheeds : Heeds (fun _ => True) True t.host (t.host.poll s o) := heeds_poll (fun _ _ _ _ => trivial) ht o
    exact hheeds.listens.suffix
  | HostReceives o number =>
    simp only [Action.step] at hstep
    split at hstep
    · next loop hphase =>
      obtain ⟨⟨received, log'⟩, htaken, rfl⟩ := Option.map_eq_some_iff.1 hstep
      have hgrown : t.log <:+ log' := by
        rcases taken_some htaken with ⟨rfl, _, _⟩ | ⟨n, record, _, _, _, rfl⟩
        · exact List.suffix_rfl
        · exact List.suffix_cons _ _
      have hheeds : Heeds (fun _ => True) True t.host (Host.receive s o received ⟨t.host_phase, t.commands, log'⟩) :=
        heeds_receive (fun _ _ _ _ => trivial) ht hphase hgrown (justified_any _) (fun _ _ _ => trivial) o
      exact hheeds.listens.suffix
    · cases hstep
  | HostUser command =>
    cases hstep
    exact List.suffix_cons _ _
  | HostDisconnects =>
    cases hstep
    exact List.suffix_rfl
  | PhoneStarts o =>
    cases hstep
    exact (Phone.keeps_start hinv hbefore o).writes.grows.suffix
  | PhoneSends o =>
    cases hstep
    exact (Phone.keeps_send hinv hbefore o).writes.grows.suffix
  | PhoneReceives o number =>
    simp only [Action.step] at hstep
    split at hstep
    · next loop hphase =>
      obtain ⟨⟨received, log'⟩, htaken, rfl⟩ := Option.map_eq_some_iff.1 hstep
      exact (phone_receives hinv hphase htaken).writes.grows.suffix
    · cases hstep
  | PhoneUser pattern =>
    cases hstep
    exact (Phone.keeps_submit hinv hbefore pattern).writes.grows.suffix
  | PhoneCancels failure =>
    cases hstep
    exact (Phone.keeps_cancel hinv hbefore failure).writes.grows.suffix
  | PhoneCloses failure =>
    cases hstep
    exact (Phone.keeps_close hinv hbefore failure).writes.grows.suffix

theorem reaches_heeded {fits : State → Action → Prop}
    (hgiven : ∀ t, Inv s t → early ∨ t.host_phase.comparison.isSome → given (.Commands .Approve :: t.log))
    (hfresh : ∀ t a, fits t a → approved_early t a → early) {now : Nat} (h : Reaches s fits (.start now) t) :
    Heeded given early t := by
  induction h with
  | refl => exact ⟨trivial, fun _ hmem => (by cases hmem), fun c hc => (by cases hc)⟩
  | tail hrun hlast ih =>
    obtain ⟨a, hfits, hstep⟩ := hlast
    have hinv := reaches_inv hrun
    exact heeded_step hsuffix (fun _ => hgiven _ hinv) hinv ih (hfresh _ a hfits) hstep

end

/-! ## Runs -/

variable {s} in
theorem shown_while_comparing {t : State} (hinv : Inv s t) (hcompares : t.host_phase.comparison.isSome) :
    ∃ pattern time, .HostShows pattern time ∈ t.log := by
  have hknown := hinv.host
  obtain ⟨c, hc⟩ := Option.isSome_iff_exists.1 hcompares
  unfold HostPhase.comparison at hc
  split at hc
  · next c' hphase =>
    rw [hphase] at hknown
    obtain ⟨pattern, hshown⟩ := Comparison.Known.shown hknown
    exact ⟨pattern, c'.quality_started, hshown⟩
  · next c' hphase =>
    rw [hphase] at hknown
    obtain ⟨pattern, hshown⟩ := Comparison.Known.shown hknown
    exact ⟨pattern, c'.quality_started, hshown⟩
  · cases hc

/-- The host persists on an approval only. Where none waits when the phone's reveal opens, it is one that the user gave
with the pattern shown. -/
theorem persisted_approved (now : Nat) :
    (∀ t, Reaches s (fun _ _ => True) (.start now) t → Justified (Approved fun log => .Commands .Approve ∈ log) t.log) ∧
    ∀ t, Reaches s (fun t a => ¬ approved_early t a) (.start now) t → Justified (Approved ApprovedSinceShown) t.log := by
  refine ⟨fun t h => ?_, fun t h => ?_⟩
  · have hissued : Heeded (fun log => .Commands .Approve ∈ log) True t :=
      reaches_heeded (fun _ _ hsuffix hmem => hsuffix.subset hmem) (fun _ _ _ => List.mem_cons_self) (fun _ _ _ _ => trivial) h
    exact hissued.justified
  · have hgiven : ∀ t, Inv s t → False ∨ t.host_phase.comparison.isSome → ApprovedSinceShown (.Commands .Approve :: t.log) := by
      rintro t hinv (hfalse | hcompares)
      · exact hfalse.elim
      · obtain ⟨pattern, time, hshown⟩ := shown_while_comparing hinv hcompares
        exact .approve hshown
    have hheeded := reaches_heeded (fun _ _ hsuffix hsince => ApprovedSinceShown.suffix hsuffix hsince) hgiven
      (fun _ _ hfits hearly => hfits hearly) h
    exact hheeded.justified

theorem persisted_approved_paired :
    ∃ t, Reaches (sampled .Wifi) (fun t a => ¬ approved_early t a) (.start 0) t ∧ .HostPersists [4] 3000000001 ∈ t.log ∧
      Justified (Approved ApprovedSinceShown) t.log := by
  have hpaired : ((run (sampled .Wifi) (fun t a => ¬ approved_early t a) (exchanged ++ compared) (.start 0)).any fun t =>
      decide (.HostPersists [4] 3000000001 ∈ t.log)) = true := by decide +kernel
  obtain ⟨t, hrun, hpersisted⟩ := (Option.any_eq_true _ _).1 hpaired
  have hreaches := run_reaches (sampled .Wifi) hrun
  exact ⟨t, hreaches, of_decide_eq_true hpersisted, (persisted_approved (sampled .Wifi) 0).2 t hreaches⟩

/-- Three approvals before the exchange. Each wait drops one, and the third one counts. -/
def approved_before : List Action :=
  List.replicate 3 (.HostUser .Approve) ++ exchanged ++
    [.PhoneUser [2, 3, 3, 4, 5, 5, 1, 5], phone_sends 3, host_polls 2, host_receives_at 2 (some 4)]

example : ((run (sampled .Usb) (fun _ _ => True) approved_before (.start 0)).any fun t =>
    decide (.HostPersists [4] 2 ∈ t.log ∧ .Commands .Approve ∉ t.log.reverse.drop 3)) = true := by decide +kernel

end Trackpad.Pairing
