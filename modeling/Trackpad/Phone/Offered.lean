import Trackpad.Phone.Controls
import Trackpad.Phone.Moves
/-!
# What the phone was offered and what it queued

A session queues its CANCEL and the contacts held at the HELLO, then the samples in the order they were offered, and
heartbeats. Where no sample is offered between one that was dropped and the end of the session, those queued are the first
ones offered.
-/

namespace Trackpad.V5Transport

/-- The samples taken from the touch view, the oldest first. -/
def offered : List PhoneEvent → List Sample
  | [] => []
  | .offered sample :: earlier => offered earlier ++ [sample]
  | .queued _ _ :: earlier => offered earlier

/-- The sample a frame was queued for. -/
def sampled : Cause × Content → Option Sample
  | (.sample sample, _) => some sample
  | _ => none

/-- What a HELLO queues while the contacts of `held` are on the pad. -/
def opening (held : Snapshot) (now : Int) : List (Cause × Content) :=
  (.start, startContent now) ::
    if countActiveContacts held > 0 then [(.reconstruction, retainedContent held now)] else []

/-- What is queued behind it: a sample as it was offered, or a heartbeat with contacts the view has shown. -/
inductive Follows (held : Snapshot) (samples : List Sample) : Cause × Content → Prop
  | sample {sample : Sample} (taken : sample ∈ samples) : Follows held samples (.sample sample, sample.content)
  | heartbeat {snapshot : Snapshot} (shown : snapshot = held ∨ ∃ sample ∈ samples, snapshot = sample.snapshot) (now : Int) :
      Follows held samples (.heartbeat, retainedContent snapshot now)

theorem Follows.mono {held : Snapshot} {samples samples' : List Sample} {pair : Cause × Content} (h : Follows held samples pair)
    (hsub : samples ⊆ samples') : Follows held samples' pair := by
  cases h with
  | sample taken => exact .sample (hsub taken)
  | heartbeat shown now =>
    refine .heartbeat (shown.imp_right ?_) now
    rintro ⟨sample, hmem, heq⟩
    exact ⟨sample, hsub hmem, heq⟩

/-- The log of a session whose samples were queued from the first one on; `complete` says that none was dropped. -/
def Queues (held : Snapshot) (trace : List PhoneEvent) (complete : Prop) : Prop :=
  ∃ now rest, (history trace).reverse = opening held now ++ rest ∧ (∀ pair ∈ rest, Follows held (offered trace) pair) ∧
    rest.filterMap sampled <+: offered trace ∧ (complete → rest.filterMap sampled = offered trace)

/-- What holds of a phone that took its HELLO while it held `held`, or has taken none. -/
structure Kept (held : Option Snapshot) (p : V5Transport) : Prop where
  before : held = none → p.trace = [] ∧ p.queueOverflowed = false ∧ p.hostReady = false
  after : ∀ snapshot, held = some snapshot → Queues snapshot p.trace (p.running = true ∧ p.queueOverflowed = false)
  ready : p.running = true → held.isSome = p.hostReady
  shown : ∀ snapshot, held = some snapshot → p.running = true →
    p.retained = snapshot ∨ ∃ sample ∈ offered p.trace, p.retained = sample.snapshot
  count : p.activeContactCount = countActiveContacts p.retained

theorem Kept.congr {held : Option Snapshot} {p p' : V5Transport} (h : Kept held p) (same : p'.essentials = p.essentials) :
    Kept held p' := by
  simp only [essentials, Prod.mk.injEq] at same
  obtain ⟨ht, hr, hready, ho, hretained, hcount⟩ := same
  refine ⟨?_, ?_, ?_, ?_, ?_⟩
  · rw [ht, ho, hready]
    exact h.before
  · rw [ht, hr, ho]
    exact h.after
  · rw [hr, hready]
    exact h.ready
  · rw [ht, hr, hretained]
    exact h.shown
  · rw [hcount, hretained]
    exact h.count

/-- Weaker completeness is enough. -/
theorem Queues.imp {held : Snapshot} {trace : List PhoneEvent} {complete complete' : Prop} (h : Queues held trace complete)
    (himp : complete' → complete) : Queues held trace complete' := by
  obtain ⟨now, rest, hhistory, hrest, hsub, heq⟩ := h
  exact ⟨now, rest, hhistory, hrest, hsub, fun hc => heq (himp hc)⟩

/-! ## The moves of the writer and the watchdog -/

theorem abort_essentials (reason : Nat) (p : V5Transport) : (p.sendAuthenticatedAbort reason).essentials = p.essentials := by
  unfold sendAuthenticatedAbort
  rcases hseal : p.sealInto PHONE_AUTH_ABORT 0 0 (LittleEndian.encode 2 reason) with _ | p'
  · rfl
  · obtain ⟨-, rfl⟩ := sealInto_some hseal
    rfl

theorem closeSession_essentials (p : V5Transport) :
    p.closeSession.essentials = (p.trace, false, false, false, p.retained, countActiveContacts p.retained) := by
  have h₁ := abort_essentials 1 p.resetSessionStateLocked
  have h₂ := (abort_essentials 1 (p.resetSessionStateLocked.sendAuthenticatedAbort 1)).trans h₁
  simp only [essentials, Prod.mk.injEq] at h₂ ⊢
  obtain ⟨ht, -, hready, ho, hretained, hcount⟩ := h₂
  exact ⟨ht, rfl, hready, ho, hretained, hcount⟩

theorem Kept.close {held : Option Snapshot} {p : V5Transport} (h : Kept held p) : Kept held p.closeSession := by
  have hclosed : Kept held { p with
      running := false, hostReady := false, queueOverflowed := false, activeContactCount := countActiveContacts p.retained } := by
    refine ⟨fun hnone => ⟨(h.before hnone).1, rfl, rfl⟩, fun snapshot hsome => ?_, fun hrun => (by cases hrun),
      fun _ _ hrun => (by cases hrun), rfl⟩
    exact (h.after snapshot hsome).imp fun hc => (by cases hc.1)
  exact hclosed.congr (closeSession_essentials p)

/-- One more frame behind the opening. -/
theorem Queues.queued {held : Snapshot} {trace : List PhoneEvent} {now : Int} {rest : List (Cause × Content)} {complete : Prop}
    (hhistory : (history trace).reverse = opening held now ++ rest) (hrest : ∀ pair ∈ rest, Follows held (offered trace) pair)
    {cause : Cause} {content : Content} (hfollows : Follows held (offered trace) (cause, content))
    (hsub : (rest ++ [(cause, content)]).filterMap sampled <+: offered trace)
    (heq : complete → (rest ++ [(cause, content)]).filterMap sampled = offered trace) :
    Queues held (.queued cause content :: trace) complete := by
  refine ⟨now, rest ++ [(cause, content)], ?_, fun pair hpair => ?_, hsub, heq⟩
  · rw [history, List.reverse_cons, hhistory, List.append_assoc]
  · rcases List.mem_append.1 hpair with hpair | hpair
    · exact hrest pair hpair
    · rw [List.mem_singleton.1 hpair]
      exact hfollows

/-- Queueing takes the frame, or drops it and says so. -/
theorem enqueue_essentials (cause : Cause) (content : Content) (now : Int) (p : V5Transport) :
    (p.enqueueFrameLocked cause content now).essentials = p.essentials ∨
    (p.enqueueFrameLocked cause content now).essentials = ({ p with queueOverflowed := true } : V5Transport).essentials ∨
    (p.enqueueFrameLocked cause content now).essentials =
      ({ p with trace := .queued cause content :: p.trace } : V5Transport).essentials := by
  unfold enqueueFrameLocked
  split
  · exact .inr (.inl rfl)
  split
  · exact .inl rfl
  · exact .inr (.inr rfl)

theorem Kept.heartbeat {held : Option Snapshot} {p : V5Transport} (h : Kept held p) (hrun : p.running = true)
    (hready : p.hostReady = true) (now : Int) : Kept held (p.enqueueRetainedSnapshotLocked .heartbeat now) := by
  unfold enqueueRetainedSnapshotLocked
  have hsome : held ≠ none := by
    intro hnone
    rw [(h.before hnone).2.2] at hready
    cases hready
  rcases enqueue_essentials .heartbeat (retainedContent p.retained now) now p with hsame | hfull | hqueued
  · exact h.congr hsame
  · have hdropped : Kept held { p with queueOverflowed := true } :=
      ⟨fun hnone => absurd hnone hsome, fun snapshot hheld => (h.after snapshot hheld).imp fun hc => (by cases hc.2), h.ready,
        h.shown, h.count⟩
    exact hdropped.congr hfull
  · -- The heartbeat shows what is retained, which the view has offered.
    have hbeat : Kept held { p with trace := .queued .heartbeat (retainedContent p.retained now) :: p.trace } := by
      refine ⟨fun hnone => absurd hnone hsome, fun snapshot hheld => ?_, h.ready, h.shown, h.count⟩
      obtain ⟨start, rest, hhistory, hrest, hsub, heq⟩ := h.after snapshot hheld
      have hnothing : (rest ++ [(Cause.heartbeat, retainedContent p.retained now)]).filterMap sampled = rest.filterMap sampled := by
        rw [List.filterMap_append]
        exact List.append_nil _
      exact .queued hhistory hrest (.heartbeat (h.shown snapshot hheld hrun) now) (hnothing ▸ hsub) (hnothing ▸ heq)
    exact hbeat.congr hqueued

theorem Kept.move {held : Option Snapshot} {p p' : V5Transport} (h : Kept held p) (hmove : Move p p') : Kept held p' := by
  cases hmove with
  | record sealed =>
    obtain ⟨-, rfl⟩ := sealInto_some sealed
    exact h.congr rfl
  | close => exact h.close
  | heartbeat now running ready => exact h.heartbeat running ready now
  | mark same => exact h.congr same

theorem Kept.moves {held : Option Snapshot} {p p' : V5Transport} (h : Kept held p) (hmoves : Moves p p') : Kept held p' := by
  induction hmoves with
  | refl => exact h
  | tail _ hlast ih => exact ih.move hlast

/-! ## Samples -/

/-- No sample is offered between one that was dropped and the end of the session, unless it is dropped as well. -/
def Complete (p : V5Transport) : Prop := p.queueOverflowed = true → MAX_HOST_WINDOW ≤ p.unacknowledged.size

/-- A sample that is not taken only changes what is retained. -/
theorem Kept.retain {held : Option Snapshot} {p : V5Transport} (h : Kept held p) {sid : UInt64} (hok : Ok sid p)
    (hnot : p.running = false ∨ p.sessionStarted = false) (snapshot : Snapshot) : Kept held (p.retainContactsLocked snapshot) := by
  refine ⟨h.before, h.after, h.ready, fun kept hheld hrun => ?_, rfl⟩
  have hrun : p.running = true := hrun
  have hready := h.ready hrun
  rw [hheld] at hready
  have hstarted := ((hok.running hrun).after hready.symm).1
  rcases hnot with hnot | hnot
  · rw [hnot] at hrun
    cases hrun
  · rw [hnot] at hstarted
    cases hstarted

theorem Kept.offer {held : Option Snapshot} {p : V5Transport} (h : Kept held p) {sid : UInt64} (hok : Ok sid p)
    (hcomplete : Complete p) (sample : Sample) (queuedNanos now : Int) : Kept held (p.offerFrame sample queuedNanos now) := by
  rcases offerFrame_cases sample queuedNanos now p with ⟨hnot, he⟩ | ⟨hrun, hstarted, nanos, he⟩
  · rw [he]
    exact h.retain hok hnot sample.snapshot
  have hp := hok.running hrun
  have hready := (hp.started hstarted).1
  have hsome := h.ready hrun
  rw [hready] at hsome
  obtain ⟨snapshot, rfl⟩ := Option.isSome_iff_exists.1 hsome
  obtain ⟨start, rest, hhistory, hrest, hsub, heq⟩ := h.after snapshot rfl
  have htaken : sample ∈ offered (.offered sample :: p.trace) := List.mem_append_right _ List.mem_cons_self
  have hrest' : ∀ pair ∈ rest, Follows snapshot (offered (.offered sample :: p.trace)) pair :=
    fun pair hpair => (hrest pair hpair).mono (List.subset_append_left _ _)
  rw [he]
  suffices hqueued : Kept (some snapshot) ((p.taken sample).enqueueFrameLocked (.sample sample) sample.content queuedNanos) from
    hqueued.congr rfl
  rcases enqueue_cases (taken_holds hp.toHolds sample) (.sample sample) sample.content queuedNanos with ⟨-, he⟩ | ⟨hroom, he⟩
  · -- It is dropped, and so is every later one.
    rw [he]
    refine ⟨fun hnone => (by cases hnone), fun kept hkept => ?_, fun _ => hready.symm,
      fun kept _ _ => .inr ⟨sample, htaken, rfl⟩, rfl⟩
    cases hkept
    exact ⟨start, rest, hhistory, hrest', hsub.trans (List.prefix_append _ _), fun hc => (by cases hc.2)⟩
  · -- Nothing was dropped yet, so it goes behind all the samples offered.
    have hover : p.queueOverflowed = false := by
      by_contra hnot
      exact Nat.not_le.2 hroom (hcomplete (by simpa using hnot))
    have hall : (rest ++ [(Cause.sample sample, sample.content)]).filterMap sampled = offered (.offered sample :: p.trace) := by
      rw [List.filterMap_append, heq ⟨hrun, hover⟩]
      rfl
    rw [he]
    refine ⟨fun hnone => (by cases hnone), fun kept hkept => ?_, fun _ => hready.symm,
      fun kept _ _ => .inr ⟨sample, htaken, rfl⟩, rfl⟩
    cases hkept
    have hhistory' : (history (.offered sample :: p.trace)).reverse = opening snapshot start ++ rest := hhistory
    exact .queued hhistory' hrest' (.sample htaken) (by rw [hall]) fun _ => hall

/-! ## Controls -/

/-- A frame that has room gets the next sequence number. -/
theorem enqueue_room {p : V5Transport} (hcapacity : p.unacknowledged.capacity = MAX_HOST_WINDOW)
    (hroom : p.unacknowledged.size < MAX_HOST_WINDOW) (cause : Cause) (content : Content) (now : Int) :
    p.enqueueFrameLocked cause content now =
      { p with
        nextSequence := p.nextSequence + 1
        unacknowledged := p.unacknowledged.append ⟨p.nextSequence, content, now, 0, 0⟩
        trace := .queued cause content :: p.trace } := by
  rw [enqueueFrameLocked, if_neg (Nat.not_le.2 hroom), V5SendQueue.add_some (hcapacity ▸ hroom)]

/-- What the first HELLO logs. -/
theorem startSession_essentials {p : V5Transport} (hcapacity : p.unacknowledged.capacity = MAX_HOST_WINDOW) (window : Nat)
    (session : SessionId) (receivedNanos now : Int) :
    (p.startSession window session receivedNanos now).essentials =
      ((if p.activeContactCount > 0 then [.queued .reconstruction (retainedContent p.retained now)] else []) ++
          .queued .start (startContent now) :: p.trace,
        p.running, true, p.queueOverflowed, p.retained, p.activeContactCount) := by
  unfold startSession
  dsimp only
  rw [enqueue_room]
  · dsimp only
    split
    · unfold enqueueRetainedSnapshotLocked
      rw [enqueue_room]
      · rfl
      · exact hcapacity
      · exact (by decide : 1 < MAX_HOST_WINDOW)
    · rfl
  · exact hcapacity
  · exact (by decide : 0 < MAX_HOST_WINDOW)

theorem acknowledge_essentials (acknowledged : Nat) (p : V5Transport) :
    (p.acknowledgeLocked acknowledged).2.essentials = p.essentials := by
  unfold acknowledgeLocked
  split
  · rfl
  dsimp only
  split <;> rfl

/-- A control that is taken logs nothing, but for the first HELLO. -/
theorem handleHostControl_cases {header : RecordHeader} {control : Bytes} {receivedNanos now : Int} {session : SessionId}
    {p p' : V5Transport} (h : p.handleHostControl header control receivedNanos session now = .ok p') :
    p'.essentials = p.essentials ∨ p.running = true ∧ p.hostReady = false ∧
      ∃ window, p'.essentials = (p.startSession window session receivedNanos now).essentials := by
  unfold handleHostControl at h
  split at h
  · cases h
  split at h
  · cases h
  dsimp only at h
  split at h
  · cases h
  split at h
  · cases h
    exact .inl rfl
  rename_i hrun
  split at h
  · cases h
  rename_i p'' hdispatch
  cases h
  unfold dispatchControl at hdispatch
  split at hdispatch
  · split at hdispatch
    · cases hdispatch
    split at hdispatch
    · cases hdispatch
      exact .inl rfl
    · rename_i hready
      cases hdispatch
      exact .inr ⟨by simpa using hrun, by simpa using hready, _, rfl⟩
  split at hdispatch
  · have hack := acknowledge_essentials header.logical_id.toNat p
    split at hdispatch
    · cases hdispatch
    split at hdispatch
    all_goals
      rename_i p₁ heq
      cases hdispatch
      rw [heq] at hack
      exact .inl hack
  split at hdispatch
  · split at hdispatch
    · cases hdispatch
    split at hdispatch
    all_goals
      cases hdispatch
      exact .inl rfl
  · cases hdispatch

/-- What the phone holds from the step on in which it takes its HELLO. -/
def holding (held : Option Snapshot) (p p' : V5Transport) : Option Snapshot :=
  if p.hostReady = false ∧ p'.hostReady = true then some p.retained else held

theorem Kept.start {held : Option Snapshot} {p : V5Transport} (h : Kept held p) {sid : UInt64} (hok : Ok sid p)
    (hrun : p.running = true) (hready : p.hostReady = false) (window : Nat) (session : SessionId) (receivedNanos now : Int) :
    Kept (some p.retained) (p.startSession window session receivedNanos now) := by
  have hnone : held = none := by
    have hsome := h.ready hrun
    rw [hready] at hsome
    simpa using hsome
  obtain ⟨htrace, hover, -⟩ := h.before hnone
  have hstarted := startSession_essentials (hok.running hrun).capacity window session receivedNanos now
  simp only [essentials, Prod.mk.injEq] at hstarted
  obtain ⟨ht, hr, hready', ho, hretained, hcount⟩ := hstarted
  rw [htrace, h.count] at ht
  refine ⟨fun hnone => (by cases hnone), fun snapshot hsome => ?_, fun _ => hready'.symm, fun snapshot hsome _ => ?_, ?_⟩
  · cases hsome
    rw [ht]
    refine ⟨now, [], ?_, fun pair hpair => absurd hpair List.not_mem_nil, List.nil_prefix, fun _ => ?_⟩
    · unfold opening
      split <;> rfl
    · split <;> rfl
  · cases hsome
    exact .inl hretained
  · rw [hcount, hretained]
    exact h.count

theorem Kept.control {held : Option Snapshot} {p : V5Transport} (h : Kept held p) {sid : UInt64} (hok : Ok sid p)
    {header : RecordHeader} {control : Bytes} {receivedNanos now : Int} {session : SessionId} {p' : V5Transport}
    (hhandled : p.handleHostControl header control receivedNanos session now = .ok p') : Kept (holding held p p') p' := by
  unfold holding
  rcases handleHostControl_cases hhandled with hsame | ⟨hrun, hready, window, hstarted⟩
  · have hready : p'.hostReady = p.hostReady := congrArg (fun e => e.2.2.1) hsame
    rw [hready, if_neg (by rintro ⟨hfalse, htrue⟩; rw [hfalse] at htrue; cases htrue)]
    exact h.congr hsame
  · have hready' : p'.hostReady = true := by
      have hafter := startSession_essentials (hok.running hrun).capacity window session receivedNanos now
      exact congrArg (fun e => e.2.2.1) (hstarted.trans hafter)
    rw [if_pos ⟨hready, hready'⟩]
    exact (h.start hok hrun hready window session receivedNanos now).congr hstarted

end Trackpad.V5Transport
