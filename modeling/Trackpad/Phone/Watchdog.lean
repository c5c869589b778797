import Trackpad.Gameplay
/-!
# The active-path watchdog

While contacts touch or gameplay frames wait, the watchdog gives the host 64 ms for progress, counted from the last ACK that
advanced or from the moment the path became active. The transport keeps that moment by hand; here it is compared with what
the run says.
-/

namespace Trackpad.V5Transport

open V5SendQueue

/-! ## Operations -/

/-- What the threads of the phone do to the transport, each under the queue lock, with what the clock reads there. -/
inductive Operation
  | offerFrame (sample : Sample) (queuedNanos now : Int)
  | writerTurn (now sendStarted : Int)
  | handleHostControl (header : RecordHeader) (control : Bytes) (receivedNanos : Int) (session : SessionId) (now : Int)
  | checkHostTimeout (now : Int)
  /-- `closeInternal` has cleared `running` and waits for the lock. -/
  | halt (now : Int)
  | close (now : Int)
  /-- `open`, with the connection that its handshake will give. -/
  | opening (connectionId : UInt64) (now : Int)

def Operation.now : Operation → Int
  | .offerFrame _ _ now | .writerTurn now _ | .handleHostControl _ _ _ _ now | .checkHostTimeout now | .halt now | .close now
  | .opening _ now => now

def perform (p : V5Transport) : Operation → V5Transport
  | .offerFrame sample queuedNanos now => p.offerFrame sample queuedNanos now
  | .writerTurn now sendStarted => p.writerTurn now sendStarted
  | .handleHostControl header control receivedNanos session now =>
    Gameplay.received header control receivedNanos session now p
  | .checkHostTimeout now => p.checkHostTimeout now
  | .halt _ => { p with running := false }
  | .close _ => p.closeSession
  | .opening connectionId _ => opened p.retained connectionId

/-- The transport as it is constructed. -/
def constructed : V5Transport := { opened .empty 0 with running := false }

/-! ## What the run says -/

/-- A session runs and its data path is active. The session ends as soon as `running` is cleared. -/
def pathActive (p : V5Transport) : Bool := p.running && p.sessionStarted && p.hasActiveDataPathLocked

/-- Whether the cumulative sequence advanced. -/
def advanced (p p' : V5Transport) : Bool :=
  p'.highestAcknowledged.any fun sequence => p.highestAcknowledged.all (· < sequence)

/-- When the path last went from inactive to active, and when the last ACK that advanced was received. -/
structure Moments where
  activated : Int
  acknowledged : Option Int
deriving DecidableEq

def Operation.acknowledgedAt : Operation → Option Int
  | .handleHostControl _ _ receivedNanos _ _ => some receivedNanos
  | _ => none

def Moments.after (m : Moments) (op : Operation) (p p' : V5Transport) : Moments where
  activated := if !p.pathActive && p'.pathActive then op.now else m.activated
  acknowledged := (op.acknowledgedAt.filter fun _ => advanced p p').or m.acknowledged

/-- A control was received before it is handled. -/
def Operation.Timed (t : Int) (op : Operation) : Prop := t ≤ op.now ∧ ∀ received, op.acknowledgedAt = some received → received ≤ op.now

/-- Any operations in any order, on a clock that does not go back. -/
inductive Watched : V5Transport → Int → Moments → Prop
  | constructed (start : Int) : Watched constructed start ⟨start, none⟩
  | perform {p : V5Transport} {t : Int} {m : Moments} (op : Operation) : Watched p t m → op.Timed t →
      Watched (p.perform op) op.now (m.after op p (p.perform op))

/-! ## What the operations leave -/

/-- The fields the watchdog reads, but for the queue and the contacts. -/
def vitals (p : V5Transport) :=
  (p.running, p.hostReady, p.sessionStarted, p.activePathStartedNanos, p.lastAcknowledgementProgressNanos, p.highestAcknowledged)

theorem enqueue_vitals (cause : Cause) (content : Content) (now : Int) (p : V5Transport) :
    (p.enqueueFrameLocked cause content now).vitals = p.vitals ∧
    (p.enqueueFrameLocked cause content now).activeContactCount = p.activeContactCount := by
  unfold enqueueFrameLocked
  split
  · exact ⟨rfl, rfl⟩
  · split <;> exact ⟨rfl, rfl⟩

/-- The sequence of the newest frame waiting. -/
def newest (q : V5SendQueue Content) : Option Nat := q.peekLast.map Frame.sequence

theorem pending_newest (p : V5Transport) : p.hasGameplayPendingLocked = (newest p.unacknowledged).any (0 < ·) := by
  unfold hasGameplayPendingLocked newest
  rw [Option.any_map]

/-- Marking a frame as sent leaves every frame its sequence. -/
theorem marked_newest (now : Int) (i repair : Nat) (lastWasRepair : Bool) (q : V5SendQueue Content) :
    newest (q.marked now i repair lastWasRepair) = newest q := by
  have hsequence : ∀ j, ((q.set i (markSent (q.get i) now)).get j).sequence = (q.get j).sequence := by
    intro j
    by_cases hslot : j % q.capacity = i % q.capacity
    · simp [V5SendQueue.set, V5SendQueue.get, hslot, markSent]
    · simp [V5SendQueue.set, V5SendQueue.get, Function.update_of_ne hslot]
  change (if q.isEmpty then none else some ((q.set i (markSent (q.get i) now)).get (q.tail - 1))).map Frame.sequence =
    (if q.isEmpty then none else some (q.get (q.tail - 1))).map Frame.sequence
  split
  · rfl
  · exact congrArg some (hsequence _)

theorem next_newest (now : Int) (window : Nat) (q : V5SendQueue Content) : newest (q.next now window).2 = newest q := by
  have hsettled : newest (q.settle window) = newest q := rfl
  unfold V5SendQueue.next
  dsimp only
  split
  · exact (marked_newest ..).trans hsettled
  · split
    · exact (marked_newest ..).trans hsettled
    · exact hsettled

/-- Retiring frames may leave none; otherwise the newest stays. -/
theorem retire_newest (acknowledged fuel : Nat) (q : V5SendQueue Content) {sequence : Nat}
    (h : newest (retire acknowledged fuel q) = some sequence) : newest q = some sequence := by
  induction fuel generalizing q with
  | zero => exact h
  | succ fuel ih =>
    unfold retire at h
    split at h
    · exact h
    · rename_i hfilled
      split at h
      · exact h
      · have hnewest := ih q.removeFirst h
        unfold newest peekLast at hnewest ⊢
        rw [if_neg hfilled]
        split at hnewest
        · cases hnewest
        · exact hnewest

/-! ## One operation -/

/-- What an operation at `now` does to an active path: it stays active and keeps its start, or it becomes active `now`. An ACK
that advances is the last one, and nothing else moves that time. -/
structure Tracks (now : Int) (received : Option Int) (p p' : V5Transport) : Prop where
  ready : p'.sessionStarted = p'.hostReady
  started : p'.pathActive = true → (p.pathActive = true ∧ p'.activePathStartedNanos = p.activePathStartedNanos) ∨
    (p.pathActive = false ∧ p'.activePathStartedNanos = now)
  acknowledged : p'.pathActive = true → ∀ nanos, received = some nanos → advanced p p' = true →
    p'.lastAcknowledgementProgressNanos = nanos
  kept : p'.pathActive = true → (∀ nanos, received = some nanos → advanced p p' = false) →
    p'.lastAcknowledgementProgressNanos = p.lastAcknowledgementProgressNanos

theorem advanced_same {p p' : V5Transport} (h : p'.highestAcknowledged = p.highestAcknowledged) : advanced p p' = false := by
  unfold advanced
  rw [h]
  cases p.highestAcknowledged with
  | none => rfl
  | some sequence => simp

theorem Tracks.idle {now : Int} {received : Option Int} {p p' : V5Transport} (hidle : p'.pathActive ≠ true)
    (hready : p'.sessionStarted = p'.hostReady) : Tracks now received p p' :=
  ⟨hready, fun h => absurd h hidle, fun h => absurd h hidle, fun h => absurd h hidle⟩

theorem pathActive_eq_true {p : V5Transport} :
    p.pathActive = true ↔ p.running = true ∧ p.sessionStarted = true ∧ p.hasActiveDataPathLocked = true := by
  unfold pathActive
  rw [Bool.and_eq_true, Bool.and_eq_true, and_assoc]

/-- Nothing the watchdog reads changed, but that the path may have become idle. -/
theorem Tracks.same {now : Int} {received : Option Int} {p p' : V5Transport} (hready : p.sessionStarted = p.hostReady)
    (hvitals : p'.vitals = p.vitals) (hpath : p'.hasActiveDataPathLocked = true → p.hasActiveDataPathLocked = true) :
    Tracks now received p p' := by
  simp only [vitals, Prod.mk.injEq] at hvitals
  obtain ⟨hrunning, hhost, hstarted, hsince, hprogress, hhighest⟩ := hvitals
  have hactive : p'.pathActive = true → p.pathActive = true := by
    rw [pathActive_eq_true, pathActive_eq_true, hrunning, hstarted]
    exact fun h => ⟨h.1, h.2.1, hpath h.2.2⟩
  refine ⟨?_, fun h => .inl ⟨hactive h, hsince⟩, fun _ _ _ hadvanced => ?_, fun _ _ => hprogress⟩
  · rw [hstarted, hhost]
    exact hready
  · rw [advanced_same hhighest] at hadvanced
    cases hadvanced

theorem closeSession_tracks {now : Int} {received : Option Int} {p q : V5Transport} : Tracks now received p q.closeSession := by
  have hsent : ∀ (reason : Nat) (p : V5Transport), (p.sendAuthenticatedAbort reason).sessionStarted = p.sessionStarted ∧
      (p.sendAuthenticatedAbort reason).hostReady = p.hostReady := by
    intro reason p
    unfold sendAuthenticatedAbort
    rcases hseal : p.sealInto PHONE_AUTH_ABORT 0 0 (LittleEndian.encode 2 reason) with _ | p'
    · exact ⟨rfl, rfl⟩
    · obtain ⟨-, rfl⟩ := sealInto_some hseal
      exact ⟨rfl, rfl⟩
  have hclosed : q.closeSession.sessionStarted = false := (hsent 1 _).1.trans (hsent 1 _).1
  have hunready : q.closeSession.hostReady = false := (hsent 1 _).2.trans (hsent 1 _).2
  refine .idle (fun h => ?_) (hclosed.trans hunready.symm)
  rw [(pathActive_eq_true.mp h).2.1] at hclosed
  cases hclosed

theorem offerFrame_eq (sample : Sample) (queuedNanos now : Int) (p : V5Transport) :
    p.offerFrame sample queuedNanos now =
      if !p.running || !p.sessionStarted then p.retainContactsLocked sample.snapshot
      else ((p.taken sample).enqueueFrameLocked (.sample sample) sample.content queuedNanos).updateActivePathStateLocked
        p.hasActiveDataPathLocked now := rfl

theorem offerFrame_tracks {p : V5Transport} (hready : p.sessionStarted = p.hostReady) (sample : Sample)
    (queuedNanos now : Int) : Tracks now none p (p.offerFrame sample queuedNanos now) := by
  rw [offerFrame_eq]
  by_cases hopen : (!p.running || !p.sessionStarted) = true
  · rw [if_pos hopen]
    refine .idle (fun h => ?_) hready
    obtain ⟨hrunning, hstarted, -⟩ := pathActive_eq_true.mp h
    simp [show p.running = true from hrunning, show p.sessionStarted = true from hstarted] at hopen
  · rw [if_neg hopen]
    simp only [Bool.or_eq_true, Bool.not_eq_true', not_or, Bool.not_eq_false] at hopen
    obtain ⟨hrunning, hstarted⟩ := hopen
    have hvitals : ((p.taken sample).enqueueFrameLocked (.sample sample) sample.content queuedNanos).vitals = p.vitals :=
      (enqueue_vitals ..).1
    generalize (p.taken sample).enqueueFrameLocked (.sample sample) sample.content queuedNanos = q at hvitals ⊢
    have hvitals' := hvitals
    simp only [vitals, Prod.mk.injEq] at hvitals'
    obtain ⟨-, hhost, hsession, -, hprogress, hhighest⟩ := hvitals'
    have hready' : q.sessionStarted = q.hostReady := by
      rw [hhost, hsession]
      exact hready
    unfold updateActivePathStateLocked
    by_cases hactive : q.hasActiveDataPathLocked = true
    · by_cases hwas : p.hasActiveDataPathLocked = true
      · rw [hwas, hactive]
        exact .same hready hvitals fun _ => hwas
      · rw [Bool.not_eq_true] at hwas
        rw [hwas, hactive]
        have hidle : p.pathActive = false := by
          unfold pathActive
          rw [hwas, Bool.and_false]
        exact ⟨hready', fun _ => .inr ⟨hidle, rfl⟩, fun _ _ hnone => (by cases hnone), fun _ _ => hprogress⟩
    · rw [Bool.not_eq_true] at hactive
      rw [hactive, Bool.and_false]
      refine .idle (fun h => ?_) hready'
      have := (pathActive_eq_true.mp h).2.2
      exact absurd (hactive.symm.trans this) Bool.false_ne_true

theorem sendTouch_tracks {now : Int} {p : V5Transport} (hready : p.sessionStarted = p.hostReady)
    (pending : Frame Content) (sendStarted : Int) : Tracks now none p (p.sendTouch pending sendStarted) := by
  unfold sendTouch
  dsimp only
  rcases hseal : p.sealInto PHONE_TOUCH p.sessionId pending.sequence
    (pending.payload.payload (wireTime sendStarted) p.lastHostSendNanos (wireTime p.lastControlReceiveNanos)) with _ | p'
  · exact closeSession_tracks
  · obtain ⟨-, rfl⟩ := sealInto_some hseal
    exact .same hready rfl id

theorem sendPing_tracks {now : Int} {p : V5Transport} (hready : p.sessionStarted = p.hostReady) (pinged : Int) :
    Tracks now none p (p.sendPing pinged) := by
  unfold sendPing
  dsimp only
  split
  · exact closeSession_tracks
  · rename_i p' hseal
    obtain ⟨-, rfl⟩ := sealInto_some hseal
    rcases hseal' : V5Transport.sealInto PHONE_PING p.sessionId p.nextPingId [] _ with _ | p''
    · exact closeSession_tracks
    · obtain ⟨-, rfl⟩ := sealInto_some hseal'
      exact .same hready rfl id

/-- What comes before an operation without touching the path does not count. -/
theorem Tracks.after {now : Int} {received : Option Int} {p q p' : V5Transport} (hvitals : q.vitals = p.vitals)
    (hpath : q.hasActiveDataPathLocked = p.hasActiveDataPathLocked) (h : Tracks now received q p') : Tracks now received p p' := by
  simp only [vitals, Prod.mk.injEq] at hvitals
  obtain ⟨hrunning, -, hstarted, hsince, hprogress, hhighest⟩ := hvitals
  have hactive : q.pathActive = p.pathActive := by
    unfold pathActive
    rw [hrunning, hstarted, hpath]
  have hadvanced : advanced q p' = advanced p p' := by
    unfold advanced
    rw [hhighest]
  refine ⟨h.ready, ?_, ?_, ?_⟩
  · rw [← hactive, ← hsince]
    exact h.started
  · rw [← hadvanced]
    exact h.acknowledged
  · rw [← hadvanced, ← hprogress]
    exact h.kept

theorem heartbeat_same (now : Int) (p : V5Transport) :
    (p.maybeEnqueueHeartbeatLocked now).vitals = p.vitals ∧
    (p.maybeEnqueueHeartbeatLocked now).hasActiveDataPathLocked = p.hasActiveDataPathLocked := by
  unfold maybeEnqueueHeartbeatLocked
  split
  · exact ⟨rfl, rfl⟩
  · rename_i hdue
    simp only [Bool.or_eq_true, not_or, beq_iff_eq] at hdue
    have htouching : decide (p.activeContactCount > 0) = true := by
      have := hdue.1.1.2
      simp only [decide_eq_true_eq]
      omega
    obtain ⟨hvitals, hcount⟩ := enqueue_vitals .heartbeat (retainedContent p.retained now) now { p with lastHeartbeatNanos := now }
    refine ⟨hvitals, ?_⟩
    -- A heartbeat is only queued while contacts touch, so the path was active without it.
    unfold hasActiveDataPathLocked enqueueRetainedSnapshotLocked
    rw [hcount, htouching, Bool.true_or, Bool.true_or]

/-- Of the queue only its newest sequence matters. -/
theorem queue_path {p : V5Transport} {unacknowledged : V5SendQueue Content} (h : newest unacknowledged = newest p.unacknowledged) :
    ({ p with unacknowledged := unacknowledged } : V5Transport).hasActiveDataPathLocked = p.hasActiveDataPathLocked := by
  unfold hasActiveDataPathLocked
  rw [pending_newest, pending_newest, ← h]

theorem writerTurn_tracks {p : V5Transport} (hready : p.sessionStarted = p.hostReady) (now sendStarted : Int) :
    Tracks now none p (p.writerTurn now sendStarted) := by
  obtain ⟨hvitals, hpath⟩ := heartbeat_same now p
  unfold writerTurn
  split
  · exact .same hready rfl id
  dsimp only
  generalize p.maybeEnqueueHeartbeatLocked now = q at hvitals hpath ⊢
  refine .after hvitals hpath ?_
  have hready' : q.sessionStarted = q.hostReady := by
    simp only [vitals, Prod.mk.injEq] at hvitals
    rw [hvitals.2.1, hvitals.2.2.1]
    exact hready
  split
  · exact .same hready' rfl id
  have hnewest := next_newest now q.hostWindow q.unacknowledged
  rcases heq : q.unacknowledged.next now q.hostWindow with ⟨_ | pending, unacknowledged⟩ <;> rw [heq] at hnewest
  all_goals
    dsimp only
    have hmarked := queue_path hnewest
    have hsame : ({ q with unacknowledged := unacknowledged } : V5Transport).vitals = q.vitals := rfl
    have hready'' : ({ q with unacknowledged := unacknowledged } : V5Transport).sessionStarted =
      ({ q with unacknowledged := unacknowledged } : V5Transport).hostReady := hready'
    generalize ({ q with unacknowledged := unacknowledged } : V5Transport) = marked at hmarked hsame hready'' ⊢
    refine .after hsame hmarked ?_
  · split
    · exact sendPing_tracks hready'' now
    · exact .same hready'' rfl id
  · exact sendTouch_tracks hready'' pending sendStarted

theorem checkHostTimeout_tracks {p : V5Transport} (hready : p.sessionStarted = p.hostReady) (now : Int) :
    Tracks now none p (p.checkHostTimeout now) := by
  unfold checkHostTimeout
  split
  · exact .same hready rfl id
  split
  · exact closeSession_tracks
  · exact .same hready rfl id

/-! ## Controls -/

/-- The first frame of a session has the sequence 0. -/
theorem enqueue_first {p : V5Transport} (q : V5SendQueue Content) (hqueue : p.unacknowledged = q.clear) (hnext : p.nextSequence = 0)
    (cause : Cause) (content : Content) (now : Int) : (p.enqueueFrameLocked cause content now).hasGameplayPendingLocked = false := by
  rw [pending_newest]
  unfold enqueueFrameLocked
  rw [hqueue, hnext]
  split
  · rfl
  · unfold V5SendQueue.add
    split_ifs
    · dsimp only
      rw [hqueue]
      rfl
    · dsimp only
      unfold newest V5SendQueue.peekLast
      simp [V5SendQueue.append, V5SendQueue.set, V5SendQueue.get, V5SendQueue.clear, V5SendQueue.isEmpty]

/-- The CANCEL alone makes no path active, so a new session's path starts with the retained snapshot. -/
theorem startSession_tracks {p : V5Transport} (hidle : p.sessionStarted = false) (window : Nat) (session : SessionId)
    (receivedNanos now : Int) : Tracks now (some receivedNanos) p (p.startSession window session receivedNanos now) := by
  have hinactive : p.pathActive = false := by
    unfold pathActive
    rw [hidle, Bool.and_false, Bool.false_and]
  unfold startSession
  dsimp only
  generalize hfresh : ({ p with
    hostWindow := window
    hostLaneCount := 6
    hostReady := true
    lastIdleResponseNanos := receivedNanos
    sessionId := session.id
    nextSequence := 0
    highestAcknowledged := none
    unacknowledged := p.unacknowledged.clear } : V5Transport) = fresh
  have hvitals : fresh.vitals = (p.running, true, p.sessionStarted, p.activePathStartedNanos, p.lastAcknowledgementProgressNanos,
      none) := by
    rw [← hfresh]
    rfl
  have hfirst := enqueue_first p.unacknowledged (hfresh ▸ rfl : fresh.unacknowledged = p.unacknowledged.clear)
    (hfresh ▸ rfl : fresh.nextSequence = 0) .start (startContent now) now
  obtain ⟨hcancel, hcount⟩ := enqueue_vitals .start (startContent now) now fresh
  generalize fresh.enqueueFrameLocked .start (startContent now) now = q at hfirst hcancel hcount ⊢
  rw [hvitals] at hcancel
  simp only [vitals, Prod.mk.injEq] at hcancel
  obtain ⟨hrunning, hhost, -, -, hprogress, hhighest⟩ := hcancel
  have hnone : ∀ p' : V5Transport, p'.highestAcknowledged = none → advanced p p' = false := by
    intro p' h
    unfold advanced
    rw [h]
    rfl
  split
  · obtain ⟨hsnapshot, -⟩ := enqueue_vitals .reconstruction (retainedContent q.retained now) now
      { q with sessionStarted := true, activePathStartedNanos := now, lastHeartbeatNanos := now }
    unfold enqueueRetainedSnapshotLocked
    dsimp only
    generalize V5Transport.enqueueFrameLocked .reconstruction (retainedContent q.retained now) now
      { q with sessionStarted := true, activePathStartedNanos := now, lastHeartbeatNanos := now } = p' at hsnapshot ⊢
    simp only [vitals, Prod.mk.injEq] at hsnapshot
    obtain ⟨-, hhost', hstarted', hsince, hprogress', hhighest'⟩ := hsnapshot
    refine ⟨hstarted'.trans (hhost'.trans hhost).symm, fun _ => .inr ⟨hinactive, hsince⟩, fun _ _ _ hadvanced => ?_,
      fun _ _ => hprogress'.trans hprogress⟩
    rw [hnone p' (hhighest'.trans hhighest)] at hadvanced
    cases hadvanced
  · rename_i hlifted
    refine .idle (fun h => ?_) hhost.symm
    have hactive := (pathActive_eq_true.mp h).2.2
    have hpending : ({ q with sessionStarted := true } : V5Transport).hasGameplayPendingLocked = false := hfirst
    unfold hasActiveDataPathLocked at hactive
    rw [hpending, Bool.or_false, decide_eq_true_eq] at hactive
    exact hlifted hactive

/-- The transport once the frames up to `sequence` were retired. -/
def retired (sequence : Nat) (p : V5Transport) : V5Transport :=
  { p with
    highestAcknowledged := some sequence
    unacknowledged := retire sequence p.unacknowledged.size p.unacknowledged }

theorem retired_path {sequence : Nat} {p : V5Transport} (h : (p.retired sequence).hasActiveDataPathLocked = true) :
    p.hasActiveDataPathLocked = true := by
  unfold hasActiveDataPathLocked at h ⊢
  rw [pending_newest, Bool.or_eq_true] at h ⊢
  refine h.imp_right fun h => ?_
  rw [Option.any_eq_true] at h ⊢
  obtain ⟨waiting, hsome, hpos⟩ := h
  exact ⟨waiting, retire_newest _ _ _ hsome, hpos⟩

/-- An ACK that advances may leave the path idle, and never makes it active. -/
theorem acknowledgeLocked_tracks {p q : V5Transport} (hready : p.sessionStarted = p.hostReady) {sequence : Nat}
    (receivedNanos now : Int) (hack : p.acknowledgeLocked sequence = (true, q)) :
    Tracks now (some receivedNanos) p { q with
      lastAcknowledgementProgressNanos := receivedNanos
      lastIdleResponseNanos := receivedNanos } := by
  by_cases hstale : sequence = NO_ACK ∨ p.highestAcknowledged.any (sequence ≤ ·) ∨ sequence ≥ p.nextSequence
  · have hrefused : p.acknowledgeLocked sequence = (false, p) := if_pos hstale
    rw [hrefused] at hack
    cases hack
  have haccepted : p.acknowledgeLocked sequence = (true, if !(p.retired sequence).hasActiveDataPathLocked then
      { p.retired sequence with activePathStartedNanos := 0 } else p.retired sequence) := if_neg hstale
  obtain rfl := (Prod.mk.inj (haccepted.symm.trans hack)).2
  rw [not_or, not_or] at hstale
  have hadvanced : advanced p (p.retired sequence) = true := by
    unfold advanced retired
    rw [Option.any_some]
    have := hstale.2.1
    cases hhighest : p.highestAcknowledged with
    | none => rfl
    | some highest =>
      rw [hhighest, Option.any_some, decide_eq_true_eq] at this
      simpa using this
  have hready' : (p.retired sequence).sessionStarted = (p.retired sequence).hostReady := hready
  have hpath := @retired_path sequence p
  have hsince : (p.retired sequence).activePathStartedNanos = p.activePathStartedNanos := rfl
  have hsession : (p.retired sequence).pathActive = true → p.pathActive = true := fun h =>
    have h := pathActive_eq_true.mp h
    pathActive_eq_true.mpr ⟨h.1, h.2.1, hpath h.2.2⟩
  generalize p.retired sequence = q at hadvanced hready' hsince hsession ⊢
  split
  · rename_i hleft
    refine .idle (fun h => ?_) hready'
    have hactive : q.hasActiveDataPathLocked = true := (pathActive_eq_true.mp h).2.2
    simp [hactive] at hleft
  · refine ⟨hready', fun h => .inl ⟨hsession h, hsince⟩, fun _ nanos hnanos _ => Option.some.inj hnanos, fun _ hnone => ?_⟩
    have hcontradiction : false = true := (hnone receivedNanos rfl).symm.trans hadvanced
    cases hcontradiction

theorem acknowledgeLocked_ignored {p q : V5Transport} {sequence : Nat} (hack : p.acknowledgeLocked sequence = (false, q)) :
    q = p := by
  unfold acknowledgeLocked at hack
  split at hack
  · exact (Prod.mk.inj hack).2.symm
  · cases hack

theorem dispatchControl_tracks {p q : V5Transport} (hready : p.sessionStarted = p.hostReady) {header : RecordHeader}
    {window : Nat} {receivedNanos : Int} {session : SessionId} {now : Int}
    (hdispatched : p.dispatchControl header window receivedNanos session now = .ok q) :
    Tracks now (some receivedNanos) p q := by
  unfold dispatchControl at hdispatched
  split at hdispatched
  · split at hdispatched
    · cases hdispatched
    · cases hdispatched
      split
      · exact .same hready rfl id
      · rename_i hfirst
        refine startSession_tracks ?_ window session receivedNanos now
        cases hstarted : p.sessionStarted with
        | false => rfl
        | true => exact absurd (hready.symm.trans hstarted) hfirst
  · split at hdispatched
    · split at hdispatched
      · cases hdispatched
      · split at hdispatched
        · rename_i q' hack
          cases hdispatched
          exact acknowledgeLocked_tracks hready receivedNanos now hack
        · rename_i q' hack
          cases hdispatched
          obtain rfl := acknowledgeLocked_ignored hack
          exact .same hready rfl id
    · split at hdispatched
      · split at hdispatched
        · cases hdispatched
        · split at hdispatched <;> (cases hdispatched; exact .same hready rfl id)
      · cases hdispatched

theorem received_tracks {p : V5Transport} (hready : p.sessionStarted = p.hostReady) (header : RecordHeader) (control : Bytes)
    (receivedNanos : Int) (session : SessionId) (now : Int) :
    Tracks now (some receivedNanos) p (Gameplay.received header control receivedNanos session now p) := by
  unfold Gameplay.received
  split
  · rename_i q hhandled
    unfold handleHostControl at hhandled
    split at hhandled
    · cases hhandled
    split at hhandled
    · cases hhandled
    dsimp only at hhandled
    split at hhandled
    · cases hhandled
    split at hhandled
    · cases hhandled
      exact .same hready rfl id
    split at hhandled
    · cases hhandled
    · rename_i hdispatched
      cases hhandled
      have htracks := dispatchControl_tracks hready hdispatched
      exact ⟨htracks.ready, htracks.started, htracks.acknowledged, htracks.kept⟩
  · split
    · exact closeSession_tracks
    · exact .same hready rfl id

/-! ## Runs -/

theorem perform_tracks {p : V5Transport} (hready : p.sessionStarted = p.hostReady) (op : Operation) :
    Tracks op.now op.acknowledgedAt p (p.perform op) := by
  cases op with
  | offerFrame sample queuedNanos now => exact offerFrame_tracks hready sample queuedNanos now
  | writerTurn now sendStarted => exact writerTurn_tracks hready now sendStarted
  | handleHostControl header control receivedNanos session now =>
    exact received_tracks hready header control receivedNanos session now
  | checkHostTimeout now => exact checkHostTimeout_tracks hready now
  | halt now => exact .idle (fun h => by cases (pathActive_eq_true.mp h).1) hready
  | close now => exact closeSession_tracks
  | opening connectionId now => exact .idle (fun h => by cases (pathActive_eq_true.mp h).2.1) rfl

/-- What the transport keeps by hand agrees with what the run says. An ACK of an earlier session came before this one's path
became active. -/
structure Agrees (t : Int) (m : Moments) (p : V5Transport) : Prop where
  ready : p.sessionStarted = p.hostReady
  activated : p.pathActive = true → p.activePathStartedNanos = m.activated
  past : ∀ nanos, m.acknowledged = some nanos → nanos ≤ t
  acknowledged : p.pathActive = true → ∀ nanos, m.acknowledged = some nanos →
    nanos ≤ max p.lastAcknowledgementProgressNanos p.activePathStartedNanos

theorem Agrees.perform {t : Int} {m : Moments} {p : V5Transport} (h : Agrees t m p) {op : Operation} (htimed : op.Timed t) :
    Agrees op.now (m.after op p (p.perform op)) (p.perform op) := by
  have htracks := perform_tracks h.ready op
  generalize p.perform op = p' at htracks ⊢
  have hlast : ((m.after op p p').acknowledged = m.acknowledged ∧
        ∀ nanos, op.acknowledgedAt = some nanos → advanced p p' = false) ∨
      ∃ nanos, op.acknowledgedAt = some nanos ∧ advanced p p' = true ∧ (m.after op p p').acknowledged = some nanos := by
    unfold Moments.after
    dsimp only
    cases op.acknowledgedAt with
    | none => exact .inl ⟨rfl, fun _ hnone => by cases hnone⟩
    | some nanos =>
      cases hadvanced : advanced p p' with
      | false => exact .inl ⟨rfl, fun _ _ => rfl⟩
      | true => exact .inr ⟨nanos, rfl, rfl, rfl⟩
  obtain ⟨hlater, hreceived⟩ := htimed
  refine ⟨htracks.ready, fun hactive => ?_, fun nanos hnanos => ?_, fun hactive nanos hnanos => ?_⟩
  · unfold Moments.after
    rcases htracks.started hactive with ⟨hwas, hsince⟩ | ⟨hwas, hsince⟩
    · rw [hwas, Bool.not_true, Bool.false_and, if_neg Bool.false_ne_true, hsince]
      exact h.activated hwas
    · rw [hwas, hactive]
      exact hsince
  · rcases hlast with ⟨hsame, -⟩ | ⟨received, hat, -, hnew⟩
    · exact (h.past nanos (hsame.symm.trans hnanos)).trans hlater
    · rw [hnew, Option.some.injEq] at hnanos
      exact hnanos ▸ hreceived received hat
  · rcases hlast with ⟨hsame, hunmoved⟩ | ⟨received, hat, hadvanced, hnew⟩
    · rw [htracks.kept hactive hunmoved]
      rcases htracks.started hactive with ⟨hwas, hsince⟩ | ⟨-, hsince⟩
      · rw [hsince]
        exact h.acknowledged hwas nanos (hsame.symm.trans hnanos)
      · rw [hsince]
        exact ((h.past nanos (hsame.symm.trans hnanos)).trans hlater).trans (le_max_right _ _)
    · rw [hnew, Option.some.injEq] at hnanos
      rw [htracks.acknowledged hactive received hat hadvanced, hnanos]
      exact le_max_left _ _

theorem watched_agrees {p : V5Transport} {t : Int} {m : Moments} (h : Watched p t m) : Agrees t m p := by
  induction h with
  | constructed start =>
    exact ⟨rfl, fun h => (by cases (pathActive_eq_true.mp h).1), fun _ hnone => (by cases hnone), fun _ _ hnone => (by cases hnone)⟩
  | perform op _ htimed ih => exact ih.perform htimed

/-- The watchdog's reason to end a session whose path is active. -/
def activePathExpired (now : Int) (p : V5Transport) : Bool :=
  p.hasActiveDataPathLocked &&
    decide (now - max p.lastAcknowledgementProgressNanos p.activePathStartedNanos ≥ ACTIVE_HOST_TIMEOUT_NANOS)

/-- Why a session has ended that a check found running. -/
theorem checkHostTimeout_ends {now : Int} {p : V5Transport} (hrunning : p.running = true)
    (hended : (p.checkHostTimeout now).running = false) :
    p.hostReady = true ∧ (p.queueOverflowed = true ∨ p.gameplayBacklogExpiredLocked now = true ∨
      (p.hasActiveDataPathLocked = false ∧ now - p.lastIdleResponseNanos ≥ IDLE_HOST_TIMEOUT_NANOS) ∨
      p.activePathExpired now = true) := by
  unfold checkHostTimeout at hended
  rw [hrunning, Bool.not_true, Bool.false_or] at hended
  split at hended
  · rw [hrunning] at hended
    cases hended
  · rename_i hready
    rw [Bool.not_eq_true', Bool.not_eq_false] at hready
    refine ⟨hready, ?_⟩
    split at hended
    · rename_i htimedOut
      unfold timedOut at htimedOut
      simp only [Bool.or_eq_true, Bool.and_eq_true, Bool.not_eq_true', decide_eq_true_eq] at htimedOut
      rcases htimedOut with ((⟨hactive, hexpired⟩ | ⟨⟨hidle, -⟩, hexpired⟩) | hbacklog) | hoverflowed
      · refine .inr (.inr (.inr ?_))
        unfold activePathExpired
        rw [hactive, Bool.true_and]
        exact decide_eq_true hexpired
      · exact .inr (.inr (.inl ⟨hidle, hexpired⟩))
      · exact .inr (.inl hbacklog)
      · exact .inl hoverflowed
    · rw [hrunning] at hended
      cases hended

/-- 64 ms have passed since the path became active and since the last ACK that advanced. -/
def Overdue (m : Moments) (now : Int) : Prop :=
  now - m.activated ≥ ACTIVE_HOST_TIMEOUT_NANOS ∧ ∀ nanos, m.acknowledged = some nanos → now - nanos ≥ ACTIVE_HOST_TIMEOUT_NANOS

/-- The start of an active path is the moment it last became active. A check that ends a running session does so because
frames were dropped, because one waited too long, because an idle host was silent, or because 64 ms have passed since the
path became active and since the last ACK that advanced; the reason it has to end one whose path is active never holds
before. -/
theorem watchdog_never_early {p : V5Transport} {t : Int} {m : Moments} (h : Watched p t m) :
    (p.running = true → p.sessionStarted = true → p.hasActiveDataPathLocked = true → p.activePathStartedNanos = m.activated) ∧
    (∀ now, p.running = true → (p.perform (.checkHostTimeout now)).running = false →
      p.queueOverflowed = true ∨ p.gameplayBacklogExpiredLocked now = true ∨
      (p.hasActiveDataPathLocked = false ∧ now - p.lastIdleResponseNanos ≥ IDLE_HOST_TIMEOUT_NANOS) ∨
      (p.hasActiveDataPathLocked = true ∧ Overdue m now)) ∧
    ∀ now, p.running = true → p.hostReady = true → p.activePathExpired now = true → Overdue m now := by
  have hagrees := watched_agrees h
  have hoverdue : ∀ now, p.running = true → p.hostReady = true → p.activePathExpired now = true → Overdue m now := by
    intro now hrunning hready hexpired
    unfold activePathExpired at hexpired
    rw [Bool.and_eq_true, decide_eq_true_eq] at hexpired
    obtain ⟨hpath, helapsed⟩ := hexpired
    have hactive : p.pathActive = true := pathActive_eq_true.mpr ⟨hrunning, hagrees.ready.trans hready, hpath⟩
    have hsince := hagrees.activated hactive
    refine ⟨?_, fun nanos hnanos => ?_⟩
    · have := le_max_right p.lastAcknowledgementProgressNanos p.activePathStartedNanos
      omega
    · have := hagrees.acknowledged hactive nanos hnanos
      omega
  refine ⟨fun hrunning hstarted hactive => hagrees.activated (pathActive_eq_true.mpr ⟨hrunning, hstarted, hactive⟩),
    fun now hrunning hended => ?_, hoverdue⟩
  obtain ⟨hready, hreasons⟩ := checkHostTimeout_ends hrunning hended
  refine hreasons.imp_right fun hreasons => hreasons.imp_right fun hreasons => hreasons.imp_right fun hexpired => ?_
  exact ⟨(Bool.and_eq_true_iff.mp hexpired).1, hoverdue now hrunning hready hexpired⟩

/-- A sample of one touching contact. -/
def benchSample : Sample where
  action := ACTION_DOWN
  actionPointerId := 1
  locked := true
  eventNanos := 0
  callbackNanos := 0
  historical := false
  snapshot := ⟨[⟨1, true, true, false, 0#16, 0#16, 0, 0⟩], by decide, by decide⟩
  known := known_down

/-- The host's HELLO for six lanes. -/
def benchHello : RecordHeader :=
  Gameplay.controlHeader 1 0 HOST_HELLO 0 NO_ACK (V5Host.encode_control_payload V5Host.RECEIVE_WINDOW 6 0)

/-- The host's ACK of both frames. -/
def benchAck : RecordHeader :=
  Gameplay.controlHeader 1 0 HOST_ACK 1 1 (V5Host.encode_control_payload V5Host.RECEIVE_WINDOW 6 0)

/-- A phone that touches 4 ns after its session started. Both its frames are sent and acknowledged, and the finger stays. -/
def benchHeld : V5Transport :=
  let p := (constructed.perform (.opening 1 1)).perform
    (.handleHostControl benchHello (V5Host.encode_control_payload V5Host.RECEIVE_WINDOW 6 0) 2 ⟨1, by decide⟩ 3)
  let p := ((p.perform (.offerFrame benchSample 6 7)).perform (.writerTurn 8 8)).perform (.writerTurn 8 8)
  p.perform (.handleHostControl benchAck (V5Host.encode_control_payload V5Host.RECEIVE_WINDOW 6 0) 10 ⟨1, by decide⟩ 11)

/-- The session ends 64 ms after the ACK and not before, although the path is active since earlier. -/
theorem watchdog_never_early_held : ∃ m, Watched benchHeld 11 m ∧ m = ⟨7, some 10⟩ ∧
    benchHeld.activePathStartedNanos = 7 ∧ (benchHeld.perform (.checkHostTimeout 64000009)).running = true ∧
    (benchHeld.perform (.checkHostTimeout 64000010)).running = false ∧ Overdue m 64000010 := by
  have hopened := Watched.perform (.opening 1 1) (.constructed 0) ⟨by decide, by simp [Operation.acknowledgedAt]⟩
  have hstarted := Watched.perform (.handleHostControl benchHello (V5Host.encode_control_payload V5Host.RECEIVE_WINDOW 6 0) 2
    ⟨1, by decide⟩ 3) hopened ⟨by decide, by simp [Operation.acknowledgedAt, Operation.now]⟩
  have htouching := Watched.perform (.offerFrame benchSample 6 7) hstarted ⟨by decide, by simp [Operation.acknowledgedAt]⟩
  have hfirst := Watched.perform (.writerTurn 8 8) htouching ⟨by decide, by simp [Operation.acknowledgedAt]⟩
  have hsecond := Watched.perform (.writerTurn 8 8) hfirst ⟨by decide, by simp [Operation.acknowledgedAt]⟩
  have h := Watched.perform (.handleHostControl benchAck (V5Host.encode_control_payload V5Host.RECEIVE_WINDOW 6 0) 10
    ⟨1, by decide⟩ 11) hsecond ⟨by decide, by simp [Operation.acknowledgedAt, Operation.now]⟩
  obtain ⟨hstart, hends, -⟩ := watchdog_never_early h
  have hended : (benchHeld.perform (.checkHostTimeout 64000010)).running = false := by decide +kernel
  have hactive : benchHeld.hasActiveDataPathLocked = true := by decide +kernel
  refine ⟨_, h, by decide +kernel, (hstart (by decide +kernel) (by decide +kernel) hactive).trans (by decide +kernel),
    by decide +kernel, hended, ?_⟩
  -- Nothing was dropped and nothing waits.
  rcases hends 64000010 (by decide +kernel) hended with hoverflowed | hbacklog | ⟨hidle, -⟩ | ⟨-, hoverdue⟩
  · exact absurd hoverflowed (by decide +kernel)
  · exact absurd hbacklog (by decide +kernel)
  · exact absurd (hactive.symm.trans hidle) (by decide)
  · exact hoverdue

end Trackpad.V5Transport
