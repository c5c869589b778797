import Trackpad.Exchange
/-!
# From the touch view to the sink

The frames the host commits are the first ones the phone queued, and these are the opening of the session and the samples
in the order they were offered. A sample that found the queue full is the exception: an ACK may make room again before the
watchdog ends the session, and the samples behind it are queued and committed as if it had never been.
-/

namespace Trackpad.Gameplay

open V5Host V5Transport Relation

variable {σ : Type}

/-- The frame of a content as it was queued. -/
def Carries (pair : Cause × Content) (frame : TouchFrame) : Prop :=
  ∃ (header : RecordHeader) (t₁ t₂ t₃ : UInt64), frame = pair.2.frame header t₁ t₂ t₃

/-- What was committed is the opening of a session, then the first samples offered and heartbeats among them, as far as the
host came. -/
def Lossless (held : Option Snapshot) (samples : List Sample) (committed : List TouchFrame) : Prop :=
  committed = [] ∨ ∃ snapshot now rest queued, held = some snapshot ∧ (∀ pair ∈ rest, Follows snapshot samples pair) ∧
    rest.filterMap sampled <+: samples ∧ queued <+: opening snapshot now ++ rest ∧ List.Forall₂ Carries queued committed

section
variable (aead : Aead) [InputSink σ]

/-- A run from `start`, and what the phone held when it took its HELLO. -/
inductive Run (admits : V5Transport → Prop) (start : Joint σ) : Option Snapshot → Joint σ → Prop
  | refl : Run admits start none start
  | tail {held : Option Snapshot} {j j' : Joint σ} (run : Run admits start held j) (step : Step aead admits j j') :
      Run admits start (holding held j.phone j'.phone) j'

theorem Run.steps {admits : V5Transport → Prop} {start j : Joint σ} {held : Option Snapshot} (h : Run aead admits start held j) :
    ReflTransGen (Step aead admits) start j := by
  induction h with
  | refl => exact .refl
  | tail _ hstep ih => exact ih.tail hstep

/-! ## The phone's log -/

theorem move_ready {p p' : V5Transport} (h : Move p p') (hready : p'.hostReady = true) : p.hostReady = true := by
  cases h with
  | record sealed =>
    obtain ⟨-, rfl⟩ := sealInto_some sealed
    exact hready
  | close =>
    have hclosed : p.closeSession.hostReady = false := congrArg (fun e => e.2.2.1) (closeSession_essentials p)
    rw [hclosed] at hready
    cases hready
  | heartbeat now running ready => exact ready
  | mark same => exact (congrArg (fun e => e.2.2.1) same).symm.trans hready

theorem moves_ready {p p' : V5Transport} (h : Moves p p') (hready : p'.hostReady = true) : p.hostReady = true := by
  induction h with
  | refl => exact hready
  | tail _ hlast ih => exact ih (move_ready hlast hready)

theorem offer_ready (sample : Sample) (queuedNanos now : Int) {p : V5Transport}
    (hready : (p.offerFrame sample queuedNanos now).hostReady = true) : p.hostReady = true := by
  rcases offerFrame_cases sample queuedNanos now p with ⟨-, he⟩ | ⟨-, -, nanos, he⟩
  · rw [he] at hready
    exact hready
  · obtain ⟨-, -, -, hqueued, -⟩ := enqueue_keeps (.sample sample) sample.content queuedNanos (p.taken sample)
    rw [he] at hready
    exact hqueued.symm.trans hready

/-- Only a HELLO makes the phone ready. -/
theorem holding_eq (held : Option Snapshot) {p p' : V5Transport} (h : p'.hostReady = true → p.hostReady = true) :
    holding held p p' = held := by
  unfold holding
  rw [if_neg]
  rintro ⟨hfalse, htrue⟩
  rw [h htrue] at hfalse
  cases hfalse

theorem kept_moves {held : Option Snapshot} {p p' : V5Transport} (h : Kept held p) (hmoves : Moves p p') :
    Kept (holding held p p') p' := by
  rw [holding_eq held (moves_ready hmoves)]
  exact h.moves hmoves

theorem Step.kept {j j' : Joint σ} (hstep : Step aead V5Transport.Complete j j') {sid : UInt64} (hok : Ok sid j.phone)
    {held : Option Snapshot} (h : Kept held j.phone) : Kept (holding held j.phone j'.phone) j'.phone := by
  cases hstep with
  | offerFrame sample queuedNanos now _ admitted =>
    rw [holding_eq held (offer_ready sample queuedNanos now)]
    exact h.offer hok admitted sample queuedNanos now
  | writerTurn now sendStarted => exact kept_moves h (writerTurn_moves now sendStarted _)
  | checkHostTimeout now => exact kept_moves h (checkHostTimeout_moves now _)
  | handleHostControl packet_number receivedNanos session now =>
    dsimp only
    unfold received
    split
    · rename_i p' hhandled
      exact h.control hok hhandled
    · split
      · exact kept_moves h (.single (.close _))
      · exact kept_moves h .refl
  | turn => exact kept_moves h .refl
  | stop => exact kept_moves h .refl
  | notify => exact kept_moves h .refl

theorem run_kept {b : Boundary} {sink : σ} {ordered : OrderedFrames} {send_key receive_key : Bytes} {connection_id : UInt64}
    {cached_handshake : Option (Bytes × Bytes)} {retained : Snapshot} {held : Option Snapshot} {j : Joint σ}
    (hrun : Run aead V5Transport.Complete (connected b sink ordered send_key receive_key connection_id cached_handshake retained) held j) :
    Kept held j.phone := by
  induction hrun with
  | refl =>
    exact ⟨fun _ => ⟨rfl, rfl, rfl⟩, fun _ hsome => (by cases hsome), fun _ => rfl, fun _ hsome => (by cases hsome), rfl⟩
  | tail hrun hstep ih =>
    obtain ⟨sid, hjoined⟩ := run_joined aead hrun.steps
    exact hstep.kept aead hjoined.ok ih

end

/-! ## The host's log -/

/-- What was committed is what was queued first. -/
theorem committed_queued {sid : UInt64} {j : Joint σ} (h : Joined sid j) :
    ∃ queued, queued <+: (history j.phone.trace).reverse ∧ List.Forall₂ Carries queued (applied j.host.trace).reverse := by
  obtain ⟨session_id, hsound⟩ := h.sound
  have hframe : ∀ i (hi : i < (applied j.host.trace).reverse.length), ∃ pair, (history j.phone.trace).reverse[i]? = some pair ∧
      Carries pair (applied j.host.trace).reverse[i] := by
    intro i hi
    have hi' : i < (applied j.host.trace).length := by rwa [List.length_reverse] at hi
    have hmem : (applied j.host.trace).reverse[i] ∈ applied j.host.trace := List.mem_reverse.1 (List.getElem_mem hi)
    have hsequence : (applied j.host.trace).reverse[i].sequence = i := by
      have hmap := congrArg (fun sequences => sequences[i]?) (sound_sequences hsound)
      rw [List.getElem?_map, List.getElem?_eq_getElem hi, List.getElem?_range hi'] at hmap
      exact Option.some.inj hmap
    obtain ⟨-, record, -, -, -, content, t₁, t₂, t₃, hcontent, heq⟩ := (h.applied _ hmem).frame h.ok h.nonzero
    rw [hsequence] at hcontent
    obtain ⟨pair, hpair, rfl⟩ := Option.map_eq_some_iff.1 hcontent
    exact ⟨pair, hpair, record.1, t₁, t₂, t₃, heq⟩
  refine ⟨(history j.phone.trace).reverse.take (applied j.host.trace).reverse.length, List.take_prefix _ _,
    List.forall₂_iff_get.2 ⟨?_, fun i hi hi' => ?_⟩⟩
  · -- The last frame committed was queued.
    rw [List.length_take, Nat.min_eq_left]
    by_contra hlt
    obtain ⟨pair, hpair, -⟩ := hframe (history j.phone.trace).reverse.length (Nat.lt_of_not_le hlt)
    rw [List.getElem?_eq_none (Nat.le_refl _)] at hpair
    cases hpair
  · obtain ⟨pair, hpair, hcarries⟩ := hframe i hi'
    rw [List.get_eq_getElem, List.getElem_take]
    obtain ⟨hlt, rfl⟩ := List.getElem?_eq_some_iff.1 hpair
    exact hcarries

/-- Where no sample is queued once an earlier one was dropped, the host commits the opening of the session, then the first
samples offered, unchanged and without a gap, and heartbeats among them. -/
theorem lossless (aead : Aead) [InputSink σ] {b : Boundary} {sink : σ} {ordered : OrderedFrames} {send_key receive_key : Bytes}
    {connection_id : UInt64} {cached_handshake : Option (Bytes × Bytes)} {retained : Snapshot} {held : Option Snapshot}
    {j : Joint σ} (hrun : Run aead V5Transport.Complete
      (connected b sink ordered send_key receive_key connection_id cached_handshake retained) held j) :
    Lossless held (offered j.phone.trace) (applied j.host.trace).reverse := by
  obtain ⟨sid, hjoined⟩ := run_joined aead hrun.steps
  have hkept := run_kept aead hrun
  obtain ⟨queued, hqueued, hcarries⟩ := committed_queued hjoined
  rcases held with _ | snapshot
  · left
    rw [(hkept.before rfl).1] at hqueued
    rw [List.prefix_nil.1 hqueued] at hcarries
    exact List.forall₂_nil_left_iff.1 hcarries
  · obtain ⟨now, rest, hhistory, hrest, hsub, -⟩ := hkept.after snapshot rfl
    exact .inr ⟨snapshot, now, rest, queued, rfl, hrest, hsub, hhistory ▸ hqueued, hcarries⟩

theorem steps_run {admits : V5Transport → Prop} {start j : Joint TakesFrames} (h : Steps admits start j) :
    ∃ held, Run plain admits start held j := by
  induction h with
  | refl => exact ⟨none, .refl⟩
  | tail _ hstep ih =>
    obtain ⟨held, hrun⟩ := ih
    exact ⟨_, hrun.tail hstep⟩

/-- The finger of `pressed` at another place. -/
def slid : Sample where
  action := ACTION_MOVE
  actionPointerId := 3
  locked := true
  eventNanos := 7
  callbackNanos := 8
  historical := false
  snapshot := ⟨[⟨3, true, true, false, 200, 100, 1024, 0⟩], by decide, by decide⟩
  known := known_move

/-- A phone on which nothing was dropped meets the condition. -/
theorem Level.complete {k t : Nat} {log : List PhoneEvent} {j : Joint TakesFrames} (h : Level false k t log j) :
    V5Transport.Complete j.phone := fun hoverflowed => by
  rw [h.overflowed] at hoverflowed
  cases hoverflowed

/-- The host commits the CANCEL and two samples, the second one offered after the first one was acknowledged. -/
theorem lossless_slid : ∃ (held : Option Snapshot) (j : Joint TakesFrames), offered j.phone.trace = [pressed, slid] ∧
    (applied j.host.trace).length = 3 ∧ Lossless held (offered j.phone.trace) (applied j.host.trace).reverse := by
  obtain ⟨j₁, hsteps₁, h₁⟩ := level_start
  obtain ⟨j₂, hsteps₂, h₂⟩ := h₁.offer_room (by decide) V5Transport.Complete h₁.complete pressed
  obtain ⟨j₃, hsteps₃, h₃⟩ := h₂.exchanges 2 (by decide) (by decide)
  obtain ⟨j₄, hsteps₄, h₄⟩ := h₃.offer_room (by decide) V5Transport.Complete h₃.complete slid
  obtain ⟨j₅, hsteps₅, h₅⟩ := h₄.exchange (by decide) (by decide)
  obtain ⟨held, hrun⟩ := steps_run ((((hsteps₁.trans hsteps₂).trans hsteps₃).trans hsteps₄).trans hsteps₅)
  refine ⟨held, j₅, ?_, h₅.applied, lossless plain hrun⟩
  rw [h₅.trace]
  rfl

/-! ## What a lossless run shows -/

/-- When a MOVE happened. -/
def moveTime (frame : TouchFrame) : Option Nat := if frame.action = ACTION_MOVE then some frame.phone_event_nanos else none

def queuedMove (pair : Cause × Content) : Option Nat :=
  if pair.2.action = ACTION_MOVE then some pair.2.eventNanos.toNat else none

theorem carried_moves {queued : List (Cause × Content)} {committed : List TouchFrame} (h : List.Forall₂ Carries queued committed) :
    committed.filterMap moveTime = queued.filterMap queuedMove := by
  induction h with
  | nil => rfl
  | @cons pair frame queued committed hcarries _ ih =>
    obtain ⟨header, t₁, t₂, t₃, rfl⟩ := hcarries
    have hsame : moveTime (pair.2.frame header t₁ t₂ t₃) = queuedMove pair := rfl
    rw [List.filterMap_cons, List.filterMap_cons, hsame, ih]

/-- Where every sample is a MOVE, the MOVEs queued behind the opening are the samples. -/
theorem followed_moves {held : Snapshot} {samples : List Sample} (hmoves : ∀ sample ∈ samples, sample.action = ACTION_MOVE)
    {rest : List (Cause × Content)} (hrest : ∀ pair ∈ rest, Follows held samples pair) :
    rest.filterMap queuedMove = (rest.filterMap sampled).map fun sample => sample.eventNanos.toNat := by
  induction rest with
  | nil => rfl
  | cons pair rest ih =>
    have hrest' := ih fun pair hpair => hrest pair (List.mem_cons_of_mem _ hpair)
    cases hrest pair List.mem_cons_self with
    | @sample sample taken =>
      have hmove : queuedMove (.sample sample, sample.content) = some sample.eventNanos.toNat := if_pos (hmoves sample taken)
      have hsampled : sampled (.sample sample, sample.content) = some sample := rfl
      rw [List.filterMap_cons_some hmove, List.filterMap_cons_some hsampled, hrest', List.map_cons]
    | heartbeat shown now =>
      rw [List.filterMap_cons_none rfl, List.filterMap_cons_none rfl, hrest']

theorem Lossless.moves {held : Option Snapshot} {samples : List Sample} {committed : List TouchFrame}
    (h : Lossless held samples committed) (hmoves : ∀ sample ∈ samples, sample.action = ACTION_MOVE) :
    committed.filterMap moveTime <+: samples.map fun sample => sample.eventNanos.toNat := by
  rcases h with rfl | ⟨snapshot, now, rest, queued, -, hrest, hsub, hqueued, hcarries⟩
  · exact List.nil_prefix
  · have hopening : (opening snapshot now).filterMap queuedMove = [] := by
      unfold opening
      split <;> rfl
    have hmoved := hqueued.filterMap queuedMove
    rw [List.filterMap_append, hopening, List.nil_append, followed_moves hmoves hrest] at hmoved
    rw [carried_moves hcarries]
    exact hmoved.trans (hsub.map _)

/-! ## The samples of the run -/

/-- The MOVE at time `n`, with nothing on the pad. -/
def moveAt (n : Nat) : Sample where
  action := ACTION_MOVE
  actionPointerId := 0
  locked := true
  eventNanos := .ofNat n
  callbackNanos := 0
  historical := false
  snapshot := .empty
  known := known_move

/-- The log once the first `n` were taken. -/
def logged : Nat → List PhoneEvent
  | 0 => [.queued .start (startContent 0)]
  | n + 1 => .queued (.sample (moveAt (n + 1))) (moveAt (n + 1)).content :: .offered (moveAt (n + 1)) :: logged n

theorem logged_moves (n : Nat) : (history (logged n)).reverse.filterMap queuedMove =
    (offered (logged n)).map fun sample => sample.eventNanos.toNat := by
  induction n with
  | zero => rfl
  | succ n ih =>
    rw [logged, history, history, offered, offered, List.reverse_cons, List.filterMap_append, List.map_append, ih]
    rfl

theorem logged_actions (n : Nat) : ∀ sample ∈ offered (logged n), sample.action = ACTION_MOVE := by
  induction n with
  | zero => exact fun sample h => absurd h List.not_mem_nil
  | succ n ih =>
    intro sample h
    rcases List.mem_append.1 h with h | h
    · exact ih sample h
    · rw [List.mem_singleton.1 h]
      rfl

theorem logged_length (n : Nat) : (history (logged n)).length = n + 1 := by
  induction n with
  | zero => rfl
  | succ n ih => exact congrArg (· + 1) ih

theorem level_logged (n : Nat) (hn : n < MAX_HOST_WINDOW) : ∃ j, Steps (fun _ => True) greeted j ∧ Level false 0 (n + 1) (logged n) j := by
  induction n with
  | zero => exact level_start
  | succ n ih =>
    obtain ⟨j, hsteps, h⟩ := ih (by omega)
    obtain ⟨j', hstep, h'⟩ := h.offer_room (by omega) (fun _ => True) trivial (moveAt (n + 1))
    exact ⟨j', hsteps.trans hstep, h'⟩

/-- The 256th sample finds the queue full; the first ACK makes room for the next one, and the host commits that. -/
theorem level_dropped : ∃ j, Steps (fun _ => True) greeted j ∧
    Level true 257 257 (.queued (.sample (moveAt 257)) (moveAt 257).content :: .offered (moveAt 257) :: .offered (moveAt 256) :: logged 255) j := by
  obtain ⟨j₁, hsteps₁, h₁⟩ := level_logged 255 (by decide)
  obtain ⟨j₂, hsteps₂, h₂⟩ := h₁.offer_full (by decide) (fun _ => True) trivial (moveAt 256)
  obtain ⟨j₃, hsteps₃, h₃⟩ := h₂.exchange (by decide) (by decide)
  obtain ⟨j₄, hsteps₄, h₄⟩ := h₃.offer_room (by decide) (fun _ => True) trivial (moveAt 257)
  obtain ⟨j₅, hsteps₅, h₅⟩ := h₄.exchanges 256 (by decide) (by decide)
  exact ⟨j₅, (((hsteps₁.trans hsteps₂).trans hsteps₃).trans hsteps₄).trans hsteps₅, h₅⟩

/-- A sample is committed although the one before it was dropped. -/
theorem lossless_dropped : ¬ ∀ (held : Option Snapshot) (j : Joint TakesFrames), Run plain (fun _ => True) greeted held j →
    Lossless held (offered j.phone.trace) (applied j.host.trace).reverse := by
  intro hall
  obtain ⟨j, hsteps, h⟩ := level_dropped
  obtain ⟨held, hrun⟩ := steps_run hsteps
  have hlossless := hall held j hrun
  obtain ⟨queued, hqueued, hcarries⟩ := committed_queued h.joined
  have hwhole : queued = (history j.phone.trace).reverse := by
    apply hqueued.eq_of_length
    rw [hcarries.length_eq, List.length_reverse, List.length_reverse, h.applied, h.trace]
    exact (congrArg (· + 1) (logged_length 255)).symm
  rw [h.trace] at hlossless hwhole
  have hmoves := hlossless.moves fun sample hsample => ?_
  · rw [carried_moves hcarries, hwhole, offered, offered, offered, history, history, history, List.reverse_cons,
      List.filterMap_append, logged_moves, List.map_append, List.map_append, List.append_assoc, List.prefix_append_right_inj] at hmoves
    exact absurd hmoves (by decide)
  · rcases List.mem_append.1 hsample with hsample | hsample
    · rcases List.mem_append.1 hsample with hsample | hsample
      · exact logged_actions 255 sample hsample
      · rw [List.mem_singleton.1 hsample]
        rfl
    · rw [List.mem_singleton.1 hsample]
      rfl

end Trackpad.Gameplay
