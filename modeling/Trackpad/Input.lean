import Trackpad.Ordered
/-!
# The acceptance boundary

The host hands each frame to the OS sink until it is accepted, the controller is stopped or the sink
stalls. The sink is any `InputSink`; what the clock and the stop flag say at each attempt is input,
one `Attempt` a try, and a loop whose attempts run out has not returned yet.
-/

namespace Trackpad

def SINK_STALL_TIMEOUT : Nat := 8000000

/-- An OS sink. Each call is told what the clock reads. -/
class InputSink (σ : Type) where
  accept : TouchFrame → Nat → σ → Except IoError Unit × σ
  has_active_input : σ → Bool
  cancel_all : Nat → σ → Except IoError Unit × σ
  service : Nat → σ → Except IoError Unit × σ

/-- One try: the clock at the call, and the stop flag and the clock after a refusal. -/
structure Attempt where
  now : Nat
  stopping : Bool
  later : Nat

/-- The tries at one call, counted from `started`. -/
structure Submission where
  started : Nat
  attempts : List Attempt

/-- What a loop gave: its result, or nothing yet. -/
inductive Loop (α : Type)
  | finished (result : α)
  | unfinished

inductive Event
  | accepted (frame : TouchFrame)
  | failed (frame : TouchFrame)
  | control (message_type : UInt8) (session_id logical_id : Nat) (payload : Bytes)

/-- The receive window in front of the sink, and what came of it, the last first. -/
structure Input (σ : Type) where
  ordered : OrderedFrames
  sink : σ
  trace : List Event

variable {σ : Type}

/-- Repeats a refused call. The last refusal comes back with whether the controller was stopped. -/
def retry (call : Nat → σ → Except IoError Unit × σ) (started : Nat) :
    List Attempt → σ → Loop (Option (IoError × Bool)) × σ
  | [], sink => (.unfinished, sink)
  | a :: attempts, sink =>
    match call a.now sink with
    | (.ok (), sink) => (.finished none, sink)
    | (.error e, sink) =>
      if a.stopping || a.later - started ≥ SINK_STALL_TIMEOUT then (.finished (some (e, a.stopping)), sink)
      else retry call started attempts sink

def stalled (error : IoError) (stopped : Bool) : IoError :=
  if stopped then ⟨.Interrupted, "controller stopped"⟩ else ⟨.TimedOut, error.message⟩

def service_deferred [InputSink σ] (s : Submission) (sink : σ) : Loop (Except IoError Unit) × σ :=
  match retry InputSink.service s.started s.attempts sink with
  | (.unfinished, sink) => (.unfinished, sink)
  | (.finished none, sink) => (.finished (.ok ()), sink)
  | (.finished (some (e, stopped)), sink) => (.finished (.error (stalled e stopped)), sink)

def cancel_with_deadline [InputSink σ] (started : Nat) : List Attempt → σ → Loop (Except IoError Unit) × σ
  | [], sink => (.unfinished, sink)
  | a :: attempts, sink =>
    match InputSink.cancel_all a.now sink with
    | (.ok (), sink) => (.finished (.ok ()), sink)
    | (.error e, sink) =>
      if a.later ≥ started + SINK_STALL_TIMEOUT then (.finished (.error e), sink)
      else cancel_with_deadline started attempts sink

/-- Applies the frames that are ready, in order, each until the sink accepts it. -/
def commit_ready [InputSink σ] (progressed : Bool) (submissions : List Submission) (i : Input σ) :
    Loop (Except IoError Bool) × Input σ :=
  match i.ordered.next_ready with
  | none => (.finished (.ok progressed), i)
  | some frame =>
    match submissions with
    | [] => (.unfinished, i)
    | s :: submissions =>
      match retry (InputSink.accept frame) s.started s.attempts i.sink with
      | (.unfinished, sink) => (.unfinished, { i with sink := sink })
      | (.finished (some (e, stopped)), sink) =>
        (.finished (.error (stalled e stopped)), { i with sink := sink, trace := .failed frame :: i.trace })
      | (.finished none, sink) =>
        match i.ordered.commit_ready with
        | (false, ordered) =>
          (.finished (.error (.other "accepted frame was missing from the receive window")),
            { ordered := ordered, sink := sink, trace := .accepted frame :: i.trace })
        | (true, ordered) =>
          commit_ready true submissions { ordered := ordered, sink := sink, trace := .accepted frame :: i.trace }

/-! ## Sound traces -/

/-- The frames accepted, the last first. -/
def applied : List Event → List TouchFrame
  | [] => []
  | .accepted frame :: earlier => frame :: applied earlier
  | _ :: earlier => applied earlier

/-- Whether some frame was finally refused. -/
def gave_up : List Event → Bool
  | [] => false
  | .failed _ :: _ => true
  | _ :: earlier => gave_up earlier

/-- A trace of one session: each accepted frame is the next one, an ACK names the last accepted one, and
nothing is accepted or acknowledged after a frame was given up. -/
def Sound (session_id : Nat) : List Event → Prop
  | [] => True
  | .accepted frame :: earlier => frame.sequence = (applied earlier).length ∧ frame.session_id = session_id ∧
      WellFormed frame ∧ gave_up earlier = false ∧ Sound session_id earlier
  | .failed frame :: earlier => frame.sequence = (applied earlier).length ∧ gave_up earlier = false ∧ Sound session_id earlier
  | .control message_type session logical_id _ :: earlier =>
      (message_type = HOST_ACK → session = session_id ∧ logical_id + 1 = (applied earlier).length ∧ gave_up earlier = false) ∧
      Sound session_id earlier

/-- The window of session `session_id` between two frames. -/
structure Committed (session_id : Nat) (i : Input σ) : Prop where
  session : i.ordered.session_id = some session_id
  holds : i.ordered.Holds fun frame => frame.session_id = session_id ∧ WellFormed frame
  next : i.ordered.next_sequence = (applied i.trace).length % 2 ^ 64
  room : (applied i.trace).length + i.ordered.waiting ≤ 2 ^ 64
  sound : Sound session_id i.trace
  calm : gave_up i.trace = false

/-- A frame that is ready is the next one: some slot is still taken, so the counter has not wrapped. -/
theorem Committed.ready {session_id : Nat} {i : Input σ} (h : Committed session_id i) {frame : TouchFrame}
    (hf : i.ordered.next_ready = some frame) :
    frame.sequence = (applied i.trace).length ∧ frame.session_id = session_id ∧ WellFormed frame := by
  obtain ⟨hb, hs⟩ := OrderedFrames.next_ready_some hf
  have hw := OrderedFrames.waiting_committed hf
  have hroom := h.room
  refine ⟨?_, h.holds _ _ hb⟩
  rw [hs, h.next]
  apply Nat.mod_eq_of_lt
  omega

theorem Committed.commit {session_id : Nat} {i : Input σ} (h : Committed session_id i) {frame : TouchFrame}
    (hf : i.ordered.next_ready = some frame) (sink : σ) :
    Committed session_id ⟨i.ordered.committed, sink, .accepted frame :: i.trace⟩ where
  session := h.session
  holds := OrderedFrames.holds_committed h.holds
  next := by
    simp only [OrderedFrames.committed, applied, List.length_cons, h.next]
    omega
  room := by
    have hw := OrderedFrames.waiting_committed hf
    have hroom := h.room
    simp only [applied, List.length_cons]
    omega
  sound := by
    obtain ⟨hseq, hsession, hwf⟩ := h.ready hf
    exact ⟨hseq, hsession, hwf, h.calm, h.sound⟩
  calm := h.calm

/-- What `commit_ready` leaves: a sound trace whatever happened; and if it returned, a window with
nothing ready, and whether a frame was applied. -/
theorem commit_ready_spec [InputSink σ] {session_id : Nat} (submissions : List Submission) (progressed : Bool)
    {i : Input σ} (h : Committed session_id i) :
    Sound session_id (commit_ready progressed submissions i).2.trace ∧
    ∀ b, (commit_ready progressed submissions i).1 = .finished (.ok b) →
      Committed session_id (commit_ready progressed submissions i).2 ∧
      (commit_ready progressed submissions i).2.ordered.next_ready = none ∧
      (applied (commit_ready progressed submissions i).2.trace).length +
        (commit_ready progressed submissions i).2.ordered.waiting = (applied i.trace).length + i.ordered.waiting ∧
      (applied i.trace).length ≤ (applied (commit_ready progressed submissions i).2.trace).length ∧
      (i.ordered.next_ready.isSome →
        (applied i.trace).length < (applied (commit_ready progressed submissions i).2.trace).length) ∧
      (b = true ↔ progressed = true ∨
        (applied i.trace).length < (applied (commit_ready progressed submissions i).2.trace).length) := by
  induction submissions generalizing progressed i with
  | nil =>
    unfold commit_ready
    split
    · rename_i hready
      refine ⟨h.sound, fun b hb => ⟨h, hready, rfl, Nat.le_refl _, fun hsome => by simp [hready] at hsome, ?_⟩⟩
      cases hb
      simp
    · exact ⟨h.sound, fun b hb => by cases hb⟩
  | cons s submissions ih =>
    unfold commit_ready
    split
    · rename_i hready
      refine ⟨h.sound, fun b hb => ⟨h, hready, rfl, Nat.le_refl _, fun hsome => by simp [hready] at hsome, ?_⟩⟩
      cases hb
      simp
    · rename_i frame hready
      dsimp only
      split
      · exact ⟨h.sound, fun b hb => by cases hb⟩
      · exact ⟨⟨(h.ready hready).1, h.calm, h.sound⟩, fun b hb => by cases hb⟩
      · -- The frame was accepted, and its slot is the one `commit_ready` takes.
        rename_i sink _
        rw [OrderedFrames.commit_ready_some hready]
        dsimp only
        obtain ⟨hsound, hok⟩ := ih true (h.commit hready sink)
        refine ⟨hsound, fun b hb => ?_⟩
        obtain ⟨hcommitted, hnone, hsum, hle, -, hprogress⟩ := hok b hb
        have hw := OrderedFrames.waiting_committed hready
        simp only [applied, List.length_cons] at hsum hle
        exact ⟨hcommitted, hnone, by omega, by omega, fun _ => by omega, iff_of_true (hprogress.2 (.inl rfl)) (.inr (by omega))⟩

end Trackpad
