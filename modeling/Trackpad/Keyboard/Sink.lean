import Trackpad.Keyboard.Spacer
/-!
# The lane-key bridge

`KeyboardSink` turns accepted frames into key changes and submits them, remembering how much
of a frame the OS has taken. Each method returns its `io::Result` beside the sink it leaves.
-/

namespace Trackpad.Keyboard

structure PendingFrame (L : Nat) where
  sequence : Option Nat
  next_state : KeyboardState L
  changes : List (KeyChange L)
  applied : Nat

structure KeyboardSink (κ : Type) (L : Nat) where
  sink : κ
  state : KeyboardState L
  pressed : Fin L → Bool
  pending : PendingFrame L
  spacer : Option (RepressSpacer L)

variable {κ : Type} {L : Nat}

namespace KeyboardSink

/-- A sink over a freshly opened `KeySink`, with re-press spacing if a gap is set. -/
def new (sink : κ) (repress_gap : Option Nat) : KeyboardSink κ L :=
  { sink := sink
    state := KeyboardState.new L
    pressed := fun _ => false
    pending := ⟨none, KeyboardState.new L, [], 0⟩
    spacer := repress_gap.map (RepressSpacer.new L) }

variable [KeySink κ L]

def has_active_input (s : KeyboardSink κ L) : Bool :=
  (List.finRange L).any s.pressed || KeySink.has_pending_submission s.sink ||
    s.spacer.any fun spacer => !spacer.queue.isEmpty

/-- The earliest instant `service` has deferred work, if any. -/
def next_deadline (s : KeyboardSink κ L) (now : Nat) : Option Nat :=
  s.spacer.bind fun spacer => spacer.next_deadline now

/-- Submits deferred re-press edges that are now due. -/
def service_at (now : Nat) (s : KeyboardSink κ L) : Except IoError Unit × KeyboardSink κ L :=
  match s.spacer with
  | none => (.ok (), s)
  | some spacer =>
    let (result, spacer, sink, pressed) := spacer.flush now s.sink s.pressed
    (result, { s with sink := sink, pressed := pressed, spacer := some spacer })

/-! ## Release -/

def clear_state (s : KeyboardSink κ L) : KeyboardSink κ L := { s with state := KeyboardState.new L }

/-- The releases of every pressed lane, in lane order. -/
def releases (pressed : Fin L → Bool) : List (KeyChange L) :=
  ((List.finRange L).filter pressed).map fun lane => ⟨lane, false, false⟩

/-- Forgets the frame in progress and every deferred edge, and collects the releases. -/
def begin_release (s : KeyboardSink κ L) : KeyboardSink κ L :=
  { s with
    pending := { s.pending with sequence := none, changes := releases s.pressed, applied := 0 }
    spacer := s.spacer.map fun spacer => { spacer with queue := [] } }

def note_released (now : Nat) (s : KeyboardSink κ L) (change : KeyChange L) : KeyboardSink κ L :=
  { s with
    pressed := Function.update s.pressed change.lane false
    spacer := s.spacer.map fun spacer => spacer.note_release change.lane now }

def release_all_with (now : Nat) (s : KeyboardSink κ L) : Except IoError Unit × KeyboardSink κ L :=
  let s := s.begin_release
  let changes := s.pending.changes
  if changes = [] then (.ok (), s.clear_state)
  else
    match KeySink.submit changes s.sink with
    | (.error e, sink) => (.error e, { s with sink := sink })
    | (.ok accepted, sink) =>
      let s := { s with sink := sink }
      if accepted > changes.length then (.error (excess_submission_error accepted changes.length), s)
      else
        let s := (changes.take accepted).foldl (note_released now) s
        if accepted ≠ changes.length then (.error (incomplete_submission_error accepted changes.length), s)
        else (.ok (), s.clear_state)

def release_all (now : Nat) (s : KeyboardSink κ L) : Except IoError Unit × KeyboardSink κ L :=
  match KeySink.discard_pending s.sink with
  | (.error e, sink) => (.error e, { s with sink := sink })
  | (.ok (), sink) => release_all_with now { s with sink := sink }

/-! ## Accept -/

/-- The frames that let go of everything instead of being planned. -/
def is_release (frame : TouchFrame) : Bool :=
  frame.session_start || frame.action = ACTION_CANCEL || !frame.locked

/-- Older phones sent empty heartbeats; they carry no snapshot. -/
def is_empty_heartbeat (frame : TouchFrame) : Bool :=
  frame.action = ACTION_HEARTBEAT && frame.contacts.items.isEmpty

/-- The frame in progress is done: its planned state is the state. -/
def commit_pending (s : KeyboardSink κ L) : KeyboardSink κ L :=
  { s with
    state := s.pending.next_state
    pending := { s.pending with next_state := s.state, sequence := none } }

/-- Queues the changes not yet handed to the spacer. -/
def enqueue_pending (now : Nat) (spacer : RepressSpacer L) (s : KeyboardSink κ L) : KeyboardSink κ L :=
  { s with
    pending := { s.pending with applied := s.pending.changes.length }
    spacer := some ((s.pending.changes.drop s.pending.applied).foldl (fun spacer change =>
      spacer.enqueue change now (s.pressed change.lane)) spacer) }

/-- Emits the frame through the spacer. A partial emission leaves the frame pending; its retry
finishes it. -/
def submit_spaced (now : Nat) (spacer : RepressSpacer L) (s : KeyboardSink κ L) :
    Except IoError Unit × KeyboardSink κ L :=
  match service_at now (s.enqueue_pending now spacer) with
  | (.error e, s) => (.error e, s)
  | (.ok (), s) => (.ok (), s.commit_pending)

/-- The OS took the next `accepted` changes of the frame. -/
def apply_changes (accepted : Nat) (s : KeyboardSink κ L) : KeyboardSink κ L :=
  let remaining := s.pending.changes.drop s.pending.applied
  { s with
    pressed := (remaining.take accepted).foldl (fun pressed change =>
      Function.update pressed change.lane change.down) s.pressed
    pending := { s.pending with applied := s.pending.applied + accepted } }

/-- Submits what the OS has not taken of the frame. -/
def submit_direct (s : KeyboardSink κ L) : Except IoError Unit × KeyboardSink κ L :=
  let remaining := s.pending.changes.drop s.pending.applied
  if remaining = [] then (.ok (), s.commit_pending)
  else
    match KeySink.submit remaining s.sink with
    | (.error e, sink) => (.error e, { s with sink := sink })
    | (.ok accepted, sink) =>
      let s := { s with sink := sink }
      if accepted > remaining.length then (.error (excess_submission_error accepted remaining.length), s)
      else
        let s := s.apply_changes accepted
        if accepted ≠ remaining.length then (.error (incomplete_submission_error accepted remaining.length), s)
        else (.ok (), s.commit_pending)

section
variable (lane_for : Int → Fin L)

def plan_pending (frame : TouchFrame) (s : KeyboardSink κ L) : KeyboardSink κ L :=
  let (next_state, changes) := plan_into lane_for s.state frame s.spacer.isSome
  { s with pending := ⟨some frame.sequence, next_state, changes, 0⟩ }

def partially_applied_error (sequence : Nat) : IoError :=
  .other ("sequence " ++ toString sequence ++ " is still partially applied")

/-- Plans `frame` unless it is the frame in progress; another frame in progress is an error. -/
def begin_frame (frame : TouchFrame) (s : KeyboardSink κ L) : Except IoError Unit × KeyboardSink κ L :=
  match s.pending.sequence with
  | some sequence =>
    if sequence ≠ frame.sequence then (.error (partially_applied_error sequence), s) else (.ok (), s)
  | none => (.ok (), s.plan_pending lane_for frame)

def accept_at (frame : TouchFrame) (now : Nat) (s : KeyboardSink κ L) : Except IoError Unit × KeyboardSink κ L :=
  if is_release frame then release_all now s
  else
    -- Earlier deferred edges stay ahead of this frame. A failure here leaves this frame
    -- unplanned, so its retry repeats only the flush.
    match service_at now s with
    | (.error e, s) => (.error e, s)
    | (.ok (), s) =>
      if is_empty_heartbeat frame then (.ok (), s)
      else
        match s.begin_frame lane_for frame with
        | (.error e, s) => (.error e, s)
        | (.ok (), s) =>
          match s.spacer with
          | some spacer => s.submit_spaced now spacer
          | none => s.submit_direct

end

end KeyboardSink

end Trackpad.Keyboard
