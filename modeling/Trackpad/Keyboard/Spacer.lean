import Trackpad.Keyboard.Plan
/-!
# Re-press spacing

`RepressSpacer` keeps same-lane edges from reaching the OS in the same instant. Instants
are nanoseconds on one monotonic clock. The scratch vectors of the source (`batch`,
`selected`, `lane_selected`, `lane_waiting`) are locals here.
-/

namespace Trackpad.Keyboard

/-- The platform's lane-key sink: what `KeyboardSink` calls on Windows' and Linux's alike. -/
class KeySink (κ : Type) (L : outParam Nat) where
  submit : List (KeyChange L) → κ → Except IoError Nat × κ
  discard_pending : κ → Except IoError Unit × κ
  has_pending_submission : κ → Bool

def incomplete_submission_error (accepted requested : Nat) : IoError :=
  .other ("input submission accepted " ++ toString accepted ++ " of " ++ toString requested ++
    " requested events")

def excess_submission_error (accepted requested : Nat) : IoError :=
  ⟨.InvalidData, "input submission accepted " ++ toString accepted ++ " of " ++ toString requested ++
    " requested events"⟩

structure ScheduledEdge (L : Nat) where
  change : KeyChange L
  due : Nat
  spaced : Bool
deriving DecidableEq, Repr

structure EmittedEdge where
  at_ : Nat
  spaced : Bool
  touch : Bool
deriving DecidableEq, Repr

structure RepressSpacer (L : Nat) where
  gap : Nat
  queue : List (ScheduledEdge L)
  last_emitted : Fin L → Option EmittedEdge

def MAX_WAITING_EDGES : Nat := 3

def RepressSpacer.new (L gap : Nat) : RepressSpacer L := ⟨gap, [], fun _ => none⟩

variable {L : Nat}

/-- Whether `next` must trail the lane's previous edge by the gap: it is a re-press, follows
a spaced edge, or releases a finger-down press. -/
def needs_gap (previous_spaced previous_touch : Bool) (next : KeyChange L) : Bool :=
  next.down || previous_spaced || previous_touch

/-- The newest waiting edge of `lane`, with its position. -/
def newest (lane : Fin L) : List (ScheduledEdge L) → Option (Nat × ScheduledEdge L)
  | [] => none
  | e :: es =>
    match newest lane es with
    | some (index, edge) => some (index + 1, edge)
    | none => if e.change.lane = lane then some (0, e) else none

namespace RepressSpacer

/-- When an edge behind the waiting edge `previous` is due, and whether it is spaced. -/
def schedule_behind (gap : Nat) (previous : ScheduledEdge L) (change : KeyChange L) (now : Nat) : Nat × Bool :=
  if needs_gap previous.spaced previous.change.touch change then (max (previous.due + gap) now, true)
  else (max previous.due now, false)

/-- When an edge of a lane with nothing waiting is due, and whether it is spaced. -/
def schedule_first (gap : Nat) (last_emitted : Option EmittedEdge) (change : KeyChange L) (now : Nat) : Nat × Bool :=
  match last_emitted with
  | some previous =>
    if needs_gap previous.spaced previous.touch change && now < previous.at_ + gap then (previous.at_ + gap, true)
    else (now, false)
  | none => (now, false)

def push (s : RepressSpacer L) (change : KeyChange L) (schedule : Nat × Bool) : RepressSpacer L :=
  { s with queue := s.queue ++ [⟨change, schedule.1, schedule.2⟩] }

def enqueue (s : RepressSpacer L) (change : KeyChange L) (now : Nat) (os_pressed : Bool) : RepressSpacer L :=
  let waiting := s.queue.countP (·.change.lane = change.lane)
  match newest change.lane s.queue with
  | some (index, previous) =>
    if previous.change.down = change.down then s
    -- The newest waiting edge and this opposite one cancel out.
    else if waiting ≥ MAX_WAITING_EDGES then { s with queue := s.queue.eraseIdx index }
    else s.push change (schedule_behind s.gap previous change now)
  | none =>
    if os_pressed = change.down then s
    else s.push change (schedule_first s.gap (s.last_emitted change.lane) change now)

end RepressSpacer

/-! ## Selecting what a flush submits -/

/-- `lane_selected`, `lane_waiting` and `press_waiting` while a flush walks the queue. -/
structure Marks (L : Nat) where
  lane_selected : Fin L → Bool
  lane_waiting : Fin L → Bool
  press_waiting : Bool

def Marks.clear : Marks L := ⟨fun _ => false, fun _ => false, false⟩

def ready (now : Nat) (m : Marks L) (e : ScheduledEdge L) : Bool :=
  decide (e.due ≤ now) && !m.lane_waiting e.change.lane && !(e.spaced && m.lane_selected e.change.lane) &&
    (e.change.down || !m.press_waiting)

def Marks.note (m : Marks L) (e : ScheduledEdge L) (ready : Bool) : Marks L :=
  if ready then { m with lane_selected := Function.update m.lane_selected e.change.lane true }
  else { m with
    lane_waiting := Function.update m.lane_waiting e.change.lane true
    press_waiting := m.press_waiting || e.change.down }

/-- The queue, each edge marked with whether the flush at `now` selects it. -/
def select (now : Nat) : Marks L → List (ScheduledEdge L) → List (ScheduledEdge L × Bool)
  | _, [] => []
  | m, e :: es => (e, ready now m e) :: select now (m.note e (ready now m e)) es

def selected (marked : List (ScheduledEdge L × Bool)) : List (ScheduledEdge L) :=
  (marked.filter (·.2)).map (·.1)

/-- The queue without its first `accepted` selected edges. -/
def retain : Nat → List (ScheduledEdge L × Bool) → List (ScheduledEdge L)
  | _, [] => []
  | accepted + 1, (_, true) :: rest => retain accepted rest
  | 0, (e, true) :: rest => e :: retain 0 rest
  | accepted, (e, false) :: rest => e :: retain accepted rest

namespace RepressSpacer

def note_emitted (now : Nat) (last_emitted : Fin L → Option EmittedEdge) (emitted : List (ScheduledEdge L)) :
    Fin L → Option EmittedEdge :=
  emitted.foldl (fun last e =>
    Function.update last e.change.lane (some ⟨now, e.spaced, e.change.touch⟩)) last_emitted

/-- A late flush must not collapse a spaced follower onto its predecessor; restart its gap from
the real emission time. -/
def restart_gap (gap now : Nat) (last_emitted : Fin L → Option EmittedEdge) (e : ScheduledEdge L) : ScheduledEdge L :=
  if e.spaced && (last_emitted e.change.lane).any (·.at_ = now) then { e with due := max e.due (now + gap) } else e

/-- The spacer and the pressed lanes once the OS took the first `accepted` selected edges. -/
def emit (s : RepressSpacer L) (now accepted : Nat) (pressed : Fin L → Bool) : RepressSpacer L × (Fin L → Bool) :=
  let marked := select now Marks.clear s.queue
  let emitted := (selected marked).take accepted
  let last_emitted := note_emitted now s.last_emitted emitted
  ({ s with
     queue := (retain accepted marked).map (restart_gap s.gap now last_emitted)
     last_emitted := last_emitted },
   emitted.foldl (fun pressed e => Function.update pressed e.change.lane e.change.down) pressed)

variable {κ : Type} [KeySink κ L]

def flush (s : RepressSpacer L) (now : Nat) (sink : κ) (pressed : Fin L → Bool) :
    Except IoError Unit × RepressSpacer L × κ × (Fin L → Bool) :=
  if s.queue = [] then (.ok (), s, sink, pressed)
  else
    let batch := (selected (select now Marks.clear s.queue)).map (·.change)
    if batch = [] then (.ok (), s, sink, pressed)
    else
      match KeySink.submit batch sink with
      | (.error e, sink) => (.error e, s, sink, pressed)
      | (.ok accepted, sink) =>
        if accepted > batch.length then (.error (excess_submission_error accepted batch.length), s, sink, pressed)
        else
          let (s, pressed) := s.emit now accepted pressed
          if accepted ≠ batch.length then
            (.error (incomplete_submission_error accepted batch.length), s, sink, pressed)
          else (.ok (), s, sink, pressed)

def next_deadline (s : RepressSpacer L) (now : Nat) : Option Nat :=
  if s.queue = [] then none
  -- After a failed flush everything left may already be due.
  else some (((s.queue.map (·.due)).filter (now < ·)).min?.getD now)

def note_release (s : RepressSpacer L) (lane : Fin L) (now : Nat) : RepressSpacer L :=
  { s with last_emitted := Function.update s.last_emitted lane (some ⟨now, false, false⟩) }

end RepressSpacer

end Trackpad.Keyboard
