import Trackpad.HostSpec
import Trackpad.Diagnostics.Observe
/-!
# The host's recorder

`HostMetrics` records an event wherever the input thread has something to report. The functions of the gameplay host
appear here once more, with the recorder they thread; what they do to the host is what they did without it. Every reading
of the recorder's clock is input.
-/

namespace Trackpad

/-- An enabled recorder whose queue never fills up, and the frames that were handed to `receive_ordered`. -/
structure HostMetrics where
  readings : Nat → Nat
  taken : Nat
  events : List Diagnostics.Event
  handed : List TouchFrame

namespace HostMetrics

/-- `clock_nanos(Instant::now())`, and the readings left. -/
def clock_nanos (m : HostMetrics) : Nat × HostMetrics := (m.readings m.taken, { m with taken := m.taken + 1 })

def record (e : Diagnostics.Event) (m : HostMetrics) : HostMetrics := { m with events := m.events ++ [e] }

/-- Counts a frame among those handed over. -/
def hand (frame : TouchFrame) (m : HostMetrics) : HostMetrics := { m with handed := m.handed ++ [frame] }

def note (kind session sequence a b : Nat) (m : HostMetrics) : HostMetrics :=
  let (at_, m) := m.clock_nanos
  m.record (.new kind at_ session sequence [a, b])

def begin_connection (m : HostMetrics) : HostMetrics := m.note Diagnostics.BEGIN 0 0 0 0

def receive_event (frame : TouchFrame) (arrival : Nat) (duplicate : Bool) : Diagnostics.Event :=
  let flags := (if frame.action = ACTION_HEARTBEAT then 4 else if frame.session_start then 8 else 1) |||
    (if frame.historical then 2 else 0)
  .new (if duplicate then Diagnostics.DUPLICATE else Diagnostics.RECEIVE) arrival frame.session_id frame.sequence
    [frame.phone_event_nanos, frame.phone_callback_nanos, frame.phone_send_nanos, frame.echo_host_send_nanos,
      frame.phone_control_receive_nanos, flags, frame.action.toNat, frame.contacts.items.length]

def observe_gap (session expected received : Nat) (m : HostMetrics) : HostMetrics :=
  m.note Diagnostics.GAP session received expected (received - expected)

/-- `error` is the code of the last refusal, if the frame was given up. -/
def observe_sink (frame : TouchFrame) (retries : Nat) (error : Option Nat) (m : HostMetrics) : HostMetrics :=
  let (ready, m) := m.clock_nanos
  let (end_, m) := m.clock_nanos
  m.record (.new (if error.isSome then Diagnostics.SINK_FAILURE else Diagnostics.ACCEPT) end_ frame.session_id frame.sequence
    [ready, retries, error.getD 0])

def observe_ack (session : Nat) (sequence : Option Nat) (elapsed : Nat) (progressed failed : Bool) (m : HostMetrics) :
    HostMetrics :=
  let (start, m) := m.clock_nanos
  let (end_, m) := m.clock_nanos
  m.record (.new Diagnostics.ACK end_ session (sequence.getD Diagnostics.U64_MAX)
    [elapsed, progressed.toNat, failed.toNat, start])

end HostMetrics

def OrderedFrames.contains_sequence (sequence : Nat) (o : OrderedFrames) : Bool :=
  (o.buffered (slot sequence)).any fun frame => frame.sequence = sequence

namespace Metered

open HostMetrics V5Host

/-- Whether the window already had the frame. -/
def replayed (frame : TouchFrame) (ordered : OrderedFrames) : Bool :=
  ordered.session_id = some frame.session_id &&
    (frame.sequence < ordered.expected_sequence || ordered.contains_sequence frame.sequence)

def receive_ordered (frame : TouchFrame) (arrival : Nat) (ordered : OrderedFrames) (m : HostMetrics) :
    OrderedFrames × HostMetrics :=
  let m := m.hand frame
  let expected := ordered.expected_sequence
  let replay := replayed frame ordered
  let m := if ordered.session_id = some frame.session_id ∧ replay = false ∧ frame.sequence > expected ∧
      frame.sequence - expected < MAX_REORDERED_FRAMES then m.observe_gap frame.session_id expected frame.sequence
    else m
  let event := receive_event frame arrival replay
  let ordered := ordered.push frame
  let event := if !replay &&
      (!ordered.contains_sequence frame.sequence || ordered.session_id != some frame.session_id) then
      { event with kind := Diagnostics.REJECT }
    else event
  (ordered, m.record event)

variable {σ : Type} [InputSink σ]

/-- How often the sink refused. -/
def retries (call : Nat → σ → Except IoError Unit × σ) (started : Nat) : List Attempt → σ → Nat
  | [], _ => 0
  | a :: attempts, sink =>
    match call a.now sink with
    | (.ok (), _) => 0
    | (.error _, sink) =>
      if a.stopping || a.later - started ≥ SINK_STALL_TIMEOUT then 1 else retries call started attempts sink + 1

variable (raw_os_error : IoError → Option Nat)

def commit_ready (progressed : Bool) (submissions : List Submission) (i : Input σ) (m : HostMetrics) :
    (Loop (Except IoError Bool) × Input σ) × HostMetrics :=
  match i.ordered.next_ready with
  | none => ((.finished (.ok progressed), i), m)
  | some frame =>
    match submissions with
    | [] => ((.unfinished, i), m)
    | s :: submissions =>
      let refused := retries (InputSink.accept frame) s.started s.attempts i.sink
      match retry (InputSink.accept frame) s.started s.attempts i.sink with
      | (.unfinished, sink) => ((.unfinished, { i with sink := sink }), m)
      | (.finished (some (e, stopped)), sink) =>
        ((.finished (.error (stalled e stopped)), { i with sink := sink, trace := .failed frame :: i.trace }),
          m.observe_sink frame refused (some ((raw_os_error e).getD Diagnostics.U64_MAX)))
      | (.finished none, sink) =>
        let m := m.observe_sink frame refused none
        match i.ordered.commit_ready with
        | (false, ordered) =>
          ((.finished (.error (.other "accepted frame was missing from the receive window")),
            { ordered := ordered, sink := sink, trace := .accepted frame :: i.trace }), m)
        | (true, ordered) =>
          commit_ready true submissions { ordered := ordered, sink := sink, trace := .accepted frame :: i.trace } m

/-- Whether a frame is answered by an ACK. -/
def answers (it : Iteration) (incoming_session : Nat) (progressed : Bool) (s : Serve σ) : Bool :=
  s.ordered.session_id = some incoming_session && (progressed || !held_off it s)

def process_gameplay_frame (it : Iteration) (frame : TouchFrame) (s : Serve σ) (m : HostMetrics) :
    (Loop (Except HostV5Error Unit) × Serve σ) × HostMetrics :=
  if s.ordered.session_id.any (· != frame.session_id) then
    ((.finished (.error (.Authentication "a new gameplay session requires fresh IK")), s), m)
  else
    let (ordered, m) := receive_ordered frame it.arrival s.ordered m
    match commit_ready raw_os_error false it.submissions { s.toInput with ordered := ordered } m with
    | ((.unfinished, i), m) => ((.unfinished, { s with toInput := i }), m)
    | ((.finished (.error e), i), m) => ((.finished (.error (.Io e)), { s with toInput := i }), m)
    | ((.finished (.ok progressed), i), m) =>
      let s := { s with toInput := i }
      let s := if progressed then s.committed_at it.committed_now else s
      let answered := answers it frame.session_id progressed s
      let acknowledged := s.ordered.acknowledged_sequence
      let (result, s) := acknowledge it frame.session_id progressed s
      let m := if answered then
          let (elapsed, m) := m.clock_nanos
          m.observe_ack frame.session_id acknowledged elapsed progressed (match result with
            | .ok () => false
            | .error _ => true)
        else m
      ((.finished result, s), m)

def handle_record (it : Iteration) (header : RecordHeader) (payload : Bytes) (s : Serve σ) (m : HostMetrics) :
    (Loop (Except HostV5Error Unit) × Serve σ) × HostMetrics :=
  if header.message_type = PHONE_TOUCH then
    match decode_touch_payload header payload with
    | .error e => ((.finished (.error (.Wire e)), s), m)
    | .ok frame =>
      match process_gameplay_frame raw_os_error it frame s m with
      | ((.finished (.ok ()), s), m) =>
        if !s.session_established && s.ordered.session_id.isSome then
          match it.socket with
          | .ok () => ((.finished (.ok ()), { s with session_established := true }), m)
          | .error e => ((.finished (.error e), s), m)
        else ((.finished (.ok ()), s), m)
      | (result, m) => (result, m)
  else (V5Host.handle_record it header payload s, m)

/-- Why `receive_record_into` dropped a datagram, as it leaves it in `last_diagnostic_discard`. -/
def last_diagnostic_discard (aead : Aead) (it : Iteration) (s : Serve σ) : Option Nat :=
  match it.received with
  | .timed_out => none
  | .error _ => none
  | .foreign => some 1
  | .datagram bytes =>
    if s.connection.cached_handshake.map Prod.fst = some bytes then none
    else
      match (s.connection.cipher.open_in_place aead .PhoneToHost bytes).1 with
      | .ok _ => none
      | .error .Replay => some 2
      | .error .BadTag => some 3
      | .error e => if discarded e then some 4 else none

/-- What the loop reports of a datagram that was dropped. -/
def report_discard (aead : Aead) (it : Iteration) (s : Serve σ) (m : HostMetrics) : HostMetrics :=
  match last_diagnostic_discard aead it s with
  | some reason => m.record (.new Diagnostics.INGRESS it.arrival 0 0 [reason])
  | none => m

/-- What the checks of a turn report: a changed interface, or input that makes no progress. -/
def check_stall (it : Iteration) (s : Serve σ) (m : HostMetrics) : HostMetrics :=
  let stall := fun a b (m : HostMetrics) =>
    m.note Diagnostics.STALL (s.ordered.session_id.getD 0) s.ordered.expected_sequence a b
  if it.interface_changed then stall 1 0 m
  else
    match repair_hello it s with
    | (.error _, _) => m
    | (.ok (), s) =>
      if InputSink.has_active_input s.sink ∧
          it.active_now - s.control.last_committed_frame ≥ ACTIVE_INPUT_SILENCE_TIMEOUT then stall 2 32000000 m
      else m

def turn (aead : Aead) (it : Iteration) (s : Serve σ) (m : HostMetrics) :
    (Loop (Except HostV5Error Unit) × Serve σ) × HostMetrics :=
  let m := check_stall it s m
  match check it s with
  | (.finished (.ok ()), s) =>
    let m := report_discard aead it s m
    match receive_record_into aead it s with
    | (.error e, s) => ((.finished (.error e), s), m)
    | (.ok none, s) => ((.finished (.ok ()), s), m)
    | (.ok (some (header, payload)), s) => handle_record raw_os_error it header payload s m
  | result => (result, m)

def serve_loop (aead : Aead) : List Iteration → Serve σ → HostMetrics →
    (Loop (Except HostV5Error Unit) × Serve σ) × HostMetrics
  | [], s, m => ((.unfinished, s), m)
  | it :: its, s, m =>
    if it.stopping then ((.finished (.ok ()), s), m)
    else
      match turn raw_os_error aead it s m with
      | ((.finished (.ok ()), s), m) => serve_loop aead its s m
      | result => result

def serve_gameplay_inner (aead : Aead) (b : Boundary) (its : List Iteration) (s : Serve σ) (m : HostMetrics) :
    (Loop (Except HostV5Error Unit) × Serve σ) × HostMetrics :=
  match b.monitor, b.read_timeout with
  | .error e, _ => ((.finished (.error e), s), m)
  | .ok (), .error e => ((.finished (.error e), s), m)
  | .ok (), .ok () =>
    match send_control HOST_HELLO 0 none b.hello (s.begun b) with
    | (.error e, s) => ((.finished (.error e), s), m)
    | (.ok (), s) =>
      serve_loop raw_os_error aead its { s with
        last_hello_send := b.hello_sent
        hello_interval := V5_CONTROL_REPAIR_INTERVAL } m

/-- `cancel_with_deadline` reports how long the release took and what it gave. -/
def cancel_with_deadline (s : Submission) (sink : σ) (m : HostMetrics) : (Loop (Except IoError Unit) × σ) × HostMetrics :=
  match Trackpad.cancel_with_deadline s.started s.attempts sink with
  | (.unfinished, sink) => ((.unfinished, sink), m)
  | (.finished result, sink) =>
    let (elapsed, m) := m.clock_nanos
    ((.finished result, sink), m.note Diagnostics.CANCEL 0 0 elapsed (match result with
      | .ok () => 0
      | .error e => (raw_os_error e).getD Diagnostics.U64_MAX))

/-- The note of the end of a session. -/
def note_boundary (stopping : Bool) (result : Except HostV5Error Unit) (s : Serve σ) (m : HostMetrics) : HostMetrics :=
  let failed := match result with
    | .ok () => false
    | .error _ => !stopping
  m.note Diagnostics.BOUNDARY (s.ordered.session_id.getD 0) s.ordered.expected_sequence failed.toNat 0

def serve_gameplay (aead : Aead) (b : Boundary) (its : List Iteration) (s : Serve σ) (m : HostMetrics) :
    (Loop (Except HostV5Error Unit) × Serve σ) × HostMetrics :=
  match serve_gameplay_inner raw_os_error aead b its { s with ordered := .require_fresh_session } m with
  | ((.unfinished, s), m) => ((.unfinished, s), m)
  | ((.finished result, s), m) =>
    let s := notify_session_end b.stopping s
    let m := note_boundary b.stopping result s m
    let s := { s with ordered := .require_fresh_session }
    match cancel_with_deadline raw_os_error b.cancel s.sink m with
    | ((.unfinished, sink), m) => ((.unfinished, { s with sink := sink }), m)
    | ((.finished (.error e), sink), m) => ((.finished (.error (.Io e)), { s with sink := sink }), m)
    | ((.finished (.ok ()), sink), m) => ((.finished result, { s with sink := sink }), m)

/-! ## The controller -/

/-- What the controller keeps from one connection to the next. -/
structure Controller (σ : Type) where
  ordered : OrderedFrames
  sink : σ
  metrics : HostMetrics

def Controller.new (sink : σ) (readings : Nat → Nat) : Controller σ := ⟨.new, sink, ⟨readings, 0, [], []⟩⟩

/-- An authenticated connection, with all that its gameplay meets and what comes of it in the end. -/
structure Link where
  lane_count : Nat
  send_key : Bytes
  receive_key : Bytes
  connection_id : UInt64
  cached_handshake : Option (Bytes × Bytes)
  boundary : Boundary
  iterations : List Iteration
  shutdown : Bool
  release : Submission

/-- What `accept_remembered` and the checks of the new connection gave: a connection, a failure that the controller
retries after, or one that it returns. -/
inductive Accepted
  | connected (link : Link)
  | retried
  | failed

/-- What one pass of the controller's loop meets. -/
structure Pass where
  stopping : Bool
  release : Submission
  accepted : Accepted

/-- How a pass ends: the loop continues, it breaks, or the controller returns. -/
inductive Flow
  | continued
  | broken
  | returned

def Link.accept (link : Link) (c : Controller σ) : Serve σ :=
  accepted_connection c.sink c.ordered link.lane_count link.send_key link.receive_key link.connection_id link.cached_handshake

/-- `cancel_sink_with_deadline`. -/
def release (s : Submission) (c : Controller σ) : Loop (Except IoError Unit) × Controller σ :=
  match cancel_with_deadline raw_os_error s c.sink c.metrics with
  | ((result, sink), m) => (result, { c with sink := sink, metrics := m })

/-- The gameplay of one connection. -/
def connected (aead : Aead) (link : Link) (c : Controller σ) : Loop Flow × Controller σ :=
  match serve_gameplay raw_os_error aead link.boundary link.iterations (link.accept c) c.metrics.begin_connection with
  | ((.unfinished, s), m) => (.unfinished, ⟨s.ordered, s.sink, m⟩)
  | ((.finished (.ok ()), s), m) => (.finished .continued, ⟨s.ordered, s.sink, m⟩)
  | ((.finished (.error _), s), m) =>
    if link.shutdown then (.finished .broken, ⟨s.ordered, s.sink, m⟩)
    else
      match release raw_os_error link.release ⟨.require_fresh_session, s.sink, m⟩ with
      | (.unfinished, c) => (.unfinished, c)
      | (.finished _, c) => (.finished .continued, c)

/-- The part of a pass after the sink has let go. -/
def proceed (aead : Aead) (p : Pass) (c : Controller σ) : Loop Flow × Controller σ :=
  match p.accepted with
  | .connected link => connected raw_os_error aead link c
  | .retried => (.finished .continued, c)
  | .failed => (.finished .returned, c)

def pass (aead : Aead) (p : Pass) (c : Controller σ) : Loop Flow × Controller σ :=
  if InputSink.has_active_input c.sink then
    match release raw_os_error p.release c with
    | (.unfinished, c) => (.unfinished, c)
    | (.finished (.error _), c) => (.finished .continued, c)
    | (.finished (.ok ()), c) => proceed raw_os_error aead p c
  else proceed raw_os_error aead p c

/-- The controller's loop, and the release after it. -/
def run_v5_controller (aead : Aead) (last : Submission) : List Pass → Controller σ → Controller σ
  | [], c => c
  | p :: passes, c =>
    if p.stopping then (release raw_os_error last c).2
    else
      match pass raw_os_error aead p c with
      | (.finished .continued, c) => run_v5_controller aead last passes c
      | (.finished .broken, c) => (release raw_os_error last c).2
      | (.finished .returned, c) => c
      | (.unfinished, c) => c

/-! ## Without the recorder -/

theorem receive_ordered_pushes (frame : TouchFrame) (arrival : Nat) (o : OrderedFrames) (m : HostMetrics) :
    (receive_ordered frame arrival o m).1 = o.push frame := rfl

theorem commit_ready_commits (progressed : Bool) (submissions : List Submission) (i : Input σ) (m : HostMetrics) :
    (commit_ready raw_os_error progressed submissions i m).1 = Trackpad.commit_ready progressed submissions i := by
  induction submissions generalizing progressed i m with
  | nil =>
    unfold commit_ready Trackpad.commit_ready
    cases i.ordered.next_ready <;> rfl
  | cons s submissions ih =>
    unfold commit_ready Trackpad.commit_ready
    cases i.ordered.next_ready with
    | none => rfl
    | some frame =>
      dsimp only
      rcases retry (InputSink.accept frame) s.started s.attempts i.sink with ⟨(_ | ⟨e, stopped⟩) | _, sink⟩
      · rcases i.ordered.commit_ready with ⟨_ | _, ordered⟩
        · rfl
        · exact ih ..
      · rfl
      · rfl

theorem process_gameplay_frame_processes (it : Iteration) (frame : TouchFrame) (s : Serve σ) (m : HostMetrics) :
    (process_gameplay_frame raw_os_error it frame s m).1 = V5Host.process_gameplay_frame it frame s := by
  have hcommits := commit_ready_commits raw_os_error false it.submissions { s.toInput with ordered := s.ordered.push frame }
    (receive_ordered frame it.arrival s.ordered m).2
  unfold process_gameplay_frame V5Host.process_gameplay_frame
  split
  · rfl
  · rw [← hcommits]
    dsimp only
    rw [receive_ordered_pushes]
    split <;> (rename_i heq; rw [heq])

theorem handle_record_handles (it : Iteration) (header : RecordHeader) (payload : Bytes) (s : Serve σ) (m : HostMetrics) :
    (handle_record raw_os_error it header payload s m).1 = V5Host.handle_record it header payload s := by
  unfold handle_record
  split
  · rename_i htouch
    unfold V5Host.handle_record
    rw [if_neg (by rw [htouch]; decide), if_neg (by rw [htouch]; decide), if_neg (not_not.mpr htouch)]
    rcases decode_touch_payload header payload with e | frame
    · rfl
    · have hprocessed := process_gameplay_frame_processes raw_os_error it frame s m
      dsimp only
      rw [← hprocessed]
      rcases process_gameplay_frame raw_os_error it frame s m with ⟨⟨⟨e | ⟨⟨⟩⟩⟩ | _, s'⟩, m'⟩
      · rfl
      · dsimp only
        split
        · rcases it.socket with e | ⟨⟨⟩⟩ <;> rfl
        · rfl
      · rfl
  · rfl

theorem turn_turns (aead : Aead) (it : Iteration) (s : Serve σ) (m : HostMetrics) :
    (turn raw_os_error aead it s m).1 = V5Host.turn it (receive_record_into aead it) s := by
  unfold turn V5Host.turn
  rcases check it s with ⟨⟨e | ⟨⟨⟩⟩⟩ | _, s'⟩
  · rfl
  · dsimp only
    rcases receive_record_into aead it s' with ⟨e | _ | ⟨header, payload⟩, s''⟩
    · rfl
    · rfl
    · exact handle_record_handles ..
  · rfl

theorem serve_loop_serves (aead : Aead) (its : List Iteration) (s : Serve σ) (m : HostMetrics) :
    (serve_loop raw_os_error aead its s m).1 = V5Host.serve_loop aead its s := by
  induction its generalizing s m with
  | nil => rfl
  | cons it its ih =>
    have hturns := turn_turns raw_os_error aead it s m
    unfold serve_loop V5Host.serve_loop
    split
    · rfl
    · rw [← hturns]
      rcases turn raw_os_error aead it s m with ⟨⟨⟨e | ⟨⟨⟩⟩⟩ | _, s'⟩, m'⟩
      · rfl
      · exact ih ..
      · rfl

theorem cancel_with_deadline_cancels (s : Submission) (sink : σ) (m : HostMetrics) :
    (cancel_with_deadline raw_os_error s sink m).1 = Trackpad.cancel_with_deadline s.started s.attempts sink := by
  unfold cancel_with_deadline
  rcases Trackpad.cancel_with_deadline s.started s.attempts sink with ⟨_ | _, sink'⟩ <;> rfl

/-- The recorder changes nothing of what the host does. -/
theorem serve_gameplay_serves (aead : Aead) (b : Boundary) (its : List Iteration) (s : Serve σ) (m : HostMetrics) :
    (serve_gameplay raw_os_error aead b its s m).1 = V5Host.serve_gameplay aead b its s := by
  have hinner : ∀ s : Serve σ, (serve_gameplay_inner raw_os_error aead b its s m).1 = V5Host.serve_gameplay_inner aead b its s := by
    intro s
    unfold serve_gameplay_inner V5Host.serve_gameplay_inner
    rcases b.monitor with e | ⟨⟨⟩⟩
    · rfl
    · rcases b.read_timeout with e | ⟨⟨⟩⟩
      · rfl
      · dsimp only
        rcases send_control HOST_HELLO 0 none b.hello (s.begun b) with ⟨e | ⟨⟨⟩⟩, s'⟩
        · rfl
        · exact serve_loop_serves ..
  unfold serve_gameplay V5Host.serve_gameplay
  rw [← hinner]
  rcases serve_gameplay_inner raw_os_error aead b its { s with ordered := .require_fresh_session } m with ⟨⟨result | _, s'⟩, m'⟩
  · dsimp only
    rw [← cancel_with_deadline_cancels raw_os_error b.cancel _ (note_boundary b.stopping result (notify_session_end b.stopping s') m')]
    rcases cancel_with_deadline raw_os_error b.cancel (notify_session_end b.stopping s').sink
      (note_boundary b.stopping result (notify_session_end b.stopping s') m') with ⟨⟨⟨e | ⟨⟨⟩⟩⟩ | _, sink⟩, m''⟩ <;> rfl
  · rfl

end Metered

end Trackpad
