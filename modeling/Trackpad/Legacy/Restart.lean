import Trackpad.Legacy.Host
import Trackpad.Legacy.Phone
/-!
# Cumulative acknowledgement across host restarts

One phone, and one host process after the other. The network delivers any frame that was sent and any
record that was written, in any order and any number of times. A process that starts takes the first
frame that arrives for the oldest one in flight: `Oldest` says when it is.
-/

namespace Trackpad.Legacy

variable {σ : Type}

/-- The phone, the host process that runs, and what is in flight. `earlier` is what the processes
before it applied, and `controls` has each record with the number of the process that wrote it. -/
structure System (σ : Type) where
  phone : UdpTransport
  input : Input σ
  control : ControlState
  /-- The process is still trying to apply a frame. -/
  busy : Bool
  process : Nat
  earlier : List TouchFrame
  sent : List TouchFrame
  controls : List (Nat × Control)
  sessions : List Nat

inductive Step (σ : Type)
  | openSession (session nanos : Nat) (now : Int)
  | close
  | offer (sample : TouchSample) (now : Int)
  /-- A discovery answer pins the host. -/
  | pin
  | write (now : Int)
  /-- A datagram reaches the host; one that does not decode is `none`. -/
  | receive (decoded : Option TouchFrame) (turn : Turn)
  /-- The connection is given up, for a watchdog, an error or a new discovery, and the sink is released. -/
  | interrupt (sink : σ) (now : Nat)
  | restart (sink : σ) (lane_count now : Nat)
  | deliver (process : Nat) (control : Control) (now : Int)

def System.new (sink : σ) (lane_count : Nat) : System σ where
  phone := .new
  input := ⟨.new, sink, []⟩
  control := .new lane_count 0
  busy := false
  process := 0
  earlier := []
  sent := []
  controls := []
  sessions := []

def Among (frames : List TouchFrame) (session sequence : Nat) : Prop :=
  ∃ frame ∈ frames, frame.session_id = session ∧ frame.sequence = sequence

namespace System

/-- A frame was accepted by some process's sink. -/
def Accepted (s : System σ) (session sequence : Nat) : Prop := Among (s.earlier ++ applied s.input.trace) session sequence

/-- A process before `process` had acknowledged the frame. -/
def AcknowledgedBefore (s : System σ) (process session sequence : Nat) : Prop :=
  ∃ c ∈ s.controls, c.1 < process ∧ c.2.session_id = session ∧ c.2.Acknowledges sequence

/-- What can happen. A session id is random and never used again; a record only counts when it comes
from the pinned host. -/
def Enabled (s : System σ) : Step σ → Prop
  | .openSession session _ _ => session ∉ s.sessions
  | .close => True
  | .offer _ _ => True
  | .pin => True
  | .write _ => s.phone.running = true
  | .receive decoded _ => s.busy = false ∧ ∀ frame ∈ decoded, frame ∈ s.sent
  | .interrupt _ _ => s.busy = false
  | .restart _ _ _ => True
  | .deliver process control _ => s.phone.hostAddress = true ∧ (process, control) ∈ s.controls

instance (s : System σ) (a : Step σ) : Decidable (s.Enabled a) :=
  match a with
  | .openSession session _ _ => inferInstanceAs (Decidable (session ∉ s.sessions))
  | .close => inferInstanceAs (Decidable True)
  | .offer _ _ => inferInstanceAs (Decidable True)
  | .pin => inferInstanceAs (Decidable True)
  | .write _ => inferInstanceAs (Decidable (s.phone.running = true))
  | .receive decoded _ => inferInstanceAs (Decidable (s.busy = false ∧ ∀ frame ∈ decoded, frame ∈ s.sent))
  | .interrupt _ _ => inferInstanceAs (Decidable (s.busy = false))
  | .restart _ _ _ => inferInstanceAs (Decidable True)
  | .deliver process control _ => inferInstanceAs (Decidable (s.phone.hostAddress = true ∧ (process, control) ∈ s.controls))

section
variable [InputSink σ]

def after (s : System σ) : Step σ → System σ
  | .openSession session nanos now =>
    { s with phone := s.phone.openSession session nanos now, sessions := session :: s.sessions }
  | .close => { s with phone := s.phone.closeInternal }
  | .offer sample now => { s with phone := s.phone.offerFrame sample now }
  | .pin => { s with phone := { s.phone with hostAddress := true } }
  | .write now =>
    let (frame, phone) := s.phone.writerTurn now
    { s with phone := phone, sent := frame.toList ++ s.sent }
  | .receive decoded turn =>
    let (result, input, control, record) := process_decoded_frame decoded turn s.input s.control
    let s := { s with controls := (record.map fun c => (s.process, c)).toList ++ s.controls }
    match result with
    | .finished (.ok ()) => { s with input := input, control := control }
    | .finished (.error _) =>
      { s with
        input := { input with ordered := .require_fresh_session }
        control := .new control.lane_count turn.committed }
    | .unfinished => { s with input := input, control := control, busy := true }
  | .interrupt sink now =>
    { s with
      input := { s.input with ordered := .require_fresh_session, sink := sink }
      control := .new s.control.lane_count now }
  | .restart sink lane_count now =>
    { s with
      input := ⟨.new, sink, []⟩
      control := .new lane_count now
      busy := false
      process := s.process + 1
      earlier := s.earlier ++ applied s.input.trace }
  | .deliver _ c now =>
    let phone := s.phone.handleControl c.control_type (c.lane_count % 256) c.session_id c.acknowledged_sequence
      c.receive_window c.host_send_nanos now
    { s with phone := phone }

/-- The states that steps lead to when each of them meets `ok`. -/
inductive Run (ok : System σ → Step σ → Prop) (sink : σ) (lane_count : Nat) : System σ → Prop
  | new : Run ok sink lane_count (System.new sink lane_count)
  | step {s : System σ} (a : Step σ) : Run ok sink lane_count s → s.Enabled a → ok s a → Run ok sink lane_count (s.after a)

end

/-- A process without a session only adopts that of a frame if every frame before it was acknowledged by
an earlier process or accepted. -/
def Oldest (s : System σ) : Step σ → Prop
  | .receive (some frame) _ => s.input.ordered.session_id = none → s.input.ordered.requires_session_start = false →
      ∀ sequence < frame.sequence,
        s.AcknowledgedBefore s.process frame.session_id sequence ∨ s.Accepted frame.session_id sequence
  | _ => True

instance (s : System σ) (session sequence : Nat) : Decidable (s.Accepted session sequence) :=
  inferInstanceAs (Decidable (∃ frame ∈ s.earlier ++ applied s.input.trace,
    frame.session_id = session ∧ frame.sequence = sequence))

instance (s : System σ) (process session sequence : Nat) : Decidable (s.AcknowledgedBefore process session sequence) :=
  inferInstanceAs (Decidable (∃ c ∈ s.controls,
    c.1 < process ∧ c.2.session_id = session ∧ c.2.acknowledged_sequence ≠ U64_MAX ∧ sequence ≤ c.2.acknowledged_sequence))

instance (s : System σ) (a : Step σ) : Decidable (s.Oldest a) :=
  match a with
  | .receive (some frame) _ => inferInstanceAs (Decidable (s.input.ordered.session_id = none →
      s.input.ordered.requires_session_start = false → ∀ sequence < frame.sequence,
        s.AcknowledgedBefore s.process frame.session_id sequence ∨ s.Accepted frame.session_id sequence))
  | .receive none _ => isTrue trivial
  | .openSession _ _ _ => isTrue trivial
  | .close => isTrue trivial
  | .offer _ _ => isTrue trivial
  | .pin => isTrue trivial
  | .write _ => isTrue trivial
  | .interrupt _ _ => isTrue trivial
  | .restart _ _ _ => isTrue trivial
  | .deliver _ _ _ => isTrue trivial

end System

/-! ## The phone's frames -/

namespace UdpTransport

theorem flags_start {s : TouchSample} (h : s.sessionStart = false) : s.flags &&& FRAME_FLAG_SESSION_START = 0 := by
  unfold TouchSample.flags
  rw [h]
  cases s.locked <;> cases s.historical <;> decide

theorem enqueue_queued {p : UdpTransport} (h : p.Queued) {s : TouchSample} (now : Int)
    (hs : s.sessionStart = true → p.nextSequence = 0) : (p.enqueueFrameLocked s now).Queued := by
  intro packet hp
  rcases List.mem_append.1 hp with hp | hp
  · exact h packet hp
  · rw [List.mem_singleton.1 hp]
    refine ⟨rfl, fun hstart => ?_⟩
    cases hss : s.sessionStart with
    | true => exact hs hss
    | false =>
      have hflags := flags_start hss
      simp [TouchFrame.session_start, hflags] at hstart

theorem open_queued (session nanos : Nat) (now : Int) (p : UdpTransport) : (p.openSession session nanos now).Queued := by
  unfold openSession beginSessionLocked
  exact enqueue_queued (fun packet hp => (by cases hp)) now fun _ => rfl

theorem heartbeat_queued {p : UdpTransport} (h : p.Queued) (now : Int) : (p.maybeEnqueueHeartbeatLocked now).Queued := by
  unfold maybeEnqueueHeartbeatLocked
  split
  · exact h
  · exact enqueue_queued h now fun hs => (by cases hs)

/-- The writer sends a pending frame, its times filled in. -/
theorem writer_queued {p : UdpTransport} (h : p.Queued) (now : Int) :
    (p.writerTurn now).2.Queued ∧
    ∀ frame ∈ (p.writerTurn now).1, frame.session_start = true → frame.sequence = 0 := by
  have hbeat := heartbeat_queued h now
  unfold writerTurn
  dsimp only
  generalize p.maybeEnqueueHeartbeatLocked now = q at hbeat ⊢
  split
  · exact ⟨hbeat, fun frame hf => (by cases hf)⟩
  split
  · exact ⟨hbeat, fun frame hf => (by cases hf)⟩
  split
  · exact ⟨hbeat, fun frame hf => (by cases hf)⟩
  rename_i packet hpacket
  have hmem := List.mem_of_getElem? hpacket
  refine ⟨fun x hx => ?_, fun frame hf => ?_⟩
  · rcases List.mem_or_eq_of_mem_set hx with hx | rfl
    · exact hbeat x hx
    · exact hbeat packet hmem
  · obtain rfl := Option.some.inj hf
    exact (hbeat packet hmem).2

/-- What an acknowledgement retires it acknowledges, and it is of the session. -/
theorem acknowledge_retired {p : UdpTransport} (acknowledged : Int) {frame : TouchFrame}
    (hf : frame ∈ (p.acknowledgeLocked acknowledged).retired) :
    frame ∈ p.retired ∨ frame.session_id = p.sessionId ∧ 0 ≤ acknowledged ∧ (frame.sequence : Int) ≤ acknowledged := by
  unfold acknowledgeLocked at hf
  split at hf
  · exact .inl hf
  rename_i hnew
  split at hf
  · exact .inl hf
  rcases List.mem_append.1 hf with hf | hf
  · exact .inl hf
  · obtain ⟨packet, hp, rfl⟩ := List.mem_map.1 hf
    have hretires := List.mem_takeWhile_imp hp
    rw [Bool.and_eq_true, decide_eq_true_eq, decide_eq_true_eq] at hretires
    exact .inr ⟨hretires.1, by omega, hretires.2⟩

theorem acknowledge_queued {p : UdpTransport} (h : p.Queued) (acknowledged : Int) : (p.acknowledgeLocked acknowledged).Queued := by
  unfold acknowledgeLocked
  split
  · exact h
  split
  · exact h
  · exact fun packet hp => h packet ((List.dropWhile_suffix _).subset hp)

theorem control_queued {p : UdpTransport} (h : p.Queued) (type : UInt8) (lanes session acknowledged window nanos : Nat)
    (receive : Int) : (p.handleControl type lanes session acknowledged window nanos receive).Queued := by
  unfold handleControl
  split
  · exact h
  dsimp only
  apply acknowledge_queued
  split <;> exact h

/-- A record retires frames only of its own session, and only frames it acknowledges. -/
theorem control_retired {p : UdpTransport} (type : UInt8) (lanes session acknowledged window nanos : Nat) (receive : Int)
    {frame : TouchFrame} (hf : frame ∈ (p.handleControl type lanes session acknowledged window nanos receive).retired) :
    frame ∈ p.retired ∨
      frame.session_id = session ∧ acknowledged ≠ U64_MAX ∧ frame.sequence ≤ acknowledged := by
  unfold handleControl at hf
  split at hf
  · exact .inl hf
  rename_i hsession
  simp only [Bool.or_eq_true, decide_eq_true_eq, not_or, Decidable.not_not] at hsession
  have hcases := acknowledge_retired _ hf
  have hkept : ∀ q : UdpTransport, q.retired = p.retired ∧ q.sessionId = p.sessionId →
      frame ∈ q.retired ∨ frame.session_id = q.sessionId ∧ 0 ≤ signed acknowledged ∧
        (frame.sequence : Int) ≤ signed acknowledged →
      frame ∈ p.retired ∨ frame.session_id = session ∧ acknowledged ≠ U64_MAX ∧ frame.sequence ≤ acknowledged := by
    rintro q ⟨hr, hs⟩ (hold | ⟨hsame, hpos, hle⟩)
    · exact .inl (hr ▸ hold)
    · right
      unfold signed at hpos hle
      split at hpos
      · rename_i hlt
        rw [if_pos hlt] at hle
        refine ⟨hsame.trans (hs.trans hsession.1.2.symm), ?_, by omega⟩
        unfold U64_MAX
        omega
      · rename_i hlarge
        rw [if_neg hlarge] at hle
        refine ⟨hsame.trans (hs.trans hsession.1.2.symm), ?_, by omega⟩
        unfold U64_MAX
        omega
  refine hkept _ ?_ hcases
  split <;> exact ⟨rfl, rfl⟩

/-- A sample is queued, or only its contacts are kept. -/
theorem offer_queued {p : UdpTransport} (h : p.Queued) (s : TouchSample) (now : Int) : (p.offerFrame s now).Queued := by
  unfold offerFrame
  dsimp only
  split
  · exact enqueue_queued (p := { p with retained := s.contacts }) h now fun hs => (by cases hs)
  · exact h

theorem offer_retired (p : UdpTransport) (s : TouchSample) (now : Int) : (p.offerFrame s now).retired = p.retired := by
  unfold offerFrame
  dsimp only
  split <;> rfl

theorem writer_retired (p : UdpTransport) (now : Int) : (p.writerTurn now).2.retired = p.retired := by
  have hbeat : (p.maybeEnqueueHeartbeatLocked now).retired = p.retired := by
    unfold maybeEnqueueHeartbeatLocked
    split <;> rfl
  unfold writerTurn
  dsimp only
  generalize p.maybeEnqueueHeartbeatLocked now = q at hbeat ⊢
  repeat' split
  all_goals exact hbeat

end UdpTransport

/-! ## What holds in every run -/

namespace System

variable [InputSink σ]

structure Inv (s : System σ) : Prop where
  queued : s.phone.Queued
  sent : ∀ frame ∈ s.sent, frame.session_start = true → frame.sequence = 0
  caught : Caught s.Accepted s.input.ordered
  controls : ∀ c ∈ s.controls, ∀ sequence, c.2.Acknowledges sequence → s.Accepted c.2.session_id sequence
  retired : ∀ frame ∈ s.phone.retired, s.Accepted frame.session_id frame.sequence

omit [InputSink σ] in
theorem new_inv (sink : σ) (lane_count : Nat) : Inv (System.new sink lane_count) where
  queued packet hp := by cases hp
  sent frame hf := by cases hf
  caught := caught_none rfl fun _ => rfl
  controls c hc := by cases hc
  retired frame hf := by cases hf

omit [InputSink σ] in
/-- A step that changes the phone alone. -/
theorem inv_phone {s : System σ} (h : Inv s) {phone : UdpTransport} (hq : phone.Queued)
    (hr : ∀ frame ∈ phone.retired, s.Accepted frame.session_id frame.sequence) : Inv { s with phone := phone } :=
  ⟨hq, h.sent, h.caught, h.controls, hr⟩

omit [InputSink σ] in
theorem acknowledged_accepted {s : System σ} (h : Inv s) {process session sequence : Nat}
    (ha : s.AcknowledgedBefore process session sequence) : s.Accepted session sequence := by
  obtain ⟨c, hc, -, rfl, hack⟩ := ha
  exact h.controls c hc sequence hack

omit [InputSink σ] in
/-- The first frame of a session either starts it or is the oldest in flight. -/
theorem begins_accepted {s : System σ} (h : Inv s) {frame : TouchFrame} {turn : Turn} (hsent : frame ∈ s.sent)
    (hok : Oldest s (.receive (some frame) turn)) (hb : begins s.input.ordered frame = true) :
    ∀ sequence < frame.sequence, s.Accepted frame.session_id sequence := by
  intro sequence hlt
  cases hstart : frame.session_start with
  | true =>
    have hzero := h.sent frame hsent hstart
    omega
  | false =>
    unfold begins at hb
    split at hb
    · rename_i hnone
      rw [hstart, Bool.or_false, Bool.not_eq_true'] at hb
      rcases hok hnone hb sequence hlt with hbefore | haccepted
      · exact acknowledged_accepted h hbefore
      · exact haccepted
    · rw [hstart, Bool.and_false] at hb
      cases hb

theorem receive_inv {s : System σ} (h : Inv s) {decoded : Option TouchFrame} {turn : Turn}
    (hsent : ∀ frame ∈ decoded, frame ∈ s.sent) (hok : Oldest s (.receive decoded turn)) :
    Inv (s.after (.receive decoded turn)) := by
  have htrace := process_applied decoded turn s.input s.control
  rcases hp : process_decoded_frame decoded turn s.input s.control with ⟨result, input, control, record⟩
  rw [hp] at htrace
  have hgrown : ∀ session sequence, s.Accepted session sequence →
      Among (s.earlier ++ applied input.trace) session sequence := by
    rintro session sequence ⟨frame, hf, hframe⟩
    refine ⟨frame, ?_, hframe⟩
    rcases List.mem_append.1 hf with hf | hf
    · exact List.mem_append_left _ hf
    · exact List.mem_append_right _ (htrace frame hf)
  have hfacts : Caught (Among (s.earlier ++ applied input.trace)) input.ordered ∧
      ∀ c ∈ record, ∀ sequence, c.Acknowledges sequence →
        Among (s.earlier ++ applied input.trace) c.session_id sequence := by
    cases decoded with
    | none =>
      cases hp
      exact ⟨h.caught, fun c hc => (by cases hc)⟩
    | some frame =>
      have hframe := process_caught (Among (s.earlier ++ applied input.trace)) turn
        (c := s.control) (caught_mono hgrown h.caught)
        (fun hb sequence hlt => hgrown _ _ (begins_accepted h (hsent frame rfl) hok hb sequence hlt))
      rw [hp] at hframe
      exact hframe fun f hf => ⟨f, List.mem_append_right _ hf, rfl, rfl⟩
  obtain ⟨hcaught, hrecord⟩ := hfacts
  have hcontrols : ∀ c ∈ (record.map fun c => (s.process, c)).toList ++ s.controls, ∀ sequence,
      c.2.Acknowledges sequence → Among (s.earlier ++ applied input.trace) c.2.session_id sequence := by
    intro c hc sequence hack
    rcases List.mem_append.1 hc with hc | hc
    · obtain ⟨written, hw, rfl⟩ := Option.map_eq_some_iff.1 (Option.mem_toList.1 hc)
      exact hrecord written hw sequence hack
    · exact hgrown _ _ (h.controls c hc sequence hack)
  have hretired : ∀ frame ∈ s.phone.retired, Among (s.earlier ++ applied input.trace) frame.session_id frame.sequence :=
    fun frame hf => hgrown _ _ (h.retired frame hf)
  simp only [after, hp]
  rcases result with (e | ⟨⟩) | _
  · exact ⟨h.queued, h.sent, caught_none rfl fun _ => rfl, hcontrols, hretired⟩
  · exact ⟨h.queued, h.sent, hcaught, hcontrols, hretired⟩
  · exact ⟨h.queued, h.sent, hcaught, hcontrols, hretired⟩

/-- Every step keeps the invariant. -/
theorem after_inv {s : System σ} (h : Inv s) (a : Step σ) (he : s.Enabled a) (hok : Oldest s a) : Inv (s.after a) := by
  cases a with
  | openSession session nanos now =>
    exact ⟨UdpTransport.open_queued session nanos now s.phone, h.sent, h.caught, h.controls, h.retired⟩
  | close => exact inv_phone h (fun packet hp => (by cases hp)) h.retired
  | offer sample now =>
    apply inv_phone h (UdpTransport.offer_queued h.queued sample now)
    rw [UdpTransport.offer_retired]
    exact h.retired
  | pin => exact inv_phone h h.queued h.retired
  | write now =>
    obtain ⟨hqueued, hframe⟩ := UdpTransport.writer_queued h.queued now
    refine ⟨hqueued, fun frame hf => ?_, h.caught, h.controls, fun frame hf => ?_⟩
    · rcases List.mem_append.1 hf with hf | hf
      · exact hframe frame (Option.mem_toList.1 hf)
      · exact h.sent frame hf
    · apply h.retired
      rw [← UdpTransport.writer_retired s.phone now]
      exact hf
  | receive decoded turn => exact receive_inv h he.2 hok
  | interrupt sink now => exact ⟨h.queued, h.sent, caught_none rfl fun _ => rfl, h.controls, h.retired⟩
  | restart sink lane_count now =>
    -- What the process applied counts as applied earlier from here on.
    have hsame : ∀ session sequence, s.Accepted session sequence →
        (s.after (.restart sink lane_count now)).Accepted session sequence := by
      rintro session sequence ⟨frame, hf, hframe⟩
      exact ⟨frame, List.mem_append_left _ hf, hframe⟩
    exact ⟨h.queued, h.sent, caught_none rfl fun _ => rfl, fun c hc sequence hack => hsame _ _ (h.controls c hc sequence hack),
      fun frame hf => hsame _ _ (h.retired frame hf)⟩
  | deliver process c now =>
    apply inv_phone h (UdpTransport.control_queued h.queued _ _ _ _ _ _ _)
    intro frame hf
    rcases UdpTransport.control_retired _ _ _ _ _ _ _ hf with hold | ⟨hsession, hsome, hle⟩
    · exact h.retired frame hold
    · rw [hsession]
      exact h.controls (process, c) he.2 frame.sequence ⟨hsome, hle⟩

theorem run_inv {sink : σ} {lane_count : Nat} {s : System σ} (h : Run Oldest sink lane_count s) : Inv s := by
  induction h with
  | new => exact new_inv sink lane_count
  | step a _ he hok ih => exact after_inv ih a he hok

/-! ## Acknowledgements -/

/-- Whatever a record of process `n` acknowledges, an earlier process acknowledged or a sink accepted;
and the phone only let go of frames that a sink accepted. -/
structure Acknowledged (s : System σ) : Prop where
  controls : ∀ c ∈ s.controls, ∀ sequence, c.2.Acknowledges sequence →
    s.AcknowledgedBefore c.1 c.2.session_id sequence ∨ s.Accepted c.2.session_id sequence
  retired : ∀ frame ∈ s.phone.retired, s.Accepted frame.session_id frame.sequence

section
variable {ok : System σ → Step σ → Prop} [∀ s a, Decidable (ok s a)]

/-- The state after `steps`, if each of them can happen and is `ok`. -/
def follow (ok : System σ → Step σ → Prop) [∀ s a, Decidable (ok s a)] (s : System σ) : List (Step σ) → Option (System σ)
  | [] => some s
  | a :: steps => if s.Enabled a ∧ ok s a then (s.after a).follow ok steps else none

theorem follow_run {sink : σ} {lane_count : Nat} {s s' : System σ} {steps : List (Step σ)} (h : Run ok sink lane_count s)
    (hf : s.follow ok steps = some s') : Run ok sink lane_count s' := by
  induction steps generalizing s with
  | nil =>
    obtain rfl := Option.some.inj hf
    exact h
  | cons a steps ih =>
    unfold follow at hf
    split at hf
    · next he => exact ih (.step a h he.1 he.2) hf
    · cases hf

end

/-- When each process adopts the oldest frame in flight, what is acknowledged was applied. -/
theorem restart_acknowledged (sink : σ) (lane_count : Nat) (s : System σ) (h : Run Oldest sink lane_count s) :
    s.Acknowledged := by
  have hinv := run_inv h
  exact ⟨fun c hc sequence hack => .inr (hinv.controls c hc sequence hack), hinv.retired⟩

end System

/-! ## A process that joins -/

/-- A sink that takes every frame. -/
structure TakesFrames

instance : InputSink TakesFrames where
  accept _ _ sink := (.ok (), sink)
  has_active_input _ := false
  cancel_all _ sink := (.ok (), sink)
  service _ sink := (.ok (), sink)

/-- The start of session 7, as written at time zero, and frame `sequence` after it. -/
def started : TouchFrame := ⟨7, 0, 0, 0, 0, 0, 0, ACTION_CANCEL, 0, FRAME_FLAG_SESSION_START, .empty⟩
def moved (sequence : Nat) : TouchFrame := ⟨7, sequence, 0, 0, 0, 0, 0, ACTION_MOVE, 0, FRAME_FLAG_LOCKED, .empty⟩

/-- Two frames apply at most, each at the first try. -/
def twoTries : Turn := ⟨[⟨0, [⟨0, false, 0⟩]⟩, ⟨0, [⟨0, false, 0⟩]⟩], 0, 0, .ok ()⟩

/-- The first process applies and acknowledges frame 0. -/
def connected : List (Step TakesFrames) :=
  [.openSession 7 0 0, .pin, .write 0, .receive (some started) twoTries, .deliver 0 ⟨CONTROL_HELLO, 6, 7, 0, 128, 0⟩ 0]

/-- Frames 1 and 2 are in flight when it ends. -/
def succeeded : List (Step TakesFrames) :=
  connected ++ [.offer ⟨ACTION_MOVE, 0, true, false, 0, 0, false, .empty⟩ 0,
    .offer ⟨ACTION_MOVE, 0, true, false, 0, 0, false, .empty⟩ 0, .write 0, .write 0, .write 0, .restart ⟨⟩ 6 0]

/-- The next process joins with frame 1, the oldest in flight, and acknowledges both. -/
theorem System.restart_acknowledged_joined :
    ∃ s : System TakesFrames, s.process = 1 ∧ s.phone.retired = [started, moved 1, moved 2] ∧ s.Acknowledged ∧
      s.Accepted 7 1 ∧ s.Accepted 7 2 := by
  have hreach : ((System.new (⟨⟩ : TakesFrames) 6).follow System.Oldest
      (succeeded ++ [.receive (some (moved 1)) twoTries, .receive (some (moved 2)) twoTries,
        .deliver 1 ⟨CONTROL_ACK, 6, 7, 2, 128, 0⟩ 0])).map (fun s => (s.process, s.phone.retired)) =
      some (1, [started, moved 1, moved 2]) := by decide +kernel
  obtain ⟨s, hs, hv⟩ := Option.map_eq_some_iff.1 hreach
  obtain ⟨hprocess, hretired⟩ := Prod.mk.inj hv
  have hacknowledged := System.restart_acknowledged ⟨⟩ 6 s (System.follow_run .new hs)
  have hmoved : ∀ sequence, moved sequence ∈ s.phone.retired → s.Accepted 7 sequence :=
    fun sequence hmem => hacknowledged.retired _ hmem
  refine ⟨s, hprocess, hretired, hacknowledged, hmoved 1 ?_, hmoved 2 ?_⟩
  · rw [hretired]
    exact List.mem_cons_of_mem _ List.mem_cons_self
  · rw [hretired]
    exact List.mem_cons_of_mem _ (List.mem_cons_of_mem _ List.mem_cons_self)

/-- Frame 2 reaches the next process first. -/
def joined : List (Step TakesFrames) :=
  succeeded ++ [.receive (some (moved 2)) twoTries, .deliver 1 ⟨CONTROL_HELLO, 6, 7, 2, 128, 0⟩ 0]

/-- The phone then lets go of frame 1, which no process applied. -/
theorem System.restart_unacknowledged :
    ¬ ∀ s : System TakesFrames, System.Run (fun _ _ => True) ⟨⟩ 6 s → s.Acknowledged := by
  intro hall
  have hreach : ((System.new (⟨⟩ : TakesFrames) 6).follow (fun _ _ => True) joined).map
      (fun s => (s.phone.retired, s.earlier ++ applied s.input.trace)) =
      some ([started, moved 1, moved 2], [started, moved 2]) := by decide +kernel
  obtain ⟨s, hs, hv⟩ := Option.map_eq_some_iff.1 hreach
  obtain ⟨hretired, happlied⟩ := Prod.mk.inj hv
  have hmoved : moved 1 ∈ s.phone.retired := by
    rw [hretired]
    exact List.mem_cons_of_mem _ List.mem_cons_self
  obtain ⟨frame, hf, -, hsequence⟩ :=
    (hall s (System.follow_run .new hs)).retired _ hmoved
  rw [happlied] at hf
  rcases List.mem_cons.1 hf with rfl | hf
  · exact absurd hsequence (by decide)
  · rw [List.mem_singleton.1 hf] at hsequence
    exact absurd hsequence (by decide)

end Trackpad.Legacy
