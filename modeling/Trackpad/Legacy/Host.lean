import Trackpad.Input
/-!
# The version 4 host

`process_decoded_frame` of the unauthenticated protocol: a frame is put in order, what is ready is
committed, and a control record goes back. Datagrams carry a checksum, so one arrives as it was sent
or is not decoded. What the clock reads and what a write answers are arguments.
-/

namespace Trackpad.Legacy

def CONTROL_HELLO : UInt8 := 1
def CONTROL_ACK : UInt8 := 2
def RECEIVE_WINDOW : Nat := 128
def U64_MAX : Nat := 2 ^ 64 - 1

/-- A control record, field by field. -/
structure Control where
  control_type : UInt8
  lane_count : Nat
  session_id : Nat
  acknowledged_sequence : Nat
  receive_window : Nat
  host_send_nanos : Nat
deriving DecidableEq, Repr

def encode_control (control_type : UInt8) (lane_count session_id : Nat) (acknowledged_sequence : Option Nat)
    (receive_window host_send_nanos : Nat) : Control where
  control_type := control_type
  lane_count := lane_count
  session_id := session_id
  acknowledged_sequence := acknowledged_sequence.getD U64_MAX
  receive_window := receive_window
  host_send_nanos := host_send_nanos

/-- Whether the record acknowledges frame `sequence` of its session. -/
def Control.Acknowledges (c : Control) (sequence : Nat) : Prop :=
  c.acknowledged_sequence ≠ U64_MAX ∧ sequence ≤ c.acknowledged_sequence

structure ControlState where
  hello_session : Option Nat
  last_ack : Option Nat
  lane_count : Nat
  last_committed_frame : Nat

def ControlState.new (lane_count now : Nat) : ControlState := ⟨none, none, lane_count, now⟩

/-- What the clock and the socket say while one frame is processed. -/
structure Turn where
  submissions : List Submission
  committed : Nat
  host_send_nanos : Nat
  write : Except IoError Unit

variable {σ : Type}

/-- The answer to a frame of session `session_id`, and what is remembered of it. -/
def answer (t : Turn) (session_id : Nat) (acknowledged : Option Nat) (c : ControlState) : Control × ControlState :=
  let (control_type, c) :=
    if c.hello_session ≠ some session_id then (CONTROL_HELLO, { c with hello_session := some session_id })
    else (CONTROL_ACK, c)
  -- A duplicate is acknowledged again: the last record may be what was lost.
  let (outgoing_type, c) :=
    if control_type = CONTROL_HELLO ∨ acknowledged ≠ c.last_ack then (control_type, { c with last_ack := acknowledged })
    else (CONTROL_ACK, c)
  (encode_control outgoing_type c.lane_count session_id acknowledged RECEIVE_WINDOW t.host_send_nanos, c)

theorem answer_record (t : Turn) (session_id : Nat) (acknowledged : Option Nat) (c : ControlState) :
    (answer t session_id acknowledged c).1.session_id = session_id ∧
    (answer t session_id acknowledged c).1.acknowledged_sequence = acknowledged.getD U64_MAX := ⟨rfl, rfl⟩

/-- The result, the state left behind, and the record written, if any: a write that fails may have
sent one of its two copies. -/
def process_decoded_frame [InputSink σ] (decoded : Option TouchFrame) (t : Turn) (i : Input σ) (c : ControlState) :
    Loop (Except IoError Unit) × Input σ × ControlState × Option Control :=
  match decoded with
  | none => (.finished (.ok ()), i, c, none)
  | some frame =>
    match commit_ready false t.submissions { i with ordered := i.ordered.push frame } with
    | (.unfinished, i) => (.unfinished, i, c, none)
    | (.finished (.error e), i) => (.finished (.error e), i, c, none)
    | (.finished (.ok progressed), i) =>
      let c := if progressed then { c with last_committed_frame := t.committed } else c
      match i.ordered.session_id with
      | none => (.finished (.ok ()), i, c, none)
      | some session_id =>
        if session_id ≠ frame.session_id then (.finished (.ok ()), i, c, none)
        else
          let (control, c) := answer t session_id i.ordered.acknowledged_sequence c
          (.finished t.write, i, c, some control)

/-! ## The session in progress -/

/-- `Done session sequence` says that a frame was applied. Everything below the next frame of the
session is done, and what is buffered is of the session. -/
structure Caught (Done : Nat → Nat → Prop) (o : OrderedFrames) : Prop where
  below : ∀ session, o.session_id = some session → ∀ sequence < o.next_sequence, Done session sequence
  buffered : o.Holds fun frame => o.session_id = some frame.session_id

theorem caught_mono {Done Done' : Nat → Nat → Prop} (hd : ∀ session sequence, Done session sequence → Done' session sequence)
    {o : OrderedFrames} (h : Caught Done o) : Caught Done' o where
  below session hs sequence hlt := hd _ _ (h.below session hs sequence hlt)
  buffered := h.buffered

theorem caught_none {Done : Nat → Nat → Prop} {o : OrderedFrames} (hs : o.session_id = none)
    (hb : ∀ i, o.buffered i = none) : Caught Done o where
  below session hsome := by
    rw [hs] at hsome
    cases hsome
  buffered i frame hi := by
    rw [hb] at hi
    cases hi

/-- Whether `push` makes `frame` the first of its session. -/
def begins (o : OrderedFrames) (frame : TouchFrame) : Bool :=
  match o.session_id with
  | none => !o.requires_session_start || frame.session_start
  | some session_id => session_id ≠ frame.session_id && frame.session_start

theorem buffer_caught {Done : Nat → Nat → Prop} {o : OrderedFrames} (h : Caught Done o) {frame : TouchFrame}
    (hs : o.session_id = some frame.session_id) : Caught Done (o.buffer frame) := by
  obtain ⟨hsession, hnext, -⟩ := OrderedFrames.buffer_frame frame o
  constructor
  · rw [hsession, hnext]
    exact h.below
  · rw [hsession]
    exact OrderedFrames.holds_buffer h.buffered hs

theorem push_caught {Done : Nat → Nat → Prop} {o : OrderedFrames} (h : Caught Done o) {frame : TouchFrame}
    (hbegins : begins o frame = true → ∀ sequence < frame.sequence, Done frame.session_id sequence) :
    Caught Done (o.push frame) := by
  have hbegun : (∀ sequence < frame.sequence, Done frame.session_id sequence) →
      Caught Done ((OrderedFrames.begin_session frame).buffer frame) := by
    intro hdone
    apply buffer_caught _ rfl
    constructor
    · intro session hs sequence hlt
      obtain rfl := Option.some.inj hs
      exact hdone sequence hlt
    · intro i f hi
      cases hi
  unfold OrderedFrames.push
  split
  · exact h
  rename_i hstart
  rcases hs : o.session_id with _ | session_id
  · apply hbegun
    apply hbegins
    simp only [begins, hs]
    simp only [Bool.and_eq_true, Bool.not_eq_true', not_and, Bool.not_eq_false] at hstart
    rcases hr : o.requires_session_start with _ | _
    · rfl
    · simpa using hstart hr
  · dsimp only
    split
    · rename_i hother
      split
      · rename_i hss
        apply hbegun
        apply hbegins
        simp [begins, hs, hother, hss]
      · exact h
    · rename_i hsame
      apply buffer_caught h
      rw [hs, not_not.1 hsame]

theorem commit_caught {Done : Nat → Nat → Prop} {o : OrderedFrames} (h : Caught Done o) {frame : TouchFrame}
    (hr : o.next_ready = some frame) (hd : Done frame.session_id frame.sequence) : Caught Done o.committed := by
  obtain ⟨hb, hseq⟩ := OrderedFrames.next_ready_some hr
  have hsession := h.buffered _ _ hb
  constructor
  · intro session hs sequence hlt
    have hlt' : sequence < o.next_sequence + 1 := hlt.trans_le (Nat.mod_le _ _)
    obtain rfl : frame.session_id = session := Option.some.inj (hsession.symm.trans hs)
    rcases Nat.lt_succ_iff_lt_or_eq.1 hlt' with hbelow | rfl
    · exact h.below _ hsession sequence hbelow
    · rw [← hseq]
      exact hd
  · exact OrderedFrames.holds_committed h.buffered

theorem commit_ready_applied [InputSink σ] (submissions : List Submission) (progressed : Bool) (i : Input σ) :
    ∀ frame ∈ applied i.trace, frame ∈ applied (commit_ready progressed submissions i).2.trace := by
  induction submissions generalizing progressed i with
  | nil =>
    unfold commit_ready
    split <;> exact fun _ => id
  | cons s submissions ih =>
    unfold commit_ready
    split
    · exact fun _ => id
    rename_i frame hready
    dsimp only
    split
    · exact fun _ => id
    · exact fun _ => id
    · rw [OrderedFrames.commit_ready_some hready]
      exact fun f hf => ih true _ f (List.mem_cons_of_mem _ hf)

/-- `commit_ready` applies frames of the session, each the next one. -/
theorem commit_ready_caught [InputSink σ] (Done : Nat → Nat → Prop) (submissions : List Submission) (progressed : Bool)
    {i : Input σ} (h : Caught Done i.ordered)
    (hd : ∀ frame ∈ applied (commit_ready progressed submissions i).2.trace, Done frame.session_id frame.sequence) :
    Caught Done (commit_ready progressed submissions i).2.ordered := by
  induction submissions generalizing progressed i with
  | nil =>
    unfold commit_ready at hd ⊢
    split <;> exact h
  | cons s submissions ih =>
    unfold commit_ready at hd ⊢
    split
    · exact h
    rename_i frame hready
    rw [hready] at hd
    dsimp only at hd ⊢
    rcases hretry : retry (InputSink.accept frame) s.started s.attempts i.sink with ⟨(_ | ⟨e, stopped⟩) | _, sink⟩
    · rw [hretry, OrderedFrames.commit_ready_some hready] at hd
      rw [OrderedFrames.commit_ready_some hready]
      have hframe := hd frame (commit_ready_applied submissions true _ frame List.mem_cons_self)
      exact ih true (commit_caught h hready hframe) hd
    · exact h
    · exact h

theorem process_applied [InputSink σ] (decoded : Option TouchFrame) (t : Turn) (i : Input σ) (c : ControlState) :
    ∀ frame ∈ applied i.trace, frame ∈ applied (process_decoded_frame decoded t i c).2.1.trace := by
  cases decoded with
  | none => exact fun _ => id
  | some pushed =>
    have happlied := commit_ready_applied t.submissions false { i with ordered := i.ordered.push pushed }
    unfold process_decoded_frame
    dsimp only
    rcases hc : commit_ready false t.submissions { i with ordered := i.ordered.push pushed } with ⟨(e | progressed) | _, i'⟩
    all_goals
      rw [hc] at happlied
      dsimp only
    · exact happlied
    · split
      · exact happlied
      · split <;> exact happlied
    · exact happlied

/-- What a frame leaves: the session caught up, and if a record was written, everything it
acknowledges done. -/
theorem process_caught [InputSink σ] (Done : Nat → Nat → Prop) {frame : TouchFrame} (t : Turn) {i : Input σ}
    {c : ControlState} (h : Caught Done i.ordered)
    (hbegins : begins i.ordered frame = true → ∀ sequence < frame.sequence, Done frame.session_id sequence)
    (hd : ∀ f ∈ applied (process_decoded_frame (some frame) t i c).2.1.trace, Done f.session_id f.sequence) :
    Caught Done (process_decoded_frame (some frame) t i c).2.1.ordered ∧
    ∀ control ∈ (process_decoded_frame (some frame) t i c).2.2.2, ∀ sequence, control.Acknowledges sequence →
      Done control.session_id sequence := by
  have hpushed := push_caught h hbegins
  have hcaught := commit_ready_caught Done t.submissions false (i := { i with ordered := i.ordered.push frame }) hpushed
  unfold process_decoded_frame at hd ⊢
  dsimp only at hd ⊢
  rcases hc : commit_ready false t.submissions { i with ordered := i.ordered.push frame } with ⟨(e | progressed) | _, i'⟩
  all_goals
    rw [hc] at hd hcaught
    dsimp only at hd hcaught ⊢
  · exact ⟨hcaught hd, fun control hcontrol => (by cases hcontrol)⟩
  · rcases hs : i'.ordered.session_id with _ | session_id
    · rw [hs] at hd
      exact ⟨hcaught hd, fun control hcontrol => (by cases hcontrol)⟩
    · rw [hs] at hd
      dsimp only at hd ⊢
      split
      · rename_i hother
        rw [if_pos hother] at hd
        exact ⟨hcaught hd, fun control hcontrol => (by cases hcontrol)⟩
      · rename_i hsame
        rw [if_neg hsame] at hd
        refine ⟨hcaught hd, fun control hcontrol sequence hack => ?_⟩
        obtain rfl := Option.some.inj hcontrol
        obtain ⟨hsession, hacknowledged⟩ := answer_record t session_id i'.ordered.acknowledged_sequence
          (if progressed = true then { c with last_committed_frame := t.committed } else c)
        rw [hsession]
        apply (hcaught hd).below session_id hs
        obtain ⟨hsome, hle⟩ := hack
        rw [hacknowledged] at hsome hle
        unfold OrderedFrames.acknowledged_sequence at hsome hle
        split at hsome
        · exact absurd rfl hsome
        · rename_i hnext
          rw [if_neg hnext, Option.getD_some] at hle
          omega
  · exact ⟨hcaught hd, fun control hcontrol => (by cases hcontrol)⟩

end Trackpad.Legacy
