import Trackpad.Touch
/-!
# The receive window

`OrderedFrames` keeps up to 256 frames of one session that arrived ahead of their turn, in the slot
of their sequence number modulo 256, and releases them in order. `u64` counters are `Nat`s that wrap
where the source wraps them.
-/

namespace Trackpad

structure OrderedFrames where
  session_id : Option Nat
  next_sequence : Nat
  buffered : Fin MAX_REORDERED_FRAMES → Option TouchFrame
  requires_session_start : Bool

namespace OrderedFrames

def new : OrderedFrames := ⟨none, 0, fun _ => none, false⟩

def slot (sequence : Nat) : Fin MAX_REORDERED_FRAMES := ⟨sequence % MAX_REORDERED_FRAMES, Nat.mod_lt _ (by decide)⟩

def begin_session (frame : TouchFrame) : OrderedFrames := ⟨some frame.session_id, frame.sequence, fun _ => none, false⟩

def require_fresh_session : OrderedFrames := ⟨none, 0, fun _ => none, true⟩

def acknowledged_sequence (o : OrderedFrames) : Option Nat :=
  if o.next_sequence = 0 then none else some (o.next_sequence - 1)

def expected_sequence (o : OrderedFrames) : Nat := o.next_sequence

/-- The part of `push` that buffers a frame of the current session. -/
def buffer (frame : TouchFrame) (o : OrderedFrames) : OrderedFrames :=
  if frame.sequence < o.next_sequence then o
  else if frame.sequence - o.next_sequence ≥ MAX_REORDERED_FRAMES then o
  else if (o.buffered (slot frame.sequence)).isNone then
    { o with buffered := Function.update o.buffered (slot frame.sequence) (some frame) }
  else o

def push (frame : TouchFrame) (o : OrderedFrames) : OrderedFrames :=
  if o.requires_session_start && !frame.session_start then o
  else match o.session_id with
    | none => (begin_session frame).buffer frame
    | some session_id =>
      if session_id ≠ frame.session_id then
        if frame.session_start then (begin_session frame).buffer frame else o
      else o.buffer frame

def next_ready (o : OrderedFrames) : Option TouchFrame :=
  (o.buffered (slot o.next_sequence)).filter fun frame => frame.sequence == o.next_sequence

def commit_ready (o : OrderedFrames) : Bool × OrderedFrames :=
  match o.buffered (slot o.next_sequence) with
  | none => (false, o)
  | some _ =>
    (true, { o with
      buffered := Function.update o.buffered (slot o.next_sequence) none
      next_sequence := (o.next_sequence + 1) % 2 ^ 64 })

/-! ## What the operations keep -/

/-- Every buffered frame satisfies `P`. -/
def Holds (P : TouchFrame → Prop) (o : OrderedFrames) : Prop := ∀ i frame, o.buffered i = some frame → P frame

/-- How many frames wait. -/
def waiting (o : OrderedFrames) : Nat := (Finset.univ.filter fun i => (o.buffered i).isSome).card

theorem next_ready_some {o : OrderedFrames} {frame : TouchFrame} (h : o.next_ready = some frame) :
    o.buffered (slot o.next_sequence) = some frame ∧ frame.sequence = o.next_sequence := by
  obtain ⟨hb, hs⟩ := Option.filter_eq_some_iff.1 h
  exact ⟨hb, by simpa using hs⟩

/-- What `commit_ready` does to a frame that is ready. -/
def committed (o : OrderedFrames) : OrderedFrames :=
  { o with
    buffered := Function.update o.buffered (slot o.next_sequence) none
    next_sequence := (o.next_sequence + 1) % 2 ^ 64 }

theorem commit_ready_some {o : OrderedFrames} {frame : TouchFrame} (h : o.next_ready = some frame) :
    o.commit_ready = (true, o.committed) := by
  rw [commit_ready, (next_ready_some h).1]
  rfl

theorem holds_committed {P : TouchFrame → Prop} {o : OrderedFrames} (h : o.Holds P) : o.committed.Holds P := by
  intro i frame hi
  by_cases he : i = slot o.next_sequence
  · subst he
    simp [committed] at hi
  · simp only [committed, Function.update_of_ne he] at hi
    exact h i frame hi

theorem waiting_committed {o : OrderedFrames} {frame : TouchFrame} (h : o.next_ready = some frame) :
    o.committed.waiting + 1 = o.waiting := by
  have hmem : slot o.next_sequence ∈ Finset.univ.filter fun i => (o.buffered i).isSome := by
    simp [(next_ready_some h).1]
  have herase : (Finset.univ.filter fun i => (o.committed.buffered i).isSome) =
      (Finset.univ.filter fun i => (o.buffered i).isSome).erase (slot o.next_sequence) := by
    ext i
    rw [Finset.mem_erase, Finset.mem_filter, Finset.mem_filter]
    by_cases he : i = slot o.next_sequence
    · subst he
      simp [committed]
    · simp [committed, he]
  rw [waiting, herase, Finset.card_erase_add_one hmem]
  rfl

theorem holds_buffer {P : TouchFrame → Prop} {o : OrderedFrames} (h : o.Holds P) {frame : TouchFrame} (hf : P frame) :
    (o.buffer frame).Holds P := by
  intro i g hi
  unfold buffer at hi
  split at hi
  · exact h i g hi
  split at hi
  · exact h i g hi
  split at hi
  · by_cases he : i = slot frame.sequence
    · subst he
      simp only [Function.update_self] at hi
      exact Option.some.inj hi ▸ hf
    · simp only [Function.update_of_ne he] at hi
      exact h i g hi
  · exact h i g hi

theorem buffer_frame (frame : TouchFrame) (o : OrderedFrames) :
    (o.buffer frame).session_id = o.session_id ∧ (o.buffer frame).next_sequence = o.next_sequence ∧
    (o.buffer frame).requires_session_start = o.requires_session_start := by
  unfold buffer
  split
  · exact ⟨rfl, rfl, rfl⟩
  split
  · exact ⟨rfl, rfl, rfl⟩
  split <;> exact ⟨rfl, rfl, rfl⟩

theorem waiting_buffer_le (frame : TouchFrame) (o : OrderedFrames) : (o.buffer frame).waiting ≤ o.waiting + 1 := by
  unfold buffer
  split
  · omega
  split
  · omega
  split
  · have hsub : (Finset.univ.filter fun i => (Function.update o.buffered (slot frame.sequence) (some frame) i).isSome) ⊆
        insert (slot frame.sequence) (Finset.univ.filter fun i => (o.buffered i).isSome) := by
      intro i hi
      rw [Finset.mem_filter] at hi
      rw [Finset.mem_insert, Finset.mem_filter]
      by_cases he : i = slot frame.sequence
      · exact .inl he
      · right
        simpa [Function.update_of_ne he] using hi
    exact (Finset.card_le_card hsub).trans (Finset.card_insert_le _ _)
  · omega

theorem begun_ready (frame : TouchFrame) : ((begin_session frame).buffer frame).next_ready = some frame := by
  have hb : ((begin_session frame).buffer frame).buffered (slot frame.sequence) = some frame := by
    rw [buffer, if_neg (by simp [begin_session]), if_neg (by simp [begin_session, MAX_REORDERED_FRAMES]), if_pos (by rfl)]
    simp only [Function.update_self]
  have hn : ((begin_session frame).buffer frame).next_sequence = frame.sequence := (buffer_frame frame _).2.1
  rw [next_ready, hn, hb]
  simp

@[simp] theorem waiting_begin (frame : TouchFrame) : (begin_session frame).waiting = 0 := by
  simp [waiting, begin_session]

@[simp] theorem waiting_fresh : require_fresh_session.waiting = 0 := by
  simp [waiting, require_fresh_session]

end OrderedFrames

end Trackpad
