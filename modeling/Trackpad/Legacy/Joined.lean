import Trackpad.Lib.Logs
import Trackpad.Legacy.Serve
/-!
# Whose frames the version 4 host applies

The protocol has no authentication, so what the host does rests on the HELLO it answered last: `view` reads from the log which
session is joined and what came of it, `Allowed` says when each thing may be done, and every run of the host is so.
-/

namespace Trackpad.Legacy

open Logs (Justified)

/-- The session in progress: who may send, what was taken from it, and what was applied, the last first. -/
structure Joined where
  peer : SocketAddr
  binding : TetherBinding
  nonce : Nat
  session_id : Nat
  taken : List Datagram
  applied : List TouchFrame
  greeted : Bool

def Joined.begun (h : Hello) (binding : TetherBinding) : Joined where
  peer := h.datagram.peer
  binding := binding
  nonce := h.message.nonce
  session_id := h.message.session_id
  taken := []
  applied := []
  greeted := false

/-- `earlier` is whether a frame was taken in a session before. -/
structure View where
  earlier : Bool
  joined : Option Joined

namespace View

def left (v : View) : Bool := v.earlier || v.joined.any fun j => !j.taken.isEmpty

def change (f : Joined → Joined) (v : View) : View := { v with joined := v.joined.map f }

def after (e : Notice) (v : View) : View :=
  match e with
  | .Connected h binding _ => { v with joined := some (.begun h binding) }
  | .Rejoined h _ =>
    match v.joined with
    | none => v
    | some j =>
      if h.message.session_id = j.session_id then
        { v with joined := some { j with peer := h.datagram.peer, nonce := h.message.nonce } }
      else ⟨v.left, some (.begun h j.binding)⟩
  | .Took d => v.change fun j => { j with taken := d :: j.taken }
  | .Applied frame => v.change fun j => { j with applied := frame :: j.applied }
  | .Wrote _ _ => v.change fun j => { j with greeted := true }
  | .GaveUp => ⟨v.left, none⟩

end View

def view (log : List Notice) : View := log.foldr View.after ⟨false, none⟩

@[simp] theorem view_cons (e : Notice) (log : List Notice) : view (e :: log) = (view log).after e := rfl

/-- Frames are applied one by one. The first starts the session, unless the process was new when it came. -/
def Joined.Next (j : Joined) (earlier : Bool) (frame : TouchFrame) : Prop :=
  match j.applied with
  | [] => frame.session_start = true ∨ earlier = false
  | last :: _ => frame.sequence = (last.sequence + 1) % 2 ^ 64

/-- When each thing is done, given what was done before it. -/
def Allowed (port : Nat) (e : Notice) (log : List Notice) : Prop :=
  match e, (view log).joined with
  | .Connected h binding held, none =>
    Greets port h ∧ binding.accepts_ingress_interface h.datagram.ingress_interface = true ∧ held = false
  | .Rejoined h held, some j =>
    Greets port h ∧ j.binding.accepts_ingress_interface h.datagram.ingress_interface = true ∧ held = false ∧
    h.datagram.peer.ip = j.peer.ip ∧ (h.message.session_id = j.session_id → h.message.nonce = j.nonce)
  | .Took d, some j =>
    d.peer = j.peer ∧ j.binding.accepts_ingress_interface d.ingress_interface = true ∧
    frame_session d.bytes = some j.session_id
  | .Applied frame, some j =>
    frame.session_id = j.session_id ∧ (∃ d ∈ j.taken, decode_frame d.bytes = .ok frame) ∧ j.Next (view log).earlier frame
  | .Wrote peer control, some j =>
    peer = j.peer ∧ control.session_id = j.session_id ∧
    control.control_type = (if j.greeted then CONTROL_ACK else CONTROL_HELLO) ∧
    ∃ last ∈ j.applied.head?, control.acknowledged_sequence = last.sequence
  | .GaveUp, some _ => True
  | _, _ => False

/-! ## The window of the session -/

theorem decode_frame_fields {bytes : Bytes} {frame : TouchFrame} (h : decode_frame bytes = .ok frame) :
    frame_session bytes = some frame.session_id ∧ frame.sequence < 2 ^ 64 := by
  unfold decode_frame at h
  dsimp only at h
  split at h
  · cases h
  · next hsize =>
    iterate 6
      split at h
      · cases h
    split at h
    · cases h
    split at h
    · cases h
    split at h
    · cases h
    · cases h
      refine ⟨?_, (read_u64 bytes 16).toNat_lt⟩
      rw [frame_session, if_neg]
      simp only [FRAME_HEADER_SIZE, CRC_SIZE] at hsize
      omega

/-- A frame of the session that was taken in it. -/
def Joined.Has (j : Joined) (frame : TouchFrame) : Prop :=
  frame.session_id = j.session_id ∧ ∃ d ∈ j.taken, decode_frame d.bytes = .ok frame

/-- What the receive window has to do with the session. -/
structure Follows (j : Joined) (earlier : Bool) (o : OrderedFrames) : Prop where
  holds : o.Holds j.Has
  session : ∀ session_id, o.session_id = some session_id → session_id = j.session_id
  fresh : o.session_id = none →
    j.applied = [] ∧ (∀ i, o.buffered i = none) ∧ (o.requires_session_start = true ∨ earlier = false)
  begun : ∀ session_id, o.session_id = some session_id → j.applied = [] →
    ∃ frame, o.next_ready = some frame ∧ (frame.session_start = true ∨ earlier = false)
  next : ∀ last older, j.applied = last :: older → o.next_sequence = (last.sequence + 1) % 2 ^ 64
  bounded : ∀ frame ∈ j.applied, frame.sequence < 2 ^ 64

variable {j : Joined} {earlier : Bool} {o : OrderedFrames} {frame : TouchFrame}

theorem Joined.Has.mono {j' : Joined} (h : j.Has frame) (hsession : j'.session_id = j.session_id)
    (htaken : j.taken ⊆ j'.taken) : j'.Has frame := by
  obtain ⟨hs, d, hd, hdecode⟩ := h
  exact ⟨hs.trans hsession.symm, d, htaken hd, hdecode⟩

/-- The window does not look at the rest of the session. -/
theorem Follows.mono {j' : Joined} (h : Follows j earlier o) (hsession : j'.session_id = j.session_id)
    (htaken : j.taken ⊆ j'.taken) (happlied : j'.applied = j.applied) : Follows j' earlier o where
  holds i frame hi := (h.holds i frame hi).mono hsession htaken
  session session_id hs := (h.session session_id hs).trans hsession.symm
  fresh hs := happlied ▸ h.fresh hs
  begun session_id hs := happlied ▸ h.begun session_id hs
  next := happlied ▸ h.next
  bounded := happlied ▸ h.bounded

theorem follows_fresh (happlied : j.applied = []) : Follows j earlier .require_fresh_session where
  holds i frame hi := by cases hi
  session session_id hs := by cases hs
  fresh _ := ⟨happlied, fun _ => rfl, .inl rfl⟩
  begun session_id hs := by cases hs
  next last older hcons := by simp [happlied] at hcons
  bounded frame hframe := by simp [happlied] at hframe

theorem ready_buffer {ready : TouchFrame} (h : o.next_ready = some ready) : (o.buffer frame).next_ready = some ready := by
  obtain ⟨hb, hs⟩ := OrderedFrames.next_ready_some h
  have hkept : (o.buffer frame).buffered (OrderedFrames.slot o.next_sequence) = some ready := by
    unfold OrderedFrames.buffer
    split
    · exact hb
    split
    · exact hb
    split
    · rename_i hfree
      refine (Function.update_of_ne ?_ _ _).trans hb
      intro hsame
      rw [← hsame, hb] at hfree
      cases hfree
    · exact hb
  rw [OrderedFrames.next_ready, (OrderedFrames.buffer_frame frame o).2.1, hkept]
  simp [hs]

theorem Follows.push (h : Follows j earlier o) (hframe : j.Has frame) : Follows j earlier (o.push frame) := by
  have hbegin : frame.session_start = true ∨ earlier = false → j.applied = [] →
      Follows j earlier ((OrderedFrames.begin_session frame).buffer frame) := by
    intro hstart happlied
    obtain ⟨hsession, -, -⟩ := OrderedFrames.buffer_frame frame (OrderedFrames.begin_session frame)
    refine ⟨OrderedFrames.holds_buffer (fun i f hi => by cases hi) hframe, ?_, ?_, ?_, ?_, ?_⟩
    · intro session_id hs
      rw [hsession] at hs
      cases hs
      exact hframe.1
    · intro hs
      rw [hsession] at hs
      cases hs
    · exact fun _ _ _ => ⟨frame, OrderedFrames.begun_ready frame, hstart⟩
    · intro last older hcons
      rw [happlied] at hcons
      cases hcons
    · exact h.bounded
  unfold OrderedFrames.push
  split
  · exact h
  rename_i hstart
  rcases hs : o.session_id with _ | session_id
  · obtain ⟨happlied, -, hfresh⟩ := h.fresh hs
    refine hbegin ?_ happlied
    rcases hfresh with hrequires | hearlier
    · rw [hrequires, Bool.true_and, Bool.not_eq_true', Bool.not_eq_false] at hstart
      exact .inl hstart
    · exact .inr hearlier
  · dsimp only
    rw [if_neg (not_not.2 ((h.session session_id hs).trans hframe.1.symm))]
    obtain ⟨hsession, hnext, hrequires⟩ := OrderedFrames.buffer_frame frame o
    refine ⟨OrderedFrames.holds_buffer h.holds hframe, ?_, ?_, ?_, ?_, h.bounded⟩
    · rw [hsession]
      exact h.session
    · intro hnone
      rw [hsession, hs] at hnone
      cases hnone
    · intro session_id' _ happlied
      obtain ⟨ready, hready, hfirst⟩ := h.begun session_id hs happlied
      exact ⟨ready, ready_buffer hready, hfirst⟩
    · rw [hnext]
      exact h.next

/-- A frame that is ready is the next one of the session. -/
theorem Follows.ready (h : Follows j earlier o) (hready : o.next_ready = some frame) :
    j.Has frame ∧ j.Next earlier frame := by
  obtain ⟨hb, hsequence⟩ := OrderedFrames.next_ready_some hready
  refine ⟨h.holds _ _ hb, ?_⟩
  unfold Joined.Next
  rcases happlied : j.applied with _ | ⟨last, older⟩
  · dsimp only
    rcases hs : o.session_id with _ | session_id
    · have hempty := (h.fresh hs).2.1 (OrderedFrames.slot o.next_sequence)
      rw [hb] at hempty
      cases hempty
    · obtain ⟨ready, hfirst, hstart⟩ := h.begun session_id hs happlied
      rw [hready] at hfirst
      cases hfirst
      exact hstart
  · exact hsequence.trans (h.next last older happlied)

theorem Follows.commit (h : Follows j earlier o) (hready : o.next_ready = some frame) :
    Follows { j with applied := frame :: j.applied } earlier o.committed := by
  obtain ⟨hb, hsequence⟩ := OrderedFrames.next_ready_some hready
  have hsome : o.session_id ≠ none := by
    intro hs
    have hempty := (h.fresh hs).2.1 (OrderedFrames.slot o.next_sequence)
    rw [hb] at hempty
    cases hempty
  constructor
  · exact OrderedFrames.holds_committed h.holds
  · exact h.session
  · exact fun hs => absurd hs hsome
  · intro _ _ happlied
    cases happlied
  · intro last older hcons
    cases hcons
    rw [hsequence]
    rfl
  · intro f hf
    rcases List.mem_cons.1 hf with rfl | hold
    · obtain ⟨-, d, -, hdecode⟩ := h.holds _ _ hb
      exact (decode_frame_fields hdecode).2
    · exact h.bounded f hold

/-- With nothing ready, the window acknowledges what was applied last. -/
theorem Follows.acknowledged (h : Follows j earlier o) {session_id : Nat} (hs : o.session_id = some session_id)
    (hnone : o.next_ready = none) :
    ∃ last ∈ j.applied.head?, o.acknowledged_sequence.getD U64_MAX = last.sequence := by
  rcases happlied : j.applied with _ | ⟨last, older⟩
  · obtain ⟨ready, hready, -⟩ := h.begun session_id hs happlied
    rw [hnone] at hready
    cases hready
  · refine ⟨last, rfl, ?_⟩
    have hbound := h.bounded last (by simp [happlied])
    have hnext := h.next last older happlied
    unfold OrderedFrames.acknowledged_sequence U64_MAX
    split
    · rw [Option.getD_none]
      omega
    · rw [Option.getD_some]
      omega

end Trackpad.Legacy
