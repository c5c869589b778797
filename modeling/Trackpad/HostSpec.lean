import Trackpad.Host
/-!
# Exactly once, in order

Whatever a v5 gameplay connection receives and whatever the sink answers, the frames it applies are
the sequences from 0 on of one session, each once, and an ACK names only applied frames. `Inv` holds
between two turns of the loop. A sequence number cannot wrap round: every frame needs a packet number
of its own.
-/

namespace Trackpad.V5Host

variable {σ : Type}

/-- `spare` is how many packets were opened that no frame in the window or the trace came from. -/
structure Inv (spare : Nat) (s : Serve σ) : Prop where
  opened : ∃ opened : Finset Nat, s.connection.cipher.replay.Remembers ↑opened ∧ (∀ n ∈ opened, n < 2 ^ 64) ∧
    (applied s.trace).length + s.ordered.waiting + spare ≤ opened.card
  session : (s.ordered = .require_fresh_session ∧ applied s.trace = [] ∧ gave_up s.trace = false ∧
      ∀ session_id, Sound session_id s.trace) ∨
    ∃ session_id, Committed session_id s.toInput ∧ applied s.trace ≠ []

theorem Inv.sound {spare : Nat} {s : Serve σ} (h : Inv spare s) : ∃ session_id, Sound session_id s.trace := by
  rcases h.session with ⟨-, -, -, hs⟩ | ⟨session_id, hc, -⟩
  · exact ⟨0, hs 0⟩
  · exact ⟨session_id, hc.sound⟩

/-- The invariant reads the trace, the window and the replay window only. -/
theorem Inv.congr {spare : Nat} {s s' : Serve σ} (h : Inv spare s) (ht : s'.trace = s.trace) (ho : s'.ordered = s.ordered)
    (hr : s'.connection.cipher.replay = s.connection.cipher.replay) : Inv spare s' where
  opened := by rw [ht, ho, hr]; exact h.opened
  session := by
    rw [ht, ho]
    refine h.session.imp_right ?_
    rintro ⟨session_id, hc, hne⟩
    refine ⟨session_id, ⟨?_, ?_, ?_, ?_, ?_, ?_⟩, hne⟩
    · rw [ho]; exact hc.session
    · rw [ho]; exact hc.holds
    · rw [ho, ht]; exact hc.next
    · rw [ho, ht]; exact hc.room
    · rw [ht]; exact hc.sound
    · rw [ht]; exact hc.calm

/-- What a turn leaves: a sound trace, and the invariant if the loop goes on. -/
def Keeps (r : Loop (Except HostV5Error Unit) × Serve σ) : Prop :=
  (∃ session_id, Sound session_id r.2.trace) ∧ (r.1 = .finished (.ok ()) → Inv 0 r.2)

theorem Inv.keeps {s : Serve σ} (h : Inv 0 s) (result : Loop (Except HostV5Error Unit)) : Keeps (result, s) :=
  ⟨h.sound, fun _ => h⟩

/-! ## Control records -/

theorem send_control_once_eq {control_type : UInt8} (hc : control_type ∈ [HOST_HELLO, HOST_ACK, HOST_PONG]) (session_id : Nat)
    (acknowledged : Option Nat) (copy : Copy) (s : Serve σ) :
    send_control_once control_type session_id acknowledged copy s =
      (copy.outcome, s.record (.control control_type session_id (acknowledged.getD NO_ACK)
        (encode_control_payload RECEIVE_WINDOW s.control.lane_count copy.host_send_nanos))) := by
  rw [send_control_once, if_neg (fun h => h hc)]

/-- Two copies are recorded whatever sending them gave. -/
theorem send_control_trace {control_type : UInt8} (hc : control_type ∈ [HOST_HELLO, HOST_ACK, HOST_PONG]) (session_id : Nat)
    (acknowledged : Option Nat) (copies : Copy × Copy) (s : Serve σ) :
    (send_control control_type session_id acknowledged copies s).2 =
      (s.record (.control control_type session_id (acknowledged.getD NO_ACK)
        (encode_control_payload RECEIVE_WINDOW s.control.lane_count copies.1.host_send_nanos))).record
        (.control control_type session_id (acknowledged.getD NO_ACK)
          (encode_control_payload RECEIVE_WINDOW s.control.lane_count copies.2.host_send_nanos)) := by
  unfold send_control
  rw [send_control_once_eq hc]
  rcases copies.1.outcome with e | ⟨⟨⟩⟩
  · dsimp only
    rw [send_control_once_eq hc]
    rcases copies.2.outcome with e' | ⟨⟨⟩⟩ <;> rfl
  · dsimp only
    rw [send_control_once_eq hc]
    rfl

/-- Any control record but an ACK may be sent at any time. -/
theorem Inv.record {spare : Nat} {s : Serve σ} (h : Inv spare s) {message_type : UInt8} (hack : message_type ≠ HOST_ACK) (session logical_id : Nat)
    (payload : Bytes) : Inv spare (s.record (.control message_type session logical_id payload)) where
  opened := h.opened
  session := by
    rcases h.session with ⟨ho, ha, hg, hs⟩ | ⟨session_id, hc, hne⟩
    · exact .inl ⟨ho, ha, hg, fun session_id => ⟨fun he => absurd he hack, hs session_id⟩⟩
    · exact .inr ⟨session_id, ⟨hc.session, hc.holds, hc.next, hc.room, ⟨fun he => absurd he hack, hc.sound⟩, hc.calm⟩, hne⟩

/-- An ACK of the last applied frame. -/
theorem Inv.acknowledge {s : Serve σ} (h : Inv 0 s) {session logical_id : Nat} (payload : Bytes)
    (hs : s.ordered.session_id = some session) (hl : logical_id + 1 = (applied s.trace).length) :
    Inv 0 (s.record (.control HOST_ACK session logical_id payload)) where
  opened := h.opened
  session := by
    rcases h.session with ⟨ho, -, -, -⟩ | ⟨session_id, hc, hne⟩
    · rw [ho] at hs
      cases hs
    · obtain rfl : session_id = session := Option.some.inj (hc.session.symm.trans hs)
      exact .inr ⟨session_id,
        ⟨hc.session, hc.holds, hc.next, hc.room, ⟨fun _ => ⟨rfl, hl, hc.calm⟩, hc.sound⟩, hc.calm⟩, hne⟩

/-- What `acknowledged_sequence` names on the wire, also when every sequence number was used. -/
theorem acknowledged_wire {session_id : Nat} {i : Input σ} (h : Committed session_id i) (hne : applied i.trace ≠ []) :
    i.ordered.acknowledged_sequence.getD NO_ACK + 1 = (applied i.trace).length := by
  have hlen : 0 < (applied i.trace).length := List.length_pos_iff.2 hne
  have hroom := h.room
  unfold OrderedFrames.acknowledged_sequence
  rw [h.next]
  split
  · simp only [Option.getD_none, NO_ACK]
    omega
  · simp only [Option.getD_some]
    omega

theorem Inv.weaken {spare : Nat} {s : Serve σ} (h : Inv spare s) : Inv 0 s where
  opened := by
    obtain ⟨opened, hr, hlt, hcard⟩ := h.opened
    exact ⟨opened, hr, hlt, by omega⟩
  session := h.session

theorem Inv.room {spare : Nat} {s : Serve σ} (h : Inv spare s) :
    (applied s.trace).length + s.ordered.waiting + spare ≤ 2 ^ 64 := by
  obtain ⟨opened, -, hlt, hcard⟩ := h.opened
  have hsub : opened ⊆ Finset.range (2 ^ 64) := fun n hn => Finset.mem_range.2 (hlt n hn)
  have hle := Finset.card_le_card hsub
  rw [Finset.card_range] at hle
  exact hcard.trans hle

/-! ## Frames -/

theorem acknowledge_inv {s : Serve σ} (h : Inv 0 s) (it : Iteration) (incoming_session : Nat) (progressed : Bool) :
    Inv 0 (V5Host.acknowledge it incoming_session progressed s).2 := by
  unfold V5Host.acknowledge
  split
  · exact h
  rename_i session_id hsession
  split
  · exact h
  split
  · exact h
  have hacked : Inv 0 (s.acknowledged_at s.ordered.acknowledged_sequence it.ack_started) := h.congr rfl rfl rfl
  have hwire : s.ordered.acknowledged_sequence.getD NO_ACK + 1 = (applied s.trace).length := by
    rcases h.session with ⟨ho, -, -, -⟩ | ⟨session, hc, hne⟩
    · rw [ho] at hsession
      cases hsession
    · exact acknowledged_wire hc hne
  dsimp only
  split
  · rw [send_control_trace (by decide)]
    exact (hacked.acknowledge _ hsession hwire).acknowledge _ hsession hwire
  · rw [send_control_once_eq (by decide)]
    exact hacked.acknowledge _ hsession hwire

/-- Buffering a frame of the session, or starting one with it. -/
theorem push_cases {s : Serve σ} (h : Inv 1 s) {frame : TouchFrame} (hwf : WellFormed frame)
    (hgate : s.ordered.session_id.any (· != frame.session_id) = false) :
    (s.ordered = .require_fresh_session ∧ s.ordered.push frame = s.ordered) ∨
    ∃ session_id, Committed session_id { s.toInput with ordered := s.ordered.push frame } ∧
      (s.ordered.push frame).waiting ≤ s.ordered.waiting + 1 ∧
      (applied s.trace ≠ [] ∨ (s.ordered.push frame).next_ready.isSome) := by
  have hroom := h.room
  rcases h.session with ⟨ho, ha, hg, hs⟩ | ⟨session_id, hc, hne⟩
  · by_cases hstart : frame.session_start = true
    · right
      have hpush : s.ordered.push frame = (OrderedFrames.begin_session frame).buffer frame := by
        rw [ho]
        simp [OrderedFrames.push, OrderedFrames.require_fresh_session, hstart]
      obtain ⟨hsession, hnext, -⟩ := OrderedFrames.buffer_frame frame (.begin_session frame)
      have hle := OrderedFrames.waiting_buffer_le frame (.begin_session frame)
      rw [OrderedFrames.waiting_begin] at hle
      rw [hpush]
      refine ⟨frame.session_id, ⟨hsession, ?_, ?_, ?_, hs _, hg⟩, by omega, .inr ?_⟩
      · exact OrderedFrames.holds_buffer (fun i g hi => by cases hi) ⟨rfl, hwf⟩
      · rw [hnext]
        simp only [ha, List.length_nil, Nat.zero_mod]
        exact hwf.only_start hstart
      · simp only [ha, List.length_nil]
        omega
      · rw [OrderedFrames.begun_ready]
        rfl
    · left
      refine ⟨ho, ?_⟩
      rw [ho]
      simp [OrderedFrames.push, OrderedFrames.require_fresh_session, hstart]
  · right
    have hsame : frame.session_id = session_id := by
      rw [hc.session, Option.any_some, bne_eq_false_iff_eq] at hgate
      exact hgate.symm
    have hpush : s.ordered.push frame = s.ordered ∨ s.ordered.push frame = s.ordered.buffer frame := by
      unfold OrderedFrames.push
      split
      · exact .inl rfl
      · rw [hc.session]
        simp [hsame]
    refine ⟨session_id, ?_⟩
    rcases hpush with hp | hp
    · rw [hp]
      exact ⟨hc, by omega, .inl hne⟩
    · rw [hp]
      obtain ⟨hsession, hnext, -⟩ := OrderedFrames.buffer_frame frame s.ordered
      have hle := OrderedFrames.waiting_buffer_le frame s.ordered
      refine ⟨⟨hsession.trans hc.session, OrderedFrames.holds_buffer hc.holds ⟨hsame, hwf⟩, hnext.trans hc.next, ?_,
        hc.sound, hc.calm⟩, hle, .inl hne⟩
      dsimp only
      omega

theorem process_keeps [InputSink σ] {s : Serve σ} (h : Inv 1 s) (it : Iteration) {frame : TouchFrame} (hwf : WellFormed frame) :
    Keeps (process_gameplay_frame it frame s) := by
  unfold process_gameplay_frame
  split
  · exact h.weaken.keeps _
  rename_i hgate
  rcases push_cases h hwf (by simpa using hgate) with ⟨hfresh, hpush⟩ | ⟨session_id, hc, hwaiting, hsome⟩
  · -- Not a session start: nothing is buffered, so nothing is ready.
    have hcommit : commit_ready false it.submissions { s.toInput with ordered := s.ordered.push frame } =
        (.finished (.ok false), s.toInput) := by
      rw [hpush]
      unfold commit_ready
      rw [show s.toInput.ordered.next_ready = none by rw [hfresh]; rfl]
    rw [hcommit]
    exact (acknowledge_inv h.weaken it frame.session_id false).keeps _
  · obtain ⟨hsound, hok⟩ := commit_ready_spec it.submissions false hc
    split
    · rename_i i heq
      rw [heq] at hsound
      exact ⟨⟨session_id, hsound⟩, fun hr => by cases hr⟩
    · rename_i e i heq
      rw [heq] at hsound
      exact ⟨⟨session_id, hsound⟩, fun hr => by cases hr⟩
    · rename_i progressed i heq
      rw [heq] at hok
      obtain ⟨hc', hnone, hsum, hle, hgrew, -⟩ := hok progressed rfl
      dsimp only at hc' hnone hsum hle hgrew
      have hinv : Inv 0 { s with toInput := i } := by
        obtain ⟨opened, hr, hlt, hcard⟩ := h.opened
        refine ⟨⟨opened, hr, hlt, ?_⟩, .inr ⟨session_id, hc', ?_⟩⟩
        · dsimp only
          omega
        · intro hnil
          rcases hsome with hne | hready
          · have hpos := List.length_pos_iff.2 hne
            simp only [hnil, List.length_nil] at hle
            omega
          · have hlt' := hgrew hready
            simp only [hnil, List.length_nil] at hlt'
            omega
      have hmarked : Inv 0 (if progressed then Serve.committed_at it.committed_now { s with toInput := i }
          else { s with toInput := i }) := by
        split
        · exact hinv.congr rfl rfl rfl
        · exact hinv
      exact (acknowledge_inv hmarked it frame.session_id progressed).keeps _

/-! ## Turns -/

theorem handle_ping_inv {s : Serve σ} (h : Inv 0 s) (it : Iteration) (header : RecordHeader) :
    Inv 0 (handle_ping it header s).2 := by
  unfold handle_ping
  split
  · exact h
  dsimp only
  rw [send_control_trace (by decide)]
  apply Inv.record _ (by decide)
  apply Inv.record _ (by decide)
  split
  · exact h.congr rfl rfl rfl
  · exact h

theorem handle_record_keeps [InputSink σ] {s : Serve σ} (h : Inv 1 s) (it : Iteration) (header : RecordHeader)
    (payload : Bytes) : Keeps (handle_record it header payload s) := by
  unfold handle_record
  split
  · apply Inv.keeps
    exact h.weaken.congr rfl rfl rfl
  split
  · exact (handle_ping_inv h.weaken it header).keeps _
  split
  · exact h.weaken.keeps _
  split
  · exact h.weaken.keeps _
  rename_i frame hdecode
  obtain ⟨hsound, hok⟩ := process_keeps h it (decode_touch_ok hdecode).2.2
  split
  · rename_i s' heq
    rw [heq] at hok
    have hinv := hok rfl
    split
    · split
      · apply Inv.keeps
        exact hinv.congr rfl rfl rfl
      · exact hinv.keeps _
    · exact hinv.keeps _
  · rename_i result s' _ heq
    rw [heq] at hsound hok
    exact ⟨hsound, hok⟩

theorem repair_hello_inv {s : Serve σ} (h : Inv 0 s) (it : Iteration) : Inv 0 (repair_hello it s).2 := by
  unfold repair_hello
  rw [send_control_once_eq (by decide)]
  have hsent : Inv 0 (s.record (.control HOST_HELLO 0 NO_ACK
      (encode_control_payload RECEIVE_WINDOW s.control.lane_count it.hello.host_send_nanos))) := h.record (by decide) _ _ _
  split
  · split
    · exact h
    split
    · rcases it.hello.outcome with e | ⟨⟨⟩⟩
      · exact hsent
      · exact hsent.congr rfl rfl rfl
    · exact h
  · exact h

theorem check_inv [InputSink σ] {s : Serve σ} (h : Inv 0 s) (it : Iteration) : Inv 0 (check it s).2 := by
  have hhello := repair_hello_inv h it
  unfold check
  split
  · exact h
  rcases hrepair : repair_hello it s with ⟨e | ⟨⟨⟩⟩, s'⟩
  · rw [hrepair] at hhello
    exact hhello
  rw [hrepair] at hhello
  dsimp only at hhello ⊢
  split
  · exact hhello
  split
  · exact hhello
  split <;> exact hhello.congr rfl rfl rfl

/-- The connection once record `number` was opened. -/
def V5Connection.opened (number : Nat) (c : V5Connection) : V5Connection :=
  { c with cipher := { c.cipher with replay := c.cipher.replay.commit number }, cached_handshake := none }

/-- An opened record has a packet number that was not opened before. -/
theorem Inv.opened_record {s : Serve σ} (h : Inv 0 s) {number : Nat} (hlt : number < 2 ^ 64)
    (haccept : s.connection.cipher.replay.would_accept number = true) :
    Inv 1 { s with connection := s.connection.opened number } := by
  obtain ⟨opened, hr, hbound, hcard⟩ := h.opened
  have hfresh := (ReplayWindow.would_accept_iff hr _).1 haccept
  refine ⟨⟨insert number opened, ?_, ?_, ?_⟩, h.session⟩
  · rw [Finset.coe_insert]
    exact ReplayWindow.commit_remembers hr _
  · intro n hn
    rcases Finset.mem_insert.1 hn with rfl | hn
    · exact hlt
    · exact hbound n hn
  · rw [Finset.card_insert_of_notMem fun hmem => hfresh.1 hmem]
    exact Nat.add_le_add_right hcard 1

/-- What the loop relies on of its receiver. -/
def Receives (receive : Serve σ → Except HostV5Error (Option (RecordHeader × Bytes)) × Serve σ) : Prop :=
  ∀ s, Inv 0 s → Inv 0 (receive s).2 ∧ ∀ record, (receive s).1 = .ok (some record) → Inv 1 (receive s).2

theorem receive_record_receives (aead : Aead) (it : Iteration) : Receives (receive_record_into aead it : Serve σ → _) := by
  intro s h
  unfold receive_record_into
  split
  · exact ⟨h, fun _ hr => by cases hr⟩
  · exact ⟨h, fun _ hr => by cases hr⟩
  · exact ⟨h, fun _ hr => by cases hr⟩
  · rename_i bytes _
    split
    · split
      · exact ⟨h, fun _ hr => by cases hr⟩
      · exact ⟨h, fun _ hr => by cases hr⟩
    · rcases RecordCipher.open_cases aead .PhoneToHost bytes s.connection.cipher with
        ⟨e, he⟩ | ⟨header, payload, -, -, haccept, -, hok⟩
      · rw [he]
        dsimp only
        split <;> exact ⟨h.congr rfl rfl rfl, fun _ hr => by cases hr⟩
      · rw [hok]
        have hinv := h.opened_record header.packet_number.toNat_lt haccept
        exact ⟨hinv.weaken, fun _ _ => hinv⟩

theorem turn_keeps [InputSink σ] {s : Serve σ} (h : Inv 0 s) (it : Iteration)
    {receive : Serve σ → Except HostV5Error (Option (RecordHeader × Bytes)) × Serve σ} (hreceive : Receives receive) :
    Keeps (turn it receive s) := by
  have hcheck := check_inv h it
  unfold turn
  split
  · rename_i s' heq
    rw [heq] at hcheck
    obtain ⟨hinv, hopened⟩ := hreceive s' hcheck
    split
    · rename_i e s'' heq'
      rw [heq'] at hinv
      exact hinv.keeps _
    · rename_i s'' heq'
      rw [heq'] at hinv
      exact hinv.keeps _
    · rename_i header payload s'' heq'
      rw [heq'] at hopened
      exact handle_record_keeps (hopened _ rfl) it header payload
  · rename_i result s' _ heq
    rw [heq] at hcheck
    exact hcheck.keeps _

theorem serve_loop_sound [InputSink σ] (aead : Aead) (its : List Iteration) {s : Serve σ} (h : Inv 0 s) :
    ∃ session_id, Sound session_id (serve_loop aead its s).2.trace := by
  induction its generalizing s with
  | nil => exact h.sound
  | cons it its ih =>
    unfold serve_loop
    split
    · exact h.sound
    obtain ⟨hsound, hok⟩ := turn_keeps h it (receive_record_receives aead it)
    split
    · rename_i s' heq
      rw [heq] at hok
      exact ih (hok rfl)
    · rename_i result s' _ heq
      rw [heq] at hsound
      exact hsound

/-! ## Whole connections -/

/-- What `host.rs` passes for a connection it has just accepted: the sink and the window of whatever
came before, and ciphers that have seen nothing. -/
def accepted_connection (sink : σ) (ordered : OrderedFrames) (lane_count : Nat) (send_key receive_key : Bytes)
    (connection_id : UInt64) (cached_handshake : Option (Bytes × Bytes)) : Serve σ where
  ordered := ordered
  sink := sink
  trace := []
  control := ⟨lane_count, 0, 0, none, none⟩
  connection := .new (.from_keys send_key receive_key connection_id) cached_handshake
  session_established := false
  session_start_deadline := 0
  last_hello_send := 0
  hello_interval := 0

theorem notify_sound (stopping : Bool) {s : Serve σ} {session_id : Nat} (h : Sound session_id s.trace) :
    Sound session_id (notify_session_end stopping s).trace := by
  have hne : HOST_AUTH_ABORT ≠ HOST_ACK := by decide
  unfold notify_session_end
  split
  · exact h
  · exact ⟨fun he => absurd he hne, fun he => absurd he hne, h⟩

theorem accepted_inv (sink : σ) (ordered : OrderedFrames) (lane_count : Nat) (send_key receive_key : Bytes)
    (connection_id : UInt64) (cached_handshake : Option (Bytes × Bytes)) :
    Inv 0 { accepted_connection sink ordered lane_count send_key receive_key connection_id cached_handshake with
      ordered := .require_fresh_session } := by
  refine ⟨⟨∅, ?_, by simp, ?_⟩, .inl ⟨rfl, rfl, rfl, fun _ => trivial⟩⟩
  · rw [Finset.coe_empty]
    exact ReplayWindow.remembers_default
  · simp [accepted_connection, applied]

theorem hello_inv (b : Boundary) {s : Serve σ} (h : Inv 0 s) :
    Inv 0 (send_control HOST_HELLO 0 none b.hello (s.begun b)).2 := by
  have hbegun : Inv 0 (s.begun b) := h.congr rfl rfl rfl
  rw [send_control_trace (by decide)]
  apply Inv.record _ (by decide)
  exact hbegun.record (by decide) _ _ _

theorem inner_sound [InputSink σ] (aead : Aead) (b : Boundary) (its : List Iteration) {s : Serve σ} (h : Inv 0 s) :
    ∃ session_id, Sound session_id (serve_gameplay_inner aead b its s).2.trace := by
  have hhello := hello_inv b h
  unfold serve_gameplay_inner
  split
  · exact h.sound
  · exact h.sound
  split
  · rename_i e s' heq
    rw [heq] at hhello
    exact hhello.sound
  · rename_i s' heq
    rw [heq] at hhello
    apply serve_loop_sound
    exact hhello.congr rfl rfl rfl

theorem serve_sound [InputSink σ] (aead : Aead) (b : Boundary) (its : List Iteration) (sink : σ) (ordered : OrderedFrames)
    (lane_count : Nat) (send_key receive_key : Bytes) (connection_id : UInt64) (cached_handshake : Option (Bytes × Bytes)) :
    ∃ session_id, Sound session_id (serve_gameplay aead b its (accepted_connection sink ordered lane_count send_key
      receive_key connection_id cached_handshake)).2.trace := by
  obtain ⟨session_id, hsound⟩ := inner_sound aead b its
    (accepted_inv sink ordered lane_count send_key receive_key connection_id cached_handshake)
  refine ⟨session_id, ?_⟩
  unfold serve_gameplay
  split
  · rename_i s' heq
    rw [heq] at hsound
    exact hsound
  · rename_i result s' heq
    rw [heq] at hsound
    dsimp only
    split <;> exact notify_sound b.stopping hsound

/-! ## Reading a sound trace -/

/-- The sequences acknowledged, the last first. -/
def acknowledgements : List Event → List Nat
  | [] => []
  | .control message_type _ logical_id _ :: earlier =>
    if message_type = HOST_ACK then logical_id :: acknowledgements earlier else acknowledgements earlier
  | _ :: earlier => acknowledgements earlier

theorem sound_earlier {session_id : Nat} {later earlier : List Event} (h : Sound session_id (later ++ earlier)) :
    Sound session_id earlier := by
  induction later with
  | nil => exact h
  | cons e later ih =>
    cases e with
    | accepted frame => exact ih h.2.2.2.2
    | failed frame => exact ih h.2.2
    | control message_type session logical_id payload => exact ih h.2

theorem sound_sequences {session_id : Nat} {trace : List Event} (h : Sound session_id trace) :
    (applied trace).reverse.map TouchFrame.sequence = List.range (applied trace).length := by
  induction trace with
  | nil => rfl
  | cons e earlier ih =>
    cases e with
    | accepted frame =>
      obtain ⟨hseq, -, -, -, hs⟩ := h
      simp only [applied, List.reverse_cons, List.map_append, ih hs, List.map_singleton, hseq, List.length_cons,
        List.range_succ]
    | failed frame => exact ih h.2.2
    | control message_type session logical_id payload => exact ih h.2

theorem sound_frames {session_id : Nat} {trace : List Event} (h : Sound session_id trace) :
    ∀ frame ∈ applied trace, frame.session_id = session_id ∧ WellFormed frame := by
  induction trace with
  | nil => simp [applied]
  | cons e earlier ih =>
    cases e with
    | accepted frame =>
      obtain ⟨-, hsession, hwf, -, hs⟩ := h
      intro g hg
      rcases List.mem_cons.1 hg with rfl | hg
      · exact ⟨hsession, hwf⟩
      · exact ih hs g hg
    | failed frame => exact ih h.2.2
    | control message_type session logical_id payload => exact ih h.2

/-- The ACKs of a sound trace never decrease and never reach past the applied frames. -/
theorem sound_acknowledgements {session_id : Nat} {trace : List Event} (h : Sound session_id trace) :
    (acknowledgements trace).Pairwise (· ≥ ·) ∧ ∀ k ∈ acknowledgements trace, k < (applied trace).length := by
  induction trace with
  | nil => simp [acknowledgements]
  | cons e earlier ih =>
    cases e with
    | accepted frame =>
      obtain ⟨hp, hlt⟩ := ih h.2.2.2.2
      exact ⟨hp, fun k hk => (hlt k hk).trans (Nat.lt_succ_self _)⟩
    | failed frame => exact ih h.2.2
    | control message_type session logical_id payload =>
      obtain ⟨hack, hs⟩ := h
      obtain ⟨hp, hlt⟩ := ih hs
      unfold acknowledgements
      split
      · rename_i he
        obtain ⟨-, hk, -⟩ := hack he
        rw [List.pairwise_cons]
        refine ⟨⟨fun k hmem => ?_, hp⟩, fun k hmem => ?_⟩
        · have := hlt k hmem
          omega
        · rcases List.mem_cons.1 hmem with rfl | hmem
          · simp only [applied]
            omega
          · exact hlt k hmem
      · exact ⟨hp, hlt⟩

/-- A frame the sink finally refused is the first that was not applied. -/
theorem sound_failed {session_id : Nat} {trace : List Event} (h : Sound session_id trace) {frame : TouchFrame}
    (hf : Event.failed frame ∈ trace) : frame.sequence = (applied trace).length ∧ gave_up trace = true := by
  induction trace with
  | nil => cases hf
  | cons e earlier ih =>
    cases e with
    | accepted g =>
      obtain ⟨-, -, -, hcalm, hs⟩ := h
      have hmem : Event.failed frame ∈ earlier := by simpa using hf
      exact absurd (ih hs hmem).2 (by simp [hcalm])
    | failed g =>
      obtain ⟨hseq, hcalm, hs⟩ := h
      rcases List.mem_cons.1 hf with he | hmem
      · obtain rfl := Event.failed.inj he
        exact ⟨hseq, rfl⟩
      · exact absurd (ih hs hmem).2 (by simp [hcalm])
    | control message_type session logical_id payload =>
      have hmem : Event.failed frame ∈ earlier := by simpa using hf
      exact ih h.2 hmem

/-- On one v5 connection, whatever arrives and whatever the sink answers: the applied frames are the
sequences from 0 on of one session, in order, the first its session-start CANCEL; an ACK of `k` is
sent once every frame up to `k` was applied; ACKs never decrease; and a frame that was given up is
neither applied nor acknowledged. -/
theorem exactly_once [InputSink σ] (aead : Aead) (b : Boundary) (its : List Iteration) (sink : σ) (ordered : OrderedFrames)
    (lane_count : Nat) (send_key receive_key : Bytes) (connection_id : UInt64) (cached_handshake : Option (Bytes × Bytes)) :
    let trace := (serve_gameplay aead b its
      (accepted_connection sink ordered lane_count send_key receive_key connection_id cached_handshake)).2.trace
    ∃ session_id,
      (applied trace).reverse.map TouchFrame.sequence = List.range (applied trace).length ∧
      (∀ frame ∈ applied trace, frame.session_id = session_id) ∧
      (∀ frame ∈ applied trace, frame.sequence = 0 → StartsSession frame) ∧
      (∀ later session k payload earlier, trace = later ++ .control HOST_ACK session k payload :: earlier →
        session = session_id ∧ ∀ n ≤ k, ∃ frame ∈ applied earlier, frame.sequence = n) ∧
      (acknowledgements trace).Pairwise (· ≥ ·) ∧
      ∀ frame, .failed frame ∈ trace →
        (∀ g ∈ applied trace, g.sequence ≠ frame.sequence) ∧ ∀ k ∈ acknowledgements trace, k < frame.sequence := by
  intro trace
  obtain ⟨session_id, hsound⟩ : ∃ session_id, Sound session_id trace :=
    serve_sound aead b its sink ordered lane_count send_key receive_key connection_id cached_handshake
  have mem_applied : ∀ {t : List Event}, Sound session_id t → ∀ {n}, n < (applied t).length ↔
      ∃ frame ∈ applied t, frame.sequence = n := by
    intro t ht n
    rw [← List.mem_range, ← sound_sequences ht]
    simp
  refine ⟨session_id, sound_sequences hsound, fun frame hf => (sound_frames hsound frame hf).1,
    fun frame hf => (sound_frames hsound frame hf).2.starts, ?_, (sound_acknowledgements hsound).1, ?_⟩
  · intro later session k payload earlier htrace
    rw [htrace] at hsound
    obtain ⟨hack, hearlier⟩ := sound_earlier hsound
    obtain ⟨hsession, hk, -⟩ := hack rfl
    exact ⟨hsession, fun n hn => (mem_applied hearlier).1 (by omega)⟩
  · intro frame hf
    obtain ⟨hseq, -⟩ := sound_failed hsound hf
    refine ⟨fun g hg he => ?_, fun k hk => ?_⟩
    · have := (mem_applied hsound).2 ⟨g, hg, rfl⟩
      omega
    · have := (sound_acknowledgements hsound).2 k hk
      omega

end Trackpad.V5Host
