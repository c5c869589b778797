import Trackpad.HostSpec
/-!
# What a turn adds

Where the frames of the receive window and the events of the trace come from: a turn adds to the
trace, applies only frames it had buffered or has just decoded, and answers only the record it was
given. `Adds` says so for any predicate on frames and on control records.
-/

namespace Trackpad.V5Host

variable {σ : Type} {P : TouchFrame → Prop} {Q : UInt8 → Nat → Nat → Bytes → Prop}

/-- From `s` to `s'` only frames with `P` were applied or buffered and only controls with `Q` were sent. -/
structure Adds (P : TouchFrame → Prop) (Q : UInt8 → Nat → Nat → Bytes → Prop) (s s' : Serve σ) : Prop where
  trace : ∃ new, s'.trace = new ++ s.trace ∧ (∀ frame, .accepted frame ∈ new → P frame) ∧
    ∀ message_type session_id logical_id payload, .control message_type session_id logical_id payload ∈ new →
      Q message_type session_id logical_id payload
  holds : s'.ordered.Holds P
  lanes : s'.control.lane_count = s.control.lane_count

theorem Adds.refl {s : Serve σ} (h : s.ordered.Holds P) : Adds P Q s s :=
  ⟨⟨[], rfl, by simp, by simp⟩, h, rfl⟩

theorem Adds.trans {s₁ s₂ s₃ : Serve σ} (h : Adds P Q s₁ s₂) (h' : Adds P Q s₂ s₃) : Adds P Q s₁ s₃ where
  trace := by
    obtain ⟨new, ht, hp, hq⟩ := h.trace
    obtain ⟨new', ht', hp', hq'⟩ := h'.trace
    refine ⟨new' ++ new, by rw [ht', ht, List.append_assoc], ?_, ?_⟩
    · intro frame hf
      rcases List.mem_append.1 hf with hf | hf
      · exact hp' frame hf
      · exact hp frame hf
    · intro message_type session_id logical_id payload hc
      rcases List.mem_append.1 hc with hc | hc
      · exact hq' _ _ _ _ hc
      · exact hq _ _ _ _ hc
  holds := h'.holds
  lanes := h'.lanes.trans h.lanes

/-- Nothing but the trace, the window and the lane count is read. -/
theorem Adds.congr {s s₁ s₂ : Serve σ} (h : Adds P Q s s₁) (ht : s₂.trace = s₁.trace) (ho : s₂.ordered = s₁.ordered)
    (hl : s₂.control.lane_count = s₁.control.lane_count) : Adds P Q s s₂ where
  trace := by rw [ht]; exact h.trace
  holds := by rw [ho]; exact h.holds
  lanes := hl.trans h.lanes

theorem Adds.record {s s' : Serve σ} (h : Adds P Q s s') {message_type : UInt8} {session_id logical_id : Nat} {payload : Bytes}
    (hq : Q message_type session_id logical_id payload) :
    Adds P Q s (s'.record (.control message_type session_id logical_id payload)) := by
  apply h.trans
  refine ⟨⟨[.control message_type session_id logical_id payload], rfl, by simp, ?_⟩, h.holds, rfl⟩
  intro message_type' session_id' logical_id' payload' hc
  rw [List.mem_singleton] at hc
  cases hc
  exact hq

theorem applied_append (new earlier : List Event) : applied (new ++ earlier) = applied new ++ applied earlier := by
  induction new with
  | nil => rfl
  | cons e new ih =>
    cases e with
    | accepted frame => simp [applied, ih]
    | failed frame => exact ih
    | control message_type session_id logical_id payload => exact ih

theorem mem_applied {trace : List Event} {frame : TouchFrame} : frame ∈ applied trace ↔ .accepted frame ∈ trace := by
  induction trace with
  | nil => simp [applied]
  | cons e earlier ih => cases e <;> simp [applied, ih]

theorem Adds.applied_le {s s' : Serve σ} (h : Adds P Q s s') : (applied s.trace).length ≤ (applied s'.trace).length := by
  obtain ⟨new, ht, -⟩ := h.trace
  rw [ht, applied_append, List.length_append]
  omega

theorem Adds.all_applied {s s' : Serve σ} (h : Adds P Q s s')
    (happlied : ∀ frame ∈ applied s.trace, P frame) : ∀ frame ∈ applied s'.trace, P frame := by
  obtain ⟨new, htrace, hnew, -⟩ := h.trace
  intro frame hframe
  rw [htrace, applied_append, List.mem_append] at hframe
  rcases hframe with hframe | hframe
  · exact hnew frame (mem_applied.1 hframe)
  · exact happlied frame hframe

theorem commit_ready_adds [InputSink σ] (submissions : List Submission) (progressed : Bool) {i : Input σ}
    (h : i.ordered.Holds P) :
    (commit_ready progressed submissions i).2.ordered.Holds P ∧
    ∃ new, (commit_ready progressed submissions i).2.trace = new ++ i.trace ∧ (∀ frame, .accepted frame ∈ new → P frame) ∧
      ∀ message_type session_id logical_id payload, .control message_type session_id logical_id payload ∉ new := by
  induction submissions generalizing progressed i with
  | nil =>
    unfold commit_ready
    split
    · exact ⟨h, [], rfl, by simp, by simp⟩
    · exact ⟨h, [], rfl, by simp, by simp⟩
  | cons s submissions ih =>
    unfold commit_ready
    split
    · exact ⟨h, [], rfl, by simp, by simp⟩
    · rename_i frame hready
      dsimp only
      split
      · exact ⟨h, [], rfl, by simp, by simp⟩
      · exact ⟨h, [.failed frame], rfl, by simp, by simp⟩
      · rename_i sink _
        rw [OrderedFrames.commit_ready_some hready]
        dsimp only
        obtain ⟨hholds, new, ht, hp, hq⟩ := ih true (i := ⟨i.ordered.committed, sink, .accepted frame :: i.trace⟩)
          (OrderedFrames.holds_committed h)
        refine ⟨hholds, new ++ [.accepted frame], by rw [ht]; simp, ?_, ?_⟩
        · intro g hg
          rcases List.mem_append.1 hg with hg | hg
          · exact hp g hg
          · rw [List.mem_singleton] at hg
            cases hg
            exact h _ _ (OrderedFrames.next_ready_some hready).1
        · intro message_type session_id logical_id payload hc
          rcases List.mem_append.1 hc with hc | hc
          · exact hq _ _ _ _ hc
          · simp at hc

theorem holds_push {o : OrderedFrames} (h : o.Holds P) {frame : TouchFrame} (hf : P frame) : (o.push frame).Holds P := by
  have hbegin : (OrderedFrames.begin_session frame).Holds P := fun i g hi => by cases hi
  unfold OrderedFrames.push
  split
  · exact h
  split
  · exact OrderedFrames.holds_buffer hbegin hf
  split
  · split
    · exact OrderedFrames.holds_buffer hbegin hf
    · exact h
  · exact OrderedFrames.holds_buffer h hf

theorem acknowledge_adds {s : Serve σ} (h : s.ordered.Holds P) (it : Iteration) (incoming_session : Nat) (progressed : Bool)
    (hq : ∀ logical_id nanos, Q HOST_ACK incoming_session logical_id
      (encode_control_payload RECEIVE_WINDOW s.control.lane_count nanos)) :
    Adds P Q s (V5Host.acknowledge it incoming_session progressed s).2 := by
  have hrefl : Adds P Q s s := .refl h
  unfold V5Host.acknowledge
  split
  · exact hrefl
  rename_i session_id hsession
  split
  · exact hrefl
  rename_i hsame
  obtain rfl : session_id = incoming_session := Decidable.not_not.1 hsame
  split
  · exact hrefl
  have hacked : Adds P Q s (s.acknowledged_at s.ordered.acknowledged_sequence it.ack_started) := hrefl.congr rfl rfl rfl
  dsimp only
  split
  · rw [send_control_trace (by decide)]
    exact (hacked.record (hq _ _)).record (hq _ _)
  · rw [send_control_once_eq (by decide)]
    exact hacked.record (hq _ _)

theorem process_adds [InputSink σ] {s : Serve σ} (h : s.ordered.Holds P) (it : Iteration) {frame : TouchFrame} (hf : P frame)
    (hq : ∀ logical_id nanos, Q HOST_ACK frame.session_id logical_id
      (encode_control_payload RECEIVE_WINDOW s.control.lane_count nanos)) :
    Adds P Q s (process_gameplay_frame it frame s).2 := by
  unfold process_gameplay_frame
  split
  · exact .refl h
  obtain ⟨hholds, new, ht, hp, hc⟩ := commit_ready_adds it.submissions false
    (i := { s.toInput with ordered := s.ordered.push frame }) (holds_push h hf)
  have hcommit : ∀ i : Input σ, (commit_ready false it.submissions { s.toInput with ordered := s.ordered.push frame }).2 = i →
      Adds P Q s { s with toInput := i } := by
    intro i hi
    rw [hi] at hholds ht
    exact ⟨⟨new, ht, hp, fun _ _ _ _ hmem => absurd hmem (hc _ _ _ _)⟩, hholds, rfl⟩
  split
  · rename_i i heq
    exact hcommit i (by rw [heq])
  · rename_i e i heq
    exact hcommit i (by rw [heq])
  · rename_i progressed i heq
    have hadds := hcommit i (by rw [heq])
    have hmarked : Adds P Q s (if progressed then Serve.committed_at it.committed_now { s with toInput := i }
        else { s with toInput := i }) := by
      split
      · exact hadds.congr rfl rfl rfl
      · exact hadds
    apply hmarked.trans
    apply acknowledge_adds hmarked.holds
    intro logical_id nanos
    rw [hmarked.lanes]
    exact hq logical_id nanos

theorem handle_ping_adds {s : Serve σ} (h : s.ordered.Holds P) (it : Iteration) {header : RecordHeader}
    (hpong : ∀ nanos, Q HOST_PONG header.session_id.toNat header.logical_id.toNat
      (encode_control_payload RECEIVE_WINDOW s.control.lane_count nanos)) :
    Adds P Q s (handle_ping it header s).2 := by
  have hrefl : Adds P Q s s := .refl h
  unfold handle_ping
  split
  · exact hrefl
  dsimp only
  rw [send_control_trace (by decide)]
  split
  · have hmarked : Adds P Q s { s with control := { s.control with
        last_ping := some header.logical_id.toNat
        last_idle_activity := it.arrival } } := hrefl.congr rfl rfl rfl
    exact (hmarked.record (hpong _)).record (hpong _)
  · exact (hrefl.record (hpong _)).record (hpong _)

theorem handle_record_adds [InputSink σ] {s : Serve σ} (h : s.ordered.Holds P) (it : Iteration) {header : RecordHeader}
    {payload : Bytes} (hf : ∀ frame, decode_touch_payload header payload = .ok frame → P frame)
    (hack : ∀ frame, decode_touch_payload header payload = .ok frame → ∀ logical_id nanos,
      Q HOST_ACK frame.session_id logical_id (encode_control_payload RECEIVE_WINDOW s.control.lane_count nanos))
    (hpong : header.message_type = PHONE_PING → ∀ nanos, Q HOST_PONG header.session_id.toNat header.logical_id.toNat
      (encode_control_payload RECEIVE_WINDOW s.control.lane_count nanos)) :
    Adds P Q s (handle_record it header payload s).2 := by
  have hrefl : Adds P Q s s := .refl h
  unfold handle_record
  split
  · exact hrefl.congr rfl rfl rfl
  split
  · rename_i hping
    exact handle_ping_adds h it (hpong hping)
  split
  · exact hrefl
  split
  · exact hrefl
  rename_i frame hdecode
  have hprocess := process_adds h it (hf frame hdecode) (hack frame hdecode)
  split
  · rename_i s' heq
    rw [heq] at hprocess
    split
    · split
      · exact hprocess.congr rfl rfl rfl
      · exact hprocess
    · exact hprocess
  · rename_i result s' _ heq
    rw [heq] at hprocess
    exact hprocess

theorem check_adds [InputSink σ] {s : Serve σ} (h : s.ordered.Holds P) (it : Iteration)
    (hello : ∀ nanos, Q HOST_HELLO 0 NO_ACK (encode_control_payload RECEIVE_WINDOW s.control.lane_count nanos)) :
    Adds P Q s (check it s).2 := by
  have hrefl : Adds P Q s s := .refl h
  have hrepair : Adds P Q s (repair_hello it s).2 := by
    unfold repair_hello
    rw [send_control_once_eq (by decide)]
    split
    · split
      · exact hrefl
      split
      · rcases it.hello.outcome with e | ⟨⟨⟩⟩
        · exact hrefl.record (hello _)
        · exact (hrefl.record (hello _)).congr rfl rfl rfl
      · exact hrefl
    · exact hrefl
  unfold check
  split
  · exact hrefl
  rcases heq : repair_hello it s with ⟨e | ⟨⟨⟩⟩, s'⟩
  · rw [heq] at hrepair
    exact hrepair
  rw [heq] at hrepair
  dsimp only at hrepair ⊢
  split
  · exact hrepair
  split
  · exact hrepair
  split <;> exact hrepair.congr rfl rfl rfl

end Trackpad.V5Host
