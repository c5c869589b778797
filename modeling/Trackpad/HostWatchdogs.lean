import Trackpad.HostFrames
/-!
# The host's watchdogs

`last_committed_frame` and `last_idle_activity` move with applied frames and with PINGs that have a new
highest id, and with nothing else: not with duplicates, frames behind a hole, stale PINGs, dropped
datagrams or ACKs.
-/

namespace Trackpad.V5Host

variable {σ : Type}

/-- The ids of the PINGs answered so far. -/
def pings : List Event → List Nat
  | [] => []
  | .control message_type _ logical_id _ :: earlier =>
    if message_type = HOST_PONG then logical_id :: pings earlier else pings earlier
  | _ :: earlier => pings earlier

/-- `last_ping` is the highest id so far. -/
def Heard (s : Serve σ) : Prop := ∀ id ∈ pings s.trace, ∃ last, s.control.last_ping = some last ∧ id ≤ last

/-- Nothing was applied, and what the watchdogs read is as it was. -/
structure Still (s s' : Serve σ) : Prop where
  applied : applied s'.trace = applied s.trace
  pings : pings s'.trace = pings s.trace
  committed : s'.control.last_committed_frame = s.control.last_committed_frame
  idle : s'.control.last_idle_activity = s.control.last_idle_activity
  ping : s'.control.last_ping = s.control.last_ping

/-- Frames were applied, or nothing changed. -/
structure Commits (s s' : Serve σ) : Prop where
  pings : pings s'.trace = pings s.trace
  ping : s'.control.last_ping = s.control.last_ping
  grows : (applied s.trace).length ≤ (applied s'.trace).length
  deadlines : (s'.control.last_committed_frame = s.control.last_committed_frame ∧
    s'.control.last_idle_activity = s.control.last_idle_activity) ∨
    (applied s.trace).length < (applied s'.trace).length

/-- A PING numbered `id` was answered. -/
structure Answers (id : Nat) (s s' : Serve σ) : Prop where
  applied : applied s'.trace = applied s.trace
  committed : s'.control.last_committed_frame = s.control.last_committed_frame
  idle : s'.control.last_idle_activity = s.control.last_idle_activity ∨ ∀ old ∈ pings s.trace, old < id
  pings : pings s'.trace = id :: id :: pings s.trace
  heard : Heard s'

theorem Still.refl (s : Serve σ) : Still s s := ⟨rfl, rfl, rfl, rfl, rfl⟩

theorem Still.trans {s₁ s₂ s₃ : Serve σ} (h : Still s₁ s₂) (h' : Still s₂ s₃) : Still s₁ s₃ :=
  ⟨h'.applied.trans h.applied, h'.pings.trans h.pings, h'.committed.trans h.committed, h'.idle.trans h.idle,
    h'.ping.trans h.ping⟩

theorem Still.commits {s s' : Serve σ} (h : Still s s') : Commits s s' :=
  ⟨h.pings, h.ping, by rw [h.applied], .inl ⟨h.committed, h.idle⟩⟩

theorem Commits.still {s₁ s₂ s₃ : Serve σ} (h : Commits s₁ s₂) (h' : Still s₂ s₃) : Commits s₁ s₃ where
  pings := h'.pings.trans h.pings
  ping := h'.ping.trans h.ping
  grows := by rw [h'.applied]; exact h.grows
  deadlines := by
    rw [h'.applied, h'.committed, h'.idle]
    exact h.deadlines

theorem Still.before {s₁ s₂ s₃ : Serve σ} (h : Still s₁ s₂) (h' : Commits s₂ s₃) : Commits s₁ s₃ where
  pings := h'.pings.trans h.pings
  ping := h'.ping.trans h.ping
  grows := by rw [← h.applied]; exact h'.grows
  deadlines := by
    rw [← h.applied, ← h.committed, ← h.idle]
    exact h'.deadlines

theorem Heard.congr {s s' : Serve σ} (h : Heard s) (hp : pings s'.trace = pings s.trace)
    (hl : s'.control.last_ping = s.control.last_ping) : Heard s' := by
  unfold Heard
  rw [hp, hl]
  exact h

/-! ## Controls -/

/-- A control other than a PONG is nothing to the watchdogs. -/
theorem still_record {message_type : UInt8} (h : message_type ≠ HOST_PONG) (session_id logical_id : Nat) (payload : Bytes)
    (s : Serve σ) : Still s (s.record (.control message_type session_id logical_id payload)) := by
  refine ⟨rfl, ?_, rfl, rfl, rfl⟩
  simp only [Serve.record, pings, if_neg h]

theorem acknowledge_still (it : Iteration) (incoming_session : Nat) (progressed : Bool) (s : Serve σ) :
    Still s (V5Host.acknowledge it incoming_session progressed s).2 := by
  unfold V5Host.acknowledge
  split
  · exact .refl s
  split
  · exact .refl s
  split
  · exact .refl s
  have hacked : Still s (s.acknowledged_at s.ordered.acknowledged_sequence it.ack_started) := ⟨rfl, rfl, rfl, rfl, rfl⟩
  dsimp only
  split
  · rw [send_control_trace (by decide)]
    have hne : HOST_ACK ≠ HOST_PONG := by decide
    exact (hacked.trans (still_record hne _ _ _ _)).trans (still_record hne _ _ _ _)
  · rw [send_control_once_eq (by decide)]
    exact hacked.trans (still_record (by decide) _ _ _ _)

/-- A PING moves the idle deadline only if its id is above every one answered before. -/
theorem handle_ping_answers {s : Serve σ} (h : Heard s) (it : Iteration) (header : RecordHeader) :
    Still s (handle_ping it header s).2 ∨ Answers header.logical_id.toNat s (handle_ping it header s).2 := by
  unfold handle_ping
  split
  · exact .inl (.refl s)
  right
  dsimp only
  rw [send_control_trace (by decide)]
  split
  · rename_i hnew
    have hfresh : ∀ old ∈ pings s.trace, old < header.logical_id.toNat := by
      intro old hold
      obtain ⟨last, hlast, hle⟩ := h old hold
      simp only [hlast, Option.all_some, decide_eq_true_eq] at hnew
      omega
    refine ⟨rfl, rfl, .inr hfresh, rfl, ?_⟩
    intro id hid
    refine ⟨header.logical_id.toNat, rfl, ?_⟩
    simp only [Serve.record, pings, if_true, Option.getD_some, List.mem_cons] at hid
    rcases hid with rfl | rfl | hid
    · exact Nat.le_refl _
    · exact Nat.le_refl _
    · exact Nat.le_of_lt (hfresh id hid)
  · rename_i hold
    refine ⟨rfl, rfl, .inl rfl, rfl, ?_⟩
    rcases hlast : s.control.last_ping with _ | last
    · simp [hlast] at hold
    · simp only [hlast, Option.all_some, decide_eq_true_eq, not_lt] at hold
      intro id hid
      refine ⟨last, hlast, ?_⟩
      simp only [Serve.record, pings, if_true, Option.getD_some, List.mem_cons] at hid
      rcases hid with rfl | rfl | hid
      · exact hold
      · exact hold
      · obtain ⟨last', hlast', hle⟩ := h id hid
        rw [hlast] at hlast'
        cases hlast'
        exact hle

/-! ## Frames -/

/-- Draining the window only adds frames, and adds one if it says so. -/
theorem commit_ready_grows [InputSink σ] (submissions : List Submission) (progressed : Bool) (i : Input σ) :
    pings (commit_ready progressed submissions i).2.trace = pings i.trace ∧
    (applied i.trace).length ≤ (applied (commit_ready progressed submissions i).2.trace).length ∧
    ((commit_ready progressed submissions i).1 = .finished (.ok true) → progressed = false →
      (applied i.trace).length < (applied (commit_ready progressed submissions i).2.trace).length) := by
  induction submissions generalizing progressed i with
  | nil =>
    unfold commit_ready
    split
    · refine ⟨rfl, Nat.le_refl _, fun h hp => ?_⟩
      rw [hp] at h
      cases h
    · exact ⟨rfl, Nat.le_refl _, fun h => by cases h⟩
  | cons s submissions ih =>
    unfold commit_ready
    split
    · refine ⟨rfl, Nat.le_refl _, fun h hp => ?_⟩
      rw [hp] at h
      cases h
    · rename_i frame _
      dsimp only
      split
      · exact ⟨rfl, Nat.le_refl _, fun h => by cases h⟩
      · exact ⟨rfl, Nat.le_refl _, fun h => by cases h⟩
      · rename_i sink _
        split
        · exact ⟨rfl, Nat.le_succ _, fun h => by cases h⟩
        · rename_i ordered _
          obtain ⟨hpings, hgrows, -⟩ := ih true ⟨ordered, sink, .accepted frame :: i.trace⟩
          have hlt : (applied i.trace).length < (applied (commit_ready true submissions
              ⟨ordered, sink, .accepted frame :: i.trace⟩).2.trace).length := hgrows
          exact ⟨hpings, Nat.le_of_lt hlt, fun _ _ => hlt⟩

theorem process_commits [InputSink σ] (it : Iteration) (frame : TouchFrame) (s : Serve σ) :
    Commits s (process_gameplay_frame it frame s).2 := by
  unfold process_gameplay_frame
  split
  · exact (Still.refl s).commits
  obtain ⟨hpings, hgrows, hprogress⟩ := commit_ready_grows it.submissions false
    { s.toInput with ordered := s.ordered.push frame }
  split
  · rename_i i heq
    rw [heq] at hpings hgrows
    exact ⟨hpings, rfl, hgrows, .inl ⟨rfl, rfl⟩⟩
  · rename_i e i heq
    rw [heq] at hpings hgrows
    exact ⟨hpings, rfl, hgrows, .inl ⟨rfl, rfl⟩⟩
  · rename_i progressed i heq
    rw [heq] at hpings hgrows hprogress
    have hmarked : Commits s (if progressed then Serve.committed_at it.committed_now { s with toInput := i }
        else { s with toInput := i }) := by
      split
      · rename_i hp
        exact ⟨hpings, rfl, hgrows, .inr (hprogress (by rw [hp]) rfl)⟩
      · exact ⟨hpings, rfl, hgrows, .inl ⟨rfl, rfl⟩⟩
    exact hmarked.still (acknowledge_still it frame.session_id progressed _)

/-! ## Turns -/

theorem handle_record_moves [InputSink σ] {s : Serve σ} (h : Heard s) (it : Iteration) (header : RecordHeader) (payload : Bytes) :
    Commits s (handle_record it header payload s).2 ∨
    (header.message_type = PHONE_PING ∧ Answers header.logical_id.toNat s (handle_record it header payload s).2) := by
  have hrefl : Commits s s := (Still.refl s).commits
  unfold handle_record
  split
  · exact .inl (Still.commits ⟨rfl, rfl, rfl, rfl, rfl⟩)
  split
  · rename_i hping
    rcases handle_ping_answers h it header with hstill | hanswers
    · exact .inl hstill.commits
    · exact .inr ⟨hping, hanswers⟩
  split
  · exact .inl hrefl
  split
  · exact .inl hrefl
  rename_i frame _
  have hprocess := process_commits it frame s
  left
  split
  · rename_i s' heq
    rw [heq] at hprocess
    split
    · split
      · exact hprocess.still ⟨rfl, rfl, rfl, rfl, rfl⟩
      · exact hprocess
    · exact hprocess
  · rename_i result s' _ heq
    rw [heq] at hprocess
    exact hprocess

theorem check_still [InputSink σ] (it : Iteration) (s : Serve σ) : Still s (check it s).2 := by
  have hrepair : Still s (repair_hello it s).2 := by
    unfold repair_hello
    rw [send_control_once_eq (by decide)]
    have hsent : Still s (s.record (.control HOST_HELLO 0 ((none : Option Nat).getD NO_ACK)
        (encode_control_payload RECEIVE_WINDOW s.control.lane_count it.hello.host_send_nanos))) :=
      still_record (by decide) _ _ _ _
    split
    · split
      · exact .refl s
      split
      · rcases it.hello.outcome with e | ⟨⟨⟩⟩
        · exact hsent
        · exact hsent.trans ⟨rfl, rfl, rfl, rfl, rfl⟩
      · exact .refl s
    · exact .refl s
  unfold check
  split
  · exact .refl s
  rcases heq : repair_hello it s with ⟨e | ⟨⟨⟩⟩, s'⟩
  · rw [heq] at hrepair
    exact hrepair
  rw [heq] at hrepair
  dsimp only at hrepair ⊢
  split
  · exact hrepair
  split
  · exact hrepair
  split <;> exact hrepair.trans ⟨rfl, rfl, rfl, rfl, rfl⟩

theorem receive_still (aead : Aead) (it : Iteration) (s : Serve σ) : Still s (receive_record_into aead it s).2 := by
  unfold receive_record_into
  split
  · exact .refl s
  · exact .refl s
  · exact .refl s
  · split
    · split <;> exact .refl s
    · split
      · exact ⟨rfl, rfl, rfl, rfl, rfl⟩
      · dsimp only
        split <;> exact ⟨rfl, rfl, rfl, rfl, rfl⟩

/-- What one turn does to the watchdogs: it commits, or it answers the PING it has just received. -/
theorem turn_moves [InputSink σ] (aead : Aead) {s : Serve σ} (h : Heard s) (it : Iteration) :
    Commits s (turn it (receive_record_into aead it) s).2 ∨
    ∃ header payload, (receive_record_into aead it (check it s).2).1 = .ok (some (header, payload)) ∧
      header.message_type = PHONE_PING ∧ Answers header.logical_id.toNat s (turn it (receive_record_into aead it) s).2 := by
  have hcheck := check_still it s
  unfold turn
  split
  · rename_i s₁ heq
    rw [heq] at hcheck ⊢
    dsimp only at hcheck ⊢
    have hreceive := hcheck.trans (receive_still aead it s₁)
    split
    · rename_i e s₂ heq'
      rw [heq'] at hreceive
      exact .inl hreceive.commits
    · rename_i s₂ heq'
      rw [heq'] at hreceive
      exact .inl hreceive.commits
    · rename_i header payload s₂ heq'
      rw [heq'] at hreceive
      dsimp only at hreceive
      rcases handle_record_moves (h.congr hreceive.pings hreceive.ping) it header payload with hcommits | ⟨hping, hanswers⟩
      · exact .inl (hreceive.before hcommits)
      · refine .inr ⟨header, payload, by rw [heq'], hping, ?_⟩
        refine ⟨hanswers.applied.trans hreceive.applied, hanswers.committed.trans hreceive.committed, ?_, ?_, hanswers.heard⟩
        · rw [← hreceive.pings, ← hreceive.idle]
          exact hanswers.idle
        · rw [← hreceive.pings]
          exact hanswers.pings
  · rename_i result s₁ _ heq
    rw [heq] at hcheck
    exact .inl hcheck.commits

/-! ## Runs -/

/-- The state before the turn after `its`, while the loop still runs. -/
def after [InputSink σ] (aead : Aead) : List Iteration → Serve σ → Option (Serve σ)
  | [], s => some s
  | it :: its, s =>
    if it.stopping then none
    else
      match turn it (receive_record_into aead it) s with
      | (.finished (.ok ()), s) => after aead its s
      | _ => none

theorem serve_loop_after [InputSink σ] (aead : Aead) (its rest : List Iteration) {s s' : Serve σ}
    (h : after aead its s = some s') : serve_loop aead (its ++ rest) s = serve_loop aead rest s' := by
  induction its generalizing s with
  | nil =>
    cases h
    rfl
  | cons it its ih =>
    rw [List.cons_append, serve_loop]
    unfold after at h
    split at h
    · cases h
    rename_i hrunning
    rw [if_neg hrunning]
    split at h
    · rename_i s₁ heq
      rw [heq]
      exact ih h
    · cases h

/-- What any number of turns did: the deadlines moved only with frames applied and new highest PINGs. -/
structure Moves (s s' : Serve σ) : Prop where
  grows : (applied s.trace).length ≤ (applied s'.trace).length
  kept : ∀ id ∈ pings s.trace, id ∈ pings s'.trace
  committed : s'.control.last_committed_frame = s.control.last_committed_frame ∨
    (applied s.trace).length < (applied s'.trace).length
  idle : s'.control.last_idle_activity = s.control.last_idle_activity ∨
    (applied s.trace).length < (applied s'.trace).length ∨ ∃ id ∈ pings s'.trace, ∀ old ∈ pings s.trace, old < id
  heard : Heard s'

theorem Commits.moves {s s' : Serve σ} (h : Commits s s') (hs : Heard s) : Moves s s' where
  grows := h.grows
  kept id hid := by
    rw [h.pings]
    exact hid
  committed := h.deadlines.imp_left And.left
  idle := by
    rcases h.deadlines with ⟨-, hidle⟩ | hgrew
    · exact .inl hidle
    · exact .inr (.inl hgrew)
  heard := hs.congr h.pings h.ping

theorem Answers.moves {id : Nat} {s s' : Serve σ} (h : Answers id s s') : Moves s s' where
  grows := by rw [h.applied]
  kept old hold := by
    rw [h.pings]
    exact List.mem_cons_of_mem _ (List.mem_cons_of_mem _ hold)
  committed := .inl h.committed
  idle := by
    rcases h.idle with hsame | hfresh
    · exact .inl hsame
    · refine .inr (.inr ⟨id, ?_, hfresh⟩)
      rw [h.pings]
      exact List.mem_cons_self
  heard := h.heard

theorem Moves.trans {s₁ s₂ s₃ : Serve σ} (h : Moves s₁ s₂) (h' : Moves s₂ s₃) : Moves s₁ s₃ where
  grows := h.grows.trans h'.grows
  kept id hid := h'.kept id (h.kept id hid)
  committed := by
    have hgrows := h.grows
    have hgrows' := h'.grows
    rcases h.committed with hc | hc
    · rcases h'.committed with hc' | hc'
      · exact .inl (hc'.trans hc)
      · exact .inr (by omega)
    · exact .inr (by omega)
  idle := by
    have hgrows := h.grows
    have hgrows' := h'.grows
    rcases h.idle with hi | hi | ⟨id, hid, hfresh⟩
    · rcases h'.idle with hi' | hi' | ⟨id, hid, hfresh⟩
      · exact .inl (hi'.trans hi)
      · exact .inr (.inl (by omega))
      · exact .inr (.inr ⟨id, hid, fun old hold => hfresh old (h.kept old hold)⟩)
    · exact .inr (.inl (by omega))
    · exact .inr (.inr ⟨id, h'.kept id hid, hfresh⟩)
  heard := h'.heard

theorem after_moves [InputSink σ] (aead : Aead) (its : List Iteration) {s s' : Serve σ} (hs : Heard s)
    (h : after aead its s = some s') : Moves s s' := by
  induction its generalizing s with
  | nil =>
    cases h
    exact (Still.refl _).commits.moves hs
  | cons it its ih =>
    unfold after at h
    split at h
    · cases h
    split at h
    · rename_i s₁ heq
      have hturn : Moves s s₁ := by
        rcases turn_moves aead hs it with hcommits | ⟨header, payload, -, -, hanswers⟩
        · rw [heq] at hcommits
          exact hcommits.moves hs
        · rw [heq] at hanswers
          exact hanswers.moves
      exact hturn.trans (ih hturn.heard h)
    · cases h

/-! ## Starting a receive -/

theorem repair_hello_keeps (it : Iteration) (s : Serve σ) :
    (repair_hello it s).2.sink = s.sink ∧ (repair_hello it s).2.control = s.control := by
  unfold repair_hello
  rw [send_control_once_eq (by decide)]
  split
  · split
    · exact ⟨rfl, rfl⟩
    split
    · rcases it.hello.outcome with e | ⟨⟨⟩⟩ <;> exact ⟨rfl, rfl⟩
    · exact ⟨rfl, rfl⟩
  · exact ⟨rfl, rfl⟩

/-- An active input without a commit for 32 ms ends the turn before it asks for a record. -/
theorem silent_check [InputSink σ] {it : Iteration} {s : Serve σ} (hactive : InputSink.has_active_input s.sink = true)
    (hsilent : s.control.last_committed_frame + ACTIVE_INPUT_SILENCE_TIMEOUT ≤ it.active_now) :
    ∃ e, (check it s).1 = .finished (.error e) := by
  obtain ⟨hsink, hcontrol⟩ := repair_hello_keeps it s
  unfold check
  split
  · exact ⟨_, rfl⟩
  rcases heq : repair_hello it s with ⟨e | ⟨⟨⟩⟩, s'⟩
  · exact ⟨_, rfl⟩
  rw [heq] at hsink hcontrol
  dsimp only at hsink hcontrol ⊢
  rw [hsink, hcontrol, if_pos ⟨hactive, by omega⟩]
  exact ⟨_, rfl⟩

/-- What a retry that succeeds refused first came before the stall timeout. -/
theorem retry_served {call : Nat → σ → Except IoError Unit × σ} {started : Nat} {attempts : List Attempt} {sink sink' : σ}
    (h : retry call started attempts sink = (.finished none, sink')) :
    ∃ refused served rest, attempts = refused ++ served :: rest ∧ ∀ a ∈ refused, a.later - started < SINK_STALL_TIMEOUT := by
  induction attempts generalizing sink with
  | nil => cases h
  | cons a attempts ih =>
    unfold retry at h
    split at h
    · exact ⟨[], a, attempts, rfl, fun a hmem => (by cases hmem)⟩
    · split at h
      · cases h
      · rename_i hgoes
        obtain ⟨refused, served, rest, rfl, hrefused⟩ := ih h
        refine ⟨a :: refused, served, rest, rfl, fun a' hmem => ?_⟩
        rcases List.mem_cons.1 hmem with rfl | hmem
        · simp only [Bool.or_eq_true, decide_eq_true_eq, not_or, Nat.not_le] at hgoes
          exact hgoes.2
        · exact hrefused a' hmem

/-- A turn that asks for a record has served the deferred input. -/
theorem check_served [InputSink σ] {it : Iteration} {s : Serve σ} (h : (check it s).1 = .finished (.ok ())) :
    ∃ refused served rest, it.service.attempts = refused ++ served :: rest ∧
      ∀ a ∈ refused, a.later - it.service.started < SINK_STALL_TIMEOUT := by
  unfold check at h
  -- A changed interface, a failed HELLO and either deadline end the turn before the sink is served.
  split at h
  · cases h
  split at h
  · cases h
  split at h
  · cases h
  split at h
  · cases h
  rename_i s' _ _ _
  split at h
  · cases h
  · cases h
  · rename_i sink hservice
    unfold service_deferred at hservice
    split at hservice
    · cases hservice
    · rename_i hretry
      exact retry_served hretry
    · cases hservice

theorem turn_silent [InputSink σ] {it : Iteration} {s : Serve σ} {e : HostV5Error} (h : (check it s).1 = .finished (.error e))
    (receive : Serve σ → Except HostV5Error (Option (RecordHeader × Bytes)) × Serve σ) :
    turn it receive s = (.finished (.error e), (check it s).2) := by
  rcases heq : check it s with ⟨result, s'⟩
  rw [heq] at h
  obtain rfl : result = .finished (.error e) := h
  unfold turn
  rw [heq]

/-! ## Only progress counts -/

/-- The loop's first state, once HELLO was sent. -/
def Serve.greeted (b : Boundary) (s : Serve σ) : Serve σ :=
  { (send_control HOST_HELLO 0 none b.hello (s.begun b)).2 with
    last_hello_send := b.hello_sent
    hello_interval := V5_CONTROL_REPAIR_INTERVAL }

theorem serve_gameplay_inner_greeted [InputSink σ] (aead : Aead) {b : Boundary} (its : List Iteration) {s : Serve σ}
    (hmonitor : b.monitor = .ok ()) (htimeout : b.read_timeout = .ok ())
    (hhello : (send_control HOST_HELLO 0 none b.hello (s.begun b)).1 = .ok ()) :
    serve_gameplay_inner aead b its s = serve_loop aead its (s.greeted b) := by
  rcases heq : send_control HOST_HELLO 0 none b.hello (s.begun b) with ⟨result, s'⟩
  rw [heq] at hhello
  obtain rfl : result = .ok () := hhello
  unfold serve_gameplay_inner Serve.greeted
  rw [hmonitor, htimeout]
  dsimp only
  rw [heq]

theorem greeted_heard (b : Boundary) {s : Serve σ} (h : s.trace = []) : Heard (s.greeted b) := by
  have hne : HOST_HELLO ≠ HOST_PONG := by decide
  intro id hid
  simp only [Serve.greeted] at hid
  rw [send_control_trace (by decide)] at hid
  simp only [Serve.record, Serve.begun, pings, if_neg hne, h] at hid
  cases hid

/-- A sink that takes every frame, with a key down or not. -/
structure TakesFrames where
  active : Bool

instance : InputSink TakesFrames where
  accept _ _ sink := (.ok (), sink)
  has_active_input sink := sink.active
  cancel_all _ sink := (.ok (), sink)
  service _ sink := (.ok (), sink)

def atZero : Boundary where
  control_now := 0
  committed_now := 0
  monitor := .ok ()
  deadline_now := 0
  read_timeout := .ok ()
  hello := (⟨0, .ok ()⟩, ⟨0, .ok ()⟩)
  hello_sent := 0
  stopping := false
  cancel := ⟨0, []⟩

/-- A turn at `now` in which nothing arrives. -/
def quietTurn (now : Nat) : Iteration where
  stopping := false
  interface_changed := false
  start_now := now
  hello_now := now
  hello := ⟨now, .ok ()⟩
  hello_sent := now
  active_now := now
  idle_now := now
  service := ⟨now, []⟩
  read_timeout := .ok ()
  received := .timed_out
  arrival := now
  socket := .ok ()
  copies := (⟨now, .ok ()⟩, ⟨now, .ok ()⟩)
  submissions := []
  committed_now := now
  ack_started := now

/-- An AEAD that hides nothing and accepts everything. -/
def plain : Aead := ⟨fun _ _ _ plaintext => some (plaintext, List.replicate TAG_SIZE 0), fun _ _ _ ciphertext _ => some ciphertext⟩

/-- The datagram of a record. -/
def datagram (record : RecordHeader × Bytes) : Bytes := write_record_header record.1 ++ (record.2 ++ List.replicate TAG_SIZE 0)

/-- A turn at `now` in which a datagram arrives and the sink takes what it is given. -/
def arriving (now : Nat) (bytes : Bytes) : Iteration :=
  { quietTurn now with
    service := ⟨now, [⟨now, false, now⟩]⟩
    received := .datagram bytes
    submissions := [⟨now, [⟨now, false, now⟩]⟩] }

/-- A record of session 7, sent as packet `packet`. -/
def record_of (message_type : UInt8) (packet logical_id : Nat) (payload : Bytes) : RecordHeader × Bytes :=
  (⟨.PhoneToHost, message_type, 0, 7, .ofNat packet, .ofNat logical_id, 0, .ofNat payload.length⟩, payload)

/-- The session-start CANCEL. -/
def start_record : RecordHeader × Bytes :=
  record_of PHONE_TOUCH 0 0 (List.replicate 40 0 ++ [ACTION_CANCEL, 0, 0, FRAME_FLAG_SESSION_START])

/-- A finger at (100, 100). -/
def down_record (packet sequence : Nat) : RecordHeader × Bytes :=
  record_of PHONE_TOUCH packet sequence (List.replicate 40 0 ++ [ACTION_DOWN, 3, 1, FRAME_FLAG_LOCKED] ++
    [3, CONTACT_FLAG_INSIDE ||| CONTACT_FLAG_TIP, 100, 0, 100, 0, 0, 4, 0, 0])

def ping_record (packet id : Nat) : RecordHeader × Bytes := record_of PHONE_PING packet id []

/-- A host that takes over with a key down. -/
def keyDown : Serve TakesFrames :=
  (accepted_connection ⟨true⟩ .require_fresh_session 6 [] [] 0 none).greeted atZero

/-- Two frames and a PING. -/
def progressing : List Iteration :=
  [arriving 0 (datagram start_record), arriving 1000000 (datagram (down_record 1 1)), arriving 2000000 (datagram (ping_record 2 5))]

/-- A frame once more, its repair, a frame behind a hole, and an old PING. -/
def stale : List Iteration :=
  [arriving 3000000 (datagram (down_record 1 1)), arriving 8000000 (datagram (down_record 3 1)),
    arriving 13000000 (datagram (down_record 4 3)), arriving 18000000 (datagram (ping_record 5 4))]

/-- The clock of a turn does not go back, and reads `now` when the turn asks for a record. -/
def Iteration.Until (it : Iteration) (now : Nat) : Prop :=
  (it.active_now :: it.idle_now :: it.service.started :: it.service.attempts.flatMap (fun a => [a.now, a.later]) ++ [now]).Pairwise
    (· ≤ ·)

/-- A sink with a key down that refuses to be served so many times. -/
structure Refusing where
  refusals : Nat

instance : InputSink Refusing where
  accept _ _ sink := (.ok (), sink)
  has_active_input _ := true
  cancel_all _ sink := (.ok (), sink)
  service _ sink :=
    match sink.refusals with
    | 0 => (.ok (), sink)
    | n + 1 => (.error ⟨.Other, "refused"⟩, ⟨n⟩)

/-- A turn at 31.9 ms whose deferred input is refused once and served 8 ms later. -/
def refusedTurn : Iteration :=
  { quietTurn 31900000 with service := ⟨31900000, [⟨31900000, false, 39800000⟩, ⟨39900000, false, 39900000⟩]⟩ }

end Trackpad.V5Host
