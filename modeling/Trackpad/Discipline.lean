import Trackpad.HostMetrics
import Trackpad.HostWatchdogs
/-!
# How the host calls its sink

A frame that the sink refused is offered again until it is taken or the input is cancelled, and after a cancellation that
failed nothing but cancellations follow. `Discipline` is what that is worth to a sink: any predicate on it that such calls
keep holds throughout a run of the controller, for the stage that the calls are at.
-/

namespace Trackpad

/-- Where the calls to a sink stand: between two frames, with the frames it took since it last let go, the last first; at a
frame it refused; or at a cancellation that failed. -/
inductive Stage
  | free (taken : List TouchFrame)
  | retry (frame : TouchFrame) (taken : List TouchFrame)
  | release

variable {σ : Type} [InputSink σ]

/-- A predicate that the host's calls keep. -/
structure Discipline (Q : Stage → σ → Prop) : Prop where
  accepted : ∀ {taken frame now s s'}, Q (.free taken) s ∨ Q (.retry frame taken) s →
    InputSink.accept frame now s = (.ok (), s') → Q (.free (frame :: taken)) s'
  refused : ∀ {taken frame now s s' e}, Q (.free taken) s ∨ Q (.retry frame taken) s →
    InputSink.accept frame now s = (.error e, s') → Q (.retry frame taken) s'
  serviced : ∀ {taken now s}, Q (.free taken) s → Q (.free taken) (InputSink.service now s).2
  released : ∀ {stage now s s'}, Q stage s → InputSink.cancel_all now s = (.ok (), s') → Q (.free []) s'
  unreleased : ∀ {stage now s s' e}, Q stage s → InputSink.cancel_all now s = (.error e, s') → Q .release s'
  active : ∀ {s}, Q .release s → InputSink.has_active_input s = true

namespace Discipline

variable {Q : Stage → σ → Prop}

/-! ## The retries -/

theorem retry_accept (H : Discipline Q) {taken : List TouchFrame} (frame : TouchFrame) (started : Nat)
    (attempts : List Attempt) {s : σ} (h : Q (.free taken) s ∨ Q (.retry frame taken) s) :
    (∀ s', retry (InputSink.accept frame) started attempts s = (.finished none, s') → Q (.free (frame :: taken)) s') ∧
    ∀ e s', retry (InputSink.accept frame) started attempts s = (.finished (some e), s') → Q (.retry frame taken) s' := by
  induction attempts generalizing s with
  | nil => exact ⟨fun s' hr => (by cases hr), fun e s' hr => (by cases hr)⟩
  | cons a attempts ih =>
    unfold retry
    rcases haccept : InputSink.accept frame a.now s with ⟨e | ⟨⟨⟩⟩, s₁⟩
    · have hrefused := H.refused h haccept
      dsimp only
      -- The deadline has passed, or the same frame is offered again.
      split
      · refine ⟨fun s' hr => (by cases hr), fun e s' hr => ?_⟩
        cases hr
        exact hrefused
      · exact ih (.inr hrefused)
    · refine ⟨fun s' hr => ?_, fun e s' hr => (by cases hr)⟩
      cases hr
      exact H.accepted h haccept

theorem retry_service (H : Discipline Q) {taken : List TouchFrame} (started : Nat) (attempts : List Attempt) {s : σ}
    (h : Q (.free taken) s) : Q (.free taken) (retry InputSink.service started attempts s).2 := by
  induction attempts generalizing s with
  | nil => exact h
  | cons a attempts ih =>
    have hserviced : Q (.free taken) (InputSink.service a.now s).2 := H.serviced h
    unfold retry
    rcases hservice : InputSink.service a.now s with ⟨e | ⟨⟨⟩⟩, s₁⟩ <;> rw [hservice] at hserviced
    · dsimp only
      split
      · exact hserviced
      · exact ih hserviced
    · exact hserviced

theorem service_deferred (H : Discipline Q) {taken : List TouchFrame} (submission : Submission) {s : σ}
    (h : Q (.free taken) s) :
    Q (.free taken) (service_deferred submission s).2 := by
  have hserviced := H.retry_service submission.started submission.attempts h
  unfold Trackpad.service_deferred
  rcases hretry : retry InputSink.service submission.started submission.attempts s with ⟨(_ | ⟨e, stopped⟩) | _, s₁⟩
  all_goals rw [hretry] at hserviced; exact hserviced

/-- A cancellation lets go, or leaves a release to be done. -/
theorem cancel_with_deadline (H : Discipline Q) {stage : Stage} (started : Nat) (attempts : List Attempt) {s : σ}
    (h : Q stage s) :
    (∀ s', cancel_with_deadline started attempts s = (.finished (.ok ()), s') → Q (.free []) s') ∧
    ∀ e s', cancel_with_deadline started attempts s = (.finished (.error e), s') → Q .release s' := by
  induction attempts generalizing s stage with
  | nil => exact ⟨fun s' hr => (by cases hr), fun e s' hr => (by cases hr)⟩
  | cons a attempts ih =>
    unfold Trackpad.cancel_with_deadline
    rcases hcancel : InputSink.cancel_all a.now s with ⟨e | ⟨⟨⟩⟩, s₁⟩
    · have hheld := H.unreleased h hcancel
      dsimp only
      split
      · refine ⟨fun s' hr => (by cases hr), fun e s' hr => ?_⟩
        cases hr
        exact hheld
      · exact ih hheld
    · refine ⟨fun s' hr => ?_, fun e s' hr => (by cases hr)⟩
      cases hr
      exact H.released h hcancel

/-! ## The frames that are ready -/

/-- The sink took exactly the frames of the trace. -/
def AtRest (Q : Stage → σ → Prop) (i : Input σ) : Prop := Q (.free (applied i.trace)) i.sink

theorem commit_ready (H : Discipline Q) (submissions : List Submission) (progressed : Bool) {i : Input σ} (h : AtRest Q i) :
    (∀ b i', commit_ready progressed submissions i = (.finished (.ok b), i') → AtRest Q i') ∧
    ∀ e i', commit_ready progressed submissions i = (.finished (.error e), i') → ∃ stage, Q stage i'.sink := by
  induction submissions generalizing progressed i with
  | nil =>
    unfold Trackpad.commit_ready
    cases i.ordered.next_ready with
    | some frame => exact ⟨fun b i' hr => (by cases hr), fun e i' hr => (by cases hr)⟩
    | none =>
      refine ⟨fun b i' hr => ?_, fun e i' hr => (by cases hr)⟩
      cases hr
      exact h
  | cons s submissions ih =>
    unfold Trackpad.commit_ready
    cases i.ordered.next_ready with
    | none =>
      refine ⟨fun b i' hr => ?_, fun e i' hr => (by cases hr)⟩
      cases hr
      exact h
    | some frame =>
      obtain ⟨htaken, hrefused⟩ := H.retry_accept frame s.started s.attempts (.inl h)
      dsimp only
      rcases hretry : retry (InputSink.accept frame) s.started s.attempts i.sink with ⟨(_ | ⟨e, stopped⟩) | _, sink⟩
      · have hfree := htaken sink hretry
        -- Even where the queue refuses to let the frame go, the sink has taken it.
        rcases i.ordered.commit_ready with ⟨_ | _, ordered⟩
        · refine ⟨fun b i' hr => (by cases hr), fun e i' hr => ?_⟩
          cases hr
          exact ⟨_, hfree⟩
        · exact ih true (i := ⟨ordered, sink, .accepted frame :: i.trace⟩) hfree
      · refine ⟨fun b i' hr => (by cases hr), fun e' i' hr => ?_⟩
        cases hr
        exact ⟨_, hrefused _ sink hretry⟩
      · exact ⟨fun b i' hr => (by cases hr), fun e i' hr => (by cases hr)⟩

end Discipline

namespace V5Host

open Discipline (AtRest)

variable {Q : Stage → σ → Prop}

/-! ## What leaves the sink alone -/

omit [InputSink σ]

/-- The frames that were applied and the sink are what they were. -/
structure Unmoved (s s' : Serve σ) : Prop where
  applied : applied s'.trace = applied s.trace
  sink : s'.sink = s.sink

theorem Unmoved.refl (s : Serve σ) : Unmoved s s := ⟨rfl, rfl⟩

theorem Unmoved.trans {s₁ s₂ s₃ : Serve σ} (h : Unmoved s₁ s₂) (h' : Unmoved s₂ s₃) : Unmoved s₁ s₃ :=
  ⟨h'.applied.trans h.applied, h'.sink.trans h.sink⟩

theorem Unmoved.atRest {s s' : Serve σ} (h : Unmoved s s') (hs : AtRest Q s.toInput) : AtRest Q s'.toInput := by
  unfold AtRest
  rw [h.applied, h.sink]
  exact hs

theorem send_control_once_unmoved (control_type : UInt8) (session_id : Nat) (acknowledged : Option Nat) (copy : Copy)
    (s : Serve σ) :
    Unmoved s (send_control_once control_type session_id acknowledged copy s).2 := by
  unfold send_control_once
  split <;> exact ⟨rfl, rfl⟩

theorem send_control_unmoved (control_type : UInt8) (session_id : Nat) (acknowledged : Option Nat) (copies : Copy × Copy)
    (s : Serve σ) : Unmoved s (send_control control_type session_id acknowledged copies s).2 := by
  have hfirst := send_control_once_unmoved control_type session_id acknowledged copies.1 s
  have hsecond := send_control_once_unmoved control_type session_id acknowledged copies.2
    (send_control_once control_type session_id acknowledged copies.1 s).2
  unfold send_control
  rcases heq : send_control_once control_type session_id acknowledged copies.1 s with ⟨e | ⟨⟨⟩⟩, s₁⟩
  all_goals
    rw [heq] at hfirst hsecond
    dsimp only at hfirst hsecond ⊢
  · rcases heq' : send_control_once control_type session_id acknowledged copies.2 s₁ with ⟨e' | ⟨⟨⟩⟩, s₂⟩
    all_goals rw [heq'] at hsecond; exact hfirst.trans hsecond
  · exact hfirst.trans hsecond

theorem acknowledge_unmoved (it : Iteration) (incoming_session : Nat) (progressed : Bool) (s : Serve σ) :
    Unmoved s (acknowledge it incoming_session progressed s).2 := by
  unfold acknowledge
  split
  · exact .refl s
  split
  · exact .refl s
  split
  · exact .refl s
  have hacked : Unmoved s (s.acknowledged_at s.ordered.acknowledged_sequence it.ack_started) := ⟨rfl, rfl⟩
  dsimp only
  split
  · exact hacked.trans (send_control_unmoved ..)
  · exact hacked.trans (send_control_once_unmoved ..)

theorem handle_ping_unmoved (it : Iteration) (header : RecordHeader) (s : Serve σ) :
    Unmoved s (handle_ping it header s).2 := by
  unfold handle_ping
  split
  · exact .refl s
  · refine Unmoved.trans ?_ (send_control_unmoved ..)
    split <;> exact ⟨rfl, rfl⟩

theorem receive_record_unmoved (aead : Aead) (it : Iteration) (s : Serve σ) :
    Unmoved s (receive_record_into aead it s).2 := by
  unfold receive_record_into
  split
  · exact .refl s
  · exact .refl s
  · exact .refl s
  · split
    · split <;> exact .refl s
    · split
      · exact ⟨rfl, rfl⟩
      · dsimp only
        split <;> exact ⟨rfl, rfl⟩

theorem repair_hello_unmoved (it : Iteration) (s : Serve σ) : Unmoved s (repair_hello it s).2 :=
  have hhello := send_control_once_unmoved HOST_HELLO 0 none it.hello s
  ⟨by
    unfold repair_hello
    rcases heq : send_control_once HOST_HELLO 0 none it.hello s with ⟨e | ⟨⟨⟩⟩, s₁⟩
    all_goals rw [heq] at hhello; split_ifs <;> first | rfl | exact hhello.applied,
    (repair_hello_keeps it s).1⟩

theorem notify_session_end_unmoved (stopping : Bool) (s : Serve σ) : Unmoved s (notify_session_end stopping s) := by
  unfold notify_session_end
  split <;> exact ⟨rfl, rfl⟩

/-! ## Turns -/

variable [InputSink σ]

/-- What a part of a turn leaves: a sink that took what was applied, if the loop goes on, and one at some stage if not. -/
structure Obeys (Q : Stage → σ → Prop) (r : Loop (Except HostV5Error Unit) × Serve σ) : Prop where
  rest : r.1 = .finished (.ok ()) → AtRest Q r.2.toInput
  known : ∀ result, r.1 = .finished result → ∃ stage, Q stage r.2.sink

omit [InputSink σ] in
theorem Obeys.of {s : Serve σ} (h : AtRest Q s.toInput) (result : Loop (Except HostV5Error Unit)) : Obeys Q (result, s) :=
  ⟨fun _ => h, fun _ _ => ⟨_, h⟩⟩

theorem process_obeys (H : Discipline Q) (it : Iteration) (frame : TouchFrame) {s : Serve σ} (h : AtRest Q s.toInput) :
    Obeys Q (process_gameplay_frame it frame s) := by
  unfold process_gameplay_frame
  split
  · exact .of h _
  obtain ⟨hok, herror⟩ := H.commit_ready it.submissions false (i := { s.toInput with ordered := s.ordered.push frame }) h
  rcases hcommit : commit_ready false it.submissions { s.toInput with ordered := s.ordered.push frame } with
    ⟨(e | progressed) | _, i⟩
  · exact ⟨fun hr => (by cases hr), fun result _ => herror e i hcommit⟩
  · have hi := hok progressed i hcommit
    have hmarked : AtRest Q (if progressed then Serve.committed_at it.committed_now { s with toInput := i }
        else { s with toInput := i }).toInput := by
      split <;> exact hi
    exact .of ((acknowledge_unmoved it frame.session_id progressed _).atRest hmarked) _
  · exact ⟨fun hr => (by cases hr), fun result hr => (by cases hr)⟩

theorem handle_record_obeys (H : Discipline Q) (it : Iteration) (header : RecordHeader) (payload : Bytes) {s : Serve σ}
    (h : AtRest Q s.toInput) : Obeys Q (handle_record it header payload s) := by
  unfold handle_record
  split
  · exact .of (s := { s with connection := { s.connection with peer_aborted := true } }) h _
  split
  · exact .of ((handle_ping_unmoved it header s).atRest h) _
  split
  · exact .of h _
  split
  · exact .of h _
  rename_i frame _
  have hprocessed := process_obeys H it frame h
  split
  · rename_i s' heq
    rw [heq] at hprocessed
    have hrest : AtRest Q s'.toInput := hprocessed.rest rfl
    split
    · split
      · exact .of (s := { s' with session_established := true }) hrest _
      · exact .of hrest _
    · exact .of hrest _
  · rename_i result s' _ heq
    rw [heq] at hprocessed
    exact hprocessed

theorem check_obeys (H : Discipline Q) (it : Iteration) {s : Serve σ} (h : AtRest Q s.toInput) : Obeys Q (check it s) := by
  have hrepaired := (repair_hello_unmoved it s).atRest h
  unfold check
  split
  · exact .of h _
  rcases hrepair : repair_hello it s with ⟨e | ⟨⟨⟩⟩, s₁⟩
  all_goals rw [hrepair] at hrepaired
  · exact .of hrepaired _
  dsimp only
  split
  · exact .of hrepaired _
  split
  · exact .of hrepaired _
  have hserviced := H.service_deferred it.service hrepaired
  rcases hservice : service_deferred it.service s₁.sink with ⟨(e | ⟨⟨⟩⟩) | _, sink⟩
  all_goals rw [hservice] at hserviced; exact .of (s := { s₁ with sink := sink }) hserviced _

theorem turn_obeys (H : Discipline Q) (aead : Aead) (it : Iteration) {s : Serve σ} (h : AtRest Q s.toInput) :
    Obeys Q (turn it (receive_record_into aead it) s) := by
  have hchecked := check_obeys H it h
  unfold turn
  split
  · rename_i s₁ heq
    rw [heq] at hchecked
    have hreceived := (receive_record_unmoved aead it s₁).atRest (hchecked.rest rfl)
    split
    · rename_i heq'
      rw [heq'] at hreceived
      exact .of hreceived _
    · rename_i heq'
      rw [heq'] at hreceived
      exact .of hreceived _
    · rename_i heq'
      rw [heq'] at hreceived
      exact handle_record_obeys H it _ _ hreceived
  · rename_i result s₁ _ heq
    rw [heq] at hchecked
    exact hchecked

/-- Between two turns the sink has taken exactly the frames that were applied. -/
theorem after_atRest (H : Discipline Q) (aead : Aead) (its : List Iteration) {s s' : Serve σ} (h : AtRest Q s.toInput)
    (hafter : after aead its s = some s') : AtRest Q s'.toInput := by
  induction its generalizing s with
  | nil =>
    cases hafter
    exact h
  | cons it its ih =>
    unfold after at hafter
    split at hafter
    · cases hafter
    split at hafter
    · rename_i s₁ heq
      have hturned := turn_obeys H aead it h
      rw [heq] at hturned
      exact ih (hturned.rest rfl) hafter
    · cases hafter

/-! ## Connections -/

theorem serve_loop_known (H : Discipline Q) (aead : Aead) (its : List Iteration) {s : Serve σ} (h : AtRest Q s.toInput)
    (result : Except HostV5Error Unit) : (serve_loop aead its s).1 = .finished result →
    ∃ stage, Q stage (serve_loop aead its s).2.sink := by
  induction its generalizing s with
  | nil => exact fun hr => (by cases hr)
  | cons it its ih =>
    have hturned := turn_obeys H aead it h
    unfold serve_loop
    split
    · exact fun _ => ⟨_, h⟩
    split
    · rename_i s₁ heq
      rw [heq] at hturned
      exact ih (hturned.rest rfl)
    · rename_i r s₁ _ heq
      rw [heq] at hturned
      exact hturned.known result

theorem serve_gameplay_inner_known (H : Discipline Q) (aead : Aead) (b : Boundary) (its : List Iteration) {s : Serve σ}
    (h : AtRest Q s.toInput) (result : Except HostV5Error Unit) : (serve_gameplay_inner aead b its s).1 = .finished result →
    ∃ stage, Q stage (serve_gameplay_inner aead b its s).2.sink := by
  have hgreeted := (send_control_unmoved HOST_HELLO 0 none b.hello (s.begun b)).atRest h
  unfold serve_gameplay_inner
  rcases b.monitor with e | ⟨⟨⟩⟩
  · exact fun _ => ⟨_, h⟩
  rcases b.read_timeout with e | ⟨⟨⟩⟩
  · exact fun _ => ⟨_, h⟩
  dsimp only
  rcases heq : send_control HOST_HELLO 0 none b.hello (s.begun b) with ⟨e | ⟨⟨⟩⟩, s₁⟩
  all_goals rw [heq] at hgreeted
  · exact fun _ => ⟨_, hgreeted⟩
  · exact serve_loop_known H aead its (s := { s₁ with
      last_hello_send := b.hello_sent
      hello_interval := V5_CONTROL_REPAIR_INTERVAL }) hgreeted result

/-- A connection lets go at its end, or leaves a release to be done. -/
theorem serve_gameplay_ends (H : Discipline Q) (aead : Aead) (b : Boundary) (its : List Iteration) {s : Serve σ}
    (h : AtRest Q s.toInput) (result : Except HostV5Error Unit) : (serve_gameplay aead b its s).1 = .finished result →
    Q (.free []) (serve_gameplay aead b its s).2.sink ∨
    (∃ e, result = .error e) ∧ Q .release (serve_gameplay aead b its s).2.sink := by
  have hinner := serve_gameplay_inner_known H aead b its (s := { s with ordered := .require_fresh_session }) h
  unfold serve_gameplay
  rcases heq : serve_gameplay_inner aead b its { s with ordered := .require_fresh_session } with ⟨served | _, s₁⟩
  all_goals rw [heq] at hinner
  · obtain ⟨stage, hstage⟩ := hinner served rfl
    rw [← (notify_session_end_unmoved b.stopping s₁).sink] at hstage
    obtain ⟨hok, herror⟩ := H.cancel_with_deadline b.cancel.started b.cancel.attempts hstage
    dsimp only
    rcases hcancel : cancel_with_deadline b.cancel.started b.cancel.attempts (notify_session_end b.stopping s₁).sink with
      ⟨(e | ⟨⟨⟩⟩) | _, sink⟩
    · intro hr
      cases hr
      exact .inr ⟨⟨_, rfl⟩, herror e sink hcancel⟩
    · exact fun _ => .inl (hok sink hcancel)
    · exact fun hr => (by cases hr)
  · exact fun hr => (by cases hr)

end V5Host

/-! ## The controller -/

namespace Metered

open V5Host Discipline

variable {Q : Stage → σ → Prop} (raw_os_error : IoError → Option Nat)

/-- The controller before a pass: its sink has let go, or still has to. -/
def Between (Q : Stage → σ → Prop) (c : Controller σ) : Prop := Q (.free []) c.sink ∨ Q .release c.sink

omit [InputSink σ] in
theorem Between.known {c : Controller σ} (h : Between Q c) : ∃ stage, Q stage c.sink := by
  rcases h with hfree | hheld
  · exact ⟨_, hfree⟩
  · exact ⟨_, hheld⟩

/-- The controller when it starts to wait for a phone. -/
def let_go (p : Pass) (c : Controller σ) : Option (Controller σ) :=
  if InputSink.has_active_input c.sink then
    match release raw_os_error p.release c with
    | (.finished (.ok ()), c) => some c
    | _ => none
  else some c

/-- The controller before the pass after `passes`, while its loop still runs. -/
def after (aead : Aead) : List Pass → Controller σ → Option (Controller σ)
  | [], c => some c
  | p :: passes, c =>
    if p.stopping then none
    else
      match pass raw_os_error aead p c with
      | (.finished .continued, c) => after aead passes c
      | _ => none

theorem run_after (aead : Aead) (last : Submission) (passes rest : List Pass) {c c' : Controller σ}
    (h : after raw_os_error aead passes c = some c') :
    run_v5_controller raw_os_error aead last (passes ++ rest) c = run_v5_controller raw_os_error aead last rest c' := by
  induction passes generalizing c with
  | nil =>
    cases h
    rfl
  | cons p passes ih =>
    unfold after at h
    rw [List.cons_append, run_v5_controller]
    split at h
    · cases h
    rename_i hrunning
    rw [if_neg hrunning]
    split at h
    · rename_i heq
      rw [heq]
      exact ih h
    · cases h

/-- A pass goes on only once the sink has let go. -/
theorem pass_let_go (aead : Aead) (p : Pass) {c c' : Controller σ} (h : let_go raw_os_error p c = some c') :
    pass raw_os_error aead p c = proceed raw_os_error aead p c' := by
  unfold let_go at h
  unfold pass
  split
  · rename_i hactive
    rw [if_pos hactive] at h
    split at h
    · rename_i heq
      cases h
      rw [heq]
    · cases h
  · rename_i hactive
    rw [if_neg hactive] at h
    cases h
    rfl

theorem release_sink (s : Submission) (c : Controller σ) :
    ((release raw_os_error s c).1, (release raw_os_error s c).2.sink) =
      Trackpad.cancel_with_deadline s.started s.attempts c.sink :=
  cancel_with_deadline_cancels raw_os_error s c.sink c.metrics

theorem release_spec (H : Discipline Q) {stage : Stage} (s : Submission) {c : Controller σ} (h : Q stage c.sink) :
    (∀ c', release raw_os_error s c = (.finished (.ok ()), c') → Q (.free []) c'.sink) ∧
    ∀ result c', release raw_os_error s c = (.finished result, c') → Between Q c' := by
  obtain ⟨hok, herror⟩ := H.cancel_with_deadline s.started s.attempts h
  have hsink := release_sink raw_os_error s c
  refine ⟨fun c' hr => ?_, fun result c' hr => ?_⟩
  · rw [hr] at hsink
    exact hok _ hsink.symm
  · rw [hr] at hsink
    rcases result with e | ⟨⟨⟩⟩
    · exact .inr (herror e _ hsink.symm)
    · exact .inl (hok _ hsink.symm)

theorem let_go_free (H : Discipline Q) (p : Pass) {c c' : Controller σ} (h : Between Q c)
    (hgone : let_go raw_os_error p c = some c') : Q (.free []) c'.sink := by
  unfold let_go at hgone
  split at hgone
  · split at hgone
    · rename_i heq
      cases hgone
      obtain ⟨stage, hstage⟩ := h.known
      exact (release_spec raw_os_error H p.release hstage).1 _ heq
    · cases hgone
  · rename_i hactive
    cases hgone
    exact h.resolve_right fun hheld => hactive (H.active hheld)

theorem connected_between (H : Discipline Q) (aead : Aead) (link : Link) {c c' : Controller σ} {flow : Flow}
    (h : Q (.free []) c.sink) (hc : connected raw_os_error aead link c = (.finished flow, c')) : Between Q c' := by
  have hserves := serve_gameplay_serves raw_os_error aead link.boundary link.iterations (link.accept c)
    c.metrics.begin_connection
  have hends := serve_gameplay_ends H aead link.boundary link.iterations (s := link.accept c) h
  unfold connected at hc
  rcases heq : serve_gameplay raw_os_error aead link.boundary link.iterations (link.accept c)
    c.metrics.begin_connection with ⟨⟨(e | ⟨⟨⟩⟩) | _, s⟩, m⟩
  all_goals
    rw [heq] at hserves hc
    rw [← hserves] at hends
    dsimp only at hends hc
  · have hended : Between Q ⟨s.ordered, s.sink, m⟩ := (hends (.error e) rfl).imp_right And.right
    split at hc
    · cases hc
      exact hended
    · obtain ⟨stage, hstage⟩ := hended.known
      have hreleased := (release_spec raw_os_error H link.release (c := ⟨.require_fresh_session, s.sink, m⟩) hstage).2
      split at hc
      · cases hc
      · rename_i heq'
        cases hc
        exact hreleased _ _ heq'
  · cases hc
    exact (hends (.ok ()) rfl).imp_right And.right
  · cases hc

theorem pass_between (H : Discipline Q) (aead : Aead) (p : Pass) {c c' : Controller σ} {flow : Flow} (h : Between Q c)
    (hp : pass raw_os_error aead p c = (.finished flow, c')) : Between Q c' := by
  rcases hgone : let_go raw_os_error p c with _ | c₁
  · -- The release failed, so the pass goes round again.
    unfold let_go at hgone
    unfold pass at hp
    split at hgone
    · rename_i hactive
      rw [if_pos hactive] at hp
      obtain ⟨stage, hstage⟩ := h.known
      have hreleased := (release_spec raw_os_error H p.release hstage).2
      rcases heq : release raw_os_error p.release c with ⟨(e | ⟨⟨⟩⟩) | _, c₁⟩
      all_goals rw [heq] at hp hgone
      · cases hp
        exact hreleased _ _ heq
      · cases hgone
      · cases hp
    · cases hgone
  · have hfree := let_go_free raw_os_error H p h hgone
    rw [pass_let_go raw_os_error aead p hgone] at hp
    unfold proceed at hp
    split at hp
    · exact connected_between raw_os_error H aead _ hfree hp
    · cases hp
      exact .inl hfree
    · cases hp
      exact .inl hfree

/-- Before each pass the sink has let go, or still has to. -/
theorem after_between (H : Discipline Q) (aead : Aead) (passes : List Pass) {c c' : Controller σ} (h : Between Q c)
    (hafter : after raw_os_error aead passes c = some c') : Between Q c' := by
  induction passes generalizing c with
  | nil =>
    cases hafter
    exact h
  | cons p passes ih =>
    unfold after at hafter
    split at hafter
    · cases hafter
    split at hafter
    · rename_i heq
      exact ih (pass_between raw_os_error H aead p h heq) hafter
    · cases hafter

end Metered

end Trackpad
