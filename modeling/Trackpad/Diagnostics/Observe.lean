import Trackpad.Diagnostics.Analysis
/-!
# Observing events

`observe` takes one recorded event into the analysis, and `finish` closes it.
-/

namespace Trackpad.Diagnostics

namespace Analysis

/-! ## Received frames -/

/-- A measured time above the budget is an anomaly. -/
def delta_budget (key : Measure) (later earlier : Nat) (e : Event) (cause : Cause) (a : Analysis) : Analysis :=
  let (ns, a) := a.delta key later earlier
  a.anomaly_if (ns.any fun v => v > a.budget_ns) e cause

/-- The intervals between a gameplay frame and the one before it in its session. -/
def observe_cadence (e : Event) (a : Analysis) : Analysis :=
  match a.last_unique with
  | none => a
  | some previous =>
    if previous.session = e.session then
      let receive_gap := e.at_ - previous.at_
      let a := a.sample .unique_gameplay_receive_interval_ns receive_gap
      if e.d4 ≥ previous.d4 then
        let excess := receive_gap - (e.d4 - previous.d4)
        let a := a.sample .unique_gameplay_cadence_excess_ns excess
        a.anomaly_if (excess > a.budget_ns) e .delivery_cadence_excess_origin_unresolved
      else a
    else a

/-- What only a gameplay frame is measured for. -/
def observe_gameplay (e : Event) (a : Analysis) : Analysis :=
  let a := a.anomaly_if (e.d4 = 0 || e.d5 < e.d4 || e.d6 < e.d5) e .android_timestamp_order_invalid
  let historical := e.d9 &&& 2 ≠ 0
  let a := a.count (if historical then .historical_frames_observed else .current_frames_observed) 1
  let a := a.delta_budget (if historical then .android_historical_dispatch_ns else .android_current_dispatch_ns) e.d5 e.d4
    e .android_dispatch_budget
  let a := a.delta_budget .android_callback_to_winning_attempt_ns e.d6 e.d5 e .android_queue_or_repair_age_budget
  let a := a.observe_cadence e
  { a with last_unique := some e }

/-- The frame enters its slot. -/
def take_slot (e : Event) (forward : Option (Nat × Nat)) (a : Analysis) : Analysis :=
  let a := if (a.pending (slot e.sequence)).isSome then
      (a.count .diagnostic_pending_collision 1).anomaly e .diagnostic_coverage_gap
    else a
  { a with
    pending := Function.update a.pending (slot e.sequence) (some e)
    forward_bounds := Function.update a.forward_bounds (slot e.sequence) forward }

def observe_receive (e : Event) (a : Analysis) : Analysis :=
  let a := a.count .unique_logical_frames_observed 1
  let a := if e.d9 &&& 4 ≠ 0 then a.count .unique_heartbeats 1 else a
  let a := if e.d9 &&& 1 ≠ 0 then a.observe_gameplay e else a
  let (forward, a) := a.transport_bounds e
  a.take_slot e forward

def observe_gap (e : Event) (a : Analysis) : Analysis :=
  let a := a.count .future_unique_frames 1
  let a := match a.gap with
    | some (session, expected, start, through) =>
      if (session, expected) = (e.session, e.d4) then { a with gap := some (session, expected, start, max through e.sequence) }
      else { a.count .ordering_holes 1 with gap := some (e.session, e.d4, e.at_, e.sequence) }
    | none => { a.count .ordering_holes 1 with gap := some (e.session, e.d4, e.at_, e.sequence) }
  a.anomaly e .protocol_ordering_hole_loss_or_reorder

/-! ## Outcomes -/

/-- The budget of an accepted gameplay frame `f`, `service` after it was received. -/
def judge (e f : Event) (service : Nat) (a : Analysis) : Analysis :=
  if f.d4 > 0 ∧ f.d5 ≥ f.d4 ∧ f.d6 ≥ f.d5 then
    let phone_age := f.d6 - f.d4
    let timestamp_total := saturating_add phone_age service
    let lower := timestamp_total - (1000000 + phone_age / 1000)
    let historical := f.d9 &&& 2 ≠ 0
    let a := a.sample (if historical then .historical_event_to_sink_local_lower_bound_ns
      else .current_event_to_sink_local_lower_bound_ns) lower
    let a := a.anomaly_if (lower > a.budget_ns) e .event_to_sink_definite_budget_violation
    match a.forward_bounds (slot e.sequence) with
    | some bounds =>
      let low := saturating_add lower bounds.1
      let high := saturating_add (saturating_add timestamp_total (phone_age / 1000)) bounds.2
      let a := a.sample (if historical then .historical_event_to_sink_lower_ns else .current_event_to_sink_lower_ns) low
      let a := a.sample (if historical then .historical_event_to_sink_upper_ns else .current_event_to_sink_upper_ns) high
      if low > a.budget_ns then
        (a.count .gameplay_budget_definite_fail 1).anomaly e .bounded_event_to_sink_budget_violation
      else if high > a.budget_ns then
        (a.count .gameplay_budget_uncertain 1).anomaly e .event_to_sink_budget_uncertain
      else a.count .gameplay_within_budget_under_clock_assumption 1
    | none => a.count .gameplay_budget_unmeasurable 1
  else a.count .gameplay_budget_unmeasurable 1

/-- The frame in the slot of an outcome, if it is the outcome's. -/
def evidence (e : Event) (a : Analysis) : Option Event := (a.pending (slot e.sequence)).filter fun p => p.frame = e.frame

/-- The times of a received frame up to its outcome. -/
def measure_service (e f : Event) (a : Analysis) : Analysis :=
  let a := (a.delta .host_receive_to_ready_ns e.d4 f.at_).2
  let a := a.sample .host_receive_to_sink_outcome_ns (e.at_ - f.at_)
  a.anomaly_if (e.d4 - f.at_ > a.budget_ns) e .host_decode_order_or_scheduling_budget

/-- What an outcome says of the frame it was received as. -/
def observe_service (e f : Event) (a : Analysis) : Analysis :=
  let a := a.measure_service e f
  if e.kind = ACCEPT then
    let a := { a with pending := Function.update a.pending (slot e.sequence) none }
    if f.d9 &&& 1 ≠ 0 then (a.count .gameplay_os_accepted 1).judge e f (e.at_ - f.at_) else a
  else a

/-- The first frame accepted after a failed session. -/
def observe_recovery (e : Event) (a : Analysis) : Analysis :=
  match a.recovering with
  | none => a
  | some index =>
    { a.on_incident index fun incident => { incident with
        fresh_session_commit_ns := some e.at_
        recovery_ns := some (e.at_ - incident.started_ns) } with
      recovering := none
      awaiting_snapshot := some index }

/-- The first snapshot accepted after a failed session. -/
def observe_snapshot (e : Event) (accepted_flags : Option Nat) (a : Analysis) : Analysis :=
  match a.awaiting_snapshot with
  | none => a
  | some index =>
    if accepted_flags.any fun flags => flags &&& 5 ≠ 0 then
      { a.on_incident index fun incident => { incident with reconstructed_snapshot_ns := some e.at_ } with
        awaiting_snapshot := none }
    else a

/-- A hole is closed by the last frame beyond it. -/
def observe_through (e : Event) (a : Analysis) : Analysis :=
  match a.gap with
  | some (session, _, start, through) =>
    if session = e.session ∧ e.sequence ≥ through then
      { a.sample .ordering_hole_until_commit_ns (e.at_ - start) with gap := none }
    else a
  | none => a

/-- The active incident recovers once nothing is outstanding. -/
def observe_settled (e : Event) (a : Analysis) : Analysis :=
  match a.active with
  | some index =>
    if a.gap.isNone ∧ ∀ i, (a.pending i).isNone then
      a.on_incident index fun incident => { incident with
        recovery_ns := some (incident.recovery_ns.getD (e.at_ - incident.started_ns)) }
    else a
  | none => a

/-- What the sink's attempts took. -/
def observe_attempts (e : Event) (a : Analysis) : Analysis :=
  let a := a.count .sink_retries e.d5
  let a := a.anomaly_if (e.d5 > 0) e .os_sink_retry
  let a := a.anomaly_if (e.kind = SINK_FAILURE) e .os_sink_failure
  a.delta_budget .sink_attempts_including_planning_ns e.at_ e.d4 e .sink_submission_budget

/-- What an accepted frame ends: a recovery, a hole, an incident. -/
def observe_accepted (e : Event) (accepted_flags : Option Nat) (a : Analysis) : Analysis :=
  let a := (((a.observe_recovery e).observe_snapshot e accepted_flags).observe_through e).observe_settled e
  { a with last_commit := some e }

/-- An outcome is measured against the frame it belongs to. -/
def observe_evidence (e : Event) (a : Analysis) : Analysis :=
  match a.evidence e with
  | some f => a.observe_service e f
  | none => a.count .outcome_without_receive_evidence 1

def observe_outcome (e : Event) (a : Analysis) : Analysis :=
  let accepted_flags := (a.evidence e).map Event.d9
  let a := a.count (if e.kind = ACCEPT then .os_accepted else .os_failed) 1
  let a := (a.observe_attempts e).observe_evidence e
  if e.kind = ACCEPT then a.observe_accepted e accepted_flags else a

/-! ## The other kinds -/

def observe_begin (e : Event) (a : Analysis) : Analysis :=
  { (a.discard_pending e).count .connections 1 with
    last_unique := none
    last_commit := none
    gap := none
    clock := none }

def observe_reject (e : Event) (a : Analysis) : Analysis :=
  let a := a.count .protocol_rejected 1
  let a := if (a.evidence e).isSome then { a with pending := Function.update a.pending (slot e.sequence) none } else a
  a.anomaly e .protocol_frame_rejected

def observe_boundary (e : Event) (a : Analysis) : Analysis :=
  let a := if e.d4 ≠ 0 then
      let a := (a.count .failed_boundaries 1).anomaly e .session_failure_boundary
      { a with recovering := a.active }
    else a
  { a.discard_pending e with
    gap := none
    last_unique := none }

def observe_ack (e : Event) (a : Analysis) : Analysis :=
  let a := a.count (if e.d5 ≠ 0 then .ack_progress_submissions else .ack_repeat_submissions) 1
  let a := a.sample .host_ack_submission_ns e.d4
  let a := a.anomaly_if (e.d6 ≠ 0) e .host_ack_send_failure
  a.anomaly_if (e.d4 > a.budget_ns) e .host_ack_submission_budget

def observe_ingress (e : Event) (a : Analysis) : Analysis :=
  let key := match e.d4 with
    | 1 => .ingress_wrong_peer_or_interface
    | 2 => .aead_packet_replay
    | 3 => .bad_tag
    | _ => .malformed_or_wrong_connection
  (a.count key 1).anomaly e .ingress_discard_not_gameplay_loss_proof

def observe_cancel (e : Event) (a : Analysis) : Analysis :=
  let a := a.count .release_attempts 1
  let a := a.anomaly_if (e.d5 ≠ 0) e .os_release_failure
  a.anomaly_if (e.d4 > a.budget_ns) e .os_release_budget

/-- The match over `d[0]`. -/
def observe_kind (e : Event) (a : Analysis) : Analysis :=
  if e.kind = BEGIN then a.observe_begin e
  else if e.kind = RECEIVE then a.observe_receive e
  else if e.kind = DUPLICATE then a.count .logical_duplicate_datagrams 1
  else if e.kind = GAP then a.observe_gap e
  else if e.kind = ACCEPT ∨ e.kind = SINK_FAILURE then a.observe_outcome e
  else if e.kind = REJECT then a.observe_reject e
  else if e.kind = BOUNDARY then a.observe_boundary e
  else if e.kind = ACK then a.observe_ack e
  else if e.kind = INGRESS then a.observe_ingress e
  else if e.kind = CANCEL then a.observe_cancel e
  else if e.kind = STALL then (a.count .watchdog_or_interface_failures 1).anomaly e .watchdog_or_interface_boundary
  else a

/-- The active incident closes when nothing has happened to it for the quiet window. -/
def quiet (e : Event) (a : Analysis) : Analysis :=
  match a.active with
  | none => a
  | some index =>
    if a.gap.isNone ∧ (a.incidents[index]?).any fun incident => e.at_ - incident.last_anomaly_ns > QUIET_NS then
      { a.on_incident index fun incident => { incident with post_context_complete := true } with
        active := none
        last_bad_frame := none }
    else a

/-- An event of the recovery belongs to the incident it recovers from, also once that is closed. -/
def preserve (e : Event) (recovery_target : Option Nat) (a : Analysis) : Analysis :=
  match recovery_target with
  | some index => if a.active ≠ some index then a.on_incident index (Incident.push e) else a
  | none => a

def remember (e : Event) (a : Analysis) : Analysis :=
  let history := if a.history.length = CONTEXT then a.history.tail else a.history
  { a with history := history ++ [e] }

def observe (e : Event) (a : Analysis) : Analysis :=
  let recovery_target := a.recovering.or a.awaiting_snapshot
  let a := { a with last_event_ns := max a.last_event_ns e.at_ }
  (((a.quiet e).observe_kind e).preserve e recovery_target).retain e |>.remember e

def finish (dropped : Nat) (a : Analysis) : Analysis :=
  let event := Event.new BOUNDARY a.last_event_ns 0 0 []
  let a := { a with diagnostic_records_dropped := dropped }.discard_pending event
  a.anomaly_if (dropped > 0) event .diagnostic_coverage_gap

/-- The analysis of a recording. -/
def observed (events : List Event) (a : Analysis) : Analysis := events.foldl (fun a e => a.observe e) a

/-! ## The match, kind by kind -/

section

variable {e : Event} {a : Analysis}

theorem observe_kind_begin (h : e.kind = BEGIN) : a.observe_kind e = a.observe_begin e := if_pos h

theorem observe_kind_receive (h : e.kind = RECEIVE) : a.observe_kind e = a.observe_receive e := by
  unfold observe_kind
  rw [h]
  rfl

theorem observe_kind_duplicate (h : e.kind = DUPLICATE) : a.observe_kind e = a.count .logical_duplicate_datagrams 1 := by
  unfold observe_kind
  rw [h]
  rfl

theorem observe_kind_gap (h : e.kind = GAP) : a.observe_kind e = a.observe_gap e := by
  unfold observe_kind
  rw [h]
  rfl

theorem observe_kind_outcome (h : e.kind = ACCEPT ∨ e.kind = SINK_FAILURE) : a.observe_kind e = a.observe_outcome e := by
  unfold observe_kind
  rcases h with h | h <;> rw [h] <;> rfl

theorem observe_kind_reject (h : e.kind = REJECT) : a.observe_kind e = a.observe_reject e := by
  unfold observe_kind
  rw [h]
  rfl

theorem observe_kind_boundary (h : e.kind = BOUNDARY) : a.observe_kind e = a.observe_boundary e := by
  unfold observe_kind
  rw [h]
  rfl

theorem observe_kind_ack (h : e.kind = ACK) : a.observe_kind e = a.observe_ack e := by
  unfold observe_kind
  rw [h]
  rfl

theorem observe_kind_ingress (h : e.kind = INGRESS) : a.observe_kind e = a.observe_ingress e := by
  unfold observe_kind
  rw [h]
  rfl

theorem observe_kind_cancel (h : e.kind = CANCEL) : a.observe_kind e = a.observe_cancel e := by
  unfold observe_kind
  rw [h]
  rfl

theorem observe_kind_stall (h : e.kind = STALL) : a.observe_kind e =
    (a.count .watchdog_or_interface_failures 1).anomaly e .watchdog_or_interface_boundary := by
  unfold observe_kind
  rw [h]
  rfl

end

end Analysis

end Trackpad.Diagnostics
