import Trackpad.Protocol
/-!
# Host diagnostics

`Analysis` reads the events the input thread recorded, one after another: it counts them, pairs each received frame with
its outcome in a table of 256 slots, bounds the phone's clock by the echoes the frames carry, and gathers incidents with
their evidence. `u64` and `i128` values are `Nat`s and `Int`s; an `as u64` keeps the low 64 bits.
-/

namespace Trackpad.Diagnostics

def RECEIVE : Nat := 1
def ACCEPT : Nat := 2
def GAP : Nat := 3
def REJECT : Nat := 4
def BOUNDARY : Nat := 5
def ACK : Nat := 6
def SINK_FAILURE : Nat := 8
def INGRESS : Nat := 9
def BEGIN : Nat := 10
def CANCEL : Nat := 11
def STALL : Nat := 12
def DUPLICATE : Nat := 13
def CONTEXT : Nat := 128
def MAX_INCIDENTS : Nat := 256
def MAX_EVIDENCE : Nat := 512
def QUIET_NS : Nat := 32000000
def U64_MAX : Nat := 2 ^ 64 - 1

/-- `Event.0`: the kind, the local time, the session, the sequence and eight fields of the kind. -/
structure Event where
  kind : Nat
  at_ : Nat
  session : Nat
  sequence : Nat
  d4 : Nat
  d5 : Nat
  d6 : Nat
  d7 : Nat
  d8 : Nat
  d9 : Nat
  d10 : Nat
  d11 : Nat
deriving DecidableEq

/-- `Event::new`, from the fields given. -/
def Event.new (kind at_ session sequence : Nat) (fields : List Nat) : Event :=
  ⟨kind, at_, session, sequence, fields.getD 0 0, fields.getD 1 0, fields.getD 2 0, fields.getD 3 0, fields.getD 4 0,
    fields.getD 5 0, fields.getD 6 0, fields.getD 7 0⟩

/-- `d[2..4]`. -/
def Event.frame (e : Event) : Nat × Nat := (e.session, e.sequence)

/-- The keys of `counts`. -/
inductive Count
  | clock_exchange_missing_or_invalid | clock_exchange_stale | clock_exchange_invalid | clock_model_resets
  | reused_control_echo_excluded_from_reverse_distribution
  | observed_uncommitted_at_boundary | gameplay_uncommitted_at_boundary | connections
  | unique_logical_frames_observed | unique_heartbeats | historical_frames_observed | current_frames_observed
  | diagnostic_pending_collision | logical_duplicate_datagrams | future_unique_frames | ordering_holes
  | os_accepted | os_failed | sink_retries | gameplay_os_accepted | gameplay_budget_definite_fail
  | gameplay_budget_uncertain | gameplay_within_budget_under_clock_assumption | gameplay_budget_unmeasurable
  | outcome_without_receive_evidence | protocol_rejected | failed_boundaries | ack_progress_submissions
  | ack_repeat_submissions | ingress_wrong_peer_or_interface | aead_packet_replay | bad_tag
  | malformed_or_wrong_connection | release_attempts | watchdog_or_interface_failures
deriving DecidableEq

/-- The keys of `series`. -/
inductive Measure
  | duplex_exchange_residual_upper_ns | forward_transit_lower_bound_ns | forward_transit_upper_bound_ns
  | control_frame_forward_lower_ns | control_frame_forward_upper_ns | clock_offset_interval_width_ns
  | reverse_control_lower_bound_ns | reverse_control_upper_bound_ns | android_historical_dispatch_ns
  | android_current_dispatch_ns | android_callback_to_winning_attempt_ns | unique_gameplay_receive_interval_ns
  | unique_gameplay_cadence_excess_ns | sink_attempts_including_planning_ns | host_receive_to_ready_ns
  | host_receive_to_sink_outcome_ns | historical_event_to_sink_local_lower_bound_ns | historical_event_to_sink_lower_ns
  | historical_event_to_sink_upper_ns | current_event_to_sink_local_lower_bound_ns | current_event_to_sink_lower_ns
  | current_event_to_sink_upper_ns | ordering_hole_until_commit_ns | host_ack_submission_ns
deriving DecidableEq

inductive Cause
  | clock_rate_assumption_or_timestamps_inconsistent | forward_transport_or_endpoint_stall_bounded
  | forward_latency_budget_uncertain | reverse_control_or_endpoint_stall_bounded | protocol_observed_frame_abandoned
  | android_timestamp_order_invalid | android_dispatch_budget | android_queue_or_repair_age_budget
  | delivery_cadence_excess_origin_unresolved | diagnostic_coverage_gap | protocol_ordering_hole_loss_or_reorder
  | os_sink_retry | os_sink_failure | sink_submission_budget | host_decode_order_or_scheduling_budget
  | event_to_sink_definite_budget_violation | bounded_event_to_sink_budget_violation | event_to_sink_budget_uncertain
  | protocol_frame_rejected | session_failure_boundary | host_ack_send_failure | host_ack_submission_budget
  | ingress_discard_not_gameplay_loss_proof | os_release_failure | os_release_budget | watchdog_or_interface_boundary
deriving DecidableEq

structure Series where
  n : Nat
  invalid : Nat
  over_budget : Nat
  max_ns : Nat
  sum_ns : Nat
  bins : List Nat

def Series.default : Series := ⟨0, 0, 0, 0, 0, List.replicate 2049 0⟩

/-- The bin of a value: exact below 32, then 32 to the power of two. -/
def Series.index (ns : Nat) : Nat :=
  let exponent := Nat.log2 (max ns 1)
  let shift := exponent - 5
  if ns < 32 then ns else (exponent - 4) * 32 + ((ns >>> shift) - 32)

def Series.push (ns budget : Nat) (s : Series) : Series :=
  { s with
    bins := s.bins.modify (Series.index ns) (· + 1)
    n := s.n + 1
    sum_ns := s.sum_ns + ns
    max_ns := max s.max_ns ns
    over_budget := s.over_budget + if ns > budget then 1 else 0 }

structure Incident where
  id : Nat
  started_ns : Nat
  last_anomaly_ns : Nat
  last_evidence_ns : Nat
  recovery_ns : Option Nat
  fresh_session_commit_ns : Option Nat
  reconstructed_snapshot_ns : Option Nat
  causes : List Cause
  affected_frames : Nat
  affected_frame_keys : List (Nat × Nat)
  affected_keys_omitted : Nat
  first_frame : Nat × Nat
  last_frame : Nat × Nat
  evidence_omitted : Nat
  pre_context_truncated : Bool
  post_context_complete : Bool
  evidence : List Event

/-- The times and interval of the last clock exchange: session, host receive, and the bounds on the offset. -/
structure Clock where
  session : Nat
  at_ : Nat
  low : Int
  high : Int
deriving DecidableEq

structure Analysis where
  budget_ns : Nat
  counts : Count → Nat
  series : Measure → Series
  incidents : List Incident
  incidents_omitted : Nat
  diagnostic_records_dropped : Nat
  last_event_ns : Nat
  pending : Fin MAX_REORDERED_FRAMES → Option Event
  forward_bounds : Fin MAX_REORDERED_FRAMES → Option (Nat × Nat)
  clock : Option Clock
  history : List Event
  active : Option Nat
  /-- Session, expected sequence, start and the highest sequence seen beyond the hole. -/
  gap : Option (Nat × Nat × Nat × Nat)
  last_unique : Option Event
  last_commit : Option Event
  last_bad_frame : Option (Nat × Nat)
  recovering : Option Nat
  awaiting_snapshot : Option Nat
  last_reverse_echo : Option (Nat × Nat)

theorem slot_lt (sequence : Nat) : sequence % MAX_REORDERED_FRAMES < MAX_REORDERED_FRAMES := Nat.mod_lt _ (by decide)

/-- `d[3] as usize % self.pending.len()`. -/
def slot (sequence : Nat) : Fin MAX_REORDERED_FRAMES := ⟨sequence % MAX_REORDERED_FRAMES, slot_lt sequence⟩

/-- `as u64`. -/
def as_u64 (value : Int) : Nat := (value % 2 ^ 64).toNat

def saturating_add (a b : Nat) : Nat := min (a + b) U64_MAX

/-- A set kept as a list without repetitions. -/
def inserted {α : Type} [DecidableEq α] (a : α) (set : List α) : List α := if a ∈ set then set else set ++ [a]

namespace Analysis

def new (budget_ns : Nat) : Analysis where
  budget_ns := budget_ns
  counts := fun _ => 0
  series := fun _ => .default
  incidents := []
  incidents_omitted := 0
  diagnostic_records_dropped := 0
  last_event_ns := 0
  pending := fun _ => none
  forward_bounds := fun _ => none
  clock := none
  history := []
  active := none
  gap := none
  last_unique := none
  last_commit := none
  last_bad_frame := none
  recovering := none
  awaiting_snapshot := none
  last_reverse_echo := none

def count (key : Count) (n : Nat) (a : Analysis) : Analysis :=
  { a with counts := Function.update a.counts key (a.counts key + n) }

def sample (key : Measure) (ns : Nat) (a : Analysis) : Analysis :=
  { a with series := Function.update a.series key ((a.series key).push ns a.budget_ns) }

def delta (key : Measure) (later earlier : Nat) (a : Analysis) : Option Nat × Analysis :=
  if earlier = 0 ∨ later < earlier then
    let series := { a.series key with invalid := (a.series key).invalid + 1 }
    (none, { a with series := Function.update a.series key series })
  else (some (later - earlier), a.sample key (later - earlier))

/-- Changes the incident at `index`. -/
def on_incident (index : Nat) (f : Incident → Incident) (a : Analysis) : Analysis :=
  { a with incidents := a.incidents.modify index f }

/-- What an anomaly adds to its incident. -/
def Incident.add (e : Event) (cause : Cause) (new_frame : Bool) (incident : Incident) : Incident :=
  let incident := { incident with
    last_anomaly_ns := e.at_
    recovery_ns := none
    causes := inserted cause incident.causes
    affected_frames := incident.affected_frames + if new_frame then 1 else 0
    last_frame := e.frame }
  if e.session ≠ 0 ∧ e.sequence ≠ U64_MAX then
    if incident.affected_frame_keys.length < MAX_EVIDENCE then
      { incident with affected_frame_keys := inserted e.frame incident.affected_frame_keys }
    else if e.frame ∉ incident.affected_frame_keys then
      { incident with affected_keys_omitted := incident.affected_keys_omitted + 1 }
    else incident
  else incident

/-- A new incident, which starts with the history. -/
def opened (e : Event) (a : Analysis) : Incident where
  id := a.incidents.length + 1
  started_ns := e.at_
  last_anomaly_ns := e.at_
  last_evidence_ns := e.at_
  recovery_ns := none
  fresh_session_commit_ns := none
  reconstructed_snapshot_ns := none
  causes := []
  affected_frames := 0
  affected_frame_keys := []
  affected_keys_omitted := 0
  first_frame := e.frame
  last_frame := e.frame
  evidence_omitted := 0
  pre_context_truncated := a.history.length = CONTEXT
  post_context_complete := false
  evidence := a.history

/-- The part of `anomaly` once an incident is active. -/
def add_anomaly (e : Event) (cause : Cause) (index : Nat) (a : Analysis) : Analysis :=
  let new_frame := a.last_bad_frame ≠ some e.frame
  { a.on_incident index (Incident.add e cause new_frame) with
    last_bad_frame := if new_frame then some e.frame else a.last_bad_frame }

def anomaly (e : Event) (cause : Cause) (a : Analysis) : Analysis :=
  match a.active with
  | some index => a.add_anomaly e cause index
  | none =>
    if a.incidents.length = MAX_INCIDENTS then { a with incidents_omitted := a.incidents_omitted + 1 }
    else
      { a with
        incidents := a.incidents ++ [a.opened e]
        active := some a.incidents.length }.add_anomaly e cause a.incidents.length

/-- `if bad { self.anomaly(e, cause) }`. -/
def anomaly_if (bad : Bool) (e : Event) (cause : Cause) (a : Analysis) : Analysis := if bad then a.anomaly e cause else a

def Incident.push (e : Event) (incident : Incident) : Incident :=
  if incident.evidence.length < MAX_EVIDENCE then { incident with evidence := incident.evidence ++ [e] }
  else { incident with evidence_omitted := incident.evidence_omitted + 1 }

def retain (e : Event) (a : Analysis) : Analysis :=
  match a.active with
  | some index => a.on_incident index fun incident => Incident.push e { incident with last_evidence_ns := e.at_ }
  | none => a

/-- One turn of the loop of `discard_pending`. -/
def discard (e : Event) (i : Fin MAX_REORDERED_FRAMES) (a : Analysis) : Analysis :=
  match a.pending i with
  | none => a
  | some frame =>
    let a := { a with pending := Function.update a.pending i none }
    let a := a.count .observed_uncommitted_at_boundary 1
    let a := if frame.d9 &&& 1 ≠ 0 then a.count .gameplay_uncommitted_at_boundary 1 else a
    let discarded := { frame with kind := REJECT, at_ := e.at_ }
    (a.anomaly discarded .protocol_observed_frame_abandoned).retain discarded

def discard_pending (e : Event) (a : Analysis) : Analysis :=
  (List.finRange MAX_REORDERED_FRAMES).foldl (fun a i => a.discard e i) a

/-! ## The clock -/

/-- What an exchange says of the offset by itself. -/
def exchange (e : Event) : Int × Int :=
  let uncertainty : Int := ((e.at_ - e.d7) / 1000 + 1 : Nat)
  ((e.d7 : Int) - e.d8 - uncertainty, (e.at_ : Int) - e.d6 + uncertainty)

/-- The retained interval, widened by the drift since. -/
def widened (e : Event) (interval : Int × Int) (clock : Clock) : Int × Int :=
  let drift : Int := ((e.at_ - clock.at_) / 1000 + 1 : Nat)
  (max interval.1 (clock.low - drift), min interval.2 (clock.high + drift))

/-- The interval an exchange is intersected to, or `none` where it has no point. -/
def intersected (e : Event) (interval : Int × Int) (a : Analysis) : Option (Int × Int) :=
  match a.clock with
  | some clock =>
    if clock.session = e.session ∧ e.at_ - clock.at_ ≤ 1000000000 then
      let intersection := widened e interval clock
      if intersection.1 ≤ intersection.2 then some intersection else none
    else some interval
  | none => some interval

/-- The forward bounds that an interval gives. -/
def forward (e : Event) (interval : Int × Int) : Nat × Nat :=
  let observed : Int := (e.at_ : Int) - e.d6
  (as_u64 (max (observed - interval.2) 0), as_u64 (max (observed - interval.1) 0))

/-- `lower_key` and `upper_key`, sampled: those of a gameplay frame or of a control frame. -/
def sample_forward (e : Event) (bounds : Nat × Nat) (a : Analysis) : Analysis :=
  if e.d9 &&& 1 ≠ 0 then
    (a.sample .forward_transit_lower_bound_ns bounds.1).sample .forward_transit_upper_bound_ns bounds.2
  else (a.sample .control_frame_forward_lower_ns bounds.1).sample .control_frame_forward_upper_ns bounds.2

/-- The samples of an accepted exchange. -/
def sample_exchange (e : Event) (interval : Int × Int) (a : Analysis) : Analysis :=
  let bounds := forward e interval
  let a := a.sample_forward e bounds
  let a := a.sample .clock_offset_interval_width_ns (as_u64 (interval.2 - interval.1))
  let reverse : Int := (e.d8 : Int) - e.d7
  let a := if a.last_reverse_echo.all fun last => last.1 ≠ e.session || e.d7 > last.2 then
      (({ a with last_reverse_echo := some (e.session, e.d7) }.sample .reverse_control_lower_bound_ns
        (as_u64 (max (reverse + interval.1) 0))).sample .reverse_control_upper_bound_ns
        (as_u64 (max (reverse + interval.2) 0)))
    else a.count .reused_control_echo_excluded_from_reverse_distribution 1
  let a := if bounds.1 > a.budget_ns then a.anomaly e .forward_transport_or_endpoint_stall_bounded
    else a.anomaly_if (bounds.2 > a.budget_ns) e .forward_latency_budget_uncertain
  a.anomaly_if (as_u64 (max (reverse + interval.1) 0) > a.budget_ns) e .reverse_control_or_endpoint_stall_bounded

def transport_bounds (e : Event) (a : Analysis) : Option (Nat × Nat) × Analysis :=
  if e.d7 = 0 ∨ e.d8 = 0 ∨ e.d6 < e.d8 ∨ e.at_ < e.d7 then (none, a.count .clock_exchange_missing_or_invalid 1)
  else if e.at_ - e.d7 > 2000000000 then (none, a.count .clock_exchange_stale 1)
  else
    let interval := exchange e
    if interval.1 > interval.2 then (none, a.count .clock_exchange_invalid 1)
    else
      let a := a.sample .duplex_exchange_residual_upper_ns (as_u64 (interval.2 - interval.1))
      match a.intersected e interval with
      | none =>
        let a := (a.count .clock_model_resets 1).anomaly e .clock_rate_assumption_or_timestamps_inconsistent
        (none, { a with clock := none })
      | some interval =>
        let a := { a with clock := some ⟨e.session, e.at_, interval.1, interval.2⟩ }
        (some (forward e interval), a.sample_exchange e interval)

end Analysis

end Trackpad.Diagnostics
