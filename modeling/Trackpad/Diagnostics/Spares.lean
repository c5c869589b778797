import Trackpad.Diagnostics.Observe
/-!
# What observing an event leaves alone

Most of what `observe` does goes into series and incidents. `Spares keys a b` says that only such things changed: the
counts of `keys`, the slots of the received frames, the clock and the series of the forward bounds are the same.
-/

namespace Trackpad.Diagnostics

/-- The counts that account for frames. -/
def Count.account : Count → Bool
  | .unique_logical_frames_observed | .logical_duplicate_datagrams | .protocol_rejected | .os_accepted
  | .observed_uncommitted_at_boundary | .diagnostic_pending_collision | .outcome_without_receive_evidence => true
  | _ => false

/-- The counts of exchanges that contradict the clock model. -/
def Count.contradiction : Count → Bool
  | .clock_exchange_invalid | .clock_model_resets => true
  | _ => false

/-- The series that report the forward bounds. -/
def Measure.forward : Measure → Bool
  | .forward_transit_lower_bound_ns | .forward_transit_upper_bound_ns | .control_frame_forward_lower_ns
  | .control_frame_forward_upper_ns => true
  | _ => false

namespace Analysis

structure Spares (keys : Count → Bool) (a b : Analysis) : Prop where
  counts : ∀ key, keys key = true → b.counts key = a.counts key
  pending : b.pending = a.pending
  forward_bounds : b.forward_bounds = a.forward_bounds
  clock : b.clock = a.clock
  series : ∀ key, key.forward = true → b.series key = a.series key
  budget_ns : b.budget_ns = a.budget_ns

variable {keys : Count → Bool} {a b c : Analysis}

theorem Spares.refl (keys : Count → Bool) (a : Analysis) : Spares keys a a := ⟨fun _ _ => rfl, rfl, rfl, rfl, fun _ _ => rfl, rfl⟩

theorem Spares.trans (h : Spares keys a b) (h' : Spares keys b c) : Spares keys a c where
  counts := fun key hkey => (h'.counts key hkey).trans (h.counts key hkey)
  pending := h'.pending.trans h.pending
  forward_bounds := h'.forward_bounds.trans h.forward_bounds
  clock := h'.clock.trans h.clock
  series := fun key hkey => (h'.series key hkey).trans (h.series key hkey)
  budget_ns := h'.budget_ns.trans h.budget_ns

theorem Spares.ite {p : Prop} {_ : Decidable p} (h : Spares keys a b) (h' : Spares keys a c) :
    Spares keys a (if p then b else c) := by
  split_ifs
  · exact h
  · exact h'

/-! ## The primitives -/

theorem Spares.count (h : Spares keys a b) {key : Count} (hkey : keys key = false) {n : Nat} :
    Spares keys a (b.count key n) where
  counts := fun other hother =>
    (Function.update_of_ne (fun heq => by rw [heq, hkey] at hother; cases hother) _ _).trans (h.counts other hother)
  pending := h.pending
  forward_bounds := h.forward_bounds
  clock := h.clock
  series := h.series
  budget_ns := h.budget_ns

theorem Spares.on_series (h : Spares keys a b) {key : Measure} (hkey : key.forward = false) {series : Series} :
    Spares keys a { b with series := Function.update b.series key series } where
  counts := h.counts
  pending := h.pending
  forward_bounds := h.forward_bounds
  clock := h.clock
  series := fun other hother =>
    (Function.update_of_ne (fun heq => by rw [heq, hkey] at hother; cases hother) _ _).trans (h.series other hother)
  budget_ns := h.budget_ns

theorem Spares.sample (h : Spares keys a b) {key : Measure} {ns : Nat} (hkey : key.forward = false) :
    Spares keys a (b.sample key ns) := h.on_series hkey

theorem Spares.delta (h : Spares keys a b) {key : Measure} {later earlier : Nat} (hkey : key.forward = false) :
    Spares keys a (b.delta key later earlier).2 := by
  unfold Analysis.delta
  split_ifs
  · exact h.on_series hkey
  · exact h.sample hkey

theorem Spares.anomaly (h : Spares keys a b) {e : Event} {cause : Cause} : Spares keys a (b.anomaly e cause) := by
  unfold Analysis.anomaly
  split
  · exact ⟨h.counts, h.pending, h.forward_bounds, h.clock, h.series, h.budget_ns⟩
  · split_ifs <;> exact ⟨h.counts, h.pending, h.forward_bounds, h.clock, h.series, h.budget_ns⟩

theorem Spares.anomaly_if (h : Spares keys a b) {bad : Bool} {e : Event} {cause : Cause} :
    Spares keys a (b.anomaly_if bad e cause) := h.anomaly.ite h

theorem Spares.retain (h : Spares keys a b) {e : Event} : Spares keys a (b.retain e) := by
  unfold Analysis.retain
  split
  · exact ⟨h.counts, h.pending, h.forward_bounds, h.clock, h.series, h.budget_ns⟩
  · exact h

theorem Spares.delta_budget (h : Spares keys a b) {key : Measure} {later earlier : Nat} {e : Event} {cause : Cause}
    (hkey : key.forward = false) : Spares keys a (b.delta_budget key later earlier e cause) := (h.delta hkey).anomaly_if

/-- The fields that no count and no slot depends on. -/
theorem Spares.last_unique (h : Spares keys a b) {last : Option Event} : Spares keys a { b with last_unique := last } :=
  ⟨h.counts, h.pending, h.forward_bounds, h.clock, h.series, h.budget_ns⟩

/-! ## Received frames -/

theorem Spares.cadence (h : Spares keys a b) {e : Event} : Spares keys a (b.observe_cadence e) := by
  unfold observe_cadence
  split
  · exact h
  · split_ifs
    · exact ((h.sample rfl).sample rfl).anomaly_if
    · exact h.sample rfl
    · exact h

theorem Spares.gameplay (hkeys : keys .historical_frames_observed = false ∧ keys .current_frames_observed = false)
    (h : Spares keys a b) {e : Event} : Spares keys a (b.observe_gameplay e) := by
  have hkey : ∀ historical : Prop, ∀ _ : Decidable historical,
      keys (if historical then .historical_frames_observed else .current_frames_observed) = false := by
    intro historical _
    split_ifs
    · exact hkeys.1
    · exact hkeys.2
  have hmeasure : ∀ historical : Prop, ∀ _ : Decidable historical,
      (if historical then Measure.android_historical_dispatch_ns else .android_current_dispatch_ns).forward = false := by
    intro historical _
    split_ifs <;> rfl
  unfold observe_gameplay
  exact (((h.anomaly_if.count (hkey _ _)).delta_budget (hmeasure _ _)).delta_budget rfl).cadence.last_unique

/-- The part of `observe_receive` before the clock. -/
theorem Spares.received (hkeys : keys .historical_frames_observed = false ∧ keys .current_frames_observed = false)
    (hheartbeats : keys .unique_heartbeats = false) (h : Spares keys a b) {e : Event} :
    let heartbeat := if e.d9 &&& 4 ≠ 0 then b.count .unique_heartbeats 1 else b
    Spares keys a (if e.d9 &&& 1 ≠ 0 then heartbeat.observe_gameplay e else heartbeat) :=
  have hheartbeat := (h.count hheartbeats).ite h
  (hheartbeat.gameplay hkeys).ite hheartbeat

/-- Of an accepted exchange only the forward samples are not spared. -/
theorem sample_exchange_spares (hkey : keys .reused_control_echo_excluded_from_reverse_distribution = false) (e : Event)
    (interval : Int × Int) (a : Analysis) :
    Spares keys (a.sample_forward e (forward e interval)) (a.sample_exchange e interval) := by
  have hecho : ∀ {b c : Analysis}, Spares keys b c → ∀ {echo}, Spares keys b { c with last_reverse_echo := echo } :=
    fun hc => ⟨hc.counts, hc.pending, hc.forward_bounds, hc.clock, hc.series, hc.budget_ns⟩
  have hwidth : ∀ ns, Spares keys (a.sample_forward e (forward e interval))
      ((a.sample_forward e (forward e interval)).sample .clock_offset_interval_width_ns ns) :=
    fun _ => (Spares.refl keys _).sample rfl
  unfold Analysis.sample_exchange
  refine Spares.anomaly_if (Spares.ite (Spares.anomaly ?_) (Spares.anomaly_if ?_)) <;>
    exact (((hecho (hwidth _)).sample rfl).sample rfl).ite ((hwidth _).count hkey)

/-- The forward samples are samples. -/
theorem sample_forward_counts (e : Event) (bounds : Nat × Nat) (a : Analysis) :
    (a.sample_forward e bounds).counts = a.counts ∧ (a.sample_forward e bounds).pending = a.pending ∧
      (a.sample_forward e bounds).forward_bounds = a.forward_bounds ∧ (a.sample_forward e bounds).clock = a.clock := by
  unfold sample_forward
  split_ifs <;> exact ⟨rfl, rfl, rfl, rfl⟩

theorem Spares.gap (hkeys : keys .future_unique_frames = false ∧ keys .ordering_holes = false) (h : Spares keys a b)
    {e : Event} : Spares keys a (b.observe_gap e) := by
  have hgap : ∀ (c : Analysis) gap, Spares keys a c → Spares keys a { c with gap := gap } :=
    fun c gap hc => ⟨hc.counts, hc.pending, hc.forward_bounds, hc.clock, hc.series, hc.budget_ns⟩
  have hfuture := h.count hkeys.1 (n := 1)
  unfold observe_gap
  refine Spares.anomaly ?_
  split
  · exact (hgap _ _ hfuture).ite (hgap _ _ (hfuture.count hkeys.2))
  · exact hgap _ _ (hfuture.count hkeys.2)

/-! ## Outcomes -/

theorem Spares.judge (hkeys : keys .gameplay_budget_definite_fail = false ∧ keys .gameplay_budget_uncertain = false ∧
    keys .gameplay_within_budget_under_clock_assumption = false ∧ keys .gameplay_budget_unmeasurable = false)
    (h : Spares keys a b) {e f : Event} {service : Nat} : Spares keys a (b.judge e f service) := by
  obtain ⟨hfail, huncertain, hwithin, hunmeasurable⟩ := hkeys
  have hmeasure : ∀ {historical : Prop} {_ : Decidable historical} {key other : Measure}, key.forward = false →
      other.forward = false → (if historical then key else other).forward = false := by
    intro historical _ key other hkey hother
    split_ifs
    · exact hkey
    · exact hother
  unfold Analysis.judge
  refine Spares.ite ?_ (h.count hunmeasurable)
  dsimp only
  have hlocal : ∀ {historical : Prop} {_ : Decidable historical} {lower : Nat} {bad : Bool} {cause : Cause},
      Spares keys a ((b.sample (if historical then .historical_event_to_sink_local_lower_bound_ns
        else .current_event_to_sink_local_lower_bound_ns) lower).anomaly_if bad e cause) :=
    fun {_ _ _ _ _} => (h.sample (hmeasure rfl rfl)).anomaly_if
  split
  · refine Spares.ite (Spares.anomaly (Spares.count ?_ hfail))
      (Spares.ite (Spares.anomaly (Spares.count ?_ huncertain)) (Spares.count ?_ hwithin)) <;>
      exact (hlocal.sample (hmeasure rfl rfl)).sample (hmeasure rfl rfl)
  · exact hlocal.count hunmeasurable

theorem Spares.recovery (h : Spares keys a b) {e : Event} : Spares keys a (b.observe_recovery e) := by
  unfold observe_recovery
  split
  · exact h
  · exact ⟨h.counts, h.pending, h.forward_bounds, h.clock, h.series, h.budget_ns⟩

theorem Spares.snapshot (h : Spares keys a b) {e : Event} {flags : Option Nat} :
    Spares keys a (b.observe_snapshot e flags) := by
  unfold observe_snapshot
  split
  · exact h
  · split_ifs
    · exact ⟨h.counts, h.pending, h.forward_bounds, h.clock, h.series, h.budget_ns⟩
    · exact h

theorem Spares.through (h : Spares keys a b) {e : Event} : Spares keys a (b.observe_through e) := by
  have hclosed : ∀ c, Spares keys a c → Spares keys a { c with gap := none } :=
    fun c hc => ⟨hc.counts, hc.pending, hc.forward_bounds, hc.clock, hc.series, hc.budget_ns⟩
  unfold observe_through
  split
  · split_ifs
    · exact hclosed _ (h.sample rfl)
    · exact h
  · exact h

theorem Spares.settled (h : Spares keys a b) {e : Event} : Spares keys a (b.observe_settled e) := by
  unfold observe_settled
  split
  · split_ifs
    · exact ⟨h.counts, h.pending, h.forward_bounds, h.clock, h.series, h.budget_ns⟩
    · exact h
  · exact h

/-- What an accepted frame does after its own slot was settled. -/
theorem Spares.accepted (h : Spares keys a b) {e : Event} {flags : Option Nat} :
    Spares keys a (b.observe_accepted e flags) :=
  have hsettled : Spares keys a ((((b.observe_recovery e).observe_snapshot e flags).observe_through e).observe_settled e) :=
    h.recovery.snapshot.through.settled
  ⟨hsettled.counts, hsettled.pending, hsettled.forward_bounds, hsettled.clock, hsettled.series, hsettled.budget_ns⟩

theorem Spares.attempts (hkey : keys .sink_retries = false) (h : Spares keys a b) {e : Event} :
    Spares keys a (b.observe_attempts e) := by
  unfold observe_attempts
  exact (h.count hkey).anomaly_if.anomaly_if.delta_budget rfl

theorem Spares.service (h : Spares keys a b) {e f : Event} : Spares keys a (b.measure_service e f) := by
  unfold measure_service
  exact ((h.delta rfl).sample rfl).anomaly_if

/-! ## The other kinds -/

theorem Spares.ack (hkeys : keys .ack_progress_submissions = false ∧ keys .ack_repeat_submissions = false)
    (h : Spares keys a b) {e : Event} : Spares keys a (b.observe_ack e) := by
  have hkey : ∀ progressed : Prop, ∀ _ : Decidable progressed,
      keys (if progressed then .ack_progress_submissions else .ack_repeat_submissions) = false := by
    intro progressed _
    split_ifs
    · exact hkeys.1
    · exact hkeys.2
  unfold observe_ack
  exact ((h.count (hkey _ _)).sample rfl).anomaly_if.anomaly_if

theorem Spares.ingress (hkeys : keys .ingress_wrong_peer_or_interface = false ∧ keys .aead_packet_replay = false ∧
    keys .bad_tag = false ∧ keys .malformed_or_wrong_connection = false) (h : Spares keys a b) {e : Event} :
    Spares keys a (b.observe_ingress e) := by
  obtain ⟨hpeer, hreplay, htag, hmalformed⟩ := hkeys
  unfold observe_ingress
  refine (h.count ?_).anomaly
  split <;> assumption

theorem Spares.cancel (hkey : keys .release_attempts = false) (h : Spares keys a b) {e : Event} :
    Spares keys a (b.observe_cancel e) := (h.count hkey).anomaly_if.anomaly_if

/-! ## Before and after the match -/

theorem Spares.quiet (h : Spares keys a b) {e : Event} : Spares keys a (b.quiet e) := by
  unfold Analysis.quiet
  split
  · exact h
  · split_ifs
    · exact ⟨h.counts, h.pending, h.forward_bounds, h.clock, h.series, h.budget_ns⟩
    · exact h

theorem Spares.preserve (h : Spares keys a b) {e : Event} {target : Option Nat} : Spares keys a (b.preserve e target) := by
  unfold Analysis.preserve
  split
  · split_ifs
    · exact ⟨h.counts, h.pending, h.forward_bounds, h.clock, h.series, h.budget_ns⟩
    · exact h
  · exact h

/-- A failed session opens an incident, and no more. -/
theorem failed_spares (hkeys : keys .failed_boundaries = false) (e : Event) (a : Analysis) :
    Spares keys a (if e.d4 ≠ 0 then
      { (a.count .failed_boundaries 1).anomaly e .session_failure_boundary with
        recovering := ((a.count .failed_boundaries 1).anomaly e .session_failure_boundary).active }
      else a) := by
  have hcounted : Spares keys a ((a.count .failed_boundaries 1).anomaly e .session_failure_boundary) :=
    ((Spares.refl keys a).count hkeys).anomaly
  split_ifs
  · exact ⟨hcounted.counts, hcounted.pending, hcounted.forward_bounds, hcounted.clock, hcounted.series, hcounted.budget_ns⟩
  · exact .refl keys a

/-- An event is observed by its kind alone, up to what is spared. -/
theorem observe_spares (keys : Count → Bool) (e : Event) (a : Analysis) :
    ∃ begun, Spares keys a begun ∧ Spares keys (begun.observe_kind e) (a.observe e) := by
  have hseen : Spares keys a { a with last_event_ns := max a.last_event_ns e.at_ } := ⟨fun _ _ => rfl, rfl, rfl, rfl, fun _ _ => rfl, rfl⟩
  have hkept : ∀ b, Spares keys b ((b.preserve e (a.recovering.or a.awaiting_snapshot)).retain e) :=
    fun b => (Spares.refl keys b).preserve.retain
  exact ⟨_, hseen.quiet, ⟨(hkept _).counts, (hkept _).pending, (hkept _).forward_bounds, (hkept _).clock,
    (hkept _).series, (hkept _).budget_ns⟩⟩

end Analysis

end Trackpad.Diagnostics
