import Trackpad.Diagnostics.Spares
/-!
# Bounds on the phone's clock

A frame that echoes a host time bounds how far the host's clock is ahead of the phone's. Where the two clocks drift by no
more than a thousandth and exchanges are causal, no intersection of such bounds is empty, the retained interval
contains the offset, and each bound in the report is one on the time of a frame on its way.
-/

namespace Trackpad.Diagnostics

/-- How far the host's clock is ahead of a phone's, at each host time. The offset changes by at most 1000 ppm of the host
time that passes. -/
structure PhoneClock where
  offset : ℝ → ℝ
  drift : ∀ s t, s ≤ t → |offset t - offset s| ≤ (t - s) / 1000

/-- What the phone's clock shows at a host time. -/
def PhoneClock.reading (phone : PhoneClock) (t : ℝ) : ℝ := t - phone.offset t

/-- A frame answers the host time it echoes: the control was sent, received by the phone, and then the frame was sent and
received, and its stamps are what the clocks showed. -/
def Causal (phone : PhoneClock) (e : Event) : Prop :=
  ∃ received sent : ℝ, (e.d7 : ℝ) ≤ received ∧ received ≤ sent ∧ sent ≤ e.at_ ∧
    (e.d8 : ℝ) = phone.reading received ∧ (e.d6 : ℝ) = phone.reading sent

/-- An interval contains the offset at a host time. -/
def Contains (phone : PhoneClock) (at_ : ℝ) (low high : Int) : Prop := (low : ℝ) ≤ phone.offset at_ ∧ phone.offset at_ ≤ high

/-- The phone's time from the send stamp of a frame to its receipt. -/
def forward_time (phone : PhoneClock) (e : Event) : ℝ := phone.reading e.at_ - e.d6

namespace PhoneClock

variable (phone : PhoneClock)

theorem offset_le {s t : ℝ} (h : s ≤ t) : phone.offset t ≤ phone.offset s + (t - s) / 1000 := by
  have := (abs_le.mp (phone.drift s t h)).2
  linarith

theorem le_offset {s t : ℝ} (h : s ≤ t) : phone.offset s - (t - s) / 1000 ≤ phone.offset t := by
  have := (abs_le.mp (phone.drift s t h)).1
  linarith

/-- The phone's clock never runs backwards. -/
theorem reading_mono {s t : ℝ} (h : s ≤ t) : phone.reading s ≤ phone.reading t := by
  have := phone.offset_le h
  unfold reading
  linarith

end PhoneClock

/-- The integer allowance for drift over `n` nanoseconds is enough. -/
theorem allowance (n : Nat) : (n : ℝ) / 1000 ≤ ((n / 1000 + 1 : Nat) : ℝ) := by
  have h : n < 1000 * (n / 1000 + 1) := by omega
  have h' : (n : ℝ) < ((1000 * (n / 1000 + 1) : Nat) : ℝ) := Nat.cast_lt.mpr h
  rw [div_le_iff₀ (by norm_num)]
  push_cast at h' ⊢
  linarith

/-! ## One exchange -/

variable {phone : PhoneClock} {e : Event}

theorem Causal.echoed (h : Causal phone e) : e.d7 ≤ e.at_ := by
  obtain ⟨received, sent, hsent, hanswered, hback, -, -⟩ := h
  exact Nat.cast_le.mp (hsent.trans (hanswered.trans hback))

/-- An exchange bounds the offset at its receipt. -/
theorem Causal.exchange (h : Causal phone e) :
    Contains phone e.at_ (Analysis.exchange e).1 (Analysis.exchange e).2 := by
  have hechoed := h.echoed
  obtain ⟨received, sent, hsent, hanswered, hback, hreceived, hstamped⟩ := h
  have hspan : (((e.at_ - e.d7 : Nat)) : ℝ) = (e.at_ : ℝ) - e.d7 := Nat.cast_sub hechoed
  have hallowed := allowance (e.at_ - e.d7)
  rw [hspan] at hallowed
  have hlow := phone.le_offset (hanswered.trans hback)
  have hhigh := phone.offset_le hback
  have hlow' := phone.offset_le (hanswered.trans hback)
  have hhigh' := phone.le_offset hback
  unfold PhoneClock.reading at hreceived hstamped
  unfold Contains Analysis.exchange
  dsimp only
  generalize (e.at_ - e.d7) / 1000 + 1 = uncertainty at hallowed ⊢
  push_cast
  constructor <;> linarith

/-- The drift allowance keeps the offset inside an older interval. -/
theorem contains_widened {clock : Clock} (hold : Contains phone clock.at_ clock.low clock.high) (hlater : clock.at_ ≤ e.at_)
    {interval : Int × Int} (hnew : Contains phone e.at_ interval.1 interval.2) :
    Contains phone e.at_ (Analysis.widened e interval clock).1 (Analysis.widened e interval clock).2 := by
  have hpassed : (((e.at_ - clock.at_ : Nat)) : ℝ) = (e.at_ : ℝ) - clock.at_ := Nat.cast_sub hlater
  have hallowed := allowance (e.at_ - clock.at_)
  rw [hpassed] at hallowed
  have hle : (clock.at_ : ℝ) ≤ e.at_ := Nat.cast_le.mpr hlater
  have hhigh := phone.offset_le hle
  have hlow := phone.le_offset hle
  obtain ⟨hold_low, hold_high⟩ := hold
  unfold Contains Analysis.widened
  dsimp only
  generalize (e.at_ - clock.at_) / 1000 + 1 = drift at hallowed ⊢
  push_cast
  exact ⟨max_le hnew.1 (by linarith), le_min hnew.2 (by linarith)⟩

theorem Contains.nonempty {at_ : ℝ} {low high : Int} (h : Contains phone at_ low high) : low ≤ high :=
  Int.cast_le.mp (h.1.trans h.2)

/-! ## The forward bounds -/

theorem as_u64_of_bounds {value : Int} (hlow : 0 ≤ value) (hhigh : value < 2 ^ 64) : (as_u64 value : Int) = value := by
  unfold as_u64
  rw [Int.emod_eq_of_lt hlow hhigh]
  exact Int.toNat_of_nonneg hlow

/-- The bounds that a containing interval gives contain the forward time. The upper one cannot overflow its type: it is
at most the span of the exchange and its allowance. -/
theorem forward_contains (h : Causal phone e) (hspan : e.at_ - e.d7 ≤ 2000000000) {interval : Int × Int}
    (hcontains : Contains phone e.at_ interval.1 interval.2) (hwithin : (Analysis.exchange e).1 ≤ interval.1) :
    (((Analysis.forward e interval).1 : Nat) : ℝ) ≤ forward_time phone e ∧
      forward_time phone e ≤ (((Analysis.forward e interval).2 : Nat) : ℝ) := by
  have hechoed := h.echoed
  obtain ⟨received, sent, hsent, hanswered, hback, hreceived, hstamped⟩ := h
  have hpositive : 0 ≤ forward_time phone e := by
    have := phone.reading_mono hback
    unfold forward_time
    linarith
  have horder : e.d8 ≤ e.d6 := by
    have := phone.reading_mono hanswered
    exact Nat.cast_le.mp (by rw [hreceived, hstamped]; exact this : (e.d8 : ℝ) ≤ e.d6)
  have htime : forward_time phone e = (e.at_ : ℝ) - e.d6 - phone.offset e.at_ := by
    unfold forward_time PhoneClock.reading
    ring
  have hcast : ∀ bound : Int, ((((e.at_ : Int) - e.d6 - bound : Int)) : ℝ) = (e.at_ : ℝ) - e.d6 - bound := by
    intro bound
    push_cast
    ring
  have hsmall : ∀ bound, (Analysis.exchange e).1 ≤ bound → max ((e.at_ : Int) - e.d6 - bound) 0 < 2 ^ 64 := by
    intro bound hbound
    unfold Analysis.exchange at hbound
    dsimp only at hbound
    omega
  have hnonempty := hcontains.nonempty
  have hlower := as_u64_of_bounds (le_max_right _ _) (hsmall interval.2 (hwithin.trans hnonempty))
  have hupper := as_u64_of_bounds (le_max_right _ _) (hsmall interval.1 hwithin)
  constructor
  · have hle : (((max ((e.at_ : Int) - e.d6 - interval.2) 0 : Int)) : ℝ) ≤ forward_time phone e := by
      rw [Int.cast_max, hcast, htime]
      refine max_le (by linarith [hcontains.2]) ?_
      rw [Int.cast_zero, ← htime]
      exact hpositive
    have hsame : (((Analysis.forward e interval).1 : Nat) : ℝ) = ((max ((e.at_ : Int) - e.d6 - interval.2) 0 : Int) : ℝ) := by
      rw [← hlower]
      rfl
    rw [hsame]
    exact hle
  · have hle : forward_time phone e ≤ (((max ((e.at_ : Int) - e.d6 - interval.1) 0 : Int)) : ℝ) := by
      rw [Int.cast_max, hcast, htime]
      exact le_max_of_le_left (by linarith [hcontains.1])
    have hsame : (((Analysis.forward e interval).2 : Nat) : ℝ) = ((max ((e.at_ : Int) - e.d6 - interval.1) 0 : Int) : ℝ) := by
      rw [← hupper]
      rfl
    rw [hsame]
    exact hle

/-! ## What is reported -/

/-- A received frame and the bounds reported for it. -/
structure Report where
  frame : Event
  lower : Nat
  upper : Nat

/-- The bounds contain the time the frame was on its way. -/
def Report.Sound (phone : Nat → PhoneClock) (r : Report) : Prop :=
  (r.lower : ℝ) ≤ forward_time (phone r.frame.session) r.frame ∧ forward_time (phone r.frame.session) r.frame ≤ r.upper

/-- What a series takes of a report: lower and upper bounds are kept apart, and gameplay from control frames. -/
def Measure.reported (r : Report) : Measure → Option Nat
  | .forward_transit_lower_bound_ns => if r.frame.d9 &&& 1 ≠ 0 then some r.lower else none
  | .forward_transit_upper_bound_ns => if r.frame.d9 &&& 1 ≠ 0 then some r.upper else none
  | .control_frame_forward_lower_ns => if r.frame.d9 &&& 1 ≠ 0 then none else some r.lower
  | .control_frame_forward_upper_ns => if r.frame.d9 &&& 1 ≠ 0 then none else some r.upper
  | _ => none

namespace Analysis

/-- The series of the forward bounds took what the reports say, in their order, and nothing else. -/
structure Adds (reports : List Report) (a b : Analysis) : Prop where
  series : ∀ key, key.forward = true →
    b.series key = (reports.filterMap fun r => key.reported r).foldl (fun s ns => s.push ns a.budget_ns) (a.series key)
  budget_ns : b.budget_ns = a.budget_ns

section

variable {keys : Count → Bool} {a b c : Analysis} {reports more : List Report}

theorem Spares.adds (h : Spares keys a b) : Adds [] a b := ⟨h.series, h.budget_ns⟩

theorem Adds.trans (h : Adds reports a b) (h' : Adds more b c) : Adds (reports ++ more) a c where
  series := fun key hkey => by
    rw [h'.series key hkey, h.series key hkey, h.budget_ns, List.filterMap_append, List.foldl_append]
  budget_ns := h'.budget_ns.trans h.budget_ns

theorem Adds.then (h : Adds reports a b) (h' : Spares keys b c) : Adds reports a c :=
  List.append_nil reports ▸ h.trans h'.adds

/-- Each of the two samples goes into its own series. -/
theorem sample_forward_adds (e : Event) (bounds : Nat × Nat) (a : Analysis) :
    Adds [⟨e, bounds.1, bounds.2⟩] a (a.sample_forward e bounds) := by
  have hone : ∀ key : Measure, ([⟨e, bounds.1, bounds.2⟩].filterMap fun r => key.reported r) =
      (key.reported ⟨e, bounds.1, bounds.2⟩).toList := by
    intro key
    cases h : key.reported ⟨e, bounds.1, bounds.2⟩ <;> simp [h]
  unfold sample_forward
  split_ifs with hgameplay
  all_goals
    refine ⟨fun key hkey => ?_, rfl⟩
    rw [hone]
    cases key <;> try exact absurd hkey (by decide)
    all_goals
      dsimp only [Measure.reported]
      first | rw [if_pos hgameplay] | rw [if_neg hgameplay]
      simp [sample]

end

/-- What is reported for a frame with these bounds, if it has any. -/
def report (e : Event) (bounds : Option (Nat × Nat)) : List Report := bounds.toList.map fun b => ⟨e, b.1, b.2⟩

/-- Whatever echoes a frame carries, its exchange contradicts nothing that was kept before, and the bounds it gives
contain the forward time and are what it reports. -/
theorem transport_bounds_sound {a : Analysis} (hcausal : e.d7 ≠ 0 → Causal phone e)
    (hclock : ∀ c, a.clock = some c → c.session = e.session → Contains phone c.at_ c.low c.high ∧ c.at_ ≤ e.at_) :
    (∀ key, Count.contradiction key = true → (a.transport_bounds e).2.counts key = a.counts key) ∧
    (a.transport_bounds e).2.forward_bounds = a.forward_bounds ∧
    ((a.transport_bounds e).2.clock = a.clock ∨ ∃ low high,
      (a.transport_bounds e).2.clock = some ⟨e.session, e.at_, low, high⟩ ∧ Contains phone e.at_ low high) ∧
    (∀ bounds, (a.transport_bounds e).1 = some bounds →
      ((bounds.1 : Nat) : ℝ) ≤ forward_time phone e ∧ forward_time phone e ≤ ((bounds.2 : Nat) : ℝ)) ∧
    Adds (report e (a.transport_bounds e).1) a (a.transport_bounds e).2 := by
  have hcounted : ∀ key, Count.contradiction key = false → Spares Count.contradiction a (a.count key 1) :=
    fun key hkey => (Spares.refl _ a).count hkey
  unfold transport_bounds
  by_cases hmissing : e.d7 = 0 ∨ e.d8 = 0 ∨ e.d6 < e.d8 ∨ e.at_ < e.d7
  · rw [if_pos hmissing]
    exact ⟨(hcounted _ rfl).counts, rfl, .inl rfl, fun _ h => (by cases h), (hcounted _ rfl).adds⟩
  rw [if_neg hmissing]
  by_cases hstale : e.at_ - e.d7 > 2000000000
  · rw [if_pos hstale]
    exact ⟨(hcounted _ rfl).counts, rfl, .inl rfl, fun _ h => (by cases h), (hcounted _ rfl).adds⟩
  have hcausal := hcausal fun hzero => hmissing (.inl hzero)
  have hexchange := hcausal.exchange
  rw [if_neg hstale]
  dsimp only
  rw [if_neg (not_lt.mpr hexchange.nonempty)]
  -- the intersection with what was kept contains the offset, so it is not empty
  obtain ⟨interval, hinterval, hcontains, hwithin⟩ : ∃ interval,
      intersected e (exchange e) (a.sample .duplex_exchange_residual_upper_ns (as_u64 ((exchange e).2 - (exchange e).1))) =
        some interval ∧ Contains phone e.at_ interval.1 interval.2 ∧ (exchange e).1 ≤ interval.1 := by
    change ∃ interval, intersected e (exchange e) a = some interval ∧ _
    unfold intersected
    cases hkept : a.clock with
    | none => exact ⟨exchange e, rfl, hexchange, le_refl _⟩
    | some c =>
      dsimp only
      by_cases hrecent : c.session = e.session ∧ e.at_ - c.at_ ≤ 1000000000
      · obtain ⟨hold, hlater⟩ := hclock c hkept hrecent.1
        have hboth := contains_widened hold hlater hexchange
        rw [if_pos hrecent, if_pos hboth.nonempty]
        exact ⟨_, rfl, hboth, le_max_left _ _⟩
      · rw [if_neg hrecent]
        exact ⟨exchange e, rfl, hexchange, le_refl _⟩
  have hresidual : Spares Count.contradiction a
      (a.sample .duplex_exchange_residual_upper_ns (as_u64 ((exchange e).2 - (exchange e).1))) := (Spares.refl _ a).sample rfl
  rw [hinterval]
  dsimp only
  generalize a.sample .duplex_exchange_residual_upper_ns (as_u64 ((exchange e).2 - (exchange e).1)) = b at hresidual ⊢
  have hclocked : Adds [] a { b with clock := some ⟨e.session, e.at_, interval.1, interval.2⟩ } :=
    ⟨hresidual.series, hresidual.budget_ns⟩
  have hsampled : ∀ c : Analysis, Spares Count.contradiction (c.sample_forward e (forward e interval))
      (c.sample_exchange e interval) := sample_exchange_spares rfl e interval
  have hkept := sample_forward_counts e (forward e interval)
  refine ⟨fun key hkey => ?_, ?_, .inr ⟨interval.1, interval.2, ?_, hcontains⟩, fun bounds hbounds => ?_, ?_⟩
  · rw [(hsampled _).counts key hkey, (hkept _).1]
    exact hresidual.counts key hkey
  · rw [(hsampled _).forward_bounds, (hkept _).2.2.1]
    exact hresidual.forward_bounds
  · rw [(hsampled _).clock, (hkept _).2.2.2]
  · cases hbounds
    exact forward_contains hcausal (by omega) hcontains hwithin
  · exact (hclocked.trans (sample_forward_adds e _ _)).then (hsampled _)

/-! ## The other kinds -/

/-- Like `Spares`, but for the slots. -/
def Settles (keys : Count → Bool) (a b : Analysis) : Prop := ∃ pending, Spares keys { a with pending := pending } b

variable {keys : Count → Bool} {a b c : Analysis}

theorem Spares.settles (h : Spares keys a b) : Settles keys a b := ⟨a.pending, h⟩

theorem Settles.trans (h : Settles keys a b) (h' : Settles keys b c) : Settles keys a c := by
  obtain ⟨_, h⟩ := h
  obtain ⟨pending, h'⟩ := h'
  exact ⟨pending, ⟨fun key hkey => (h'.counts key hkey).trans (h.counts key hkey), h'.pending,
    h'.forward_bounds.trans h.forward_bounds, h'.clock.trans h.clock,
    fun key hkey => (h'.series key hkey).trans (h.series key hkey), h'.budget_ns.trans h.budget_ns⟩⟩

theorem Settles.then (h : Settles keys a b) (h' : Spares keys b c) : Settles keys a c := h.trans h'.settles

theorem settles_pending (pending : Fin MAX_REORDERED_FRAMES → Option Event) (a : Analysis) :
    Settles keys a { a with pending := pending } := ⟨pending, Spares.refl _ _⟩

theorem settles_discard (hkeys : keys .observed_uncommitted_at_boundary = false ∧
    keys .gameplay_uncommitted_at_boundary = false) (e : Event) (i : Fin MAX_REORDERED_FRAMES) (a : Analysis) :
    Settles keys a (a.discard e i) := by
  unfold discard
  split
  · exact (Spares.refl _ a).settles
  · have hcounted := (Spares.refl keys { a with pending := Function.update a.pending i none }).count hkeys.1 (n := 1)
    exact (settles_pending _ a).then ((hcounted.count hkeys.2).ite hcounted).anomaly.retain

theorem settles_discard_pending (keys : Count → Bool) (hkeys : keys .observed_uncommitted_at_boundary = false ∧
    keys .gameplay_uncommitted_at_boundary = false) (e : Event) (a : Analysis) : Settles keys a (a.discard_pending e) := by
  unfold discard_pending
  induction List.finRange MAX_REORDERED_FRAMES generalizing a with
  | nil => exact (Spares.refl _ a).settles
  | cons i slots ih => exact (settles_discard hkeys e i a).trans (ih _)

theorem settles_service (e f : Event) (a : Analysis) : Settles Count.contradiction a (a.observe_service e f) := by
  have hmeasured := (Spares.refl Count.contradiction a).service (e := e) (f := f)
  unfold observe_service
  dsimp only
  split_ifs
  · exact (hmeasured.settles.trans (settles_pending _ _)).then (((Spares.refl _ _).count rfl).judge ⟨rfl, rfl, rfl, rfl⟩)
  · exact hmeasured.settles.trans (settles_pending _ _)
  · exact hmeasured.settles

theorem settles_outcome (e : Event) (a : Analysis) : Settles Count.contradiction a (a.observe_outcome e) := by
  have hkey : ∀ accepted : Prop, ∀ _ : Decidable accepted,
      Count.contradiction (if accepted then .os_accepted else .os_failed) = false := by
    intro accepted _
    split_ifs <;> rfl
  have hsettled : ∀ b, Settles Count.contradiction b (b.observe_evidence e) := by
    intro b
    unfold observe_evidence
    cases b.evidence e with
    | some f => exact settles_service e f b
    | none => exact ((Spares.refl _ b).count rfl).settles
  have hattempts : Settles Count.contradiction a (observe_attempts e
      (a.count (if e.kind = ACCEPT then .os_accepted else .os_failed) 1)) :=
    (((Spares.refl _ a).count (hkey _ _)).attempts rfl).settles
  unfold observe_outcome
  dsimp only
  split_ifs with haccepted
  · rw [if_pos haccepted] at hattempts
    exact (hattempts.trans (hsettled _)).then (Spares.refl _ _).accepted
  · rw [if_neg haccepted] at hattempts
    exact hattempts.trans (hsettled _)

theorem settles_reject (e : Event) (a : Analysis) : Settles Count.contradiction a (a.observe_reject e) := by
  unfold observe_reject
  dsimp only
  split_ifs
  · exact (((Spares.refl _ a).count rfl).settles.trans (settles_pending _ _)).then (Spares.refl _ _).anomaly
  · exact ((Spares.refl _ a).count rfl).anomaly.settles

theorem settles_boundary (e : Event) (a : Analysis) : Settles Count.contradiction a (a.observe_boundary e) := by
  have hclosed : ∀ b, Settles Count.contradiction a b → Settles Count.contradiction a { b with
      gap := none
      last_unique := none } := by
    rintro b ⟨pending, h⟩
    exact ⟨pending, h.counts, h.pending, h.forward_bounds, h.clock, h.series, h.budget_ns⟩
  exact hclosed _ ((failed_spares rfl e a).settles.trans (settles_discard_pending Count.contradiction ⟨rfl, rfl⟩ e _))

/-- Only a received frame changes what is known of the clock or reports bounds, and only a new connection forgets it. -/
theorem observe_kind_clock (hkind : e.kind ≠ RECEIVE) (a : Analysis) :
    (∀ key, Count.contradiction key = true → (a.observe_kind e).counts key = a.counts key) ∧
    (a.observe_kind e).forward_bounds = a.forward_bounds ∧
    ((a.observe_kind e).clock = a.clock ∨ (a.observe_kind e).clock = none) ∧
    Adds [] a (a.observe_kind e) := by
  suffices h : e.kind = BEGIN ∨ Settles Count.contradiction a (a.observe_kind e) by
    rcases h with h | ⟨pending, h⟩
    · have hdiscarded := settles_discard_pending Count.contradiction ⟨rfl, rfl⟩ e a
      unfold observe_kind observe_begin
      rw [if_pos h]
      generalize a.discard_pending e = b at hdiscarded ⊢
      obtain ⟨pending, hdiscarded⟩ := hdiscarded
      have hcounted : Spares Count.contradiction { a with pending := pending } (b.count .connections 1) := hdiscarded.count rfl
      exact ⟨hcounted.counts, hcounted.forward_bounds, .inr rfl, hcounted.series, hcounted.budget_ns⟩
    · exact ⟨h.counts, h.forward_bounds, .inl h.clock, h.series, h.budget_ns⟩
  by_cases hbegin : e.kind = BEGIN
  · exact .inl hbegin
  · right
    unfold observe_kind
    rw [if_neg hbegin, if_neg hkind]
    split_ifs
    · exact ((Spares.refl _ a).count rfl).settles
    · exact ((Spares.refl _ a).gap ⟨rfl, rfl⟩).settles
    · exact settles_outcome e a
    · exact settles_reject e a
    · exact settles_boundary e a
    · exact ((Spares.refl _ a).ack ⟨rfl, rfl⟩).settles
    · exact ((Spares.refl _ a).ingress ⟨rfl, rfl, rfl, rfl⟩).settles
    · exact ((Spares.refl _ a).cancel rfl).settles
    · exact ((Spares.refl _ a).count rfl).anomaly.settles
    · exact (Spares.refl _ a).settles

/-! ## A whole recording -/

/-- A received frame: nothing is contradicted, and the bounds left in its slot contain its forward time and are what it
reports. -/
theorem observe_receive_clock {a : Analysis} (hcausal : e.d7 ≠ 0 → Causal phone e)
    (hclock : ∀ c, a.clock = some c → c.session = e.session → Contains phone c.at_ c.low c.high ∧ c.at_ ≤ e.at_) :
    (∀ key, Count.contradiction key = true → (a.observe_receive e).counts key = a.counts key) ∧
    ((a.observe_receive e).clock = a.clock ∨ ∃ low high,
      (a.observe_receive e).clock = some ⟨e.session, e.at_, low, high⟩ ∧ Contains phone e.at_ low high) ∧
    (∀ bounds, (a.observe_receive e).forward_bounds (slot e.sequence) = some bounds →
      ((bounds.1 : Nat) : ℝ) ≤ forward_time phone e ∧ forward_time phone e ≤ ((bounds.2 : Nat) : ℝ)) ∧
    Adds (report e ((a.observe_receive e).forward_bounds (slot e.sequence))) a (a.observe_receive e) := by
  have hcounted : Spares Count.contradiction a (a.count .unique_logical_frames_observed 1) := (Spares.refl _ a).count rfl
  have hreceived := hcounted.received ⟨rfl, rfl⟩ rfl (e := e)
  unfold observe_receive
  dsimp only at hreceived ⊢
  generalize (if e.d9 &&& 1 ≠ 0 then
    observe_gameplay e (if e.d9 &&& 4 ≠ 0 then (a.count .unique_logical_frames_observed 1).count .unique_heartbeats 1
      else a.count .unique_logical_frames_observed 1)
    else if e.d9 &&& 4 ≠ 0 then (a.count .unique_logical_frames_observed 1).count .unique_heartbeats 1
      else a.count .unique_logical_frames_observed 1) = b at hreceived ⊢
  obtain ⟨hcounts, -, hkept, hbounds, hadds⟩ :=
    transport_bounds_sound (a := b) hcausal (by rw [hreceived.clock]; exact hclock)
  have hslotted : Spares Count.contradiction (b.transport_bounds e).2
      (if ((b.transport_bounds e).2.pending (slot e.sequence)).isSome then
        ((b.transport_bounds e).2.count .diagnostic_pending_collision 1).anomaly e .diagnostic_coverage_gap
      else (b.transport_bounds e).2) := ((Spares.refl _ _).count rfl).anomaly.ite (Spares.refl _ _)
  have hslot : ∀ table : Fin MAX_REORDERED_FRAMES → Option (Nat × Nat),
      Function.update table (slot e.sequence) (b.transport_bounds e).1 (slot e.sequence) = (b.transport_bounds e).1 :=
    fun table => Function.update_self ..
  unfold take_slot
  refine ⟨fun key hkey => ?_, ?_, fun bounds hstored => hbounds bounds ((hslot _).symm.trans hstored), ?_⟩
  · exact (hslotted.counts key hkey).trans ((hcounts key hkey).trans (hreceived.counts key hkey))
  · change (ite _ _ _ : Analysis).clock = _ ∨ ∃ low high, (ite _ _ _ : Analysis).clock = _ ∧ _
    rw [hslotted.clock, ← hreceived.clock]
    exact hkept
  · dsimp only
    rw [hslot]
    have hall := (hreceived.adds.trans hadds).then hslotted
    exact ⟨hall.series, hall.budget_ns⟩

/-- What the frames of a recording promise: their stamps are exact readings of the clocks of their sessions' phones, and
they are recorded in the order of their receipt. -/
structure Exact (phone : Nat → PhoneClock) (events : List Event) : Prop where
  causal : ∀ e ∈ events, e.kind = RECEIVE → e.d7 ≠ 0 → Causal (phone e.session) e
  ordered : (events.filter fun e => e.kind = RECEIVE).Pairwise fun e f => e.at_ ≤ f.at_

/-- The series of the forward bounds hold reports of received frames, at most one for each and in their order, and every
report is sound. -/
structure Reported (phone : Nat → PhoneClock) (events : List Event) (reports : List Report) (budget_ns : Nat)
    (a : Analysis) : Prop where
  adds : Adds reports (new budget_ns) a
  frames : (reports.map Report.frame).Sublist (events.filter fun e => e.kind = RECEIVE)
  sound : ∀ r ∈ reports, r.Sound phone

/-- No exchange contradicted the clock model, the retained interval contains the offset at the receipt it is from, and
what was reported is sound. -/
structure Consistent (phone : Nat → PhoneClock) (events : List Event) (budget_ns : Nat) (a : Analysis) : Prop where
  counts : ∀ key, Count.contradiction key = true → a.counts key = 0
  clock : ∀ c, a.clock = some c → Contains (phone c.session) c.at_ c.low c.high ∧
    ∃ e ∈ events, e.kind = RECEIVE ∧ e.at_ = c.at_
  reported : ∃ reports, Reported phone events reports budget_ns a

/-- A received frame reports its own bounds. -/
theorem Reported.received {phone : Nat → PhoneClock} {events : List Event} {reports : List Report} {budget_ns : Nat}
    {a b : Analysis} (h : Reported phone events reports budget_ns a) (hkind : e.kind = RECEIVE) {bounds : Option (Nat × Nat)}
    (hadds : Adds (report e bounds) a b) (hsound : ∀ r ∈ report e bounds, r.Sound phone) :
    Reported phone (events ++ [e]) (reports ++ report e bounds) budget_ns b where
  adds := h.adds.trans hadds
  frames := by
    rw [List.map_append, List.filter_append]
    refine h.frames.append ?_
    cases bounds <;> simp [report, hkind]
  sound := by
    intro r hr
    rcases List.mem_append.mp hr with hr | hr
    · exact h.sound r hr
    · exact hsound r hr

/-- Another event reports nothing. -/
theorem Reported.passed {phone : Nat → PhoneClock} {events : List Event} {reports : List Report} {budget_ns : Nat}
    {a b : Analysis} (h : Reported phone events reports budget_ns a) (hadds : Adds [] a b) (e : Event) :
    Reported phone (events ++ [e]) reports budget_ns b where
  adds := List.append_nil reports ▸ h.adds.trans hadds
  frames := h.frames.trans ((List.sublist_append_left events [e]).filter _)
  sound := h.sound

/-- The clock is the one of before, or the event itself brought it. -/
theorem Consistent.observed {phone : Nat → PhoneClock} {events : List Event} {budget_ns : Nat} {a b : Analysis}
    (h : Consistent phone events budget_ns a) (hcounts : ∀ key, Count.contradiction key = true → b.counts key = a.counts key)
    (hclock : ∀ c, b.clock = some c → a.clock = some c ∨
      Contains (phone c.session) c.at_ c.low c.high ∧ e.kind = RECEIVE ∧ e.at_ = c.at_)
    (hreported : ∃ reports, Reported phone (events ++ [e]) reports budget_ns b) :
    Consistent phone (events ++ [e]) budget_ns b where
  counts key hkey := (hcounts key hkey).trans (h.counts key hkey)
  clock := by
    intro c hc
    rcases hclock c hc with hold | ⟨hcontains, hkind, hat⟩
    · obtain ⟨hcontains, f, hf, hkind, hat⟩ := h.clock c hold
      exact ⟨hcontains, f, List.mem_append_left _ hf, hkind, hat⟩
    · exact ⟨hcontains, e, List.mem_append_right _ List.mem_cons_self, hkind, hat⟩
  reported := hreported

theorem observe_consistent {phone : Nat → PhoneClock} {events : List Event} {budget_ns : Nat} {a : Analysis}
    (hexact : Exact phone (events ++ [e])) (h : Consistent phone events budget_ns a) :
    Consistent phone (events ++ [e]) budget_ns (a.observe e) ∧ (e.kind = RECEIVE →
      ∀ bounds, (a.observe e).forward_bounds (slot e.sequence) = some bounds →
        ((bounds.1 : Nat) : ℝ) ≤ forward_time (phone e.session) e ∧
          forward_time (phone e.session) e ≤ ((bounds.2 : Nat) : ℝ)) := by
  -- Counting the event, what its kind does, and the rest: only the middle one touches the clock.
  obtain ⟨begun, hbegun, hdone⟩ := observe_spares Count.contradiction e a
  obtain ⟨reports, hreports⟩ := h.reported
  by_cases hkind : e.kind = RECEIVE
  · have hlater : ∀ f ∈ events, f.kind = RECEIVE → f.at_ ≤ e.at_ := fun f hf hfkind => by
      have hordered := hexact.ordered
      rw [List.filter_append, List.pairwise_append] at hordered
      exact hordered.2.2 f (List.mem_filter.mpr ⟨hf, by simpa using hfkind⟩) e
        (List.mem_filter.mpr ⟨List.mem_cons_self, by simpa using hkind⟩)
    rw [observe_kind_receive hkind] at hdone
    have hknown : ∀ c, begun.clock = some c → c.session = e.session →
        Contains (phone e.session) c.at_ c.low c.high ∧ c.at_ ≤ e.at_ := by
      rw [hbegun.clock]
      intro c hc hsession
      obtain ⟨hcontains, f, hf, hfkind, hat⟩ := h.clock c hc
      exact ⟨hsession ▸ hcontains, hat ▸ hlater f hf hfkind⟩
    have hmem : e ∈ events ++ [e] := List.mem_append_right _ List.mem_cons_self
    obtain ⟨hcounts, hclock, hbounds, hadds⟩ := observe_receive_clock (hexact.causal e hmem hkind) hknown
    refine ⟨h.observed (fun key hkey => ?_) (fun c hc => ?_) ?_, fun _ bounds hstored =>
      hbounds bounds (hdone.forward_bounds ▸ hstored)⟩
    · rw [hdone.counts key hkey, hcounts key hkey, hbegun.counts key hkey]
    · rw [hdone.clock] at hc
      rcases hclock with hsame | ⟨low, high, hnew, hcontains⟩
      · exact .inl ((hbegun.clock.symm.trans hsame.symm).trans hc)
      · rw [hnew] at hc
        cases hc
        exact .inr ⟨hcontains, hkind, rfl⟩
    · refine ⟨_, hreports.received hkind ((hbegun.adds.trans hadds).then hdone) fun r hr => ?_⟩
      obtain ⟨bounds, hstored, rfl⟩ := List.mem_map.mp hr
      exact hbounds bounds (Option.mem_toList.mp hstored)
  · obtain ⟨hcounts, -, hclock, hadds⟩ := observe_kind_clock hkind begun
    refine ⟨h.observed (fun key hkey => ?_) (fun c hc => ?_) ?_, fun hreceive => absurd hreceive hkind⟩
    · rw [hdone.counts key hkey, hcounts key hkey, hbegun.counts key hkey]
    · rw [hdone.clock] at hc
      rcases hclock with hsame | hnone
      · exact .inl ((hbegun.clock.symm.trans hsame.symm).trans hc)
      · rw [hnone] at hc
        cases hc
    · exact ⟨reports, hreports.passed ((hbegun.adds.trans hadds).then hdone) e⟩

theorem Exact.init {phone : Nat → PhoneClock} {events : List Event} (h : Exact phone (events ++ [e])) :
    Exact phone events where
  causal := fun f hf => h.causal f (List.mem_append_left _ hf)
  ordered := by
    have hordered := h.ordered
    rw [List.filter_append, List.pairwise_append] at hordered
    exact hordered.1

theorem observed_concat (events : List Event) (e : Event) (a : Analysis) :
    a.observed (events ++ [e]) = (a.observed events).observe e := List.foldl_concat ..

theorem observed_consistent {phone : Nat → PhoneClock} {events : List Event} (hexact : Exact phone events) (budget_ns : Nat) :
    Consistent phone events budget_ns ((new budget_ns).observed events) := by
  induction events using List.reverseRecOn with
  | nil => exact ⟨fun _ _ => rfl, fun c hc => (by cases hc), [], ⟨fun _ _ => rfl, rfl⟩, .slnil, fun r hr => (by cases hr)⟩
  | append_singleton events e ih =>
    rw [observed_concat]
    exact (observe_consistent hexact (ih hexact.init)).1

/-- Over any recording of exact frames the clock is never contradicted, the retained interval contains the offset at its
receipt, and the bounds found for a frame contain the phone's time from its send stamp to its receipt. So do those in the
report: its series of lower and upper bounds are made of such bounds alone. -/
theorem clock_bounds_sound {phone : Nat → PhoneClock} {events : List Event} (hexact : Exact phone events) (budget_ns : Nat) :
    let a := (new budget_ns).observed events
    a.counts .clock_model_resets = 0 ∧ a.counts .clock_exchange_invalid = 0 ∧
    (∀ c, a.clock = some c → Contains (phone c.session) c.at_ c.low c.high) ∧
    (∀ before e, events = before ++ [e] → e.kind = RECEIVE →
      ∀ bounds, a.forward_bounds (slot e.sequence) = some bounds →
        ((bounds.1 : Nat) : ℝ) ≤ forward_time (phone e.session) e ∧
          forward_time (phone e.session) e ≤ ((bounds.2 : Nat) : ℝ)) ∧
    ∃ reports, Reported phone events reports budget_ns a := by
  have hconsistent := observed_consistent hexact budget_ns
  refine ⟨hconsistent.counts _ rfl, hconsistent.counts _ rfl, fun c hc => (hconsistent.clock c hc).1, ?_,
    hconsistent.reported⟩
  rintro before e rfl hkind bounds hbounds
  rw [observed_concat] at hbounds
  exact (observe_consistent hexact (observed_consistent hexact.init budget_ns)).2 hkind bounds hbounds

/-- A phone one microsecond behind. -/
def benchPhone : PhoneClock := ⟨fun _ => 1000, fun s t h => by rw [sub_self, abs_zero]; linarith⟩

/-- A control sent at 5000 reaches it at 5500, and the frame it sends at 6000 is back at 6200. -/
def benchEcho : Event := ⟨RECEIVE, 6200, 1, 0, 4000, 4000, 5000, 5000, 4500, 1, 0, 0⟩

/-- The next control takes a nanosecond, and the frame it is answered by is late. -/
def benchLate : Event := ⟨RECEIVE, 12000, 1, 1, 9000, 9000, 9100, 10000, 9001, 1, 0, 0⟩

theorem bench_exact : Exact (fun _ => benchPhone) [benchEcho, benchLate] where
  causal := by
    intro e he _ _
    rcases List.mem_pair.mp he with rfl | rfl
    · exact ⟨5500, 6000, by norm_num [benchEcho], by norm_num, by norm_num [benchEcho],
        by norm_num [benchEcho, benchPhone, PhoneClock.reading], by norm_num [benchEcho, benchPhone, PhoneClock.reading]⟩
    · exact ⟨10001, 10100, by norm_num [benchLate], by norm_num, by norm_num [benchLate],
        by norm_num [benchLate, benchPhone, PhoneClock.reading], by norm_num [benchLate, benchPhone, PhoneClock.reading]⟩
  ordered := List.Pairwise.sublist List.filter_sublist (by simp [benchEcho, benchLate])

/-- The first exchange narrows what the second allows from above, the second what the first allowed from below: the late
frame was on its way for 1900 ns. -/
theorem clock_bounds_sound_narrowed :
    let a := (new 2000).observed [benchEcho, benchLate]
    a.counts .clock_model_resets = 0 ∧
    (a.clock = some ⟨1, 12000, 996, 1208⟩ ∧ Contains benchPhone 12000 996 1208) ∧
    (a.forward_bounds (slot 1) = some (1692, 1904) ∧ 1692 ≤ forward_time benchPhone benchLate ∧
      forward_time benchPhone benchLate ≤ 1904) ∧
    (a.series .forward_transit_lower_bound_ns).n = 2 ∧ (a.series .forward_transit_lower_bound_ns).sum_ns = 0 + 1692 ∧
    (a.series .forward_transit_upper_bound_ns).sum_ns = 702 + 1904 ∧
    ∃ reports, Reported (fun _ => benchPhone) [benchEcho, benchLate] reports 2000 a := by
  obtain ⟨hresets, -, hclock, hbounds, hreported⟩ := clock_bounds_sound bench_exact 2000
  have hkept : ((new 2000).observed [benchEcho, benchLate]).clock = some ⟨1, 12000, 996, 1208⟩ := by decide +kernel
  have hstored : ((new 2000).observed [benchEcho, benchLate]).forward_bounds (slot 1) = some (1692, 1904) := by decide +kernel
  have hcontains := hclock _ hkept
  have hfound := hbounds [benchEcho] benchLate rfl rfl _ hstored
  norm_num at hcontains hfound
  exact ⟨hresets, ⟨hkept, hcontains⟩, ⟨hstored, hfound⟩, by decide +kernel, by decide +kernel, by decide +kernel,
    hreported⟩

end Analysis

end Trackpad.Diagnostics
