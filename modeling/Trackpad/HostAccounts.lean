import Trackpad.HostMetrics
import Trackpad.Diagnostics.Accounts
/-!
# Every frame accounted for

The analysis keeps a table of its own beside the receive window. `Mirrors` says that the two hold the same frames in the
same slots; with it every outcome finds its frame, and the accounts of all runs of the controller balance.
-/

namespace Trackpad

open Diagnostics (RECEIVE ACCEPT GAP REJECT BOUNDARY ACK SINK_FAILURE INGRESS BEGIN CANCEL STALL DUPLICATE)
open Diagnostics.Analysis (Posts once Balanced)

/-- The session and the sequence, as the events name a frame. -/
def TouchFrame.key (frame : TouchFrame) : Nat × Nat := (frame.session_id, frame.sequence)

/-- What the worker makes of the events recorded so far. -/
def HostMetrics.analysis (budget_ns : Nat) (m : HostMetrics) : Diagnostics.Analysis :=
  (Diagnostics.Analysis.new budget_ns).observed m.events

/-- Whether an event says that a frame was handed over. -/
def receipt (e : Diagnostics.Event) : Bool := e.kind = RECEIVE || e.kind = DUPLICATE || e.kind = REJECT

/-- Every buffered frame is of the current session and in the slot of its sequence. -/
def OrderedFrames.Placed (o : OrderedFrames) : Prop :=
  ∀ i frame, o.buffered i = some frame → o.session_id = some frame.session_id ∧ OrderedFrames.slot frame.sequence = i

/-- The analysis holds the frames of the window, and has accounted for those it no longer holds. -/
structure Mirrors (budget_ns : Nat) (o : OrderedFrames) (m : HostMetrics) : Prop where
  placed : o.Placed
  slots : ∀ i, ((m.analysis budget_ns).pending i).map Diagnostics.Event.frame = (o.buffered i).map TouchFrame.key
  balanced : (m.analysis budget_ns).Balanced
  handed : (m.events.filter receipt).map Diagnostics.Event.frame = m.handed.map TouchFrame.key
  classified : (m.analysis budget_ns).classified = m.handed.length

variable {budget_ns : Nat} {o : OrderedFrames} {m : HostMetrics}

theorem HostMetrics.analysis_record (e : Diagnostics.Event) (m : HostMetrics) :
    (m.record e).analysis budget_ns = (m.analysis budget_ns).observe e := by
  unfold HostMetrics.analysis HostMetrics.record
  exact Diagnostics.Analysis.observed_concat ..

/-- Both tables change in the same slot, to the same frame. -/
theorem slots_update {pending : Fin MAX_REORDERED_FRAMES → Option Diagnostics.Event}
    {buffered : Fin MAX_REORDERED_FRAMES → Option TouchFrame}
    (h : ∀ i, (pending i).map Diagnostics.Event.frame = (buffered i).map TouchFrame.key) (i : Fin MAX_REORDERED_FRAMES)
    {e : Option Diagnostics.Event} {frame : Option TouchFrame} (hsame : e.map Diagnostics.Event.frame = frame.map TouchFrame.key)
    (j : Fin MAX_REORDERED_FRAMES) :
    (Function.update pending i e j).map Diagnostics.Event.frame = (Function.update buffered i frame j).map TouchFrame.key := by
  by_cases hj : j = i
  · subst hj
    rw [Function.update_self, Function.update_self]
    exact hsame
  · rw [Function.update_of_ne hj, Function.update_of_ne hj]
    exact h j

/-! ## Events that concern no frame -/

/-- Reading the clock changes nothing that is recorded. -/
theorem Mirrors.congr {n : HostMetrics} (h : Mirrors budget_ns o m) (hevents : n.events = m.events) (hhanded : n.handed = m.handed) :
    Mirrors budget_ns o n := by
  have hsame : n.analysis budget_ns = m.analysis budget_ns := by
    unfold HostMetrics.analysis
    rw [hevents]
  exact ⟨h.placed, by rw [hsame]; exact h.slots, by rw [hsame]; exact h.balanced, by rw [hevents, hhanded]; exact h.handed,
    by rw [hsame, hhanded]; exact h.classified⟩

/-- An event that is no receipt leaves the frames that were handed over as they are. -/
theorem filter_receipt_record {e : Diagnostics.Event} (hkind : receipt e = false) (m : HostMetrics) :
    (m.record e).events.filter receipt = m.events.filter receipt := by
  unfold HostMetrics.record
  rw [List.filter_append, List.filter_cons_of_neg (by rw [hkind]; decide), List.filter_nil, List.append_nil]

theorem receipt_eq_false {e : Diagnostics.Event} (h : e.kind ∉ [RECEIVE, DUPLICATE, REJECT]) : receipt e = false := by
  simp only [List.mem_cons, List.not_mem_nil, or_false, not_or] at h
  simp [receipt, h.1, h.2.1, h.2.2]

theorem Mirrors.aside (h : Mirrors budget_ns o m) {e : Diagnostics.Event}
    (hkind : e.kind = GAP ∨ e.kind = ACK ∨ e.kind = INGRESS ∨ e.kind = CANCEL ∨ e.kind = STALL) :
    Mirrors budget_ns o (m.record e) := by
  have hposts := Diagnostics.Analysis.observe_aside (m.analysis budget_ns) hkind
  rw [← HostMetrics.analysis_record] at hposts
  have hreceipt : receipt e = false := by
    apply receipt_eq_false
    rcases hkind with hkind | hkind | hkind | hkind | hkind <;> rw [hkind] <;> decide
  refine ⟨h.placed, ?_, hposts.balanced_kept h.balanced rfl rfl rfl, ?_, ?_⟩
  · rw [hposts.pending]
    exact h.slots
  · rw [filter_receipt_record hreceipt]
    exact h.handed
  · rw [hposts.classified]
    exact h.classified

theorem Mirrors.note (h : Mirrors budget_ns o m) {kind : Nat} (session sequence a b : Nat)
    (hkind : kind = GAP ∨ kind = ACK ∨ kind = INGRESS ∨ kind = CANCEL ∨ kind = STALL) :
    Mirrors budget_ns o (m.note kind session sequence a b) :=
  Mirrors.aside (m := m.clock_nanos.2) (h.congr rfl rfl) hkind

/-! ## Boundaries -/

theorem OrderedFrames.placed_fresh : OrderedFrames.require_fresh_session.Placed := fun _ _ h => by cases h

/-- At a boundary both sides let go of everything. -/
theorem Mirrors.boundary (h : Mirrors budget_ns o m) {e : Diagnostics.Event} (hkind : e.kind = BEGIN ∨ e.kind = BOUNDARY) :
    Mirrors budget_ns .require_fresh_session (m.record e) := by
  have hposts := Diagnostics.Analysis.observe_boundary_posts (a := m.analysis budget_ns) hkind
  rw [← HostMetrics.analysis_record] at hposts
  have hreceipt : receipt e = false := by
    apply receipt_eq_false
    rcases hkind with hkind | hkind <;> rw [hkind] <;> decide
  refine ⟨OrderedFrames.placed_fresh, fun i => ?_, hposts.balanced h.balanced rfl rfl ?_, ?_, ?_⟩
  · rw [hposts.pending]
    rfl
  · simp
  · rw [filter_receipt_record hreceipt]
    exact h.handed
  · rw [hposts.classified]
    exact h.classified

/-! ## Received frames -/

/-- A frame handed over leaves the frames that were handed over before it, and itself. -/
theorem Mirrors.receipt {n : HostMetrics} (h : Mirrors budget_ns o m) {frame : TouchFrame} {p : OrderedFrames} {e : Diagnostics.Event}
    {counts : Diagnostics.Count → Nat} {pending : Fin MAX_REORDERED_FRAMES → Option Diagnostics.Event}
    (hn : n = (m.hand frame).record e) (hreceipt : receipt e = true) (hframe : e.frame = frame.key)
    (hposts : Posts counts pending (m.analysis budget_ns) ((m.analysis budget_ns).observe e)) (hplaced : p.Placed)
    (hslots : ∀ i, (pending i).map Diagnostics.Event.frame = (p.buffered i).map TouchFrame.key)
    (hbalanced : ((m.analysis budget_ns).observe e).Balanced)
    (honce : counts .unique_logical_frames_observed + counts .logical_duplicate_datagrams + counts .protocol_rejected = 1) :
    Mirrors budget_ns p n := by
  have hanalysis : n.analysis budget_ns = (m.analysis budget_ns).observe e := by
    rw [hn, HostMetrics.analysis_record]
    rfl
  subst hn
  refine ⟨hplaced, ?_, ?_, ?_, ?_⟩
  · rw [hanalysis, hposts.pending]
    exact hslots
  · rw [hanalysis]
    exact hbalanced
  · change (List.filter Trackpad.receipt (m.events ++ [e])).map _ = (m.handed ++ [frame]).map _
    rw [List.filter_append, List.filter_cons_of_pos hreceipt, List.filter_nil, List.map_append, List.map_append, h.handed]
    exact congrArg (fun key => m.handed.map TouchFrame.key ++ [key]) hframe
  · rw [hanalysis, hposts.classified, h.classified, honce]
    exact (@List.length_append _ m.handed [frame]).symm

namespace Metered

open V5Host

/-- The recorder once the gap in front of a frame was reported. -/
def gap_observed (frame : TouchFrame) (o : OrderedFrames) (m : HostMetrics) : HostMetrics :=
  if o.session_id = some frame.session_id ∧ replayed frame o = false ∧ frame.sequence > o.expected_sequence ∧
      frame.sequence - o.expected_sequence < MAX_REORDERED_FRAMES then
    m.observe_gap frame.session_id o.expected_sequence frame.sequence
  else m

/-- The event that tells what became of a frame handed over. -/
def receipt_event (frame : TouchFrame) (arrival : Nat) (o : OrderedFrames) : Diagnostics.Event :=
  let event := HostMetrics.receive_event frame arrival (replayed frame o)
  if !replayed frame o && (!(o.push frame).contains_sequence frame.sequence ||
      (o.push frame).session_id != some frame.session_id) then
    { event with kind := REJECT }
  else event

theorem receive_ordered_eq (frame : TouchFrame) (arrival : Nat) (o : OrderedFrames) (m : HostMetrics) :
    receive_ordered frame arrival o m =
      (o.push frame, ((gap_observed frame o m).hand frame).record (receipt_event frame arrival o)) := by
  unfold receive_ordered gap_observed receipt_event
  by_cases hgap : o.session_id = some frame.session_id ∧ replayed frame o = false ∧ frame.sequence > o.expected_sequence ∧
      frame.sequence - o.expected_sequence < MAX_REORDERED_FRAMES
  · simp only [if_pos hgap]
    rfl
  · simp only [if_neg hgap]

theorem gap_observed_mirrors (h : Mirrors budget_ns o m) (frame : TouchFrame) : Mirrors budget_ns o (gap_observed frame o m) := by
  unfold gap_observed
  split_ifs
  · exact h.note _ _ _ _ (.inl rfl)
  · exact h

/-- A frame that the window already had changes nothing in it. -/
theorem push_replayed {frame : TouchFrame} (h : replayed frame o = true) : o.push frame = o := by
  unfold replayed at h
  simp only [Bool.and_eq_true, decide_eq_true_eq, Bool.or_eq_true] at h
  obtain ⟨hsession, hseen⟩ := h
  have hbuffered : o.buffer frame = o := by
    unfold OrderedFrames.buffer
    split_ifs with hold hfar hfree
    · rfl
    · rfl
    · rcases hseen with hseen | hseen
      · exact absurd hseen hold
      · unfold OrderedFrames.contains_sequence at hseen
        rw [Option.isNone_iff_eq_none.mp hfree] at hseen
        cases hseen
    · rfl
  unfold OrderedFrames.push
  rw [hsession, hbuffered]
  simp

/-- A frame either leaves the window as it was or is put into a free slot of it. -/
theorem push_cases {frame : TouchFrame} (h : o.Placed) (hsession : ∀ session_id ∈ o.session_id, session_id = frame.session_id) :
    o.push frame = o ∨
      (o.push frame).session_id = some frame.session_id ∧ o.buffered (OrderedFrames.slot frame.sequence) = none ∧
        (o.push frame).buffered = Function.update o.buffered (OrderedFrames.slot frame.sequence) (some frame) := by
  have hinserted : ∀ w : OrderedFrames, w.buffer frame = w ∨
      w.buffered (OrderedFrames.slot frame.sequence) = none ∧
        (w.buffer frame).buffered = Function.update w.buffered (OrderedFrames.slot frame.sequence) (some frame) := by
    intro w
    unfold OrderedFrames.buffer
    split_ifs with hold hfar hfree
    · exact .inl rfl
    · exact .inl rfl
    · exact .inr ⟨Option.isNone_iff_eq_none.mp hfree, rfl⟩
    · exact .inl rfl
  unfold OrderedFrames.push
  by_cases hrequired : (o.requires_session_start && !frame.session_start) = true
  · exact .inl (if_pos hrequired)
  rw [if_neg hrequired]
  cases hid : o.session_id with
  | none =>
    -- The window of no session is empty, so it has a slot for the first frame of one.
    have hempty : o.buffered = (OrderedFrames.begin_session frame).buffered := by
      funext i
      cases hi : o.buffered i with
      | none => rfl
      | some g =>
        have := (h i g hi).1
        rw [hid] at this
        cases this
    rcases hinserted (OrderedFrames.begin_session frame) with hsame | hfree
    · have hready := (OrderedFrames.next_ready_some (OrderedFrames.begun_ready frame)).1
      rw [hsame] at hready
      cases hready
    · rw [hempty]
      exact .inr ⟨(OrderedFrames.buffer_frame frame _).1, hfree⟩
  | some session_id =>
    obtain rfl := hsession session_id hid
    dsimp only
    rw [if_neg (not_not.mpr rfl)]
    exact (hinserted o).imp_right fun hfree => ⟨(OrderedFrames.buffer_frame frame o).1.trans hid, hfree⟩

theorem contains_pushed {frame : TouchFrame} {w : OrderedFrames}
    (h : w.buffered = Function.update o.buffered (OrderedFrames.slot frame.sequence) (some frame)) :
    w.contains_sequence frame.sequence = true := by
  unfold OrderedFrames.contains_sequence
  rw [h, Function.update_self]
  simp

/-- `receive_ordered` tells the analysis what it did to the window. -/
theorem receive_ordered_mirrors (h : Mirrors budget_ns o m) {frame : TouchFrame} (arrival : Nat)
    (hsession : ∀ session_id ∈ o.session_id, session_id = frame.session_id) :
    Mirrors budget_ns (receive_ordered frame arrival o m).1 (receive_ordered frame arrival o m).2 := by
  rw [receive_ordered_eq]
  have hgap := gap_observed_mirrors h frame
  generalize gap_observed frame o m = m at hgap ⊢
  have hslot : (m.analysis budget_ns).pending (Diagnostics.slot frame.sequence) = none ↔
      o.buffered (OrderedFrames.slot frame.sequence) = none := by
    rw [← Option.map_eq_none_iff (f := Diagnostics.Event.frame), ← Option.map_eq_none_iff (f := TouchFrame.key)]
    exact iff_of_eq (congrArg (· = none) (hgap.slots _))
  dsimp only
  by_cases hreplayed : replayed frame o = true
  · have hevent : receipt_event frame arrival o = HostMetrics.receive_event frame arrival true := by
      unfold receipt_event
      simp [hreplayed]
    rw [hevent, push_replayed hreplayed]
    have hposts := Diagnostics.Analysis.observe_duplicate (e := HostMetrics.receive_event frame arrival true)
      (m.analysis budget_ns) rfl
    exact hgap.receipt rfl rfl rfl hposts hgap.placed hgap.slots (hposts.balanced_kept hgap.balanced rfl rfl rfl) rfl
  · have hnew : replayed frame o = false := by simpa using hreplayed
    have hunseen : o.contains_sequence frame.sequence = false ∨ o.session_id ≠ some frame.session_id := by
      by_contra hseen
      simp only [not_or, Bool.not_eq_false, not_not] at hseen
      exact hreplayed (by simp [replayed, hseen])
    rcases push_cases hgap.placed hsession with hsame | ⟨hcurrent, hfree, hbuffered⟩
    · -- Nothing in the analysis is the frame: it would be in the window too, and the frame no new one.
      have hevent : receipt_event frame arrival o = { HostMetrics.receive_event frame arrival false with kind := REJECT } := by
        unfold receipt_event
        rw [hsame, hnew]
        exact if_pos (by simpa using hunseen)
      rw [hevent, hsame]
      have hnone : (m.analysis budget_ns).evidence { HostMetrics.receive_event frame arrival false with kind := REJECT } = none := by
        rw [Diagnostics.Analysis.evidence, Option.filter_eq_none_iff]
        intro p hp heq
        have hslots := hgap.slots (OrderedFrames.slot frame.sequence)
        have hp' : (m.analysis budget_ns).pending (OrderedFrames.slot frame.sequence) = some p := hp
        rw [hp', Option.map_some, eq_comm, Option.map_eq_some_iff] at hslots
        obtain ⟨g, hg, hkey⟩ := hslots
        have hkey : g.key = frame.key := hkey.trans (of_decide_eq_true heq)
        obtain ⟨hgsession, hgsequence⟩ := Prod.mk.inj hkey
        rcases hunseen with hunseen | hunseen
        · simp [OrderedFrames.contains_sequence, hg, hgsequence] at hunseen
        · exact hunseen ((hgap.placed _ g hg).1.trans (congrArg some hgsession))
      have hposts := Diagnostics.Analysis.observe_rejected (e := { HostMetrics.receive_event frame arrival false with kind := REJECT })
        rfl hnone
      exact hgap.receipt rfl rfl rfl hposts hgap.placed hgap.slots (hposts.balanced_kept hgap.balanced rfl rfl rfl) rfl
    · have hevent : receipt_event frame arrival o = HostMetrics.receive_event frame arrival false := by
        unfold receipt_event
        rw [hnew, contains_pushed hbuffered, hcurrent]
        simp
      rw [hevent]
      have hempty := hslot.mpr hfree
      have hposts := Diagnostics.Analysis.observe_received (e := HostMetrics.receive_event frame arrival false) rfl hempty
      have htaken := Diagnostics.Analysis.outstanding_taken (HostMetrics.receive_event frame arrival false) hempty
      refine hgap.receipt rfl rfl rfl hposts (fun i g hg => ?_) (fun i => ?_) (hposts.balanced hgap.balanced rfl rfl ?_) rfl
      · rw [hbuffered] at hg
        by_cases hi : i = OrderedFrames.slot frame.sequence
        · subst hi
          rw [Function.update_self, Option.some.injEq] at hg
          exact hg ▸ ⟨hcurrent, rfl⟩
        · rw [Function.update_of_ne hi] at hg
          have hplaced := hgap.placed i g hg
          exact ⟨hcurrent.trans (congrArg some (hsession _ hplaced.1).symm), hplaced.2⟩
      · rw [hbuffered]
        exact slots_update hgap.slots _ rfl i
      · exact (Nat.add_comm ..).trans (htaken.symm.trans (Nat.zero_add _).symm)

/-! ## Outcomes -/

/-- The frame that is ready is in the analysis, too. -/
theorem evidence_ready (h : Mirrors budget_ns o m) {frame : TouchFrame} (hready : o.next_ready = some frame)
    {e : Diagnostics.Event} (hframe : e.frame = frame.key) : ∃ f, (m.analysis budget_ns).evidence e = some f := by
  obtain ⟨hsession, hsequence⟩ := Prod.mk.inj hframe
  obtain ⟨hbuffered, hnext⟩ := OrderedFrames.next_ready_some hready
  have hslots := h.slots (OrderedFrames.slot o.next_sequence)
  rw [hbuffered, Option.map_some, Option.map_eq_some_iff] at hslots
  obtain ⟨f, hf, hkey⟩ := hslots
  have hslot : (m.analysis budget_ns).pending (Diagnostics.slot e.sequence) = some f := by
    rw [hsequence, hnext]
    exact hf
  exact ⟨f, Option.filter_eq_some_iff.mpr ⟨hslot, decide_eq_true (hkey.trans hframe.symm)⟩⟩

theorem placed_committed (h : o.Placed) : o.committed.Placed := by
  intro i frame hi
  by_cases heq : i = OrderedFrames.slot o.next_sequence
  · subst heq
    simp [OrderedFrames.committed] at hi
  · exact h i frame ((Function.update_of_ne heq ..).symm.trans hi)

/-- An accepted frame leaves both tables. -/
theorem accepted_mirrors (h : Mirrors budget_ns o m) {frame : TouchFrame} (hready : o.next_ready = some frame) (retries : Nat) :
    Mirrors budget_ns o.committed (m.observe_sink frame retries none) := by
  have hread : Mirrors budget_ns o m.clock_nanos.2.clock_nanos.2 := h.congr rfl rfl
  generalize hevent : Diagnostics.Event.new ACCEPT m.clock_nanos.2.clock_nanos.1 frame.session_id frame.sequence
    [m.clock_nanos.1, retries, 0] = e
  have hkind : e.kind = ACCEPT := hevent ▸ rfl
  have hframe : e.frame = frame.key := hevent ▸ rfl
  have hrecorded : m.observe_sink frame retries none = m.clock_nanos.2.clock_nanos.2.record e := hevent ▸ rfl
  rw [hrecorded]
  generalize m.clock_nanos.2.clock_nanos.2 = m at hread ⊢
  obtain ⟨f, hf⟩ := evidence_ready hread hready hframe
  have hposts := Diagnostics.Analysis.observe_outcome_posts (.inl hkind) hf
  rw [← HostMetrics.analysis_record, if_pos hkind, if_pos hkind] at hposts
  have hslot : Diagnostics.slot e.sequence = OrderedFrames.slot o.next_sequence := by
    rw [(Prod.mk.inj hframe).2, ← (OrderedFrames.next_ready_some hready).2]
    rfl
  have hfreed := Diagnostics.Analysis.outstanding_freed
    (Option.isSome_of_eq_some (Option.filter_eq_some_iff.mp hf).1)
  have hreceipt : receipt e = false := receipt_eq_false (by rw [hkind]; decide)
  refine ⟨placed_committed hread.placed, ?_, hposts.balanced hread.balanced rfl rfl ?_, ?_, ?_⟩
  · rw [hposts.pending, hslot]
    exact slots_update hread.slots _ rfl
  · exact (Nat.zero_add _).trans (hfreed.symm.trans (Nat.add_comm ..))
  · rw [filter_receipt_record hreceipt]
    exact hread.handed
  · rw [hposts.classified]
    exact hread.classified

/-- A frame given up stays in both tables. -/
theorem failed_mirrors (h : Mirrors budget_ns o m) {frame : TouchFrame} (hready : o.next_ready = some frame) (retries error : Nat) :
    Mirrors budget_ns o (m.observe_sink frame retries (some error)) := by
  have hread : Mirrors budget_ns o m.clock_nanos.2.clock_nanos.2 := h.congr rfl rfl
  generalize hevent : Diagnostics.Event.new SINK_FAILURE m.clock_nanos.2.clock_nanos.1 frame.session_id frame.sequence
    [m.clock_nanos.1, retries, error] = e
  have hkind : e.kind = SINK_FAILURE := hevent ▸ rfl
  have hframe : e.frame = frame.key := hevent ▸ rfl
  have hrecorded : m.observe_sink frame retries (some error) = m.clock_nanos.2.clock_nanos.2.record e := hevent ▸ rfl
  rw [hrecorded]
  generalize m.clock_nanos.2.clock_nanos.2 = m at hread ⊢
  obtain ⟨f, hf⟩ := evidence_ready hread hready hframe
  have hposts := Diagnostics.Analysis.observe_outcome_posts (.inr hkind) hf
  have hrefused : e.kind ≠ ACCEPT := by
    rw [hkind]
    decide
  rw [← HostMetrics.analysis_record, if_neg hrefused, if_neg hrefused] at hposts
  have hreceipt : receipt e = false := receipt_eq_false (by rw [hkind]; decide)
  refine ⟨hread.placed, ?_, hposts.balanced_kept hread.balanced rfl rfl rfl, ?_, ?_⟩
  · rw [hposts.pending]
    exact hread.slots
  · rw [filter_receipt_record hreceipt]
    exact hread.handed
  · rw [hposts.classified]
    exact hread.classified

variable {σ : Type} [InputSink σ] (raw_os_error : IoError → Option Nat)

theorem commit_ready_mirrors (progressed : Bool) (submissions : List Submission) {i : Input σ} (h : Mirrors budget_ns i.ordered m) :
    Mirrors budget_ns (commit_ready raw_os_error progressed submissions i m).1.2.ordered
      (commit_ready raw_os_error progressed submissions i m).2 := by
  induction submissions generalizing progressed i m with
  | nil =>
    unfold commit_ready
    split <;> exact h
  | cons s submissions ih =>
    unfold commit_ready
    split
    · exact h
    · rename_i frame hready
      dsimp only
      split
      · exact h
      · exact failed_mirrors h hready _ _
      · rw [OrderedFrames.commit_ready_some hready]
        exact ih true (accepted_mirrors h hready _)

/-! ## Functions that leave the window alone -/

section

omit [InputSink σ]

theorem send_control_once_window (control_type : UInt8) (session_id : Nat) (acknowledged : Option Nat) (copy : Copy) (s : Serve σ) :
    (send_control_once control_type session_id acknowledged copy s).2.ordered = s.ordered := by
  unfold send_control_once
  split_ifs <;> rfl

theorem send_control_window (control_type : UInt8) (session_id : Nat) (acknowledged : Option Nat) (copies : Copy × Copy)
    (s : Serve σ) : (send_control control_type session_id acknowledged copies s).2.ordered = s.ordered := by
  have hfirst := send_control_once_window control_type session_id acknowledged copies.1 s
  unfold send_control
  rcases heq : send_control_once control_type session_id acknowledged copies.1 s with ⟨e | ⟨⟨⟩⟩, s'⟩ <;> rw [heq] at hfirst
  · have hsecond := send_control_once_window control_type session_id acknowledged copies.2 s'
    dsimp only
    split <;> (rename_i heq'; rw [heq'] at hsecond; exact hsecond.trans hfirst)
  · exact (send_control_once_window control_type session_id acknowledged copies.2 s').trans hfirst

theorem acknowledge_window (it : Iteration) (incoming_session : Nat) (progressed : Bool) (s : Serve σ) :
    (acknowledge it incoming_session progressed s).2.ordered = s.ordered := by
  unfold acknowledge
  split
  · rfl
  split_ifs
  · rfl
  · rfl
  · exact send_control_window ..
  · exact send_control_once_window ..

theorem receive_window (aead : Aead) (it : Iteration) (s : Serve σ) : (receive_record_into aead it s).2.ordered = s.ordered := by
  unfold receive_record_into
  split
  · rfl
  · rfl
  · rfl
  · split
    · split <;> rfl
    · split
      · rfl
      · dsimp only
        split <;> rfl

theorem handle_ping_window (it : Iteration) (header : RecordHeader) (s : Serve σ) :
    (handle_ping it header s).2.ordered = s.ordered := by
  unfold handle_ping
  split_ifs
  · rfl
  · exact send_control_window ..
  · exact send_control_window ..

theorem repair_window (it : Iteration) (s : Serve σ) : (repair_hello it s).2.ordered = s.ordered := by
  unfold repair_hello
  split_ifs
  · rfl
  · have hsent := send_control_once_window HOST_HELLO 0 none it.hello s
    split <;> (rename_i heq; rw [heq] at hsent; exact hsent)
  · rfl
  · rfl

end

theorem check_window (it : Iteration) (s : Serve σ) : (check it s).2.ordered = s.ordered := by
  have hrepaired := repair_window it s
  unfold check
  split
  · rfl
  rcases heq : repair_hello it s with ⟨e | ⟨⟨⟩⟩, s'⟩ <;> rw [heq] at hrepaired
  · exact hrepaired
  · dsimp only at hrepaired ⊢
    split_ifs
    · exact hrepaired
    · exact hrepaired
    · split <;> exact hrepaired
    · split <;> exact hrepaired

/-- Records other than frames. -/
theorem handle_record_window (it : Iteration) {header : RecordHeader} (payload : Bytes) (s : Serve σ)
    (htouch : header.message_type ≠ PHONE_TOUCH) : (V5Host.handle_record it header payload s).2.ordered = s.ordered := by
  unfold V5Host.handle_record
  split_ifs
  · rfl
  · exact handle_ping_window it header s
  · rfl

/-! ## Turns -/

omit [InputSink σ] in
theorem report_discard_mirrors (aead : Aead) (it : Iteration) (s : Serve σ) (h : Mirrors budget_ns s.ordered m) :
    Mirrors budget_ns s.ordered (report_discard aead it s m) := by
  unfold report_discard
  split
  · exact h.aside (.inr (.inr (.inl rfl)))
  · exact h

theorem process_mirrors (it : Iteration) (frame : TouchFrame) (s : Serve σ) (h : Mirrors budget_ns s.ordered m) :
    Mirrors budget_ns (process_gameplay_frame raw_os_error it frame s m).1.2.ordered
      (process_gameplay_frame raw_os_error it frame s m).2 := by
  unfold process_gameplay_frame
  split
  · exact h
  rename_i hguard
  have hsession : ∀ session_id ∈ s.ordered.session_id, session_id = frame.session_id := by
    intro session_id hid
    rw [Option.mem_def] at hid
    by_contra hne
    exact hguard (by simp [hid, hne])
  have hreceived := receive_ordered_mirrors h it.arrival hsession
  have hcommitted := commit_ready_mirrors raw_os_error false it.submissions
    (i := { s.toInput with ordered := (receive_ordered frame it.arrival s.ordered m).1 }) hreceived
  dsimp only
  rcases heq : commit_ready raw_os_error false it.submissions { s.toInput with
    ordered := (receive_ordered frame it.arrival s.ordered m).1 } (receive_ordered frame it.arrival s.ordered m).2 with
    ⟨⟨(e | progressed) | _, i⟩, m'⟩ <;> rw [heq] at hcommitted
  · exact hcommitted
  · have hwindow : (if progressed then Serve.committed_at it.committed_now { s with toInput := i }
        else { s with toInput := i }).ordered = i.ordered := by
      split_ifs <;> rfl
    dsimp only at hcommitted ⊢
    generalize (if progressed then Serve.committed_at it.committed_now { s with toInput := i }
      else { s with toInput := i }) = served at hwindow ⊢
    rw [acknowledge_window, hwindow]
    split_ifs
    · exact Mirrors.aside (m := m'.clock_nanos.2.clock_nanos.2.clock_nanos.2) (hcommitted.congr rfl rfl) (.inr (.inl rfl))
    · exact hcommitted
  · exact hcommitted

theorem handle_record_mirrors (it : Iteration) (header : RecordHeader) (payload : Bytes) (s : Serve σ)
    (h : Mirrors budget_ns s.ordered m) :
    Mirrors budget_ns (handle_record raw_os_error it header payload s m).1.2.ordered
      (handle_record raw_os_error it header payload s m).2 := by
  unfold handle_record
  split
  · split
    · exact h
    · rename_i frame _
      have hprocessed := process_mirrors raw_os_error it frame s h
      rcases heq : process_gameplay_frame raw_os_error it frame s m with ⟨⟨⟨e | ⟨⟨⟩⟩⟩ | _, s'⟩, m'⟩ <;> rw [heq] at hprocessed
      · exact hprocessed
      · dsimp only
        split
        · split <;> exact hprocessed
        · exact hprocessed
      · exact hprocessed
  · rename_i htouch
    dsimp only
    rw [handle_record_window it payload s htouch]
    exact h

theorem check_stall_mirrors (it : Iteration) (s : Serve σ) (h : Mirrors budget_ns s.ordered m) :
    Mirrors budget_ns s.ordered (check_stall it s m) := by
  have hstall : ∀ (s' : Serve σ) (a b : Nat), Mirrors budget_ns s.ordered
      (m.note STALL (s'.ordered.session_id.getD 0) s'.ordered.expected_sequence a b) :=
    fun s' a b => h.note _ _ _ _ (.inr (.inr (.inr (.inr rfl))))
  unfold check_stall
  dsimp only
  split
  · exact hstall s 1 0
  · split
    · exact h
    · split
      · exact hstall _ 2 32000000
      · exact h

theorem turn_mirrors (aead : Aead) (it : Iteration) (s : Serve σ) (h : Mirrors budget_ns s.ordered m) :
    Mirrors budget_ns (turn raw_os_error aead it s m).1.2.ordered (turn raw_os_error aead it s m).2 := by
  have hstalled := check_stall_mirrors it s h
  rw [← check_window it s] at hstalled
  unfold turn
  dsimp only
  rcases heq : check it s with ⟨⟨e | ⟨⟨⟩⟩⟩ | _, s'⟩ <;> rw [heq] at hstalled
  · exact hstalled
  · dsimp only at hstalled ⊢
    have hreported := report_discard_mirrors aead it s' hstalled
    rw [← receive_window aead it s'] at hreported
    rcases heq' : receive_record_into aead it s' with ⟨e | _ | ⟨header, payload⟩, s''⟩ <;> rw [heq'] at hreported
    · exact hreported
    · exact hreported
    · exact handle_record_mirrors raw_os_error it header payload s'' hreported
  · exact hstalled

theorem serve_loop_mirrors (aead : Aead) (its : List Iteration) (s : Serve σ) (h : Mirrors budget_ns s.ordered m) :
    Mirrors budget_ns (serve_loop raw_os_error aead its s m).1.2.ordered (serve_loop raw_os_error aead its s m).2 := by
  induction its generalizing s m with
  | nil => exact h
  | cons it its ih =>
    have hturned := turn_mirrors raw_os_error aead it s h
    unfold serve_loop
    split
    · exact h
    · rcases heq : turn raw_os_error aead it s m with ⟨⟨⟨e | ⟨⟨⟩⟩⟩ | _, s'⟩, m'⟩ <;> rw [heq] at hturned
      · exact hturned
      · exact ih s' hturned
      · exact hturned

/-! ## Connections -/

theorem cancel_mirrors (s : Submission) (sink : σ) (h : Mirrors budget_ns o m) :
    Mirrors budget_ns o (cancel_with_deadline raw_os_error s sink m).2 := by
  unfold cancel_with_deadline
  split
  · exact h
  · exact Mirrors.note (m := m.clock_nanos.2) (h.congr rfl rfl) _ _ _ _ (.inr (.inr (.inr (.inl rfl))))

theorem inner_mirrors (aead : Aead) (b : Boundary) (its : List Iteration) (s : Serve σ) (h : Mirrors budget_ns s.ordered m) :
    Mirrors budget_ns (serve_gameplay_inner raw_os_error aead b its s m).1.2.ordered
      (serve_gameplay_inner raw_os_error aead b its s m).2 := by
  unfold serve_gameplay_inner
  split
  · exact h
  · exact h
  · have hsent := send_control_window HOST_HELLO 0 none b.hello (s.begun b)
    split
    · rename_i heq
      rw [heq] at hsent
      dsimp only at hsent ⊢
      rw [hsent]
      exact h
    · rename_i heq
      rw [heq] at hsent
      refine serve_loop_mirrors raw_os_error aead its _ ?_
      dsimp only at hsent ⊢
      rw [hsent]
      exact h

/-- A connection leaves an empty window, and nothing outstanding in the analysis. -/
theorem serve_gameplay_mirrors (aead : Aead) (b : Boundary) (its : List Iteration) (s : Serve σ)
    (h : Mirrors budget_ns .require_fresh_session m) :
    Mirrors budget_ns (serve_gameplay raw_os_error aead b its s m).1.2.ordered
      (serve_gameplay raw_os_error aead b its s m).2 := by
  have hserved := inner_mirrors raw_os_error aead b its { s with ordered := .require_fresh_session } h
  unfold serve_gameplay
  rcases heq : serve_gameplay_inner raw_os_error aead b its { s with ordered := .require_fresh_session } m with
    ⟨⟨result | _, s'⟩, m'⟩ <;> rw [heq] at hserved
  · dsimp only at hserved ⊢
    have hended : Mirrors budget_ns .require_fresh_session (note_boundary b.stopping result (notify_session_end b.stopping s') m') :=
      Mirrors.boundary (m := m'.clock_nanos.2) (hserved.congr rfl rfl) (.inr rfl)
    have hreleased := cancel_mirrors raw_os_error b.cancel (notify_session_end b.stopping s').sink hended
    rcases heq' : cancel_with_deadline raw_os_error b.cancel (notify_session_end b.stopping s').sink
      (note_boundary b.stopping result (notify_session_end b.stopping s') m') with ⟨⟨⟨e | ⟨⟨⟩⟩⟩ | _, sink⟩, m''⟩ <;>
      rw [heq'] at hreleased <;> exact hreleased
  · exact hserved

/-- Once a connection has returned, the window is a fresh one. -/
theorem serve_gameplay_fresh (aead : Aead) (b : Boundary) (its : List Iteration) (s : Serve σ) (m : HostMetrics)
    (result : Except HostV5Error Unit) : (serve_gameplay raw_os_error aead b its s m).1.1 = .finished result →
    (serve_gameplay raw_os_error aead b its s m).1.2.ordered = .require_fresh_session := by
  unfold serve_gameplay
  rcases serve_gameplay_inner raw_os_error aead b its { s with ordered := .require_fresh_session } m with ⟨⟨result' | _, s'⟩, m'⟩
  · dsimp only
    rcases cancel_with_deadline raw_os_error b.cancel (notify_session_end b.stopping s').sink
      (note_boundary b.stopping result' (notify_session_end b.stopping s') m') with ⟨⟨⟨e | ⟨⟨⟩⟩⟩ | _, sink⟩, m''⟩ <;>
      exact fun _ => rfl
  · intro h
    cases h

/-! ## The controller -/

theorem release_mirrors (s : Submission) (c : Controller σ) (h : Mirrors budget_ns c.ordered c.metrics) :
    Mirrors budget_ns (release raw_os_error s c).2.ordered (release raw_os_error s c).2.metrics :=
  cancel_mirrors raw_os_error s c.sink h

theorem connected_mirrors (aead : Aead) (link : Link) (c : Controller σ) (h : Mirrors budget_ns c.ordered c.metrics) :
    Mirrors budget_ns (connected raw_os_error aead link c).2.ordered (connected raw_os_error aead link c).2.metrics := by
  have hbegun : Mirrors budget_ns .require_fresh_session c.metrics.begin_connection :=
    Mirrors.boundary (m := c.metrics.clock_nanos.2) (h.congr rfl rfl) (.inl rfl)
  have hserved := serve_gameplay_mirrors raw_os_error aead link.boundary link.iterations (link.accept c) hbegun
  have hfresh := serve_gameplay_fresh raw_os_error aead link.boundary link.iterations (link.accept c) c.metrics.begin_connection
  unfold connected
  rcases heq : serve_gameplay raw_os_error aead link.boundary link.iterations (link.accept c) c.metrics.begin_connection with
    ⟨⟨⟨e | ⟨⟨⟩⟩⟩ | _, s⟩, m⟩ <;> rw [heq] at hserved
  · have hordered : s.ordered = .require_fresh_session := by
      have := hfresh (.error e)
      rw [heq] at this
      exact this rfl
    dsimp only at hserved ⊢
    split
    · exact hserved
    · rw [hordered] at hserved
      have hreleased := release_mirrors raw_os_error link.release ⟨.require_fresh_session, s.sink, m⟩ hserved
      split <;> (rename_i heq'; rw [heq'] at hreleased; exact hreleased)
  · exact hserved
  · exact hserved

theorem pass_mirrors (aead : Aead) (p : Pass) (c : Controller σ) (h : Mirrors budget_ns c.ordered c.metrics) :
    Mirrors budget_ns (pass raw_os_error aead p c).2.ordered (pass raw_os_error aead p c).2.metrics := by
  have hproceeds : ∀ c : Controller σ, Mirrors budget_ns c.ordered c.metrics →
      Mirrors budget_ns (proceed raw_os_error aead p c).2.ordered (proceed raw_os_error aead p c).2.metrics := by
    intro c hc
    unfold proceed
    split
    · exact connected_mirrors raw_os_error aead _ c hc
    · exact hc
    · exact hc
  have hreleased := release_mirrors raw_os_error p.release c h
  unfold pass
  split
  · rcases heq : release raw_os_error p.release c with ⟨⟨e | ⟨⟨⟩⟩⟩ | _, c'⟩ <;> rw [heq] at hreleased
    · exact hreleased
    · exact hproceeds c' hreleased
    · exact hreleased
  · exact hproceeds c h

theorem run_mirrors (aead : Aead) (last : Submission) (passes : List Pass) (c : Controller σ)
    (h : Mirrors budget_ns c.ordered c.metrics) :
    Mirrors budget_ns (run_v5_controller raw_os_error aead last passes c).ordered
      (run_v5_controller raw_os_error aead last passes c).metrics := by
  induction passes generalizing c with
  | nil => exact h
  | cons p passes ih =>
    have hpassed := pass_mirrors raw_os_error aead p c h
    unfold run_v5_controller
    split
    · exact release_mirrors raw_os_error last c h
    · rcases heq : pass raw_os_error aead p c with ⟨(_ | _ | _) | _, c'⟩ <;> rw [heq] at hpassed
      · exact ih c' hpassed
      · exact release_mirrors raw_os_error last c' hpassed
      · exact hpassed
      · exact hpassed

omit [InputSink σ] in
theorem new_mirrors (budget_ns : Nat) (sink : σ) (readings : Nat → Nat) :
    Mirrors budget_ns (Controller.new sink readings).ordered (Controller.new sink readings).metrics := by
  refine ⟨fun i frame hi => (by cases hi), fun i => rfl, ⟨rfl, rfl, ?_⟩, rfl, rfl⟩
  change 0 = 0 + 0 + (Finset.univ.filter fun i => ((none : Option Diagnostics.Event)).isSome).card
  simp

/-- Whatever the connections of a run meet, the finished analysis has every frame on its accounts: each unique frame was
accepted or given up at a boundary, no slot was taken twice and no outcome was without its frame, and each frame that was
handed over is counted once, as unique, duplicate or rejected. -/
theorem every_frame_accounted (aead : Aead) (budget_ns : Nat) (sink : σ) (readings : Nat → Nat) (passes : List Pass) (last : Submission) :
    let m := (run_v5_controller raw_os_error aead last passes (.new sink readings)).metrics
    let a := ((Diagnostics.Analysis.new budget_ns).observed m.events).finish 0
    a.counts .unique_logical_frames_observed = a.counts .os_accepted + a.counts .observed_uncommitted_at_boundary ∧
    a.counts .diagnostic_pending_collision = 0 ∧
    a.counts .outcome_without_receive_evidence = 0 ∧
    (m.events.filter receipt).map Diagnostics.Event.frame = m.handed.map TouchFrame.key ∧
    a.counts .unique_logical_frames_observed + a.counts .logical_duplicate_datagrams + a.counts .protocol_rejected =
      m.handed.length := by
  intro m a
  have hrun : Mirrors budget_ns (run_v5_controller raw_os_error aead last passes (.new sink readings)).ordered m :=
    run_mirrors raw_os_error aead last passes _ (new_mirrors budget_ns sink readings)
  have hposts := Diagnostics.Analysis.finish_posts (m.analysis budget_ns)
  have hbalanced := hposts.balanced hrun.balanced rfl rfl (by simp)
  have hclassified := hposts.classified.trans hrun.classified
  generalize hfinished : (m.analysis budget_ns).finish 0 = finished at hposts hbalanced hclassified
  have ha : a = finished := hfinished
  have hsettled : finished.outstanding = 0 := by
    unfold Diagnostics.Analysis.outstanding
    rw [hposts.pending]
    simp
  have hbalance := hbalanced.balance
  rw [hsettled, Nat.add_zero] at hbalance
  rw [ha]
  exact ⟨hbalance, hbalanced.collisions, hbalanced.evidenced, hrun.handed, hclassified⟩

end Metered

end Trackpad
