import Trackpad.Diagnostics.Clock
/-!
# The accounts of an analysis

Every received frame takes a slot until its outcome or a boundary settles it. The counts say how: the unique frames are
those accepted, those abandoned at a boundary and those whose slot is still taken.
-/

namespace Trackpad.Diagnostics

namespace Analysis

/-- How many frames have no outcome yet. -/
def outstanding (a : Analysis) : Nat := (Finset.univ.filter fun i => (a.pending i).isSome).card

/-- No frame was lost from the accounts, and none appeared in them twice. -/
structure Balanced (a : Analysis) : Prop where
  collisions : a.counts .diagnostic_pending_collision = 0
  evidenced : a.counts .outcome_without_receive_evidence = 0
  balance : a.counts .unique_logical_frames_observed =
    a.counts .os_accepted + a.counts .observed_uncommitted_at_boundary + a.outstanding

/-- How many frames were counted as unique, duplicate or rejected. -/
def classified (a : Analysis) : Nat :=
  a.counts .unique_logical_frames_observed + a.counts .logical_duplicate_datagrams + a.counts .protocol_rejected

variable {a b : Analysis}

theorem Spares.balanced (h : Spares Count.account a b) (ha : a.Balanced) : b.Balanced where
  collisions := (h.counts _ rfl).trans ha.collisions
  evidenced := (h.counts _ rfl).trans ha.evidenced
  balance := by
    rw [h.counts _ rfl, h.counts _ rfl, h.counts _ rfl, ha.balance]
    unfold outstanding
    rw [h.pending]

theorem Spares.classified (h : Spares Count.account a b) : b.classified = a.classified := by
  unfold Analysis.classified
  rw [h.counts _ rfl, h.counts _ rfl, h.counts _ rfl]

/-! ## Slots -/

theorem outstanding_taken {pending : Fin MAX_REORDERED_FRAMES → Option Event} {i : Fin MAX_REORDERED_FRAMES} (e : Event)
    (hfree : pending i = none) :
    (Finset.univ.filter fun j => (Function.update pending i (some e) j).isSome).card =
      (Finset.univ.filter fun j => (pending j).isSome).card + 1 := by
  have hset : (Finset.univ.filter fun j => (Function.update pending i (some e) j).isSome) =
      insert i (Finset.univ.filter fun j => (pending j).isSome) := by
    ext j
    by_cases hj : j = i
    · subst hj
      simp
    · simp [hj]
  rw [hset, Finset.card_insert_of_notMem (by simp [hfree])]

theorem outstanding_freed {pending : Fin MAX_REORDERED_FRAMES → Option Event} {i : Fin MAX_REORDERED_FRAMES}
    (htaken : (pending i).isSome = true) :
    (Finset.univ.filter fun j => (Function.update pending i none j).isSome).card + 1 =
      (Finset.univ.filter fun j => (pending j).isSome).card := by
  have hset : (Finset.univ.filter fun j => (Function.update pending i none j).isSome) =
      (Finset.univ.filter fun j => (pending j).isSome).erase i := by
    ext j
    by_cases hj : j = i
    · subst hj
      simp
    · simp [hj]
  rw [hset]
  exact Finset.card_erase_add_one (Finset.mem_filter.mpr ⟨Finset.mem_univ i, htaken⟩)

/-! ## One event -/

/-- What an event does to the accounts: the counts it adds to, and the slots it leaves. -/
structure Posts (counts : Count → Nat) (pending : Fin MAX_REORDERED_FRAMES → Option Event) (a b : Analysis) : Prop where
  counts : ∀ key, key.account = true → b.counts key = a.counts key + counts key
  pending : b.pending = pending

/-- One more of a single count. -/
def once (key : Count) : Count → Nat := fun other => if other = key then 1 else 0

theorem counted (key : Count) (a : Analysis) (other : Count) :
    (a.count key 1).counts other = a.counts other + once key other := by
  unfold count once
  split_ifs with h
  · subst h
    exact Function.update_self ..
  · exact Function.update_of_ne h ..

theorem Posts.spared {counts : Count → Nat} {pending : Fin MAX_REORDERED_FRAMES → Option Event} {begun kind : Analysis}
    (hbegun : Spares Count.account a begun) (h : Posts counts pending begun kind) (hdone : Spares Count.account kind b) :
    Posts counts pending a b where
  counts := fun key hkey => by rw [hdone.counts key hkey, h.counts key hkey, hbegun.counts key hkey]
  pending := hdone.pending.trans h.pending

/-- An event that concerns no frame. -/
theorem observe_aside {e : Event} (a : Analysis)
    (hkind : e.kind = GAP ∨ e.kind = ACK ∨ e.kind = INGRESS ∨ e.kind = CANCEL ∨ e.kind = STALL) :
    Posts (fun _ => 0) a.pending a (a.observe e) := by
  obtain ⟨begun, hbegun, hdone⟩ := observe_spares Count.account e a
  have hspared : Spares Count.account begun (begun.observe_kind e) := by
    rcases hkind with h | h | h | h | h
    · rw [observe_kind_gap h]
      exact (Spares.refl _ begun).gap ⟨rfl, rfl⟩
    · rw [observe_kind_ack h]
      exact (Spares.refl _ begun).ack ⟨rfl, rfl⟩
    · rw [observe_kind_ingress h]
      exact (Spares.refl _ begun).ingress ⟨rfl, rfl, rfl, rfl⟩
    · rw [observe_kind_cancel h]
      exact (Spares.refl _ begun).cancel rfl
    · rw [observe_kind_stall h]
      exact ((Spares.refl _ begun).count rfl).anomaly
  have hall := hbegun.trans (hspared.trans hdone)
  exact ⟨hall.counts, hall.pending⟩

theorem observe_duplicate {e : Event} (a : Analysis) (hkind : e.kind = DUPLICATE) :
    Posts (once .logical_duplicate_datagrams) a.pending a (a.observe e) := by
  obtain ⟨begun, hbegun, hdone⟩ := observe_spares Count.account e a
  rw [observe_kind_duplicate hkind] at hdone
  rw [← hbegun.pending]
  exact .spared hbegun ⟨fun key _ => counted _ begun key, rfl⟩ hdone

/-- The clock's part of a received frame is none of the accounts' business. -/
theorem transport_bounds_posts (e : Event) (a : Analysis) :
    Posts (fun _ => 0) a.pending a (a.transport_bounds e).2 := by
  have hspared : ∀ b, Spares Count.account a b → Posts (fun _ => 0) a.pending a b := fun b h => ⟨h.counts, h.pending⟩
  unfold transport_bounds
  dsimp only
  split_ifs
  · exact hspared _ ((Spares.refl _ a).count rfl)
  · exact hspared _ ((Spares.refl _ a).count rfl)
  · exact hspared _ ((Spares.refl _ a).count rfl)
  · split
    · have hreset : Spares Count.account a (anomaly e .clock_rate_assumption_or_timestamps_inconsistent
          ((a.sample .duplex_exchange_residual_upper_ns (as_u64 ((exchange e).2 - (exchange e).1))).count
            .clock_model_resets 1)) := (((Spares.refl _ a).sample rfl).count rfl).anomaly
      exact ⟨hreset.counts, hreset.pending⟩
    · next interval _ =>
      have hsampled : ∀ b : Analysis, Posts (fun _ => 0) b.pending b (b.sample_exchange e interval) := by
        intro b
        have hspared : Spares Count.account _ (b.sample_exchange e interval) := sample_exchange_spares rfl e interval b
        obtain ⟨hcounts, hpending, -⟩ := b.sample_forward_counts e (forward e interval)
        exact ⟨fun key hkey => (hspared.counts key hkey).trans (congrFun hcounts key), hspared.pending.trans hpending⟩
      exact ⟨(hsampled _).counts, (hsampled _).pending⟩

/-- A received frame whose slot is free takes it. -/
theorem observe_received {e : Event} {a : Analysis} (hkind : e.kind = RECEIVE) (hfree : a.pending (slot e.sequence) = none) :
    Posts (once .unique_logical_frames_observed) (Function.update a.pending (slot e.sequence) (some e)) a (a.observe e) := by
  obtain ⟨begun, hbegun, hdone⟩ := observe_spares Count.account e a
  rw [observe_kind_receive hkind] at hdone
  rw [← hbegun.pending] at hfree ⊢
  refine .spared hbegun ?_ hdone
  have hreceived := (Spares.refl Count.account (begun.count .unique_logical_frames_observed 1)).received
    ⟨rfl, rfl⟩ rfl (e := e)
  unfold observe_receive
  dsimp only at hreceived ⊢
  generalize (if e.d9 &&& 1 ≠ 0 then
    observe_gameplay e (if e.d9 &&& 4 ≠ 0 then (begun.count .unique_logical_frames_observed 1).count .unique_heartbeats 1
      else begun.count .unique_logical_frames_observed 1)
    else if e.d9 &&& 4 ≠ 0 then (begun.count .unique_logical_frames_observed 1).count .unique_heartbeats 1
      else begun.count .unique_logical_frames_observed 1) = b at hreceived ⊢
  have hbounds := transport_bounds_posts e b
  have hpending : (b.transport_bounds e).2.pending = begun.pending := hbounds.pending.trans hreceived.pending
  unfold take_slot
  dsimp only
  rw [hpending, hfree, if_neg (by simp)]
  exact ⟨fun key hkey => by
      change (b.transport_bounds e).2.counts key = _
      rw [hbounds.counts key hkey, hreceived.counts key hkey, counted]
      rfl,
    congrArg (fun pending => Function.update pending (slot e.sequence) (some e)) hpending⟩

theorem observe_rejected {e : Event} {a : Analysis} (hkind : e.kind = REJECT) (hfree : a.evidence e = none) :
    Posts (once .protocol_rejected) a.pending a (a.observe e) := by
  obtain ⟨begun, hbegun, hdone⟩ := observe_spares Count.account e a
  rw [observe_kind_reject hkind] at hdone
  have hnone : (begun.count .protocol_rejected 1).evidence e = none := by
    rw [← hfree]
    exact congrArg (fun pending => (pending (slot e.sequence)).filter fun p => p.frame = e.frame) hbegun.pending
  have hrejected : Spares Count.account (begun.count .protocol_rejected 1)
      ((begun.count .protocol_rejected 1).anomaly e .protocol_frame_rejected) := (Spares.refl _ _).anomaly
  rw [← hbegun.pending]
  refine .spared hbegun ?_ hdone
  unfold observe_reject
  dsimp only
  rw [hnone]
  exact ⟨fun key hkey => (hrejected.counts key hkey).trans (counted _ begun key), hrejected.pending⟩

/-! ## Outcomes -/

/-- The outcome of a frame that holds its slot. -/
theorem observe_outcome_posts {e f : Event} {a : Analysis} (hkind : e.kind = ACCEPT ∨ e.kind = SINK_FAILURE)
    (hfound : a.evidence e = some f) :
    Posts (if e.kind = ACCEPT then once .os_accepted else fun _ => 0)
      (if e.kind = ACCEPT then Function.update a.pending (slot e.sequence) none else a.pending) a (a.observe e) := by
  obtain ⟨begun, hbegun, hdone⟩ := observe_spares Count.account e a
  rw [observe_kind_outcome hkind] at hdone
  rw [← hbegun.pending]
  refine .spared hbegun ?_ hdone
  have hattempts := (Spares.refl Count.account
    (begun.count (if e.kind = ACCEPT then .os_accepted else .os_failed) 1)).attempts rfl (e := e)
  unfold observe_outcome
  dsimp only
  generalize observe_attempts e (begun.count (if e.kind = ACCEPT then .os_accepted else .os_failed) 1) = b at hattempts ⊢
  have hevidence : b.evidence e = some f := by
    rw [← hfound]
    exact congrArg (fun pending => (pending (slot e.sequence)).filter fun p => p.frame = e.frame)
      (hattempts.pending.trans hbegun.pending)
  have hmatched : b.observe_evidence e = b.observe_service e f := by
    unfold observe_evidence
    rw [hevidence]
  rw [hmatched]
  have hmeasured := (Spares.refl Count.account b).service (e := e) (f := f)
  have hcounts : ∀ key, key.account = true →
      (b.measure_service e f).counts key = begun.counts key + once (if e.kind = ACCEPT then .os_accepted else .os_failed) key :=
    fun key hkey => by rw [hmeasured.counts key hkey, hattempts.counts key hkey, counted]
  have hpending : (b.measure_service e f).pending = begun.pending := hmeasured.pending.trans hattempts.pending
  unfold observe_service
  dsimp only
  generalize b.measure_service e f = c at hcounts hpending ⊢
  by_cases haccepted : e.kind = ACCEPT
  · simp only [if_pos haccepted] at hcounts ⊢
    have hfreed : Spares Count.account { c with pending := Function.update c.pending (slot e.sequence) none }
        (if f.d9 &&& 1 ≠ 0 then
          (({ c with pending := Function.update c.pending (slot e.sequence) none } : Analysis).count
            .gameplay_os_accepted 1).judge e f (e.at_ - f.at_)
        else { c with pending := Function.update c.pending (slot e.sequence) none }) :=
      (((Spares.refl _ _).count rfl).judge ⟨rfl, rfl, rfl, rfl⟩).ite (Spares.refl _ _)
    exact ⟨fun key hkey => (hfreed.accepted.counts key hkey).trans (hcounts key hkey),
      hfreed.accepted.pending.trans (by rw [← hpending])⟩
  · simp only [if_neg haccepted] at hcounts ⊢
    refine ⟨fun key hkey => ?_, hpending⟩
    rw [hcounts key hkey]
    unfold once
    rw [if_neg]
    rintro rfl
    cases hkey

/-! ## Boundaries -/

theorem discard_posts (e : Event) (i : Fin MAX_REORDERED_FRAMES) (a : Analysis) :
    Posts (if (a.pending i).isSome then once .observed_uncommitted_at_boundary else fun _ => 0)
      (Function.update a.pending i none) a (a.discard e i) := by
  unfold discard
  cases hslot : a.pending i with
  | none =>
    have hsame : Function.update a.pending i none = a.pending := by
      rw [← hslot]
      exact Function.update_eq_self i a.pending
    exact ⟨fun _ _ => rfl, hsame.symm⟩
  | some frame =>
    dsimp only
    have hcounted := Spares.refl Count.account
      (({ a with pending := Function.update a.pending i none } : Analysis).count .observed_uncommitted_at_boundary 1)
    exact ⟨fun key hkey => (((hcounted.count rfl).ite hcounted).anomaly.retain.counts key hkey).trans (counted _ _ key),
      ((hcounted.count rfl).ite hcounted).anomaly.retain.pending⟩

theorem discard_foldl_posts (e : Event) (slots : List (Fin MAX_REORDERED_FRAMES)) (hdistinct : slots.Nodup) (a : Analysis) :
    Posts (fun key => if key = .observed_uncommitted_at_boundary then slots.countP fun i => (a.pending i).isSome else 0)
      (fun i => if i ∈ slots then none else a.pending i) a (slots.foldl (fun a i => a.discard e i) a) := by
  induction slots generalizing a with
  | nil => exact ⟨fun key _ => by simp, by simp⟩
  | cons i slots ih =>
    obtain ⟨hfresh, hdistinct⟩ := List.nodup_cons.mp hdistinct
    have hstep := discard_posts e i a
    have hrest := ih hdistinct (a.discard e i)
    have hsame : (slots.countP fun j => ((a.discard e i).pending j).isSome) = slots.countP fun j => (a.pending j).isSome := by
      apply List.countP_congr
      intro j hj
      rw [hstep.pending, Function.update_of_ne (fun heq : j = i => hfresh (heq ▸ hj))]
    refine ⟨fun key hkey => ?_, ?_⟩
    · rw [List.foldl_cons, hrest.counts key hkey, hstep.counts key hkey, hsame, List.countP_cons]
      unfold once
      split_ifs <;> simp_all
      omega
    · rw [List.foldl_cons, hrest.pending, hstep.pending]
      funext j
      by_cases hj : j = i
      · subst hj
        simp
      · simp [hj]

theorem outstanding_eq (a : Analysis) :
    (List.finRange MAX_REORDERED_FRAMES).countP (fun i => (a.pending i).isSome) = a.outstanding := by
  rw [List.countP_eq_length_filter, ← List.toFinset_card_of_nodup ((List.nodup_finRange _).filter _)]
  unfold outstanding
  congr 1
  ext i
  simp

/-- A boundary abandons every frame that has no outcome. -/
theorem discard_pending_posts (e : Event) (a : Analysis) :
    Posts (fun key => if key = .observed_uncommitted_at_boundary then a.outstanding else 0) (fun _ => none) a
      (a.discard_pending e) := by
  have h := discard_foldl_posts e (List.finRange MAX_REORDERED_FRAMES) (List.nodup_finRange _) a
  rw [outstanding_eq] at h
  unfold discard_pending
  generalize List.foldl (fun a i => a.discard e i) a (List.finRange MAX_REORDERED_FRAMES) = b at h ⊢
  refine ⟨h.counts, h.pending.trans ?_⟩
  funext i
  rw [if_pos (List.mem_finRange i)]

theorem observe_boundary_posts {e : Event} {a : Analysis} (hkind : e.kind = BEGIN ∨ e.kind = BOUNDARY) :
    Posts (fun key => if key = .observed_uncommitted_at_boundary then a.outstanding else 0) (fun _ => none) a
      (a.observe e) := by
  obtain ⟨begun, hbegun, hdone⟩ := observe_spares Count.account e a
  have houtstanding : ∀ b, Spares Count.account a b → b.outstanding = a.outstanding := fun b h => by
    unfold outstanding
    rw [h.pending]
  rw [← houtstanding begun hbegun]
  refine .spared hbegun ?_ hdone
  rcases hkind with hkind | hkind
  · rw [observe_kind_begin hkind]
    have hdiscarded := discard_pending_posts e begun
    unfold observe_begin
    generalize begun.discard_pending e = b at hdiscarded ⊢
    exact ⟨fun key hkey => (((Spares.refl Count.account b).count rfl).counts key hkey).trans
      (hdiscarded.counts key hkey), hdiscarded.pending⟩
  · rw [observe_kind_boundary hkind]
    have hfailed := failed_spares (show Count.account .failed_boundaries = false from rfl) e begun
    unfold observe_boundary
    dsimp only
    generalize (if e.d4 ≠ 0 then
        { (begun.count .failed_boundaries 1).anomaly e .session_failure_boundary with
          recovering := ((begun.count .failed_boundaries 1).anomaly e .session_failure_boundary).active }
        else begun) = b at hfailed ⊢
    have hdiscarded := discard_pending_posts e b
    rw [houtstanding b (hbegun.trans hfailed), ← houtstanding begun hbegun] at hdiscarded
    generalize b.discard_pending e = c at hdiscarded ⊢
    exact ⟨fun key hkey => (hdiscarded.counts key hkey).trans (by rw [hfailed.counts key hkey]), hdiscarded.pending⟩

/-- The end of a recording abandons them as a boundary does. -/
theorem finish_posts (a : Analysis) :
    Posts (fun key => if key = .observed_uncommitted_at_boundary then a.outstanding else 0) (fun _ => none) a (a.finish 0) := by
  have hdiscarded := discard_pending_posts (Event.new BOUNDARY a.last_event_ns 0 0 []) { a with diagnostic_records_dropped := 0 }
  unfold finish
  dsimp only
  generalize ({ a with diagnostic_records_dropped := 0 } : Analysis).discard_pending (Event.new BOUNDARY a.last_event_ns 0 0 []) = b
    at hdiscarded ⊢
  exact ⟨hdiscarded.counts, hdiscarded.pending⟩

/-! ## The balance -/

/-- What keeps the accounts: each event adds as much to one side as to the other. -/
theorem Posts.balanced {counts : Count → Nat} {pending : Fin MAX_REORDERED_FRAMES → Option Event} (h : Posts counts pending a b)
    (ha : a.Balanced) (hcollisions : counts .diagnostic_pending_collision = 0)
    (hevidenced : counts .outcome_without_receive_evidence = 0)
    (hposted : counts .unique_logical_frames_observed + a.outstanding = counts .os_accepted +
      counts .observed_uncommitted_at_boundary + (Finset.univ.filter fun i => (pending i).isSome).card) : b.Balanced where
  collisions := by rw [h.counts _ rfl, ha.collisions, hcollisions]
  evidenced := by rw [h.counts _ rfl, ha.evidenced, hevidenced]
  balance := by
    have houtstanding : b.outstanding = (Finset.univ.filter fun i => (pending i).isSome).card := by
      unfold outstanding
      rw [h.pending]
    have := ha.balance
    rw [h.counts _ rfl, h.counts _ rfl, h.counts _ rfl, houtstanding]
    omega

/-- An event that takes and frees no slot. -/
theorem Posts.balanced_kept {counts : Count → Nat} (h : Posts counts a.pending a b) (ha : a.Balanced)
    (hcollisions : counts .diagnostic_pending_collision = 0) (hevidenced : counts .outcome_without_receive_evidence = 0)
    (hposted : counts .unique_logical_frames_observed = counts .os_accepted + counts .observed_uncommitted_at_boundary) :
    b.Balanced := by
  refine h.balanced ha hcollisions hevidenced ?_
  rw [hposted]
  rfl

theorem Posts.classified {counts : Count → Nat} {pending : Fin MAX_REORDERED_FRAMES → Option Event}
    (h : Posts counts pending a b) : b.classified = a.classified + (counts .unique_logical_frames_observed +
      counts .logical_duplicate_datagrams + counts .protocol_rejected) := by
  unfold Analysis.classified
  rw [h.counts _ rfl, h.counts _ rfl, h.counts _ rfl]
  omega

end Analysis

end Trackpad.Diagnostics
