import Trackpad.Keyboard.Submissions
/-!
# One enqueue and one flush

What the re-press queue does to each lane. An enqueue schedules the state it was asked for and
keeps the lane alternating; a flush emits edges in queue order, never one past an edge it must
not overtake.
-/
open Edges

namespace Trackpad.Keyboard

variable {L : Nat}

/-! ## Lanes of a queue -/

/-- What the edges of `lane` do, in order. -/
abbrev lane_edges (changes : List (KeyChange L)) (lane : Fin L) : List Bool :=
  track KeyChange.lane KeyChange.down changes lane

/-- The changes waiting in a queue. -/
def waiting (queue : List (ScheduledEdge L)) : List (KeyChange L) := queue.map (·.change)

/-- The state a lane is on its way to: its newest waiting edge, or else `pressed`. -/
def scheduled (queue : List (ScheduledEdge L)) (pressed : Fin L → Bool) (lane : Fin L) : Bool :=
  ((queue.filter (·.change.lane = lane)).getLast?.map (·.change.down)).getD (pressed lane)

theorem scheduled_eq_last (queue : List (ScheduledEdge L)) (pressed : Fin L → Bool) (lane : Fin L) :
    scheduled queue pressed lane = last (pressed lane) (lane_edges (waiting queue) lane) := by
  rw [lane_edges, ← play_eq_track, play_eq_last, waiting, List.filter_map]
  simp [scheduled, Function.comp_def, List.getLast?_map]

theorem lane_edges_waiting (queue : List (ScheduledEdge L)) (lane : Fin L) :
    lane_edges (waiting queue) lane = (queue.filter (·.change.lane = lane)).map (·.change.down) := by
  simp [lane_edges, track, waiting, List.filter_map, Function.comp_def]

theorem count_waiting (queue : List (ScheduledEdge L)) (lane : Fin L) :
    queue.countP (·.change.lane = lane) = (lane_edges (waiting queue) lane).length := by
  rw [lane_edges_waiting, List.length_map, List.countP_eq_length_filter]

/-- Every lane's waiting edges change it one after the other, three at most. -/
structure Orderly (queue : List (ScheduledEdge L)) (pressed : Fin L → Bool) : Prop where
  alternates : ∀ lane, Alternates (pressed lane) (lane_edges (waiting queue) lane)
  bounded : ∀ lane, (lane_edges (waiting queue) lane).length ≤ MAX_WAITING_EDGES

theorem orderly_nil (pressed : Fin L → Bool) : Orderly [] pressed := ⟨fun _ => trivial, fun _ => Nat.zero_le _⟩

/-! ## Enqueue -/

/-- The newest waiting edge of a lane splits the queue: nothing of the lane comes behind it. -/
theorem newest_some {lane : Fin L} {queue : List (ScheduledEdge L)} {index : Nat} {e : ScheduledEdge L}
    (h : newest lane queue = some (index, e)) :
    ∃ before behind, queue = before ++ e :: behind ∧ before.length = index ∧ e.change.lane = lane ∧
      ∀ x ∈ behind, x.change.lane ≠ lane := by
  induction queue generalizing index with
  | nil => cases h
  | cons x queue ih =>
    unfold newest at h
    split at h
    · rename_i i f hn
      cases h
      obtain ⟨before, behind, rfl, rfl, hlane, hb⟩ := ih hn
      exact ⟨x :: before, behind, rfl, rfl, hlane, hb⟩
    · rename_i hn
      split at h
      · rename_i hlane
        cases h
        refine ⟨[], queue, rfl, rfl, hlane, ?_⟩
        clear ih hlane
        induction queue with
        | nil => simp
        | cons y queue ih =>
          unfold newest at hn
          split at hn
          · cases hn
          · rename_i hn'
            split at hn
            · cases hn
            · rename_i hy
              simp only [List.mem_cons, forall_eq_or_imp]
              exact ⟨hy, ih hn'⟩
      · cases h

theorem newest_none {lane : Fin L} {queue : List (ScheduledEdge L)} (h : newest lane queue = none) :
    ∀ x ∈ queue, x.change.lane ≠ lane := by
  induction queue with
  | nil => simp
  | cons y queue ih =>
    unfold newest at h
    split at h
    · cases h
    · rename_i hn
      split at h
      · cases h
      · rename_i hy
        simp only [List.mem_cons, forall_eq_or_imp]
        exact ⟨hy, ih hn⟩

theorem lane_edges_eq_nil {queue : List (ScheduledEdge L)} {lane : Fin L} (h : ∀ x ∈ queue, x.change.lane ≠ lane) :
    lane_edges (waiting queue) lane = [] := by
  simp only [lane_edges, track, waiting, List.map_eq_nil_iff, List.filter_eq_nil_iff, List.mem_map,
    decide_eq_true_eq, forall_exists_index, and_imp, forall_apply_eq_imp_iff₂]
  exact h

/-- What an enqueue does to the queue: nothing, one edge more at the end, or the newest edge of its lane less. -/
inductive Enqueued (change : KeyChange L) (queue : List (ScheduledEdge L)) : List (ScheduledEdge L) → Prop
  | same : Enqueued change queue queue
  | pushed (due : Nat) (spaced : Bool) : Enqueued change queue (queue ++ [⟨change, due, spaced⟩])
  | cancelled (before behind : List (ScheduledEdge L)) (e : ScheduledEdge L) :
      queue = before ++ e :: behind → e.change.lane = change.lane → (∀ x ∈ behind, x.change.lane ≠ change.lane) →
      Enqueued change queue (before ++ behind)

theorem enqueue_enqueued (s : RepressSpacer L) (change : KeyChange L) (now : Nat) (os_pressed : Bool) :
    Enqueued change s.queue (s.enqueue change now os_pressed).queue := by
  unfold RepressSpacer.enqueue
  dsimp only
  split
  · rename_i index previous hn
    split
    · exact .same
    · split
      · obtain ⟨before, behind, hq, rfl, hlane, hbehind⟩ := newest_some hn
        have herase : s.queue.eraseIdx before.length = before ++ behind := by
          rw [hq, List.eraseIdx_append_of_length_le le_rfl]; simp
        rw [herase]
        exact .cancelled before behind previous hq hlane hbehind
      · exact .pushed _ _
  · split
    · exact .same
    · exact .pushed _ _

theorem enqueue_gap (s : RepressSpacer L) (change : KeyChange L) (now : Nat) (os_pressed : Bool) :
    (s.enqueue change now os_pressed).gap = s.gap ∧ (s.enqueue change now os_pressed).last_emitted = s.last_emitted := by
  unfold RepressSpacer.enqueue
  dsimp only
  split
  · split
    · exact ⟨rfl, rfl⟩
    · split <;> exact ⟨rfl, rfl⟩
  · split <;> exact ⟨rfl, rfl⟩

/-- An enqueue keeps the queue orderly and schedules its lane to the state it was asked for. -/
theorem enqueue_spec {s : RepressSpacer L} {pressed : Fin L → Bool} (h : Orderly s.queue pressed)
    (change : KeyChange L) (now : Nat) :
    Orderly (s.enqueue change now (pressed change.lane)).queue pressed ∧
    scheduled (s.enqueue change now (pressed change.lane)).queue pressed =
      Function.update (scheduled s.queue pressed) change.lane change.down := by
  -- An edge pushed behind a lane on its way to the other state.
  have hpush : ∀ due spaced, scheduled s.queue pressed change.lane ≠ change.down →
      (lane_edges (waiting s.queue) change.lane).length < MAX_WAITING_EDGES →
      Orderly (s.queue ++ [⟨change, due, spaced⟩]) pressed ∧
      scheduled (s.queue ++ [⟨change, due, spaced⟩]) pressed =
        Function.update (scheduled s.queue pressed) change.lane change.down := by
    intro due spaced hne hlt
    have hedges : ∀ lane, lane_edges (waiting (s.queue ++ [⟨change, due, spaced⟩])) lane =
        lane_edges (waiting s.queue) lane ++ if change.lane = lane then [change.down] else [] := fun lane => by
      simp only [waiting, List.map_append, List.map_cons, List.map_nil, lane_edges, track_append, track_cons, track_nil]
    refine ⟨⟨fun lane => ?_, fun lane => ?_⟩, ?_⟩
    · rw [hedges]
      split
      · rename_i e
        subst e
        exact alternates_concat (h.alternates _) (by rwa [← scheduled_eq_last])
      · simpa using h.alternates lane
    · rw [hedges]
      split
      · rename_i e; subst e; simpa using hlt
      · simpa using h.bounded lane
    · funext lane
      rw [scheduled_eq_last, hedges, Function.update_apply]
      split
      · rename_i e; simp [e]
      · rename_i e; simp [Ne.symm e, scheduled_eq_last]
  have hsame : ∀ {d}, scheduled s.queue pressed change.lane = d →
      scheduled s.queue pressed = Function.update (scheduled s.queue pressed) change.lane d := by
    rintro d rfl; exact (Function.update_eq_self _ _).symm
  unfold RepressSpacer.enqueue
  dsimp only
  split
  · rename_i index previous hn
    obtain ⟨before, behind, hq, rfl, hlane, hbehind⟩ := newest_some hn
    have hedges : lane_edges (waiting s.queue) change.lane =
        lane_edges (waiting before) change.lane ++ [previous.change.down] := by
      have hb := lane_edges_eq_nil hbehind
      simp only [lane_edges, waiting] at hb
      simp only [hq, waiting, List.map_append, List.map_cons, lane_edges, track_append, track_cons, hlane, if_true, hb]
    have hsched : scheduled s.queue pressed change.lane = previous.change.down := by
      rw [scheduled_eq_last, hedges]; simp
    split
    · rename_i hd
      exact ⟨h, hsame (hsched.trans hd)⟩
    · rename_i hd
      split
      · -- The newest edge of a full lane goes; what is left is on its way to the state asked for.
        have herase : s.queue.eraseIdx before.length = before ++ behind := by
          rw [hq, List.eraseIdx_append_of_length_le le_rfl]; simp
        have hother : ∀ lane, lane ≠ change.lane → lane_edges (waiting (before ++ behind)) lane =
            lane_edges (waiting s.queue) lane := fun lane hl => by
          simp only [hq, waiting, List.map_append, List.map_cons, lane_edges, track_append, track_cons]
          rw [if_neg (by rw [hlane]; exact Ne.symm hl)]
        have hown : lane_edges (waiting (before ++ behind)) change.lane = lane_edges (waiting before) change.lane := by
          have hb := lane_edges_eq_nil hbehind
          simp only [lane_edges, waiting] at hb
          simp only [waiting, List.map_append, lane_edges, track_append, hb, List.append_nil]
        have halt := h.alternates change.lane
        have hlen := h.bounded change.lane
        rw [hedges] at halt hlen
        simp only [herase]
        refine ⟨⟨fun lane => ?_, fun lane => ?_⟩, ?_⟩
        · by_cases hl : lane = change.lane
          · subst hl; rw [hown]; exact ((alternates_append _ _ _).1 halt).1
          · rw [hother lane hl]; exact h.alternates lane
        · by_cases hl : lane = change.lane
          · subst hl; rw [hown]; simp only [List.length_append] at hlen; omega
          · rw [hother lane hl]; exact h.bounded lane
        · funext lane
          rw [scheduled_eq_last, Function.update_apply]
          split
          · rename_i hl
            subst hl
            rw [hown, last_dropLast halt]
            cases hp : previous.change.down <;> cases hc : change.down <;> simp_all
          · rename_i hl
            rw [hother lane hl, scheduled_eq_last]
      · rename_i hfull
        rw [count_waiting] at hfull
        exact hpush _ _ (by rw [hsched]; exact hd) (Nat.lt_of_not_le hfull)
  · rename_i hn
    have hnil := lane_edges_eq_nil (newest_none hn)
    have hsched : scheduled s.queue pressed change.lane = pressed change.lane := by
      rw [scheduled_eq_last, hnil]; rfl
    split
    · rename_i hd; exact ⟨h, hsame (hsched.trans hd)⟩
    · rename_i hd
      exact hpush _ _ (by rw [hsched]; exact hd) (by rw [hnil]; decide)

/-- Everything a frame or several enqueue at once. -/
theorem enqueue_all_spec {s : RepressSpacer L} {pressed : Fin L → Bool} (h : Orderly s.queue pressed)
    (changes : List (KeyChange L)) (now : Nat) :
    Orderly (changes.foldl (fun s c => s.enqueue c now (pressed c.lane)) s).queue pressed ∧
    scheduled (changes.foldl (fun s c => s.enqueue c now (pressed c.lane)) s).queue pressed =
      played (scheduled s.queue pressed) changes := by
  induction changes generalizing s with
  | nil => exact ⟨h, rfl⟩
  | cons c changes ih =>
    obtain ⟨h1, h2⟩ := enqueue_spec h c now
    obtain ⟨h3, h4⟩ := ih h1
    refine ⟨h3, ?_⟩
    rw [List.foldl_cons, h4, h2]
    rfl

/-! ## Flush -/

/-- The marked queue once the OS took the first `accepted` selected edges: an edge is marked if it
was emitted. -/
def outcome : Nat → List (ScheduledEdge L × Bool) → List (ScheduledEdge L × Bool)
  | _, [] => []
  | accepted + 1, (e, true) :: rest => (e, true) :: outcome accepted rest
  | 0, (e, true) :: rest => (e, false) :: outcome 0 rest
  | accepted, (e, false) :: rest => (e, false) :: outcome accepted rest

/-- The marked edges of a queue. -/
def emitted (marked : List (ScheduledEdge L × Bool)) : List (ScheduledEdge L) :=
  (marked.filter (·.2)).map (·.1)

/-- The unmarked edges of a queue. -/
def kept (marked : List (ScheduledEdge L × Bool)) : List (ScheduledEdge L) :=
  (marked.filter (!·.2)).map (·.1)

theorem outcome_edges (n : Nat) (marked : List (ScheduledEdge L × Bool)) :
    (outcome n marked).map (·.1) = marked.map (·.1) := by
  fun_induction outcome n marked <;> simp_all

theorem outcome_emitted (n : Nat) (marked : List (ScheduledEdge L × Bool)) :
    emitted (outcome n marked) = (selected marked).take n := by
  fun_induction outcome n marked with
  | case1 => simp [emitted, selected]
  | case2 n e rest ih => simpa [emitted, selected] using ih
  | case3 e rest ih => simpa [emitted, selected] using ih
  | case4 n e rest ih => simpa [emitted, selected] using ih

theorem outcome_kept (n : Nat) (marked : List (ScheduledEdge L × Bool)) :
    kept (outcome n marked) = retain n marked := by
  fun_induction outcome n marked with
  | case1 n => cases n <;> rfl
  | case2 n e rest ih => simpa [kept, retain] using ih
  | case3 e rest ih => simpa [kept, retain] using ih
  | case4 n e rest ih => cases n <;> simpa [kept, retain] using ih

theorem select_edges (now : Nat) (m : Marks L) (queue : List (ScheduledEdge L)) :
    (select now m queue).map (·.1) = queue := by
  induction queue generalizing m with
  | nil => rfl
  | cons e queue ih => simp [select, ih]

theorem outcome_mem {n : Nat} {marked : List (ScheduledEdge L × Bool)} {e : ScheduledEdge L}
    (h : (e, true) ∈ outcome n marked) : (e, true) ∈ marked := by
  fun_induction outcome n marked <;> simp_all
  tauto

theorem outcome_zero {marked : List (ScheduledEdge L × Bool)} {e : ScheduledEdge L} :
    (e, true) ∉ outcome 0 marked := by
  intro h
  have : e ∈ emitted (outcome 0 marked) := List.mem_map.2 ⟨(e, true), List.mem_filter.2 ⟨h, rfl⟩, rfl⟩
  simp [outcome_emitted] at this

/-- An edge of a lane where one already waits is not selected, nor is a release behind a waiting
press. -/
theorem select_marks {now : Nat} {m : Marks L} {queue : List (ScheduledEdge L)} {e : ScheduledEdge L}
    (h : (e, true) ∈ select now m queue) :
    m.lane_waiting e.change.lane = false ∧ (m.press_waiting = true → e.change.down = true) := by
  induction queue generalizing m with
  | nil => cases h
  | cons x queue ih =>
    rw [select, List.mem_cons] at h
    rcases h with h | h
    · simp only [Prod.mk.injEq] at h
      obtain ⟨rfl, hr⟩ := h
      simp only [ready, Bool.true_eq, Bool.and_eq_true, Bool.not_eq_true', Bool.or_eq_true] at hr
      exact ⟨hr.1.1.2, fun hp => by simpa [hp] using hr.2⟩
    · obtain ⟨h1, h2⟩ := ih h
      unfold Marks.note at h1 h2
      split at h1
      · rename_i hr; simp only [hr, if_true] at h2; exact ⟨h1, h2⟩
      · rename_i hr
        simp only [hr, Bool.false_eq_true, if_false] at h2
        simp only [Function.update_apply] at h1
        split at h1
        · cases h1
        · exact ⟨h1, fun hp => h2 (by simp [hp])⟩

/-- `later` may not be emitted while `earlier`, queued before it, still waits. -/
def MustWait (earlier later : KeyChange L) : Prop :=
  later.lane = earlier.lane ∨ earlier.down = true ∧ later.down = false

/-- No edge is emitted past one it must wait for. -/
def NoOvertaking (marked : List (ScheduledEdge L × Bool)) : Prop :=
  marked.Pairwise fun earlier later => earlier.2 = false → later.2 = true → ¬ MustWait earlier.1.change later.1.change

theorem select_no_overtaking (now n : Nat) (m : Marks L) (queue : List (ScheduledEdge L)) :
    NoOvertaking (outcome n (select now m queue)) := by
  induction queue generalizing m n with
  | nil => simp [select, outcome, NoOvertaking]
  | cons e queue ih =>
    rw [select]
    cases hr : ready now m e with
    | true =>
      cases n with
      | zero =>
        rw [outcome]
        refine List.pairwise_cons.2 ⟨?_, ih _ _⟩
        rintro ⟨x, b⟩ hx - rfl
        exact absurd hx outcome_zero
      | succ n =>
        rw [outcome]
        exact List.pairwise_cons.2 ⟨fun _ _ h => by simp at h, ih _ _⟩
    | false =>
      have hout : outcome n ((e, false) :: select now (m.note e false) queue) =
          (e, false) :: outcome n (select now (m.note e false) queue) := by cases n <;> rfl
      rw [hout]
      refine List.pairwise_cons.2 ⟨?_, ih _ _⟩
      rintro ⟨x, b⟩ hx - rfl
      obtain ⟨h1, h2⟩ := select_marks (outcome_mem hx)
      simp only [Marks.note, Bool.false_eq_true, if_false] at h1 h2
      rintro (hl | ⟨hd, hu⟩)
      · dsimp only at hl; rw [hl] at h1; simp at h1
      · have := h2 (by dsimp only at hd; simp [hd])
        dsimp only at hu
        rw [hu] at this; cases this

/-- On each lane the edges emitted are the first ones waiting. -/
theorem lane_partition {marked : List (ScheduledEdge L × Bool)} (h : NoOvertaking marked) (lane : Fin L) :
    (marked.map (·.1)).filter (·.change.lane = lane) =
      (emitted marked).filter (·.change.lane = lane) ++ (kept marked).filter (·.change.lane = lane) :=
  filter_partition (h.imp fun hab ha hb hl => by
    simp only [decide_eq_true_eq, decide_eq_false_iff_not] at hl ⊢
    exact fun hb' => hab ha hb (.inl (hb'.trans hl.symm)))

theorem lane_edges_partition {marked : List (ScheduledEdge L × Bool)} (h : NoOvertaking marked) (lane : Fin L) :
    lane_edges (waiting (marked.map (·.1))) lane =
      lane_edges (waiting (emitted marked)) lane ++ lane_edges (waiting (kept marked)) lane := by
  simp only [lane_edges_waiting, lane_partition h, List.map_append]

/-- Emitting keeps the queue orderly and leaves every lane on its way to the same state. -/
theorem emit_orderly {marked : List (ScheduledEdge L × Bool)} {pressed : Fin L → Bool} (hno : NoOvertaking marked)
    (h : Orderly (marked.map (·.1)) pressed) :
    (∀ lane, Alternates (pressed lane) (lane_edges (waiting (emitted marked)) lane)) ∧
    Orderly (kept marked) (played pressed (waiting (emitted marked))) ∧
    scheduled (kept marked) (played pressed (waiting (emitted marked))) = scheduled (marked.map (·.1)) pressed := by
  have halt : ∀ lane, Alternates (pressed lane) (lane_edges (waiting (emitted marked)) lane) ∧
      Alternates (last (pressed lane) (lane_edges (waiting (emitted marked)) lane))
        (lane_edges (waiting (kept marked)) lane) := fun lane => by
    rw [← alternates_append, ← lane_edges_partition hno]; exact h.alternates lane
  refine ⟨fun lane => (halt lane).1, ⟨fun lane => ?_, fun lane => ?_⟩, ?_⟩
  · rw [played, play_eq_track]; exact (halt lane).2
  · have := h.bounded lane
    rw [lane_edges_partition hno, List.length_append] at this
    omega
  · funext lane
    rw [scheduled_eq_last, scheduled_eq_last, lane_edges_partition hno, last_append, played, play_eq_track]

theorem emitted_add_kept (marked : List (ScheduledEdge L × Bool)) :
    (emitted marked).length + (kept marked).length = marked.length := by
  simp only [emitted, kept, List.length_map]
  exact (List.length_eq_length_filter_add _).symm

/-- The oldest edge, once due, is selected. -/
theorem select_head {now : Nat} {e : ScheduledEdge L} {queue : List (ScheduledEdge L)} (h : e.due ≤ now) :
    0 < (selected (select now Marks.clear (e :: queue))).length := by
  have hr : ready now Marks.clear e = true := by simp [ready, Marks.clear, h]
  simp [select, selected, hr]

/-! ## An accept, flush by flush -/

/-- The waiting edges of a sink. -/
def KeyboardSink.queue {κ : Type} (s : KeyboardSink κ L) : List (ScheduledEdge L) :=
  (s.spacer.map (·.queue)).getD []

section Accept
variable {κ : Type} [KeySink κ L] (lane_for : Int → Fin L)

/-- `frame` planned, unless it is the frame in progress, and queued. -/
def KeyboardSink.queue_frame (frame : TouchFrame) (now : Nat) (s : KeyboardSink κ L) : KeyboardSink κ L :=
  let s := (s.begin_frame lane_for frame).2
  match s.spacer with
  | some spacer => s.enqueue_pending now spacer
  | none => s

/-- How an accept of an ordinary frame goes: flush what is due, queue the frame, flush again. -/
inductive SpacedAccept (frame : TouchFrame) (now : Nat) (s : KeyboardSink κ L) :
    Except IoError Unit → KeyboardSink κ L → Prop
  | blocked {e s₁} : s.service_at now = (.error e, s₁) → SpacedAccept frame now s (.error e) s₁
  | heartbeat {s₁} : s.service_at now = (.ok (), s₁) → KeyboardSink.is_empty_heartbeat frame = true →
      SpacedAccept frame now s (.ok ()) s₁
  | partly {s₁ e s₂} : s.service_at now = (.ok (), s₁) → KeyboardSink.is_empty_heartbeat frame = false →
      (s₁.queue_frame lane_for frame now).service_at now = (.error e, s₂) → SpacedAccept frame now s (.error e) s₂
  | done {s₁ s₂} : s.service_at now = (.ok (), s₁) → KeyboardSink.is_empty_heartbeat frame = false →
      (s₁.queue_frame lane_for frame now).service_at now = (.ok (), s₂) →
      SpacedAccept frame now s (.ok ()) s₂.commit_pending

/-- A flush touches the OS sink, the keys and the queue only. -/
theorem service_keeps (now : Nat) (s : KeyboardSink κ L) :
    (s.service_at now).2.pending = s.pending ∧ (s.service_at now).2.state = s.state ∧
      (s.service_at now).2.spacer.isSome = s.spacer.isSome := by
  unfold KeyboardSink.service_at
  split
  · exact ⟨rfl, rfl, rfl⟩
  · rename_i h; exact ⟨rfl, rfl, by rw [h]; rfl⟩

theorem accept_steps {frame : TouchFrame} (now : Nat) {s : KeyboardSink κ L}
    (hr : KeyboardSink.is_release frame = false) (hsp : s.spacer.isSome = true)
    (hseq : s.pending.sequence = none ∨ s.pending.sequence = some frame.sequence) :
    SpacedAccept lane_for frame now s (s.accept_at lane_for frame now).1 (s.accept_at lane_for frame now).2 := by
  unfold KeyboardSink.accept_at
  simp only [hr, Bool.false_eq_true, if_false]
  obtain ⟨hp, -, hsp'⟩ := service_keeps now s
  split
  · rename_i h; exact .blocked h
  · rename_i s₁ h
    rw [h] at hp hsp'
    dsimp only at hp hsp'
    split
    · rename_i he; exact .heartbeat h he
    · rename_i he
      have he : KeyboardSink.is_empty_heartbeat frame = false := by simpa using he
      have hbegin : (s₁.begin_frame lane_for frame).1 = .ok () ∧
          (s₁.begin_frame lane_for frame).2.spacer = s₁.spacer := by
        unfold KeyboardSink.begin_frame
        rw [hp]
        rcases hseq with hseq | hseq <;> simp [hseq, KeyboardSink.plan_pending]
      obtain ⟨hb, hbs⟩ := hbegin
      split
      · rename_i hx; rw [hx] at hb; cases hb
      · rename_i s₂ hx
        rw [hx] at hbs
        obtain ⟨spacer, hspacer⟩ := Option.isSome_iff_exists.1 (hsp'.trans hsp)
        have hspacer : s₂.spacer = some spacer := hbs.trans hspacer
        have hqueue : s₁.queue_frame lane_for frame now = s₂.enqueue_pending now spacer := by
          simp only [KeyboardSink.queue_frame, hx, hspacer]
        simp only [hspacer, KeyboardSink.submit_spaced]
        split
        · rename_i hf; exact .partly h he (hqueue ▸ hf)
        · rename_i hf; exact .done h he (hqueue ▸ hf)

end Accept

end Trackpad.Keyboard
