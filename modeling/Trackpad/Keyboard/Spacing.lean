import Trackpad.Keyboard.Flush
/-!
# Spaced keys alternate and end where the fingers are

Runs with re-press spacing, over any OS sink. `Recorded` keeps the edges the OS took, in order.
Each lane is on its way to the state its holders ask for (`Spaced`): the queue says how.
-/
open Edges

namespace Trackpad.Keyboard

variable {κ : Type} {L : Nat}

/-! ## Recording what was emitted -/

/-- An OS sink with every edge it has taken. -/
structure Recorded (κ : Type) (L : Nat) where
  inner : κ
  log : List (KeyChange L)

def Recorded.new (L : Nat) (inner : κ) : Recorded κ L := ⟨inner, []⟩

/-- The changes a submission took; an impossible count is an error and takes none. -/
def taken (changes : List (KeyChange L)) : Except IoError Nat → List (KeyChange L)
  | .ok n => if n ≤ changes.length then changes.take n else []
  | .error _ => []

instance [KeySink κ L] : KeySink (Recorded κ L) L where
  submit changes sink :=
    let (result, inner) := KeySink.submit changes sink.inner
    (result, ⟨inner, sink.log ++ taken changes result⟩)
  discard_pending sink :=
    let (result, inner) := KeySink.discard_pending sink.inner
    (result, ⟨inner, sink.log⟩)
  has_pending_submission sink := KeySink.has_pending_submission sink.inner

variable [KeySink κ L]

theorem recorded_submit {changes : List (KeyChange L)} {sink sink' : Recorded κ L} {r : Except IoError Nat}
    (h : KeySink.submit changes sink = (r, sink')) : sink'.log = sink.log ++ taken changes r := by
  simp only [KeySink.submit] at h
  cases h
  rfl

theorem recorded_discard {sink sink' : Recorded κ L} {r : Except IoError Unit}
    (h : KeySink.discard_pending sink = (r, sink')) : sink'.log = sink.log := by
  simp only [KeySink.discard_pending] at h
  cases h
  rfl

/-- What one flush does: it emits some of the waiting edges, none past one it must wait for, and
keeps the others in order. -/
structure Flushed (spacer : RepressSpacer L) (sink : Recorded κ L) (pressed : Fin L → Bool)
    (spacer' : RepressSpacer L) (sink' : Recorded κ L) (pressed' : Fin L → Bool)
    (marked : List (ScheduledEdge L × Bool)) : Prop where
  edges : marked.map (·.1) = spacer.queue
  in_order : NoOvertaking marked
  log : sink'.log = sink.log ++ waiting (emitted marked)
  queue : waiting spacer'.queue = waiting (kept marked)
  pressed : pressed' = played pressed (waiting (emitted marked))

omit [KeySink κ L] in
theorem unmarked (spacer : RepressSpacer L) (sink sink' : Recorded κ L) (pressed : Fin L → Bool)
    (h : sink'.log = sink.log) :
    Flushed spacer sink pressed spacer sink' pressed (spacer.queue.map fun e => (e, false)) where
  edges := by simp [Function.comp_def]
  in_order := by
    refine List.pairwise_of_forall_mem_list fun a _ b hb _ hm => ?_
    obtain ⟨e, -, rfl⟩ := List.mem_map.1 hb
    cases hm
  log := by simp [h, emitted, waiting, List.filter_map, Function.comp_def]
  queue := by simp [kept, waiting, List.filter_map, Function.comp_def]
  pressed := by simp [emitted, waiting, List.filter_map, Function.comp_def]

theorem waiting_restart (gap now : Nat) (last : Fin L → Option EmittedEdge) (queue : List (ScheduledEdge L)) :
    waiting (queue.map (RepressSpacer.restart_gap gap now last)) = waiting queue := by
  simp only [waiting, List.map_map]
  refine List.map_congr_left fun e _ => ?_
  simp only [Function.comp, RepressSpacer.restart_gap]
  split <;> rfl

theorem flush_flushed (spacer : RepressSpacer L) (now : Nat) (sink : Recorded κ L) (pressed : Fin L → Bool) :
    ∃ marked, Flushed spacer sink pressed (spacer.flush now sink pressed).2.1 (spacer.flush now sink pressed).2.2.1
      (spacer.flush now sink pressed).2.2.2 marked := by
  unfold RepressSpacer.flush
  dsimp only
  split
  · exact ⟨_, unmarked _ _ _ _ rfl⟩
  · split
    · exact ⟨_, unmarked _ _ _ _ rfl⟩
    · split
      · rename_i hs; exact ⟨_, unmarked _ _ _ _ (by simp [recorded_submit hs, taken])⟩
      · rename_i n sink' hs
        split
        · rename_i hn
          exact ⟨_, unmarked _ _ _ _ 
            (by rw [recorded_submit hs, taken, if_neg (Nat.not_le_of_lt hn), List.append_nil])⟩
        · rename_i hn
          have hf : Flushed spacer sink pressed (spacer.emit now n pressed).1 sink' (spacer.emit now n pressed).2
              (outcome n (select now Marks.clear spacer.queue)) := by
            refine ⟨by rw [outcome_edges, select_edges], select_no_overtaking _ _ _ _, ?_, ?_, ?_⟩
            · rw [recorded_submit hs, taken, if_pos (Nat.le_of_not_lt hn), outcome_emitted, waiting, List.map_take]
            · simp only [RepressSpacer.emit, waiting_restart, outcome_kept]
            · simp only [RepressSpacer.emit, foldl_emitted, outcome_emitted, waiting]
          split <;> exact ⟨_, hf⟩

/-! ## What every flush and release keeps -/

/-- The emitted edges of each lane alternate from released and have led to `pressed`; the waiting
ones go on from there. -/
structure InOrder (spacer : RepressSpacer L) (sink : Recorded κ L) (pressed : Fin L → Bool) : Prop where
  alternates : ∀ lane, Alternates false (lane_edges sink.log lane)
  shown : ∀ lane, pressed lane = last false (lane_edges sink.log lane)
  orderly : Orderly spacer.queue pressed

omit [KeySink κ L] in
/-- Emitting edges that alternate from `pressed` keeps the log in order. -/
theorem inOrder_append {spacer spacer' : RepressSpacer L} {sink sink' : Recorded κ L} {pressed : Fin L → Bool}
    {changes : List (KeyChange L)} (h : InOrder spacer sink pressed) (hlog : sink'.log = sink.log ++ changes)
    (halt : ∀ lane, Alternates (pressed lane) (lane_edges changes lane))
    (hq : Orderly spacer'.queue (played pressed changes)) : InOrder spacer' sink' (played pressed changes) where
  alternates lane := by
    rw [hlog, lane_edges, track_append, alternates_append, ← h.shown]
    exact ⟨h.alternates lane, halt lane⟩
  shown lane := by
    rw [played, play_eq_track, hlog, lane_edges, track_append, last_append, ← h.shown]
  orderly := hq

omit [KeySink κ L] in
theorem Flushed.keeps {spacer spacer' : RepressSpacer L} {sink sink' : Recorded κ L} {pressed pressed' : Fin L → Bool}
    {marked : List (ScheduledEdge L × Bool)} (hf : Flushed spacer sink pressed spacer' sink' pressed' marked)
    (h : InOrder spacer sink pressed) :
    InOrder spacer' sink' pressed' ∧ scheduled spacer'.queue pressed' = scheduled spacer.queue pressed := by
  obtain ⟨h1, h2, h3⟩ := emit_orderly hf.in_order (hf.edges ▸ h.orderly)
  rw [hf.pressed]
  refine ⟨inOrder_append h hf.log h1 ⟨?_, ?_⟩, ?_⟩
  · rw [hf.queue]; exact h2.alternates
  · rw [hf.queue]; exact h2.bounded
  · rw [← hf.edges, ← h3]
    funext lane
    rw [scheduled_eq_last, scheduled_eq_last, hf.queue]

theorem service_spec {s s' : KeyboardSink (Recorded κ L) L} {spacer : RepressSpacer L} {now : Nat}
    {r : Except IoError Unit} (hsp : s.spacer = some spacer) (hi : InOrder spacer s.sink s.pressed)
    (hs : s.service_at now = (r, s')) :
    ∃ spacer', s'.spacer = some spacer' ∧ InOrder spacer' s'.sink s'.pressed ∧
      scheduled spacer'.queue s'.pressed = scheduled spacer.queue s.pressed ∧
      s'.state = s.state ∧ s'.pending = s.pending := by
  obtain ⟨marked, hf⟩ := flush_flushed spacer now s.sink s.pressed
  obtain ⟨h1, h2⟩ := hf.keeps hi
  unfold KeyboardSink.service_at at hs
  rw [hsp] at hs
  cases hs
  exact ⟨_, rfl, h1, h2, rfl, rfl⟩

/-- Releases alternate: each pressed lane gets one. -/
theorem releases_alternate (pressed : Fin L → Bool) (n : Nat) (lane : Fin L) :
    Alternates (pressed lane) (lane_edges ((KeyboardSink.releases pressed).take n) lane) := by
  have hsub : (lane_edges ((KeyboardSink.releases pressed).take n) lane).Sublist
      (lane_edges (KeyboardSink.releases pressed) lane) :=
    ((List.take_sublist _ _).filter _).map _
  have hall : lane_edges (KeyboardSink.releases pressed) lane = if pressed lane = true then [false] else [] := by
    rw [lane_edges, track, releases_lane]; split <;> rfl
  rw [hall] at hsub
  split at hsub
  · rename_i hl
    rcases List.sublist_singleton.1 hsub with h | h <;> rw [h]
    · trivial
    · exact ⟨by simp [hl], trivial⟩
  · rw [List.sublist_nil.1 hsub]; trivial

/-- What a release leaves: nothing waits, and only releases of pressed lanes were emitted. -/
structure LetGo (s s' : KeyboardSink (Recorded κ L) L) (spacer' : RepressSpacer L) : Prop where
  spacer : s'.spacer = some spacer'
  in_order : InOrder spacer' s'.sink s'.pressed
  log : ∃ n, s'.sink.log = s.sink.log ++ (KeyboardSink.releases s.pressed).take n

theorem release_all_with_letGo {s s' : KeyboardSink (Recorded κ L) L} {spacer : RepressSpacer L} {now : Nat}
    {r : Except IoError Unit} (hsp : s.spacer = some spacer) (hi : InOrder spacer s.sink s.pressed)
    (hs : s.release_all_with now = (r, s')) : ∃ spacer', LetGo s s' spacer' ∧ spacer'.queue = [] := by
  have hb : s.begin_release.spacer = some { spacer with queue := [] } := by
    simp [KeyboardSink.begin_release, hsp]
  have hi0 : InOrder { spacer with queue := [] } s.sink s.pressed := ⟨hi.alternates, hi.shown, orderly_nil _⟩
  -- Nothing was taken: the queue is gone and the rest is as it was.
  have hnone : ∀ sink : Recorded κ L, sink.log = s.sink.log →
      LetGo s { s.begin_release with sink := sink } { spacer with queue := [] } := fun sink hlog =>
    ⟨hb, ⟨fun l => hlog ▸ hi.alternates l, fun l => hlog ▸ hi.shown l, orderly_nil _⟩, 0, by simp [hlog]⟩
  unfold KeyboardSink.release_all_with at hs
  dsimp only at hs
  split at hs
  · cases hs
    exact ⟨_, ⟨hb, hi0, 0, by simp [KeyboardSink.clear_state, KeyboardSink.begin_release]⟩, rfl⟩
  · split at hs
    · rename_i hsub
      cases hs
      exact ⟨_, hnone _ (by rw [recorded_submit hsub]; simp [taken, KeyboardSink.begin_release]), rfl⟩
    · rename_i n sink hsub
      have hlog := recorded_submit hsub
      split at hs
      · rename_i hn
        cases hs
        exact ⟨_, hnone _ (by rw [hlog, taken, if_neg (Nat.not_le_of_lt hn), List.append_nil]; rfl), rfl⟩
      · rename_i hn
        rw [taken, if_pos (Nat.le_of_not_lt hn)] at hlog
        obtain ⟨spacer', h1, h2⟩ := foldl_released_spacer now (s.begin_release.pending.changes.take n)
          (s := { s.begin_release with sink := sink }) hb
        obtain ⟨h3, -, -, h4⟩ := foldl_note_released now (s.begin_release.pending.changes.take n)
          { s.begin_release with sink := sink }
        have hup : ((KeyboardSink.releases s.pressed).take n).map (fun c => { c with down := false }) =
            (KeyboardSink.releases s.pressed).take n := by
          simp [KeyboardSink.releases, ← List.map_take]
        have hin : InOrder spacer' sink (played s.pressed ((KeyboardSink.releases s.pressed).take n)) :=
          inOrder_append hi0 hlog (releases_alternate s.pressed n) (by rw [h2]; exact orderly_nil _)
        simp only [KeyboardSink.begin_release, hup] at h3 h4
        split at hs
        · cases hs
          refine ⟨spacer', ⟨h1, ?_, n, ?_⟩, h2⟩
          · simp only [KeyboardSink.begin_release, h3, h4]; exact hin
          · simp only [KeyboardSink.begin_release, h4]; exact hlog
        · cases hs
          refine ⟨spacer', ⟨h1, ?_, n, ?_⟩, h2⟩
          · simp only [KeyboardSink.clear_state, KeyboardSink.begin_release, h3, h4]; exact hin
          · simp only [KeyboardSink.clear_state, KeyboardSink.begin_release, h4]; exact hlog

theorem release_all_letGo {s s' : KeyboardSink (Recorded κ L) L} {spacer : RepressSpacer L} {now : Nat}
    {r : Except IoError Unit} (hsp : s.spacer = some spacer) (hi : InOrder spacer s.sink s.pressed)
    (hs : s.release_all now = (r, s')) :
    ∃ spacer', LetGo s s' spacer' ∧ (r = .ok () → spacer'.queue = []) := by
  unfold KeyboardSink.release_all at hs
  split at hs
  · rename_i hd
    have hlog := recorded_discard hd
    cases hs
    exact ⟨spacer, ⟨hsp, ⟨fun l => hlog ▸ hi.alternates l, fun l => hlog ▸ hi.shown l, hi.orderly⟩, 0, by simp [hlog]⟩,
      fun h => by cases h⟩
  · rename_i sink hd
    have hlog := recorded_discard hd
    obtain ⟨spacer', ⟨h1, h2, n, h3⟩, h4⟩ := release_all_with_letGo (s := { s with sink := sink }) hsp
      ⟨fun l => hlog ▸ hi.alternates l, fun l => hlog ▸ hi.shown l, hi.orderly⟩ hs
    exact ⟨spacer', ⟨h1, h2, n, by rw [h3, hlog]⟩, fun _ => h4⟩

/-! ## A frame, from plan to queue -/

/-- No frame is in progress, and every lane is on its way to the state its holders ask for. -/
structure Aimed (s : KeyboardSink (Recorded κ L) L) (spacer : RepressSpacer L) : Prop where
  idle : s.pending.sequence = none
  counted : Counted s.state
  aim : scheduled spacer.queue s.pressed = held s.state

/-- `frame` is planned and queued, but not all that was due went out. -/
structure Queued (frame : TouchFrame) (s : KeyboardSink (Recorded κ L) L) (spacer : RepressSpacer L) : Prop where
  sequence : s.pending.sequence = some frame.sequence
  snapshot : KeyboardSink.is_empty_heartbeat frame = false
  applied : s.pending.changes.drop s.pending.applied = []
  counted : Counted s.pending.next_state
  aim : scheduled spacer.queue s.pressed = held s.pending.next_state

/-- What the sink looks like under each duty. -/
def Spaced (s : KeyboardSink (Recorded κ L) L) (d : Duty) : Prop :=
  ∃ spacer, s.spacer = some spacer ∧ InOrder spacer s.sink s.pressed ∧
    match d with
    | .free => Aimed s spacer
    | .retry frame => KeyboardSink.is_release frame = false ∧ (Aimed s spacer ∨ Queued frame s spacer)
    | .release => True

omit [KeySink κ L] in
/-- Queueing a planned frame aims every lane at the planned state. -/
theorem enqueue_pending_queued (lane_for : Int → Fin L) {frame : TouchFrame} {s : KeyboardSink (Recorded κ L) L}
    {spacer : RepressSpacer L} (he : KeyboardSink.is_empty_heartbeat frame = false) (hsp : s.spacer = some spacer)
    (hi : InOrder spacer s.sink s.pressed) (h : Aimed s spacer) (now : Nat) :
    ∃ spacer', ((s.plan_pending lane_for frame).enqueue_pending now spacer).spacer = some spacer' ∧
      InOrder spacer' s.sink s.pressed ∧
      Queued frame ((s.plan_pending lane_for frame).enqueue_pending now spacer) spacer' := by
  obtain ⟨h1, h2⟩ := enqueue_all_spec hi.orderly (plan_into lane_for s.state frame true).2 now
  have hplan : (s.plan_pending lane_for frame).pending =
      ⟨some frame.sequence, (plan_into lane_for s.state frame true).1, (plan_into lane_for s.state frame true).2, 0⟩ := by
    simp [KeyboardSink.plan_pending, hsp]
  refine ⟨_, rfl, ⟨hi.alternates, hi.shown, ?_⟩, ?_⟩
  · simp only [hplan, List.drop_zero]; exact h1
  · refine ⟨?_, he, ?_, ?_, ?_⟩
    · simp [KeyboardSink.enqueue_pending, hplan]
    · simp [KeyboardSink.enqueue_pending]
    · simp only [KeyboardSink.enqueue_pending, hplan]
      exact plan_counted lane_for h.counted frame true
    · simp only [KeyboardSink.enqueue_pending, hplan, List.drop_zero]
      rw [← plan_plays lane_for h.counted frame true, ← h.aim]
      exact h2

omit [KeySink κ L] in
/-- A queued frame is not queued twice. -/
theorem enqueue_pending_again {frame : TouchFrame} {s : KeyboardSink (Recorded κ L) L} {spacer : RepressSpacer L}
    (h : Queued frame s spacer) (now : Nat) : Queued frame (s.enqueue_pending now spacer) spacer ∧
      (s.enqueue_pending now spacer).spacer = some spacer where
  left := ⟨h.sequence, h.snapshot, by simp [KeyboardSink.enqueue_pending], h.counted, h.aim⟩
  right := by simp [KeyboardSink.enqueue_pending, h.applied]

/-- Where an accept of an ordinary frame leaves the sink. -/
def Accepted (frame : TouchFrame) (r : Except IoError Unit) (s' : KeyboardSink (Recorded κ L) L) : Prop :=
  ∃ spacer', s'.spacer = some spacer' ∧ InOrder spacer' s'.sink s'.pressed ∧
    ((r = .ok () ∧ Aimed s' spacer') ∨ (∃ e, r = .error e) ∧ (Aimed s' spacer' ∨ Queued frame s' spacer'))

/-- Once queued, a frame is done when its flush is. -/
theorem submit_queued {frame : TouchFrame} {s : KeyboardSink (Recorded κ L) L} {spacer₀ spacer : RepressSpacer L}
    {now : Nat} (hsp : (s.enqueue_pending now spacer₀).spacer = some spacer) (hi : InOrder spacer s.sink s.pressed)
    (h : Queued frame (s.enqueue_pending now spacer₀) spacer) {r : Except IoError Unit}
    {s' : KeyboardSink (Recorded κ L) L} (hs : s.submit_spaced now spacer₀ = (r, s')) : Accepted frame r s' := by
  unfold KeyboardSink.submit_spaced at hs
  cases hx : (s.enqueue_pending now spacer₀).service_at now with
  | mk r₁ s₁ =>
    obtain ⟨spacer', h1, h2, h3, h4, h5⟩ := service_spec hsp hi hx
    rw [hx] at hs
    cases r₁ with
    | error e =>
      cases hs
      exact ⟨spacer', h1, h2, .inr ⟨⟨e, rfl⟩, .inr ⟨h5 ▸ h.sequence, h.snapshot, h5 ▸ h.applied, h5 ▸ h.counted,
        by rw [h3, h.aim, h5]⟩⟩⟩
    | ok u =>
      cases hs
      refine ⟨spacer', h1, h2, .inl ⟨rfl, rfl, ?_, ?_⟩⟩
      · simp only [KeyboardSink.commit_pending, h5]; exact h.counted
      · simp only [KeyboardSink.commit_pending, h5]; exact h3.trans h.aim

theorem accept_spaced {lane_for : Int → Fin L} {frame : TouchFrame} {s : KeyboardSink (Recorded κ L) L}
    {spacer : RepressSpacer L} (hr : KeyboardSink.is_release frame = false) (hsp : s.spacer = some spacer)
    (hi : InOrder spacer s.sink s.pressed) (h : Aimed s spacer ∨ Queued frame s spacer) {now : Nat}
    {r : Except IoError Unit} {s' : KeyboardSink (Recorded κ L) L}
    (hs : s.accept_at lane_for frame now = (r, s')) : Accepted frame r s' := by
  unfold KeyboardSink.accept_at at hs
  simp only [hr, Bool.false_eq_true, if_false] at hs
  cases hx : s.service_at now with
  | mk r₁ s₁ =>
    obtain ⟨spacer₁, h1, h2, h3, h4, h5⟩ := service_spec hsp hi hx
    have h₁ : Aimed s₁ spacer₁ ∨ Queued frame s₁ spacer₁ := by
      rcases h with h | h
      · exact .inl ⟨h5 ▸ h.idle, h4 ▸ h.counted, by rw [h3, h.aim, h4]⟩
      · exact .inr ⟨h5 ▸ h.sequence, h.snapshot, h5 ▸ h.applied, h5 ▸ h.counted, by rw [h3, h.aim, h5]⟩
    rw [hx] at hs
    cases r₁ with
    | error e => cases hs; exact ⟨spacer₁, h1, h2, .inr ⟨⟨e, rfl⟩, h₁⟩⟩
    | ok u =>
      dsimp only at hs
      split at hs
      · rename_i he
        cases hs
        refine ⟨spacer₁, h1, h2, .inl ⟨rfl, h₁.resolve_right fun hq => ?_⟩⟩
        rw [hq.snapshot] at he; cases he
      · rename_i he
        have he : KeyboardSink.is_empty_heartbeat frame = false := by simpa using he
        rcases h₁ with h₁ | h₁
        · obtain ⟨spacer₂, h6, h7, h8⟩ := enqueue_pending_queued lane_for he h1 h2 h₁ now
          have hbegin : s₁.begin_frame lane_for frame = (.ok (), s₁.plan_pending lane_for frame) := by
            simp [KeyboardSink.begin_frame, h₁.idle]
          have hsp₂ : (s₁.plan_pending lane_for frame).spacer = some spacer₁ := h1
          rw [hbegin] at hs
          simp only [hsp₂] at hs
          exact submit_queued h6 h7 h8 hs
        · obtain ⟨h6, h7⟩ := enqueue_pending_again h₁ now
          have hbegin : s₁.begin_frame lane_for frame = (.ok (), s₁) := by
            simp [KeyboardSink.begin_frame, h₁.sequence]
          rw [hbegin] at hs
          simp only [h1] at hs
          exact submit_queued h7 h2 h6 hs

/-! ## Runs -/

omit [KeySink κ L] in
theorem spaced_new (sink : κ) (gap : Nat) : Spaced (KeyboardSink.new (Recorded.new L sink) (some gap)) .free :=
  ⟨RepressSpacer.new L gap, rfl, ⟨fun _ => trivial, fun _ => rfl, orderly_nil _⟩, rfl, counted_new, by
    funext l; simp [RepressSpacer.new, KeyboardSink.new, scheduled, held, KeyboardState.new]⟩

theorem release_spaced {lane_for : Int → Fin L} {d : Duty} {c : Call} {s : KeyboardSink (Recorded κ L) L}
    (hc : c.releases = true) (h : Spaced s d) :
    Spaced (c.exec lane_for s).2 (d.after c (c.exec lane_for s).1) := by
  obtain ⟨spacer, hsp, hi, -⟩ := h
  rw [exec_release lane_for hc]
  cases hr : s.release_all c.now with
  | mk r s' =>
    obtain ⟨spacer', hgo, hq⟩ := release_all_letGo hsp hi hr
    cases r with
    | error e => rw [after_release_error d hc]; exact ⟨spacer', hgo.spacer, hgo.in_order, trivial⟩
    | ok u =>
      have hrel := release_all_ok hr
      rw [after_release_ok d hc]
      refine ⟨spacer', hgo.spacer, hgo.in_order, hrel.pending, hrel.state ▸ counted_new, ?_⟩
      funext l
      rw [hq rfl, hrel.state, hrel.pressed]
      simp [scheduled, held, KeyboardState.new]

/-- Every call the host may make keeps the lanes on their way. -/
theorem spaced_step {lane_for : Int → Fin L} {s : KeyboardSink (Recorded κ L) L} {d : Duty} (h : Spaced s d) (c : Call)
    (hc : d.allows c) : Spaced (c.exec lane_for s).2 (d.after c (c.exec lane_for s).1) := by
  by_cases hrel : c.releases = true
  · exact release_spaced hrel h
  · cases c with
    | release_all now => exact absurd rfl hrel
    | service now =>
      obtain ⟨spacer, hsp, hi, hd⟩ := h
      cases hx : s.service_at now with
      | mk r s' =>
        obtain ⟨spacer', h1, h2, h3, h4, h5⟩ := service_spec hsp hi hx
        have hexec : (Call.service now).exec lane_for s = (r, s') := hx
        rw [hexec]
        refine ⟨spacer', h1, h2, ?_⟩
        have hafter : d.after (.service now) r = d := rfl
        rw [hafter]
        have haimed : Aimed s spacer → Aimed s' spacer' := fun h =>
          ⟨h5 ▸ h.idle, h4 ▸ h.counted, by rw [h3, h.aim, h4]⟩
        cases d with
        | free => exact haimed hd
        | retry frame =>
          refine ⟨hd.1, hd.2.imp haimed fun h => ?_⟩
          exact ⟨h5 ▸ h.sequence, h.snapshot, h5 ▸ h.applied, h5 ▸ h.counted, by rw [h3, h.aim, h5]⟩
        | release => trivial
    | accept frame now =>
      have hr : KeyboardSink.is_release frame = false := by simpa [Call.releases] using hrel
      have hready : ∃ spacer, s.spacer = some spacer ∧ InOrder spacer s.sink s.pressed ∧
          (Aimed s spacer ∨ Queued frame s spacer) := by
        obtain ⟨spacer, hsp, hi, hd⟩ := h
        refine ⟨spacer, hsp, hi, ?_⟩
        cases d with
        | free => exact .inl hd
        | retry g =>
          have hg : frame = g := by
            rcases hc with h | ⟨_, h⟩ | ⟨_, h⟩
            · exact absurd h hrel
            · cases h; rfl
            · cases h
          exact hg ▸ hd.2
        | release => exact absurd hc hrel
      obtain ⟨spacer, hsp, hi, hready⟩ := hready
      cases hx : (Call.accept frame now).exec lane_for s with
      | mk r s' =>
        obtain ⟨spacer', h1, h2, ⟨rfl, h3⟩ | ⟨⟨e, rfl⟩, h3⟩⟩ := accept_spaced hr hsp hi hready hx
        · exact ⟨spacer', h1, h2, h3⟩
        · rw [after_accept_error d hr]
          exact ⟨spacer', h1, h2, hr, h3⟩

theorem run_spaced {lane_for : Int → Fin L} {gap : Nat} {sink : κ} {s : KeyboardSink (Recorded κ L) L} {d : Duty}
    {t : Nat} (h : Run lane_for (some gap) (Recorded.new L sink) s d t) : Spaced s d := by
  induction h with
  | new => exact spaced_new sink gap
  | call c _ hc _ ih => exact spaced_step ih c hc

/-! ## The spacer is right -/

/-- Whatever waits when a sink flushes, nothing emitted overtakes what it must wait for. -/
theorem service_in_order (s : KeyboardSink (Recorded κ L) L) (now : Nat) :
    ∃ marked, marked.map (·.1) = s.queue ∧ NoOvertaking marked ∧
      (s.service_at now).2.sink.log = s.sink.log ++ waiting (emitted marked) ∧
      waiting (s.service_at now).2.queue = waiting (kept marked) := by
  unfold KeyboardSink.service_at KeyboardSink.queue
  cases hsp : s.spacer with
  | none => exact ⟨[], by simp [NoOvertaking, emitted, kept, waiting, hsp]⟩
  | some spacer =>
    obtain ⟨marked, hf⟩ := flush_flushed spacer now s.sink s.pressed
    exact ⟨marked, hf.edges, hf.in_order, hf.log, hf.queue⟩

/-- How the waiting edges and those emitted go on from `queue` and `log`: edges are enqueued, and flushes emit some of
those that wait, none past one it must wait for. -/
inductive Advances (queue : List (ScheduledEdge L)) (log : List (KeyChange L)) :
    List (ScheduledEdge L) → List (KeyChange L) → Prop
  | still : Advances queue log queue log
  | enqueued {queue₁ queue₂ log₁} (change : KeyChange L) :
      Advances queue log queue₁ log₁ → Enqueued change queue₁ queue₂ → Advances queue log queue₂ log₁
  | flushed {queue₂ log₁} (marked : List (ScheduledEdge L × Bool)) :
      Advances queue log (marked.map (·.1)) log₁ → NoOvertaking marked → waiting queue₂ = waiting (kept marked) →
      Advances queue log queue₂ (log₁ ++ waiting (emitted marked))

theorem service_advances {queue : List (ScheduledEdge L)} {log : List (KeyChange L)} {s : KeyboardSink (Recorded κ L) L}
    (h : Advances queue log s.queue s.sink.log) (now : Nat) :
    Advances queue log (s.service_at now).2.queue (s.service_at now).2.sink.log := by
  obtain ⟨marked, hedges, hno, hlog, hkept⟩ := service_in_order s now
  rw [hlog]
  exact .flushed marked (hedges.symm ▸ h) hno hkept

omit [KeySink κ L] in
theorem enqueue_all_advances {queue : List (ScheduledEdge L)} {log log₁ : List (KeyChange L)} {spacer : RepressSpacer L}
    (h : Advances queue log spacer.queue log₁) (now : Nat) (pressed : Fin L → Bool) (changes : List (KeyChange L)) :
    Advances queue log (changes.foldl (fun spacer c => spacer.enqueue c now (pressed c.lane)) spacer).queue log₁ := by
  induction changes generalizing spacer with
  | nil => exact h
  | cons c changes ih => exact ih (.enqueued c h (enqueue_enqueued spacer c now (pressed c.lane)))

omit [KeySink κ L] in
/-- A frame is planned into the queue behind all that waits there. -/
theorem queue_frame_advances {lane_for : Int → Fin L} {queue : List (ScheduledEdge L)} {log : List (KeyChange L)}
    {s : KeyboardSink (Recorded κ L) L} (h : Advances queue log s.queue s.sink.log) (frame : TouchFrame) (now : Nat) :
    Advances queue log (s.queue_frame lane_for frame now).queue (s.queue_frame lane_for frame now).sink.log := by
  have hbegin : (s.begin_frame lane_for frame).2.spacer = s.spacer ∧ (s.begin_frame lane_for frame).2.sink = s.sink := by
    unfold KeyboardSink.begin_frame
    split
    · split <;> exact ⟨rfl, rfl⟩
    · exact ⟨rfl, rfl⟩
  obtain ⟨hspacer, hsink⟩ := hbegin
  unfold KeyboardSink.queue_frame
  dsimp only
  rw [hspacer]
  unfold KeyboardSink.queue at h
  cases hsp : s.spacer with
  | none =>
    rw [hsp] at h
    unfold KeyboardSink.queue
    simp only [hspacer, hsp, hsink]
    exact h
  | some spacer =>
    rw [hsp] at h
    simp only [KeyboardSink.queue, KeyboardSink.enqueue_pending, hsink, Option.map_some, Option.getD_some]
    exact enqueue_all_advances h now _ _

/-- What a call does that lets nothing go: an accept flushes, queues its frame behind what waits, and flushes again. -/
theorem call_advances {lane_for : Int → Fin L} {s : KeyboardSink (Recorded κ L) L} {d : Duty} (h : Spaced s d) {c : Call}
    (hc : d.allows c) (hkeeps : c.releases = false) :
    Advances s.queue s.sink.log (c.exec lane_for s).2.queue (c.exec lane_for s).2.sink.log := by
  cases c with
  | release_all now => cases hkeeps
  | service now => exact service_advances .still now
  | accept frame now =>
    obtain ⟨spacer, hsp, -, hd⟩ := h
    have hsequence : s.pending.sequence = none ∨ s.pending.sequence = some frame.sequence := by
      cases d with
      | free => exact .inl hd.idle
      | retry g =>
        rcases hc with hreleases | ⟨_, hframe⟩ | ⟨_, hframe⟩
        · rw [hkeeps] at hreleases
          cases hreleases
        · cases hframe
          exact hd.2.imp Aimed.idle Queued.sequence
        · cases hframe
      | release => rw [Duty.allows, hkeeps] at hc; cases hc
    have hfirst : ∀ {r u}, s.service_at now = (r, u) → Advances s.queue s.sink.log u.queue u.sink.log := by
      intro r u hs
      have hadvances : Advances s.queue s.sink.log (s.service_at now).2.queue (s.service_at now).2.sink.log :=
        service_advances .still now
      rwa [hs] at hadvances
    have hsecond : ∀ {r u r' u'}, s.service_at now = (r, u) →
        (u.queue_frame lane_for frame now).service_at now = (r', u') → Advances s.queue s.sink.log u'.queue u'.sink.log := by
      intro r u r' u' hs hs'
      have hqueued : Advances s.queue s.sink.log (u.queue_frame lane_for frame now).queue
          (u.queue_frame lane_for frame now).sink.log := queue_frame_advances (hfirst hs) frame now
      have hserviced := service_advances hqueued now
      rwa [hs'] at hserviced
    have hsteps := accept_steps lane_for now hkeeps (by rw [hsp]; rfl) hsequence
    change Advances s.queue s.sink.log (s.accept_at lane_for frame now).2.queue (s.accept_at lane_for frame now).2.sink.log
    generalize s.accept_at lane_for frame now = result at hsteps
    obtain ⟨r, s'⟩ := result
    cases hsteps with
    | blocked hs => exact hfirst hs
    | heartbeat hs => exact hfirst hs
    | partly hs _ hs' => exact hsecond hs hs'
    | done hs _ hs' =>
      have hserviced := hsecond hs hs'
      exact hserviced

/-- A flush that succeeds once the oldest edge is due leaves fewer waiting. -/
theorem flush_shortens {spacer : RepressSpacer L} {now : Nat} {sink : Recorded κ L} {pressed : Fin L → Bool}
    {e : ScheduledEdge L} {rest : List (ScheduledEdge L)} (hq : spacer.queue = e :: rest) (hdue : e.due ≤ now)
    (hok : (spacer.flush now sink pressed).1 = .ok ()) :
    (spacer.flush now sink pressed).2.1.queue.length < spacer.queue.length := by
  have hpos : 0 < (selected (select now Marks.clear spacer.queue)).length := hq ▸ select_head hdue
  unfold RepressSpacer.flush at hok ⊢
  dsimp only at hok ⊢
  split at hok
  · rename_i hnil; rw [hq] at hnil; cases hnil
  · split at hok
    · rename_i hnil
      rw [List.map_eq_nil_iff] at hnil
      rw [hnil] at hpos; cases hpos
    · rename_i hne hbatch
      rw [if_neg hne, if_neg hbatch]
      split at hok
      · cases hok
      · rename_i n sink' hs
        split at hok
        · cases hok
        · rename_i hn
          rw [if_neg hn]
          split at hok
          · cases hok
          · rename_i hall
            rw [if_neg hall]
            rw [not_not, List.length_map] at hall
            have hsum := emitted_add_kept (outcome n (select now Marks.clear spacer.queue))
            have hlen : (outcome n (select now Marks.clear spacer.queue)).length = spacer.queue.length := by
              rw [← List.length_map, outcome_edges, select_edges]
            rw [outcome_emitted, outcome_kept, hlen, hall, List.take_length] at hsum
            simp only [RepressSpacer.emit, List.length_map]
            rw [hall]
            omega

theorem service_shortens {s : KeyboardSink (Recorded κ L) L} {now : Nat} {e : ScheduledEdge L}
    {rest : List (ScheduledEdge L)} (hq : s.queue = e :: rest) (hdue : e.due ≤ now)
    (hok : (s.service_at now).1 = .ok ()) : (s.service_at now).2.queue.length < s.queue.length := by
  unfold KeyboardSink.service_at at hok ⊢
  unfold KeyboardSink.queue at hq ⊢
  cases hsp : s.spacer with
  | none => simp [hsp] at hq
  | some spacer =>
    simp only [hsp, Option.map_some, Option.getD_some] at hq hok ⊢
    exact flush_shortens hq hdue hok

/-- A pad with a gap of 16, on which a finger taps twice: the release of the first tap and the press of the second wait. -/
def tappedTwice : KeyboardSink (Recorded (TakesAll 2) 2) 2 :=
  let s := ((Call.accept tapRight 0).exec halves (KeyboardSink.new (Recorded.new 2 ⟨⟩) (some 16))).2
  let s := ((Call.accept liftRight 1).exec halves s).2
  ((Call.accept { tapRight with sequence := 3 } 2).exec halves s).2

end Trackpad.Keyboard
