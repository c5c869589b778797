import Trackpad.Keyboard.Log
/-!
# The re-press gap

Every emitted press, and the release of a press that was spaced or a finger's, comes a gap after the
lane's previous edge. `Separated` carries it: a lane's oldest waiting edge is due late enough, and each
one behind it is spaced if it has to be.
-/
open Edges

namespace Trackpad.Keyboard

variable {κ : Type} {L : Nat}

/-- The emitted edges of a lane, in order. -/
abbrev lane_log (log : List (Emission L)) (lane : Fin L) : List (Emission L) := log.filter (·.change.lane = lane)

/-- `e` keeps its distance from `p`, the edge its lane emitted before it. -/
def Gap (gap : Nat) (p e : Emission L) : Prop :=
  e.cancel = false → needs_gap p.spaced p.change.touch e.change = true → p.at_ + gap ≤ e.at_

/-- `e'` waits right behind `e`. -/
def Behind (e e' : ScheduledEdge L) : Prop := needs_gap e.spaced e.change.touch e'.change = true → e'.spaced = true

/-! ## Selection -/

theorem select_due {now : Nat} {m : Marks L} {queue : List (ScheduledEdge L)} {e : ScheduledEdge L}
    (h : e ∈ selected (select now m queue)) : e.due ≤ now := by
  induction queue generalizing m with
  | nil => cases h
  | cons x queue ih =>
    rw [select] at h
    rcases hr : ready now m x with _ | _
    · rw [hr] at h
      simp only [selected, List.filter_cons, Bool.false_eq_true, if_false] at h
      exact ih h
    · rw [hr] at h
      simp only [selected, List.filter_cons, if_true, List.map_cons, List.mem_cons] at h
      rcases h with rfl | h
      · simp only [ready, Bool.and_eq_true, decide_eq_true_eq] at hr
        exact hr.1.1.1
      · exact ih h

/-- Behind the first selected edge of a lane no spaced one is selected. -/
theorem select_unspaced (now : Nat) (m : Marks L) (queue : List (ScheduledEdge L)) (lane : Fin L) :
    (m.lane_selected lane = true → ∀ e ∈ lane_queue (selected (select now m queue)) lane, e.spaced = false) ∧
    ∀ e ∈ (lane_queue (selected (select now m queue)) lane).tail, e.spaced = false := by
  induction queue generalizing m with
  | nil => simp [select, selected]
  | cons x queue ih =>
    rw [select]
    rcases hr : ready now m x with _ | _
    · obtain ⟨hall, htail⟩ := ih (m.note x false)
      simp only [selected, List.filter_cons, Bool.false_eq_true, if_false] at hall htail ⊢
      exact ⟨hall, htail⟩
    · obtain ⟨hall, htail⟩ := ih (m.note x true)
      simp only [selected, List.filter_cons, if_true, List.map_cons] at hall htail ⊢
      simp only [Marks.note, if_true, Function.update_apply] at hall
      by_cases hx : x.change.lane = lane
      · have hrest := hall (if_pos hx.symm)
        simp only [hx, decide_true, if_true, List.tail_cons]
        refine ⟨fun hs e he => ?_, hrest⟩
        rcases List.mem_cons.1 he with rfl | he
        · simp only [ready, Bool.and_eq_true, Bool.not_eq_true', Bool.and_eq_false_iff] at hr
          rcases hr.1.2 with hu | hu
          · exact hu
          · rw [hx, hs] at hu
            cases hu
        · exact hrest e he
      · simp only [hx, decide_false, Bool.false_eq_true, if_false]
        refine ⟨fun hs => hall ?_, htail⟩
        rw [if_neg (Ne.symm hx)]
        exact hs

theorem mem_tail_of_prefix {α : Type} {l₁ l₂ : List α} (h : l₁ <+: l₂) {x : α} (hx : x ∈ l₁.tail) : x ∈ l₂.tail := by
  obtain ⟨rest, rfl⟩ := h
  rcases l₁ with _ | ⟨a, l₁⟩
  · cases hx
  · exact List.mem_append_left _ hx

/-- What a flush emits on a lane: the lane's oldest edges, all due, none but the first spaced. -/
structure Emits (s : RepressSpacer L) (now n : Nat) (lane : Fin L) : Prop where
  split : lane_queue s.queue lane =
    lane_queue (emitted (s.flushed now n)) lane ++ lane_queue (kept (s.flushed now n)) lane
  due : ∀ e ∈ emitted (s.flushed now n), e.due ≤ now
  unspaced : ∀ e ∈ (lane_queue (emitted (s.flushed now n)) lane).tail, e.spaced = false

theorem flush_emits (s : RepressSpacer L) (now n : Nat) (lane : Fin L) : Emits s now n lane where
  split := by
    have hpartition := lane_partition (select_no_overtaking now n Marks.clear s.queue) lane
    rwa [outcome_edges, select_edges] at hpartition
  due e he := by
    rw [RepressSpacer.flushed, outcome_emitted] at he
    exact select_due (List.mem_of_mem_take he)
  unspaced e he := by
    rw [RepressSpacer.flushed, outcome_emitted] at he
    apply (select_unspaced now Marks.clear s.queue lane).2
    exact mem_tail_of_prefix ((List.take_prefix _ _).filter _) he

/-! ## Bookkeeping -/

theorem note_emitted_lane (now : Nat) (last : Fin L → Option EmittedEdge) (edges : List (ScheduledEdge L)) (lane : Fin L) :
    RepressSpacer.note_emitted now last edges lane =
      match (lane_queue edges lane).getLast? with
      | some e => some ⟨now, e.spaced, e.change.touch⟩
      | none => last lane := by
  induction edges generalizing last with
  | nil => rfl
  | cons e edges ih =>
    have hstep : RepressSpacer.note_emitted now last (e :: edges) lane = RepressSpacer.note_emitted now
      (Function.update last e.change.lane (some ⟨now, e.spaced, e.change.touch⟩)) edges lane := rfl
    rw [hstep, ih]
    by_cases he : e.change.lane = lane
    · simp only [List.filter_cons, he, decide_true, if_true, List.getLast?_cons]
      rcases (lane_queue edges lane).getLast? with _ | e' <;> simp
    · simp only [List.filter_cons, he, decide_false, Bool.false_eq_true, if_false, Function.update_of_ne (Ne.symm he)]

theorem lane_queue_restart (gap now : Nat) (last : Fin L → Option EmittedEdge) (queue : List (ScheduledEdge L))
    (lane : Fin L) : lane_queue (queue.map (RepressSpacer.restart_gap gap now last)) lane =
      (lane_queue queue lane).map (RepressSpacer.restart_gap gap now last) := by
  rw [lane_queue, List.filter_map]
  congr 2
  funext e
  simp only [Function.comp, RepressSpacer.restart_gap]
  split <;> rfl

theorem restart_gap_keeps (gap now : Nat) (last : Fin L → Option EmittedEdge) (e : ScheduledEdge L) :
    (RepressSpacer.restart_gap gap now last e).change = e.change ∧
    (RepressSpacer.restart_gap gap now last e).spaced = e.spaced ∧
    e.due ≤ (RepressSpacer.restart_gap gap now last e).due ∧
    (e.spaced = true → ∀ p, last e.change.lane = some p → p.at_ = now →
      now + gap ≤ (RepressSpacer.restart_gap gap now last e).due) := by
  unfold RepressSpacer.restart_gap
  split
  · exact ⟨rfl, rfl, Nat.le_max_left _ _, fun _ _ _ _ => Nat.le_max_right _ _⟩
  · rename_i hnot
    refine ⟨rfl, rfl, Nat.le_refl _, fun hs p hp hat => absurd ?_ hnot⟩
    simp [hs, hp, hat]

/-! ## The invariant -/

structure Separated (gap : Nat) (s : RepressSpacer L) (born : List Nat) (log : List (Emission L)) : Prop where
  same_gap : s.gap = gap
  aligned : born.length = s.queue.length
  last : ∀ lane, s.last_emitted lane = (lane_log log lane).getLast?.map fun e => ⟨e.at_, e.spaced, e.change.touch⟩
  law : ∀ lane, (lane_log log lane).IsChain (Gap gap)
  first : ∀ lane, ∀ p ∈ s.last_emitted lane, ∀ e ∈ (lane_queue s.queue lane).head?,
    needs_gap p.spaced p.touch e.change = true → p.at_ + gap ≤ e.due
  behind : ∀ lane, (lane_queue s.queue lane).IsChain Behind

theorem queues_length {s : RepressSpacer L} {change : KeyChange L} {now : Nat} {os_pressed : Bool} {born born' : List Nat}
    {queue : List (ScheduledEdge L)} (h : Queues s change now os_pressed born queue born') (hlen : born.length = s.queue.length) :
    born'.length = queue.length := by
  cases h with
  | same => exact hlen
  | behind previous => simp [RepressSpacer.push, hlen]
  | first => simp [RepressSpacer.push, hlen]
  | cancelled before behind e hq =>
    rw [hq, List.length_append, List.length_cons] at hlen
    rw [List.length_eraseIdx_of_lt (by omega), hlen, List.length_append]
    omega

theorem push_lane (s : RepressSpacer L) (change : KeyChange L) (schedule : Nat × Bool) (lane : Fin L) :
    lane_queue (s.push change schedule).queue lane =
      lane_queue s.queue lane ++ if change.lane = lane then [⟨change, schedule.1, schedule.2⟩] else [] := by
  simp only [RepressSpacer.push, lane_queue, List.filter_append, List.filter_cons, List.filter_nil, decide_eq_true_eq]

theorem enqueue_separated {gap now : Nat} {s : RepressSpacer L} {born : List Nat} {log : List (Emission L)} (h : Separated gap s born log)
    (change : KeyChange L) (os_pressed : Bool) :
    Separated gap (s.enqueue change now os_pressed) (s.enqueue_born change now os_pressed born) log := by
  obtain ⟨hgap, hlast⟩ := enqueue_gap s change now os_pressed
  have hqueues := enqueue_queues s change now os_pressed born
  have hlen := queues_length hqueues h.aligned
  -- Everything but the queue is as it was.
  suffices hq : (∀ lane, ∀ p ∈ s.last_emitted lane, ∀ e ∈ (lane_queue (s.enqueue change now os_pressed).queue lane).head?,
      needs_gap p.spaced p.touch e.change = true → p.at_ + gap ≤ e.due) ∧
      ∀ lane, (lane_queue (s.enqueue change now os_pressed).queue lane).IsChain Behind by
    refine ⟨hgap.trans h.same_gap, hlen, ?_, h.law, ?_, hq.2⟩
    · rw [hlast]
      exact h.last
    · rw [hlast]
      exact hq.1
  generalize (s.enqueue change now os_pressed).queue = queue at hqueues ⊢
  generalize s.enqueue_born change now os_pressed born = born' at hqueues
  cases hqueues with
  | same => exact ⟨h.first, h.behind⟩
  | behind previous hprevious =>
    have hne : lane_queue s.queue change.lane ≠ [] := by
      intro hnil
      rw [hnil] at hprevious
      cases hprevious
    refine ⟨fun lane p hp e he => ?_, fun lane => ?_⟩
    · rw [push_lane] at he
      split at he
      · rename_i hl
        rw [← hl, List.head?_append_of_ne_nil _ hne] at he
        exact h.first change.lane p (hl ▸ hp) e he
      · rw [List.append_nil] at he
        exact h.first lane p hp e he
    · rw [push_lane]
      split
      · rename_i hl
        subst hl
        apply (h.behind change.lane).append (.singleton _)
        intro x hx y hy
        rw [hprevious] at hx
        obtain rfl := Option.some.inj hx
        obtain rfl := Option.some.inj hy
        intro hneeds
        simp only [RepressSpacer.schedule_behind]
        rw [if_pos hneeds]
      · rw [List.append_nil]
        exact h.behind lane
  | first hnil =>
    refine ⟨fun lane p hp e he => ?_, fun lane => ?_⟩
    · rw [push_lane] at he
      split at he
      · rename_i hl
        subst hl
        rw [hnil] at he
        obtain rfl := Option.some.inj he
        intro hneeds
        obtain hp : s.last_emitted change.lane = some p := hp
        simp only [RepressSpacer.schedule_first, hp, hneeds, Bool.true_and, decide_eq_true_eq]
        rw [h.same_gap]
        split
        · exact Nat.le_refl _
        · rename_i hlate
          exact Nat.le_of_not_lt hlate
      · rw [List.append_nil] at he
        exact h.first lane p hp e he
    · rw [push_lane]
      split
      · rename_i hl
        subst hl
        rw [hnil]
        exact .singleton _
      · rw [List.append_nil]
        exact h.behind lane
  | cancelled before behind x hq hlane hbehind =>
    have hsub : ∀ lane, lane_queue (before ++ behind) lane <+: lane_queue s.queue lane := fun lane => by
      rw [hq]
      exact lane_queue_erase hlane hbehind lane
    refine ⟨fun lane p hp e he => ?_, fun lane => ?_⟩
    · apply h.first lane p hp e
      obtain ⟨rest, hrest⟩ := hsub lane
      rw [← hrest, List.head?_append]
      rw [Option.mem_def] at he
      rw [he]
      rfl
    · obtain ⟨rest, hrest⟩ := hsub lane
      have hchain := h.behind lane
      rw [← hrest] at hchain
      exact hchain.left_of_append

/-- On one lane a flush emits edges that keep their distance from the last one and from each other. -/
theorem emitted_gap {now n : Nat} {s : RepressSpacer L} {lane : Fin L} (hemits : Emits s now n lane)
    (hbehind : (lane_queue s.queue lane).IsChain Behind) (gap : Nat) :
    ((lane_queue (emitted (s.flushed now n)) lane).map (stamp now)).IsChain (Gap gap) := by
  rw [List.isChain_map]
  rw [hemits.split] at hbehind
  refine hbehind.left_of_append.imp_of_mem_tail_imp fun e e' _ he' hb hcancel hneeds => ?_
  have hspaced := hb hneeds
  rw [hemits.unspaced e' he'] at hspaced
  cases hspaced

theorem lane_log_append (log new : List (Emission L)) (lane : Fin L) :
    lane_log (log ++ new) lane = lane_log log lane ++ lane_log new lane := List.filter_append _ _

theorem lane_log_stamp (now : Nat) (edges : List (ScheduledEdge L)) (lane : Fin L) :
    lane_log (edges.map (stamp now)) lane = (lane_queue edges lane).map (stamp now) := by
  rw [lane_log, List.filter_map]
  rfl

theorem emit_separated {gap now n : Nat} {s : RepressSpacer L} {born : List Nat} {log : List (Emission L)} {pressed : Fin L → Bool}
    (h : Separated gap s born log) :
    Separated gap (s.emit now n pressed).1 (keep_born (s.flushed now n) born)
      (log ++ (emitted (s.flushed now n)).map (stamp now)) := by
  have hlen : born.length = (s.flushed now n).length := by
    have hmap := congrArg List.length (outcome_edges n (select now Marks.clear s.queue))
    rw [select_edges, List.length_map] at hmap
    exact h.aligned.trans hmap.symm
  have hlast : ∀ lane, (s.emit now n pressed).1.last_emitted lane =
      match (lane_queue (emitted (s.flushed now n)) lane).getLast? with
      | some e => some ⟨now, e.spaced, e.change.touch⟩
      | none => s.last_emitted lane := by
    intro lane
    rw [RepressSpacer.flushed, outcome_emitted]
    exact note_emitted_lane _ _ _ _
  have hqueue : ∀ lane, lane_queue (s.emit now n pressed).1.queue lane =
      (lane_queue (kept (s.flushed now n)) lane).map
        (RepressSpacer.restart_gap s.gap now (s.emit now n pressed).1.last_emitted) := by
    intro lane
    rw [RepressSpacer.flushed, outcome_kept]
    exact lane_queue_restart _ _ _ _ _
  refine ⟨h.same_gap, ?_, fun lane => ?_, fun lane => ?_, fun lane => ?_, fun lane => ?_⟩
  · rw [keep_born_length hlen, RepressSpacer.flushed, outcome_kept]
    simp [RepressSpacer.emit]
  · rw [hlast, lane_log_append, lane_log_stamp, List.getLast?_append, List.getLast?_map]
    rcases (lane_queue (emitted (s.flushed now n)) lane).getLast? with _ | e
    · simpa using h.last lane
    · rfl
  · -- The oldest edge was due late enough, and none behind it needed a gap.
    have hemits := flush_emits s now n lane
    rw [lane_log_append, lane_log_stamp]
    apply (h.law lane).append (emitted_gap hemits (h.behind lane) gap)
    intro p hp e he hcancel hneeds
    rw [List.head?_map] at he
    obtain ⟨x, hx, rfl⟩ := Option.map_eq_some_iff.1 he
    have hxq : x ∈ (lane_queue s.queue lane).head? := by
      rw [hemits.split, List.head?_append, hx]
      rfl
    have hlastp : s.last_emitted lane = some ⟨p.at_, p.spaced, p.change.touch⟩ := by
      rw [h.last, Option.mem_def.1 hp]
      rfl
    have hdue := h.first lane _ hlastp x hxq hneeds
    have hmem : x ∈ emitted (s.flushed now n) := (List.mem_filter.1 (List.mem_of_head? hx)).1
    exact hdue.trans (hemits.due x hmem)
  · intro p hp e he hneeds
    have hemits := flush_emits s now n lane
    have hchain := h.behind lane
    rw [hemits.split, List.isChain_append] at hchain
    rw [hqueue, List.head?_map] at he
    obtain ⟨x, hx, rfl⟩ := Option.map_eq_some_iff.1 he
    obtain ⟨hchange, -, hle, hrestart⟩ := restart_gap_keeps s.gap now (s.emit now n pressed).1.last_emitted x
    rw [hchange] at hneeds
    have hxlane : x.change.lane = lane := by simpa using (List.mem_filter.1 (List.mem_of_head? hx)).2
    rw [Option.mem_def, hlast] at hp
    rcases he' : (lane_queue (emitted (s.flushed now n)) lane).getLast? with _ | y
    · -- Nothing of the lane went out: the oldest edge is the one that was.
      rw [he'] at hp
      have hnil := List.getLast?_eq_none_iff.1 he'
      have hxq : x ∈ (lane_queue s.queue lane).head? := by
        rw [hemits.split, hnil, List.nil_append]
        exact hx
      exact (h.first lane p hp x hxq hneeds).trans hle
    · rw [he'] at hp
      obtain rfl := Option.some.inj hp
      have hspaced := hchain.2.2 y he' x hx hneeds
      rw [← h.same_gap]
      apply hrestart hspaced ⟨now, y.spaced, y.change.touch⟩ _ rfl
      rw [hxlane, hlast, he']
  · rw [hqueue, List.isChain_map]
    have hchain := h.behind lane
    rw [(flush_emits s now n lane).split] at hchain
    refine hchain.right_of_append.imp fun e e' hb => ?_
    obtain ⟨hc, hs, -, -⟩ := restart_gap_keeps s.gap now (s.emit now n pressed).1.last_emitted e
    obtain ⟨hc', hs', -, -⟩ := restart_gap_keeps s.gap now (s.emit now n pressed).1.last_emitted e'
    unfold Behind at hb ⊢
    rw [hc, hs, hc', hs']
    exact hb

theorem release_separated {gap now : Nat} {s : RepressSpacer L} {born : List Nat} {log : List (Emission L)} (lane : Fin L)
    (h : Separated gap s born log)
    (hq : s.queue = []) : Separated gap (s.note_release lane now) [] (log ++ [⟨⟨lane, false, false⟩, false, now, true⟩]) := by
  refine ⟨h.same_gap, by simp [RepressSpacer.note_release, hq], fun l => ?_, fun l => ?_, fun l p hp e he => ?_, fun l => ?_⟩
  · rw [lane_log_append]
    by_cases hl : l = lane
    · subst hl
      simp [RepressSpacer.note_release, lane_log]
    · have hnone : lane_log [(⟨⟨lane, false, false⟩, false, now, true⟩ : Emission L)] l = [] := by
        simp [lane_log, Ne.symm hl]
      rw [hnone, List.append_nil]
      simp only [RepressSpacer.note_release, Function.update_of_ne hl]
      exact h.last l
  · rw [lane_log_append]
    apply (h.law l).append
    · by_cases hl : lane = l
      · simp [lane_log, hl]
      · simp [lane_log, hl]
    · intro p _ e he hcancel
      have hmem := (List.mem_filter.1 (List.mem_of_head? he)).1
      rw [List.mem_singleton] at hmem
      subst hmem
      cases hcancel
  · simp only [RepressSpacer.note_release, hq] at he
    cases he
  · simp only [RepressSpacer.note_release, hq]
    exact .nil

/-- A flush that emits nothing changes nothing but the record of flushes. -/
theorem flush_zero (now : Nat) {s : RepressSpacer L} {l : Ledger L} (h : l.born.length = s.queue.length) :
    (l.flush now 0 s).born = l.born ∧ (l.flush now 0 s).log = l.log := by
  have hlen : l.born.length = (select now Marks.clear s.queue).length := by
    have hmap := congrArg List.length (select_edges now Marks.clear s.queue)
    rw [List.length_map] at hmap
    exact h.trans hmap.symm
  constructor
  · exact keep_born_zero hlen
  · simp only [Ledger.flush, RepressSpacer.flushed, outcome_zero_emitted, List.map_nil, List.append_nil]

theorem separated_keeps (gap : Nat) : Keeps (L := L) fun _ s l => Separated gap s l.born l.log where
  wait h _ := h
  enqueue change os_pressed h := enqueue_separated h change os_pressed
  hold h := by
    obtain ⟨hborn, hlog⟩ := flush_zero _ h.aligned
    rw [hborn, hlog]
    exact h
  emit h _ := emit_separated h
  drop h := ⟨h.same_gap, rfl, by simpa [Ledger.release] using h.last, by simpa [Ledger.release] using h.law,
    fun _ _ _ _ he => (by cases he), fun _ => .nil⟩
  release lane h hq := release_separated lane h hq

theorem separated_new (gap : Nat) : Separated gap (RepressSpacer.new L gap) [] [] where
  same_gap := rfl
  aligned := rfl
  last _ := rfl
  law _ := .nil
  first _ _ hp := (by cases hp)
  behind _ := .nil

/-- The edge emitted just before a release of the same lane is its press. -/
theorem press_before {log : List (Emission L)} {lane : Fin L} {before behind : List (Emission L)} {p e : Emission L}
    (halt : Alternates false (lane_edges (log.map (·.change)) lane)) (hlog : lane_log log lane = before ++ p :: e :: behind)
    (he : e.change.down = false) : p.change.down = true := by
  have hedges : lane_edges (log.map (·.change)) lane = (lane_log log lane).map (·.change.down) := by
    simp [lane_edges, track, lane_log, List.filter_map, Function.comp_def]
  rw [hedges, hlog, List.map_append, alternates_append] at halt
  have hnext : e.change.down = !p.change.down := halt.2.2.1
  rw [he] at hnext
  simpa using hnext.symm

/-! ## The law -/

/-- The re-press gap, after any calls at any times and however much of each batch the OS took: on
each lane a press comes a gap after the edge emitted before it, and so does the release of a press
that was a finger's or was spaced. Only a release of everything does not wait. -/
theorem repress_gap {lane_for : Int → Fin L} {gap : Nat} {sink : κ} [KeySink κ L] {g : Logged (Recorded κ L) L} {t : Nat}
    (run : LoggedRun lane_for gap (Recorded.new L sink) g t) :
    g.sink.sink.log = g.ledger.log.map (·.change) ∧
    ∀ lane before p e behind, lane_log g.ledger.log lane = before ++ p :: e :: behind → e.cancel = false →
      (e.change.down = true → p.at_ + gap ≤ e.at_) ∧
      (e.change.down = false → p.change.down = true ∧
        (p.change.touch = true ∨ p.spaced = true → p.at_ + gap ≤ e.at_)) := by
  obtain ⟨spacer, -, hsep⟩ := (separated_keeps gap).run (separated_new gap) run
  obtain ⟨spacer', hrec⟩ := run_recording run
  refine ⟨hrec.log, fun lane before p e behind hsplit hcancel => ?_⟩
  have hlaw := hsep.law lane
  rw [hsplit, List.isChain_append] at hlaw
  have hgap : Gap gap p e := (List.isChain_cons_cons.1 hlaw.2.1).1
  refine ⟨fun hdown => hgap hcancel (by simp [needs_gap, hdown]), fun hup => ⟨?_, fun hneeds => ?_⟩⟩
  · have halt := hrec.in_order.alternates lane
    rw [hrec.log] at halt
    exact press_before halt hsplit hup
  · apply hgap hcancel
    rcases hneeds with h | h
    · simp [needs_gap, h]
    · simp [needs_gap, h]

/-- A tap on lane 1 whose release waits for the gap, on a pad with a 16 ms gap. -/
def loggedTap : Logged (Recorded (TakesAll 2) 2) 2 :=
  let g := Logged.new (Recorded.new 2 ⟨⟩) 16
  let g := (g.exec halves (.accept tapRight 0)).2
  let g := (g.exec halves (.accept liftRight 1)).2
  (g.exec halves (.service 20)).2

theorem repress_gap_tap : (lane_log loggedTap.ledger.log 1).length = 2 ∧
    ∀ lane before p e behind, lane_log loggedTap.ledger.log lane = before ++ p :: e :: behind →
      e.cancel = false → (e.change.down = true → p.at_ + 16 ≤ e.at_) ∧
        (e.change.down = false → p.change.down = true ∧
          (p.change.touch = true ∨ p.spaced = true → p.at_ + 16 ≤ e.at_)) := by
  have run : LoggedRun halves 16 (Recorded.new 2 ⟨⟩) loggedTap 20 :=
    .call (.service 20) (.call (.accept liftRight 1) (.call (.accept tapRight 0) .new (by decide)) (by decide)) (by decide)
  exact ⟨by decide +kernel, (repress_gap run).2⟩

end Trackpad.Keyboard
