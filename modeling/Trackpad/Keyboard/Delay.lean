import Trackpad.Keyboard.Gap
/-!
# How long an edge waits

A sink that takes everything, called at every deadline. A lane's three waiting edges are due a gap
after each other, so none is due more than three gaps after it was queued, unless a flush that comes
late for the lane's oldest edge restarts the gap of those behind it.
-/

namespace Trackpad.Keyboard

variable {κ : Type} {L : Nat}

/-- Every spaced edge that the flush leaves behind an emitted edge of its lane was queued at most two
gaps ago. -/
def Flushing.Fresh (f : Flushing L) : Prop :=
  let marked := f.spacer.flushed f.now f.taken
  ∀ x ∈ marked.zip f.born, x.1.2 = false → x.1.1.spaced = true →
    (∃ p ∈ marked, p.2 = true ∧ p.1.change.lane = x.1.1.change.lane) → f.now ≤ x.2 + 2 * f.spacer.gap

instance (f : Flushing L) : Decidable f.Fresh := by
  unfold Flushing.Fresh
  infer_instance

/-! ## The times a flush keeps -/

theorem keep_born_zip {marked : List (ScheduledEdge L × Bool)} {born : List Nat} {e : ScheduledEdge L} {b : Nat}
    (h : (e, b) ∈ (kept marked).zip (keep_born marked born)) : ((e, false), b) ∈ marked.zip born := by
  induction marked generalizing born with
  | nil => cases h
  | cons x marked ih =>
    obtain ⟨e', m⟩ := x
    rcases born with _ | ⟨n, born⟩
    · rcases m with _ | _ <;> simp [keep_born] at h
    rcases m with _ | _
    · simp only [kept, keep_born, List.filter_cons, Bool.not_false, if_true, List.map_cons, List.zip_cons_cons,
        List.mem_cons] at h
      rcases h with h | h
      · cases h
        exact List.mem_cons_self
      · exact List.mem_cons_of_mem _ (ih h)
    · simp only [kept, keep_born, List.filter_cons, Bool.not_true, Bool.false_eq_true, if_false] at h
      exact List.mem_cons_of_mem _ (ih h)

theorem keep_born_sublist (marked : List (ScheduledEdge L × Bool)) (born : List Nat) :
    (keep_born marked born).Sublist born := by
  fun_induction keep_born marked born with
  | case1 e marked b born ih => exact ih.cons b
  | case2 e marked b born ih => exact ih.cons_cons b
  | case3 marked born => exact List.nil_sublist _

theorem marked_zip {marked : List (ScheduledEdge L × Bool)} {born : List Nat} {e : ScheduledEdge L} {m : Bool} {b : Nat}
    (h : ((e, m), b) ∈ marked.zip born) : (e, b) ∈ (marked.map (·.1)).zip born := by
  rw [List.zip_map_left]
  exact List.mem_map.2 ⟨_, h, rfl⟩

/-- A restarted gap is a spaced edge's, of a lane that emitted at that very time. -/
theorem restart_gap_due (gap now : Nat) (last : Fin L → Option EmittedEdge) (e : ScheduledEdge L) :
    (RepressSpacer.restart_gap gap now last e).due = e.due ∨
    (e.spaced = true ∧ (∃ p, last e.change.lane = some p ∧ p.at_ = now) ∧
      (RepressSpacer.restart_gap gap now last e).due = max e.due (now + gap)) := by
  unfold RepressSpacer.restart_gap
  split
  · rename_i hmoved
    rw [Bool.and_eq_true, Option.any_eq_true] at hmoved
    obtain ⟨hspaced, p, hp, hat⟩ := hmoved
    exact .inr ⟨hspaced, ⟨p, hp, of_decide_eq_true hat⟩, rfl⟩
  · exact .inl rfl

/-! ## The invariant -/

/-- On each lane the oldest edge is due within a gap, and each one behind it a gap later at most. -/
structure Bounded (gap t : Nat) (s : RepressSpacer L) (born : List Nat) : Prop where
  same_gap : s.gap = gap
  aligned : born.length = s.queue.length
  sorted : born.Pairwise (· ≤ ·)
  born_le : ∀ b ∈ born, b ≤ t
  last_le : ∀ lane, ∀ p ∈ s.last_emitted lane, p.at_ ≤ t
  head : ∀ lane, ∀ e ∈ (lane_queue s.queue lane).head?, e.due ≤ t + gap
  next : ∀ lane, (lane_queue s.queue lane).IsChain fun e e' => e'.due ≤ max e.due t + gap
  due : ∀ x ∈ s.queue.zip born, x.1.due ≤ x.2 + 3 * gap
  restarted : ∀ x ∈ s.queue.zip born, x.1.spaced = true → ∀ p ∈ s.last_emitted x.1.change.lane,
    p.at_ + gap ≤ x.1.due ∨ p.at_ ≤ x.2

theorem bounded_wait {gap t now : Nat} {s : RepressSpacer L} {born : List Nat} (h : Bounded gap t s born) (ht : t ≤ now) :
    Bounded gap now s born where
  same_gap := h.same_gap
  aligned := h.aligned
  sorted := h.sorted
  born_le b hb := (h.born_le b hb).trans ht
  last_le lane p hp := (h.last_le lane p hp).trans ht
  head lane e he := (h.head lane e he).trans (by omega)
  next lane := (h.next lane).imp fun e e' hle => hle.trans (by omega)
  due := h.due
  restarted := h.restarted

/-- A lane's newest edge is due at most a gap later for each edge of the lane. -/
theorem chain_due {gap t n : Nat} {edges : List (ScheduledEdge L)} (head : ∀ e ∈ edges.head?, e.due ≤ t + n)
    (next : edges.IsChain fun e e' => e'.due ≤ max e.due t + gap) {e : ScheduledEdge L} (he : edges.getLast? = some e) :
    e.due + gap ≤ t + n + edges.length * gap := by
  induction edges generalizing n with
  | nil => cases he
  | cons x edges ih =>
    have hx := head x rfl
    rcases edges with _ | ⟨y, edges⟩
    · obtain rfl : x = e := by simpa using he
      simp only [List.length_cons, List.length_nil]
      omega
    · rw [List.isChain_cons_cons] at next
      have hrest := ih (n := n + gap) (fun e he => by
        obtain rfl := Option.some.inj he
        omega) next.2 (by rwa [List.getLast?_cons_cons] at he)
      rw [List.length_cons, Nat.succ_mul]
      omega

theorem zip_append_mem {queue : List (ScheduledEdge L)} {born : List Nat} (h : born.length = queue.length)
    {e : ScheduledEdge L} {b : Nat} {x : ScheduledEdge L × Nat} (hx : x ∈ (queue ++ [e]).zip (born ++ [b])) :
    x ∈ queue.zip born ∨ x = (e, b) := by
  rw [List.zip_append h.symm] at hx
  simpa using hx

theorem zip_erase_mem {before behind : List (ScheduledEdge L)} {e : ScheduledEdge L} {born : List Nat}
    (h : born.length = (before ++ e :: behind).length) {x : ScheduledEdge L × Nat}
    (hx : x ∈ (before ++ behind).zip (born.eraseIdx before.length)) : x ∈ (before ++ e :: behind).zip born := by
  induction before generalizing born with
  | nil =>
    rcases born with _ | ⟨b, born⟩
    · cases h
    · exact List.mem_cons_of_mem _ hx
  | cons y before ih =>
    rcases born with _ | ⟨b, born⟩
    · cases h
    · simp only [List.cons_append, List.length_cons, List.eraseIdx_cons_succ, List.zip_cons_cons, List.mem_cons] at hx ⊢
      rcases hx with hx | hx
      · exact .inl hx
      · exact .inr (ih (by simpa using h) hx)

theorem enqueue_bounded {gap now : Nat} {s : RepressSpacer L} {born : List Nat} (h : Bounded gap now s born)
    (change : KeyChange L) (os_pressed : Bool) :
    Bounded gap now (s.enqueue change now os_pressed) (s.enqueue_born change now os_pressed born) := by
  obtain ⟨hgap, hlast⟩ := enqueue_gap s change now os_pressed
  have hqueues := enqueue_queues s change now os_pressed born
  have hlen := queues_length hqueues h.aligned
  -- Everything but the queue and the times is as it was.
  suffices hq : Bounded gap now { s with queue := (s.enqueue change now os_pressed).queue }
      (s.enqueue_born change now os_pressed born) from
    { hq with
      same_gap := hgap.trans h.same_gap
      last_le := hlast ▸ hq.last_le
      restarted := hlast ▸ hq.restarted }
  generalize (s.enqueue change now os_pressed).queue = queue at hqueues hlen ⊢
  generalize s.enqueue_born change now os_pressed born = born' at hqueues hlen ⊢
  have hpushed : ∀ schedule : Nat × Bool,
      (∀ e ∈ (lane_queue s.queue change.lane).getLast?, schedule.1 ≤ max e.due now + gap) →
      (lane_queue s.queue change.lane = [] → schedule.1 ≤ now + gap) → schedule.1 ≤ now + 3 * gap →
      Bounded gap now { s with queue := (s.push change schedule).queue } (born ++ [now]) := by
    intro schedule hbehind hfirst hdue
    refine ⟨h.same_gap, by simp [RepressSpacer.push, h.aligned], ?_, ?_, h.last_le, ?_, ?_, ?_, ?_⟩
    · rw [List.pairwise_append]
      exact ⟨h.sorted, List.pairwise_singleton _ _, fun b hb n hn => List.mem_singleton.1 hn ▸ h.born_le b hb⟩
    · intro b hb
      rcases List.mem_append.1 hb with hb | hb
      · exact h.born_le b hb
      · exact (List.mem_singleton.1 hb).le
    · intro lane e he
      rw [push_lane] at he
      by_cases hl : change.lane = lane
      · subst hl
        rw [if_pos rfl, List.head?_append] at he
        rcases hq : (lane_queue s.queue change.lane).head? with _ | y
        · rw [hq] at he
          obtain rfl := Option.some.inj he
          exact hfirst (List.head?_eq_none_iff.1 hq)
        · rw [hq] at he
          obtain rfl := Option.some.inj he
          exact h.head _ _ hq
      · rw [if_neg hl, List.append_nil] at he
        exact h.head lane e he
    · intro lane
      rw [push_lane]
      split
      · rename_i hl
        subst hl
        apply (h.next _).append (.singleton _)
        intro e he e' he'
        obtain rfl := Option.some.inj he'
        exact hbehind e he
      · rw [List.append_nil]
        exact h.next lane
    · intro x hx
      rcases zip_append_mem h.aligned hx with hx | rfl
      · exact h.due x hx
      · exact hdue
    · intro x hx hspaced p hp
      rcases zip_append_mem h.aligned hx with hx | rfl
      · exact h.restarted x hx hspaced p hp
      · exact .inr (h.last_le _ p hp)
  cases hqueues with
  | same => exact h
  | behind previous hprevious _ hroom =>
    have hcount : (lane_queue s.queue change.lane).length ≤ 2 := by
      rw [List.countP_eq_length_filter] at hroom
      exact Nat.le_of_lt_succ hroom
    have hlate := chain_due (n := gap) (h.head _) (h.next _) hprevious
    have hdue : (RepressSpacer.schedule_behind s.gap previous change now).1 ≤ max previous.due now + gap := by
      unfold RepressSpacer.schedule_behind
      rw [h.same_gap]
      split
      · dsimp only
        omega
      · dsimp only
        omega
    have hmul := Nat.mul_le_mul_right gap hcount
    refine hpushed _ (fun e he => ?_) (fun hnil => ?_) (by omega)
    · rw [hprevious] at he
      obtain rfl := Option.some.inj he
      exact hdue
    · rw [hnil] at hprevious
      cases hprevious
  | first hnil =>
    have hdue : (RepressSpacer.schedule_first s.gap (s.last_emitted change.lane) change now).1 ≤ now + gap := by
      unfold RepressSpacer.schedule_first
      rw [h.same_gap]
      split
      · rename_i p hp
        have hp := h.last_le _ p hp
        split
        · dsimp only
          omega
        · exact Nat.le_add_right _ _
      · exact Nat.le_add_right _ _
    refine hpushed _ (fun e he => ?_) (fun _ => hdue) (by omega)
    rw [hnil] at he
    cases he
  | cancelled before behind e hq hlane hbehind =>
    have hsub : ∀ lane, lane_queue (before ++ behind) lane <+: lane_queue s.queue lane := fun lane => by
      rw [hq]
      exact lane_queue_erase hlane hbehind lane
    have hmem : ∀ x ∈ (before ++ behind).zip (born.eraseIdx before.length), x ∈ s.queue.zip born := by
      intro x hx
      rw [hq]
      exact zip_erase_mem (hq ▸ h.aligned) hx
    refine ⟨h.same_gap, hlen, h.sorted.sublist (List.eraseIdx_sublist _ _), fun b hb => ?_, h.last_le,
      fun lane x hx => ?_, fun lane => ?_, fun x hx => h.due x (hmem x hx), fun x hx => h.restarted x (hmem x hx)⟩
    · exact h.born_le b ((List.eraseIdx_sublist _ _).subset hb)
    · apply h.head lane x
      obtain ⟨rest, hrest⟩ := hsub lane
      rw [← hrest, List.head?_append, Option.mem_def.1 hx]
      rfl
    · obtain ⟨rest, hrest⟩ := hsub lane
      have hchain := h.next lane
      rw [← hrest] at hchain
      exact hchain.left_of_append

/-- A lane that emitted at `now` did so in this flush, or had done so before. -/
theorem emit_last (s : RepressSpacer L) (now n : Nat) (pressed : Fin L → Bool) (lane : Fin L) :
    ((∃ p ∈ s.flushed now n, p.2 = true ∧ p.1.change.lane = lane) ∧
      ∃ p, (s.emit now n pressed).1.last_emitted lane = some p ∧ p.at_ = now) ∨
    (lane_queue (emitted (s.flushed now n)) lane = [] ∧
      (s.emit now n pressed).1.last_emitted lane = s.last_emitted lane) := by
  have hlast := note_emitted_lane now s.last_emitted (emitted (s.flushed now n)) lane
  have hsame : (s.emit now n pressed).1.last_emitted =
      RepressSpacer.note_emitted now s.last_emitted (emitted (s.flushed now n)) := by
    rw [RepressSpacer.flushed, outcome_emitted]
    rfl
  rw [hsame]
  rcases he : (lane_queue (emitted (s.flushed now n)) lane).getLast? with _ | e
  · rw [he] at hlast
    exact .inr ⟨List.getLast?_eq_none_iff.1 he, hlast⟩
  · rw [he] at hlast
    obtain ⟨hmem, hlane⟩ := List.mem_filter.1 (List.mem_of_getLast? he)
    obtain ⟨p, hp, rfl⟩ := List.mem_map.1 hmem
    obtain ⟨hp, hm⟩ := List.mem_filter.1 hp
    exact .inl ⟨⟨p, hp, hm, of_decide_eq_true hlane⟩, _, hlast, rfl⟩

theorem emit_bounded {gap now n : Nat} {s : RepressSpacer L} {born : List Nat} {pressed : Fin L → Bool}
    (h : Bounded gap now s born) (hfresh : Flushing.Fresh ⟨now, n, s, born⟩) :
    Bounded gap now (s.emit now n pressed).1 (keep_born (s.flushed now n) born) := by
  have hedges := flushed_edges s now n
  have hlen : born.length = (s.flushed now n).length := by
    rw [h.aligned, ← hedges, List.length_map]
  have hqueue : (s.emit now n pressed).1.queue = (kept (s.flushed now n)).map
      (RepressSpacer.restart_gap gap now (s.emit now n pressed).1.last_emitted) := by
    rw [RepressSpacer.flushed, outcome_kept, ← h.same_gap]
    rfl
  have hlast := emit_last s now n pressed
  obtain ⟨last, hl⟩ : ∃ last, (s.emit now n pressed).1.last_emitted = last := ⟨_, rfl⟩
  rw [hl] at hqueue hlast
  -- An edge that stays was there before, with the time it was queued at.
  have hstays : ∀ x ∈ (s.emit now n pressed).1.queue.zip (keep_born (s.flushed now n) born), ∃ e,
      x.1 = RepressSpacer.restart_gap gap now last e ∧ ((e, false), x.2) ∈ (s.flushed now n).zip born ∧
      (e, x.2) ∈ s.queue.zip born := by
    intro x hx
    rw [hqueue, List.zip_map_left] at hx
    obtain ⟨⟨e, b⟩, hkept, rfl⟩ := List.mem_map.1 hx
    have hmarked := keep_born_zip hkept
    refine ⟨e, rfl, hmarked, ?_⟩
    rw [← hedges]
    exact marked_zip hmarked
  have hlane : ∀ lane, lane_queue (s.emit now n pressed).1.queue lane =
      (lane_queue (kept (s.flushed now n)) lane).map (RepressSpacer.restart_gap gap now last) := by
    intro lane
    rw [hqueue]
    exact lane_queue_restart _ _ _ _ _
  have hmoved : ∀ e, (RepressSpacer.restart_gap gap now last e).due ≤ max e.due (now + gap) := by
    intro e
    rcases restart_gap_due gap now last e with hdue | ⟨-, -, hdue⟩ <;> omega
  refine ⟨h.same_gap, ?_, ?_, ?_, ?_, ?_, ?_, ?_, ?_⟩
  · rw [keep_born_length hlen, hqueue, List.length_map]
  · exact h.sorted.sublist (keep_born_sublist _ _)
  · exact fun b hb => h.born_le b ((keep_born_sublist _ _).subset hb)
  · intro lane p hp
    rw [hl] at hp
    rcases hlast lane with ⟨-, p', hp', hat⟩ | ⟨-, hsame⟩
    · rw [Option.mem_def, hp'] at hp
      obtain rfl := Option.some.inj hp
      exact hat.le
    · rw [hsame] at hp
      exact h.last_le lane p hp
  · intro lane e he
    rw [hlane, List.head?_map] at he
    obtain ⟨x, hx, rfl⟩ := Option.map_eq_some_iff.1 he
    have hemits := flush_emits s now n lane
    have hdue : x.due ≤ now + gap := by
      rcases hout : (lane_queue (emitted (s.flushed now n)) lane).getLast? with _ | y
      · apply h.head lane x
        rw [hemits.split, List.getLast?_eq_none_iff.1 hout, List.nil_append]
        exact hx
      · have hchain := h.next lane
        rw [hemits.split, List.isChain_append] at hchain
        have hbehind := hchain.2.2 y hout x hx
        have hy := hemits.due y (List.mem_filter.1 (List.mem_of_getLast? hout)).1
        omega
    exact (hmoved x).trans (by omega)
  · intro lane
    rw [hlane, List.isChain_map]
    have hchain := h.next lane
    rw [(flush_emits s now n lane).split] at hchain
    refine hchain.right_of_append.imp fun e e' hle => ?_
    obtain ⟨-, -, he, -⟩ := restart_gap_keeps gap now last e
    have he' := hmoved e'
    omega
  · intro x hx
    obtain ⟨e, he, hmarked, hold⟩ := hstays x hx
    rw [he]
    have hdue := h.due _ hold
    dsimp only at hdue
    rcases restart_gap_due gap now last e with hkept | ⟨hspaced, ⟨p, hp, hat⟩, hkept⟩
    · rw [hkept]
      exact hdue
    rw [hkept]
    rcases hlast e.change.lane with ⟨hemitted, -⟩ | ⟨-, hsame⟩
    · -- The flush restarted the gap, which it does only for an edge young enough.
      have hyoung := hfresh _ hmarked rfl hspaced hemitted
      dsimp only at hyoung
      rw [h.same_gap] at hyoung
      omega
    · rw [hsame] at hp
      have hearlier := h.restarted _ hold hspaced p hp
      dsimp only at hearlier
      omega
  · intro x hx hspaced p hp
    obtain ⟨e, he, -, hold⟩ := hstays x hx
    obtain ⟨hchange, hsp, hle, hrestart⟩ := restart_gap_keeps gap now last e
    rw [he, hsp] at hspaced
    rw [he, hchange, hl] at hp
    rw [he]
    have hp' : last e.change.lane = some p := hp
    rcases hlast e.change.lane with ⟨-, p', hp'', hat⟩ | ⟨-, hsame⟩
    · rw [hp''] at hp'
      obtain rfl := Option.some.inj hp'
      rw [hat]
      exact .inl (hrestart hspaced _ hp'' hat)
    · rw [hsame] at hp'
      rcases h.restarted _ hold hspaced p hp' with hearlier | hearlier
      · exact .inl (hearlier.trans hle)
      · exact .inr hearlier

/-- While every flush is fresh, the bounds hold. -/
def Delayed (gap t : Nat) (s : RepressSpacer L) (l : Ledger L) : Prop :=
  s.gap = gap ∧ l.born.length = s.queue.length ∧ ((∀ f ∈ l.flushes, f.Fresh) → Bounded gap t s l.born)

theorem fresh_concat {l l' : Ledger L} {f : Flushing L} (h : l'.flushes = l.flushes ++ [f])
    (hfresh : ∀ f ∈ l'.flushes, f.Fresh) : (∀ f ∈ l.flushes, f.Fresh) ∧ f.Fresh := by
  rw [h] at hfresh
  exact ⟨fun f hf => hfresh f (List.mem_append_left _ hf), hfresh f (List.mem_append_right _ List.mem_cons_self)⟩

theorem delayed_keeps (gap : Nat) : Keeps (L := L) (Delayed gap) where
  wait h ht := ⟨h.1, h.2.1, fun hfresh => bounded_wait (h.2.2 hfresh) ht⟩
  enqueue {now s l} change os_pressed h :=
    ⟨(enqueue_gap s change now os_pressed).1.trans h.1, queues_length (enqueue_queues s change now os_pressed l.born) h.2.1,
      fun hfresh => enqueue_bounded (h.2.2 hfresh) change os_pressed⟩
  hold {now s l} h := by
    obtain ⟨hborn, -⟩ := flush_zero now h.2.1
    rw [Delayed, hborn]
    exact ⟨h.1, h.2.1, fun hfresh => h.2.2 (fresh_concat rfl hfresh).1⟩
  emit {now s l n pressed} h _ := by
    have hlen : l.born.length = (s.flushed now n).length := by
      rw [h.2.1, ← flushed_edges s now n, List.length_map]
    refine ⟨h.1, ?_, fun hfresh => ?_⟩
    · show (keep_born (s.flushed now n) l.born).length = _
      rw [keep_born_length hlen, RepressSpacer.flushed, outcome_kept]
      simp [RepressSpacer.emit]
    · obtain ⟨hbefore, hthis⟩ := fresh_concat (l := l) rfl hfresh
      exact emit_bounded (h.2.2 hbefore) hthis
  drop {now s l} h := ⟨h.1, rfl, fun hfresh => by
    have hb := h.2.2 hfresh
    exact ⟨h.1, rfl, .nil, fun b hb => (by cases hb), hb.last_le, fun _ _ he => (by cases he), fun _ => .nil,
      fun _ hx => (by cases hx), fun _ hx => (by cases hx)⟩⟩
  release {now s l} lane h hq := by
    refine ⟨h.1, by simp [Ledger.release, RepressSpacer.note_release, hq], fun hfresh => ?_⟩
    have hb := h.2.2 hfresh
    have hnone : (s.note_release lane now).queue = [] := hq
    refine ⟨h.1, by simp [Ledger.release, hnone], .nil, fun b hb => (by cases hb), fun l' p hp => ?_, ?_, ?_, ?_, ?_⟩
    · simp only [RepressSpacer.note_release, Function.update_apply, Option.mem_def] at hp
      split at hp
      · obtain rfl := Option.some.inj hp
        exact Nat.le_refl _
      · exact hb.last_le l' p hp
    · intro l' e he
      rw [hnone] at he
      cases he
    · intro l'
      rw [hnone]
      exact .nil
    · intro x hx
      rw [hnone] at hx
      cases hx
    · intro x hx
      rw [hnone] at hx
      cases hx

/-! ## Sinks that take everything -/

structure Compliant (κ : Type) [KeySink κ L] : Prop where
  submit : ∀ (changes : List (KeyChange L)) (sink : κ), (KeySink.submit changes sink).1 = .ok changes.length
  discard : ∀ sink : κ, (KeySink.discard_pending sink).1 = .ok ()

/-- The oldest waiting edge is not due yet. -/
def Waits (t : Nat) (g : Logged κ L) : Prop := ∀ spacer ∈ g.sink.spacer, ∀ e ∈ spacer.queue.head?, t < e.due

/-- The first edge that a whole flush leaves is not due, or is spaced from one it emitted. -/
theorem first_left (now : Nat) {m : Marks L} (queue : List (ScheduledEdge L)) (hw : ∀ lane, m.lane_waiting lane = false)
    (hp : m.press_waiting = false) (e : ScheduledEdge L)
    (he : e ∈ (retain (selected (select now m queue)).length (select now m queue)).head?) :
    now < e.due ∨ e.spaced = true ∧ (m.lane_selected e.change.lane = true ∨
      ∃ p ∈ selected (select now m queue), p.change.lane = e.change.lane) := by
  induction queue generalizing m with
  | nil => cases he
  | cons x queue ih =>
    rw [select] at he ⊢
    rcases hr : ready now m x with _ | _
    · rw [hr, retain] at he
      obtain rfl := Option.some.inj he
      simp only [ready, hw, hp, Bool.not_false, Bool.or_true, Bool.and_true, Bool.and_eq_false_iff, Bool.not_eq_false',
        decide_eq_false_iff_not, Nat.not_le, Bool.and_eq_true] at hr
      rcases hr with hr | ⟨hs, hsel⟩
      · exact .inl hr
      · exact .inr ⟨hs, .inl hsel⟩
    · rw [hr] at he
      have hsel : selected ((x, true) :: select now (m.note x true) queue) =
          x :: selected (select now (m.note x true) queue) := rfl
      rw [hsel, List.length_cons, retain] at he
      rw [hsel]
      rcases ih (m := m.note x true) hw hp he with hdue | ⟨hs, hlane | ⟨p, hp, hlane⟩⟩
      · exact .inl hdue
      · simp only [Marks.note, if_true, Function.update_apply] at hlane
        split at hlane
        · rename_i hx
          exact .inr ⟨hs, .inr ⟨x, List.mem_cons_self, hx.symm⟩⟩
        · exact .inr ⟨hs, .inl hlane⟩
      · exact .inr ⟨hs, .inr ⟨p, List.mem_cons_of_mem _ hp, hlane⟩⟩

/-! ## A flush that submits what it selects -/

section Flush
variable [KeySink κ L]

/-- A flush that returns `Ok` left the spacer as it was, for want of a ready edge, or emitted all that it
selected. -/
theorem flush_whole {s : RepressSpacer L} {now : Nat} {sink : κ} {pressed : Fin L → Bool}
    (h : (s.flush now sink pressed).1 = .ok ()) :
    (selected (select now Marks.clear s.queue) = [] ∧ (s.flush now sink pressed).2.1 = s) ∨
    (selected (select now Marks.clear s.queue) ≠ [] ∧ (s.flush now sink pressed).2.1 =
      (s.emit now (selected (select now Marks.clear s.queue)).length pressed).1) := by
  unfold RepressSpacer.flush at h ⊢
  dsimp only at h ⊢
  split at h
  · rename_i hempty
    rw [if_pos hempty, hempty]
    exact .inl ⟨rfl, rfl⟩
  rename_i hqueue
  rw [if_neg hqueue]
  split at h
  · rename_i hnone
    rw [if_pos hnone]
    exact .inl ⟨List.map_eq_nil_iff.1 hnone, rfl⟩
  rename_i hsome
  rw [if_neg hsome]
  split at h
  · cases h
  rename_i accepted sink' hs
  split at h
  · cases h
  rename_i hle
  split at h
  · cases h
  rename_i hall
  have hall : accepted = (selected (select now Marks.clear s.queue)).length := by
    simpa using Decidable.not_not.1 hall
  subst hall
  rw [if_neg hle, if_neg (by simp)]
  exact .inr ⟨fun hnil => hsome (by rw [hnil]; rfl), rfl⟩

/-- Nothing that such a flush leaves at the head of the queue is due. -/
theorem flush_settled {s : RepressSpacer L} (hgap : 0 < s.gap) {now : Nat} {sink : κ} {pressed : Fin L → Bool}
    (h : (s.flush now sink pressed).1 = .ok ()) : ∀ e ∈ (s.flush now sink pressed).2.1.queue.head?, now < e.due := by
  have hfirst := first_left now s.queue (fun _ => rfl : ∀ lane, Marks.clear.lane_waiting lane = false) rfl
  intro e he
  rcases flush_whole h with ⟨hsel, hsame⟩ | ⟨-, hemit⟩
  · -- Nothing was ready, the oldest edge least of all.
    have hleft : (retain (selected (select now Marks.clear s.queue)).length (select now Marks.clear s.queue)).head? =
        s.queue.head? := by
      rw [hsel]
      rcases hq : s.queue with _ | ⟨x, queue⟩
      · rfl
      · rw [select]
        rcases ready now Marks.clear x <;> rfl
    rw [hsame, ← hleft] at he
    rcases hfirst e he with hdue | ⟨-, hlane | ⟨p, hp, -⟩⟩
    · exact hdue
    · cases hlane
    · rw [hsel] at hp
      cases hp
  · rw [hemit] at he
    simp only [RepressSpacer.emit, List.head?_map] at he
    obtain ⟨x, hx, rfl⟩ := Option.map_eq_some_iff.1 he
    obtain ⟨-, -, hle, hrestart⟩ := restart_gap_keeps s.gap now (s.emit now
      (selected (select now Marks.clear s.queue)).length pressed).1.last_emitted x
    rcases hfirst x hx with hdue | ⟨hspaced, hlane | ⟨p, hp, hlane⟩⟩
    · exact hdue.trans_le hle
    · cases hlane
    · have hlast := note_emitted_lane now s.last_emitted (selected (select now Marks.clear s.queue)) x.change.lane
      have hmem : p ∈ lane_queue (selected (select now Marks.clear s.queue)) x.change.lane :=
        List.mem_filter.2 ⟨hp, by simpa using hlane⟩
      rcases hq : (lane_queue (selected (select now Marks.clear s.queue)) x.change.lane).getLast? with _ | y
      · rw [List.getLast?_eq_none_iff.1 hq] at hmem
        cases hmem
      · rw [hq] at hlast
        have hat := hrestart hspaced ⟨now, y.spaced, y.change.touch⟩
          (by simp only [RepressSpacer.emit, List.take_length]; exact hlast) rfl
        exact Nat.lt_of_lt_of_le (by omega) hat

end Flush

section Compliant
variable [KeySink κ L]

theorem flush_complies (hsink : Compliant κ) (s : RepressSpacer L) (now : Nat) (sink : κ) (pressed : Fin L → Bool) :
    (s.flush now sink pressed).1 = .ok () := by
  have hsubmit := hsink.submit ((selected (select now Marks.clear s.queue)).map (·.change)) sink
  unfold RepressSpacer.flush
  dsimp only
  split
  · rfl
  split
  · rfl
  split
  · rename_i hs
    rw [hs] at hsubmit
    cases hsubmit
  · rename_i accepted sink' hs
    rw [hs] at hsubmit
    obtain rfl := Except.ok.inj hsubmit
    rw [if_neg (Nat.lt_irrefl _), if_neg (by simp)]

theorem service_settled (hsink : Compliant κ) {gap now : Nat} (hgap : 0 < gap) {g : Logged κ L} (h : g.Has (Delayed gap) now) :
    Waits now (g.service now).2 := by
  obtain ⟨spacer, hsp, hsame, -⟩ := h
  intro spacer' hsp' e he
  unfold Logged.service KeyboardSink.service_at at hsp'
  rw [hsp] at hsp'
  obtain rfl := Option.some.inj hsp'
  exact flush_settled (hsame ▸ hgap) (flush_complies hsink spacer now _ _) e he

theorem release_settled (hsink : Compliant κ) {gap now : Nat} {g : Logged κ L} (h : g.Has (Delayed gap) now) :
    Waits now (g.release_all now).2 := by
  obtain ⟨spacer, hsp, -⟩ := h
  have hdiscard := hsink.discard g.sink.sink
  have hrelease := Logged.release_all_sink now g
  rcases hr : g.release_all now with ⟨r, g'⟩
  rw [hr] at hrelease
  unfold KeyboardSink.release_all at hrelease
  split at hrelease
  · rename_i hd
    rw [hd] at hdiscard
    cases hdiscard
  rename_i sink _
  have hbegin : ({ g.sink with sink := sink } : KeyboardSink κ L).begin_release.spacer = some { spacer with queue := [] } := by
    simp [KeyboardSink.begin_release, hsp]
  have hnone : ∃ spacer', g'.sink.spacer = some spacer' ∧ spacer'.queue = [] := by
    have hg' : g'.sink = (KeyboardSink.release_all_with now { g.sink with sink := sink }).2 := by rw [hrelease]
    rw [hg']
    unfold KeyboardSink.release_all_with
    dsimp only
    split
    · exact ⟨_, hbegin, rfl⟩
    split
    · exact ⟨_, hbegin, rfl⟩
    split
    · exact ⟨_, hbegin, rfl⟩
    rename_i n sink' _ _
    obtain ⟨spacer', h₁, h₂⟩ := foldl_released_spacer now
      (({ g.sink with sink := sink } : KeyboardSink κ L).begin_release.pending.changes.take n)
      (s := { ({ g.sink with sink := sink } : KeyboardSink κ L).begin_release with sink := sink' }) hbegin
    split
    · exact ⟨spacer', h₁, h₂⟩
    · exact ⟨spacer', h₁, h₂⟩
  obtain ⟨spacer', hsp', hq⟩ := hnone
  intro spacer'' hsp'' e he
  obtain rfl := Option.some.inj (hsp'.symm.trans hsp'')
  rw [hq] at he
  cases he

theorem accept_settled (hsink : Compliant κ) {gap now : Nat} (hgap : 0 < gap) (lane_for : Int → Fin L) (frame : TouchFrame)
    {g : Logged κ L} (h : g.Has (Delayed gap) now) : Waits now (g.accept lane_for frame now).2 := by
  have hserved := (delayed_keeps gap).service h
  have hsettled := service_settled hsink hgap h
  unfold Logged.accept
  split
  · exact release_settled hsink h
  rcases hs : g.service now with ⟨e | ⟨⟨⟩⟩, g₁⟩
  · rw [hs] at hsettled
    exact hsettled
  rw [hs] at hserved hsettled
  dsimp only at hserved hsettled ⊢
  split
  · exact hsettled
  obtain ⟨spacer, hsp, hd⟩ := hserved
  have hbegin := Logged.begin_frame_spacer lane_for frame g₁.sink
  rcases hb : g₁.sink.begin_frame lane_for frame with ⟨e | ⟨⟨⟩⟩, s₂⟩
  · rw [hb] at hbegin
    intro spacer' hsp' e he
    exact hsettled spacer' (hbegin ▸ hsp') e he
  rw [hb] at hbegin
  dsimp only at hbegin ⊢
  rw [hbegin, hsp]
  have hflushed := service_settled hsink hgap ((delayed_keeps gap).enqueue_pending (g := { g₁ with sink := s₂ }) hd)
  dsimp only
  split
  · rename_i heq
    rw [heq] at hflushed
    exact hflushed
  · rename_i heq
    rw [heq] at hflushed
    exact hflushed

theorem exec_settled (hsink : Compliant κ) {gap t : Nat} (hgap : 0 < gap) (lane_for : Int → Fin L) (c : Call) {g : Logged κ L}
    (h : g.Has (Delayed gap) t) (ht : t ≤ c.now) : Waits c.now (g.exec lane_for c).2 := by
  obtain ⟨spacer, hsp, hd⟩ := h
  have hnow : g.Has (Delayed gap) c.now := ⟨spacer, hsp, (delayed_keeps gap).wait hd ht⟩
  cases c with
  | accept frame now => exact accept_settled hsink hgap lane_for frame hnow
  | service now => exact service_settled hsink hgap hnow
  | release_all now => exact release_settled hsink hnow

end Compliant

/-! ## Runs that meet every deadline -/

/-- A call that comes no later than the sink's deadline after the last one, at `t`. -/
def Prompt [KeySink κ L] (g : Logged κ L) (t : Nat) (c : Call) : Prop :=
  t ≤ c.now ∧ ∀ d ∈ g.sink.next_deadline t, c.now ≤ d

inductive PromptRun [KeySink κ L] (lane_for : Int → Fin L) (gap : Nat) (sink : κ) : Logged κ L → Nat → Prop
  | new : PromptRun lane_for gap sink (Logged.new sink gap) 0
  | call {g : Logged κ L} {t : Nat} (c : Call) : PromptRun lane_for gap sink g t → Prompt g t c →
      PromptRun lane_for gap sink (g.exec lane_for c).2 c.now

variable [KeySink κ L]

instance (g : Logged κ L) (t : Nat) (c : Call) : Decidable (Prompt g t c) := by
  unfold Prompt
  infer_instance

/-- The sink after `calls`, with the time of the last. -/
def Logged.calls (lane_for : Int → Fin L) (g : Logged κ L) (t : Nat) (calls : List Call) : Logged κ L × Nat :=
  calls.foldl (fun s c => ((s.1.exec lane_for c).2, c.now)) (g, t)

def AllPrompt (lane_for : Int → Fin L) : List Call → Logged κ L → Nat → Prop
  | [], _, _ => True
  | c :: calls, g, t => Prompt g t c ∧ AllPrompt lane_for calls (g.exec lane_for c).2 c.now

instance (lane_for : Int → Fin L) (calls : List Call) (g : Logged κ L) (t : Nat) :
    Decidable (AllPrompt lane_for calls g t) := by
  induction calls generalizing g t with
  | nil => exact .isTrue trivial
  | cons c calls ih => exact instDecidableAnd

theorem PromptRun.calls {lane_for : Int → Fin L} {gap : Nat} {sink : κ} {g : Logged κ L} {t : Nat}
    (run : PromptRun lane_for gap sink g t) (calls : List Call) (h : AllPrompt lane_for calls g t) :
    PromptRun lane_for gap sink (g.calls lane_for t calls).1 (g.calls lane_for t calls).2 := by
  induction calls generalizing g t with
  | nil => exact run
  | cons c calls ih => exact ih (.call c run h.1) h.2

theorem PromptRun.logged {lane_for : Int → Fin L} {gap : Nat} {sink : κ} {g : Logged κ L} {t : Nat}
    (run : PromptRun lane_for gap sink g t) : LoggedRun lane_for gap sink g t := by
  induction run with
  | new => exact .new
  | call c run hc ih => exact .call c ih hc.1

theorem run_delayed {lane_for : Int → Fin L} {gap : Nat} {sink : κ} {g : Logged κ L} {t : Nat}
    (run : LoggedRun lane_for gap sink g t) : g.Has (Delayed gap) t :=
  (delayed_keeps gap).run ⟨rfl, rfl, fun _ => ⟨rfl, rfl, .nil, fun _ hb => (by cases hb), fun _ _ hp => (by cases hp),
    fun _ _ he => (by cases he), fun _ => .nil, fun _ hx => (by cases hx), fun _ hx => (by cases hx)⟩⟩ run

theorem run_settled (hsink : Compliant κ) {lane_for : Int → Fin L} {gap : Nat} (hgap : 0 < gap) {sink : κ} {g : Logged κ L}
    {t : Nat} (run : PromptRun lane_for gap sink g t) : Waits t g := by
  cases run with
  | new =>
    intro spacer hsp e he
    obtain rfl := Option.some.inj hsp
    cases he
  | call c run hc => exact exec_settled hsink hgap lane_for c (run_delayed run.logged) hc.1

omit [KeySink κ L] in
theorem deadline_le {s : RepressSpacer L} {t : Nat} {e : ScheduledEdge L} (he : e ∈ s.queue) (ht : t < e.due) :
    ∃ d ∈ s.next_deadline t, d ≤ e.due := by
  have hmem : e.due ∈ (s.queue.map (·.due)).filter (t < ·) :=
    List.mem_filter.2 ⟨List.mem_map.2 ⟨e, he, rfl⟩, by simpa using ht⟩
  unfold RepressSpacer.next_deadline
  rw [if_neg (List.ne_nil_of_mem he)]
  rcases hmin : ((s.queue.map (·.due)).filter (t < ·)).min? with _ | d
  · rw [List.min?_eq_none_iff] at hmin
    rw [hmin] at hmem
    cases hmem
  · exact ⟨d, by rw [hmin]; rfl, (List.min?_eq_some_iff.1 hmin).2 _ hmem⟩

/-- A sink that takes everything, called by every deadline: while no flush leaves a spaced edge that
has waited for more than two gaps behind an edge of its lane that goes out, whatever still waits at
the next call, which emits it, cancels it or leaves it, was queued at most three gaps before. -/
theorem delay_bounded (hsink : Compliant κ) {lane_for : Int → Fin L} {gap : Nat} (hgap : 0 < gap) {sink : κ} {g : Logged κ L}
    {t : Nat} (run : PromptRun lane_for gap sink g t) (hfresh : ∀ f ∈ g.ledger.flushes, f.Fresh) {c : Call}
    (hc : Prompt g t c) : ∀ b ∈ g.ledger.born, c.now ≤ b + 3 * gap := by
  obtain ⟨spacer, hsp, -, -, hdelayed⟩ := run_delayed run.logged
  have hbounds := hdelayed hfresh
  have hsettled := run_settled hsink hgap run spacer hsp
  have halign := hbounds.aligned
  have hsorted := hbounds.sorted
  have hdue := hbounds.due
  intro b hb
  rcases hq : spacer.queue with _ | ⟨e, queue⟩
  · rw [hq, List.length_nil, List.length_eq_zero_iff] at halign
    rw [halign] at hb
    cases hb
  rcases hborn : g.ledger.born with _ | ⟨oldest, born⟩
  · rw [hborn] at hb
    cases hb
  rw [hq] at hsettled hdue
  rw [hborn] at hb hsorted hdue
  -- The oldest edge of all was queued first, and the next deadline is no later than its due time.
  have hold : oldest ≤ b := by
    rcases List.mem_cons.1 hb with rfl | hb
    · exact Nat.le_refl _
    · exact (List.pairwise_cons.1 hsorted).1 b hb
  have hlast := hdue (e, oldest) (by rw [List.zip_cons_cons]; exact List.mem_cons_self)
  have hmem : e ∈ spacer.queue := by
    rw [hq]
    exact List.mem_cons_self
  obtain ⟨d, hd, hle⟩ := deadline_le hmem (hsettled e rfl)
  have hnow := hc.2 d (by rw [KeyboardSink.next_deadline, hsp]; exact hd)
  dsimp only at hlast
  omega

theorem takesAll_compliant : Compliant (TakesAll L) where
  submit _ _ := rfl
  discard _ := rfl

/-- `tapRight`, and the finger lifts within the gap. -/
def quickTap : List Call := [.accept tapRight 0, .accept liftRight 1]

theorem delay_bounded_tap : ((Logged.new (⟨⟩ : TakesAll 2) 16).calls halves 0 quickTap).1.ledger.born = [1] ∧
    ∀ b ∈ ((Logged.new (⟨⟩ : TakesAll 2) 16).calls halves 0 quickTap).1.ledger.born, 16 ≤ b + 3 * 16 :=
  ⟨by decide +kernel, delay_bounded takesAll_compliant (by decide) (PromptRun.new.calls quickTap (by decide +kernel))
    (by decide +kernel) (c := .service 16) (by decide +kernel)⟩

/-! ## A release held back -/

def finger (id : UInt8) (x : Int) : Contact := ⟨id, CONTACT_FLAG_TIP, x, 5000, 0, 0⟩

/-- One finger holds lane 1. Then two land on lane 0 and one on lane 1, and both on lane 1 lift. -/
def crossing : List Call :=
  let frame (sequence : Nat) (action id : UInt8) (contacts : Contacts) : TouchFrame :=
    { tapRight with sequence := sequence, action := action, action_pointer_id := id, contacts := contacts }
  [.accept (frame 1 ACTION_DOWN 0 ⟨[finger 0 7500], by decide, by decide⟩) 0,
   .accept (frame 2 ACTION_DOWN 1 ⟨[finger 0 7500, finger 1 2500], by decide, by decide⟩) 10,
   .accept (frame 3 ACTION_DOWN 2 ⟨[finger 0 7500, finger 1 2500, finger 2 2500], by decide, by decide⟩) 10,
   .accept (frame 4 ACTION_DOWN 3 ⟨[finger 0 7500, finger 1 2500, finger 2 2500, finger 3 7500], by decide, by decide⟩) 10,
   .accept (frame 5 ACTION_UP 0 ⟨[finger 1 2500, finger 2 2500], by decide, by decide⟩) 10,
   .service 11, .service 12, .service 13]

/-- Lane 1's release waits for lane 0's second press, two gaps, and the two edges behind it start over:
the last one still waits four gaps after it was queued. -/
theorem delay_unbounded : ¬ ∀ (gap : Nat) (g : Logged (TakesAll 2) 2) (t : Nat) (c : Call), 0 < gap →
    PromptRun halves gap ⟨⟩ g t → Prompt g t c → ∀ b ∈ g.ledger.born, c.now ≤ b + 3 * gap := by
  intro h
  have run : PromptRun halves 1 (⟨⟩ : TakesAll 2) _ _ := PromptRun.new.calls crossing (by decide +kernel)
  have hlate := h 1 _ _ (.service 14) (by decide) run (by decide +kernel) 10 (by decide +kernel)
  revert hlate
  decide

end Trackpad.Keyboard
