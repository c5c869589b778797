import Trackpad.Keyboard.Delay
/-!
# How deferred edges drain

A flush that the OS takes whole leaves nothing due at the head of the queue, so the next deadline lies
ahead of it. At that deadline another due time is past, and each edge emitted leaves the queue for good:
an edge that a flush puts off is put off behind one that went out.
-/

namespace Trackpad.Keyboard

variable {κ : Type} {L : Nat}

/-! ## The next deadline -/

theorem next_deadline_none (s : RepressSpacer L) (now : Nat) : s.next_deadline now = none ↔ s.queue = [] := by
  unfold RepressSpacer.next_deadline
  split
  · rename_i hempty
    exact ⟨fun _ => hempty, fun _ => rfl⟩
  · rename_i hqueue
    exact ⟨fun h => (by cases h), fun h => absurd h hqueue⟩

/-- A deadline is now, or the due time of an edge that waits for it. -/
theorem next_deadline_due {s : RepressSpacer L} {now d : Nat} (h : s.next_deadline now = some d) :
    d = now ∨ now < d ∧ ∃ e ∈ s.queue, e.due = d := by
  unfold RepressSpacer.next_deadline at h
  split at h
  · cases h
  rcases hmin : ((s.queue.map (·.due)).filter (now < ·)).min? with _ | m
  · rw [hmin] at h
    exact .inl (Option.some.inj h).symm
  · rw [hmin] at h
    obtain rfl : m = d := Option.some.inj h
    have hmem := (List.min?_eq_some_iff.1 hmin).1
    rw [List.mem_filter, List.mem_map] at hmem
    obtain ⟨⟨e, he, hdue⟩, hlt⟩ := hmem
    exact .inr ⟨of_decide_eq_true hlt, e, he, hdue⟩

/-- With the queue's head not due, the deadline is ahead. -/
theorem next_deadline_ahead {s : RepressSpacer L} {now d : Nat} (hhead : ∀ e ∈ s.queue.head?, now < e.due)
    (h : s.next_deadline now = some d) : now < d := by
  rcases hq : s.queue with _ | ⟨e, queue⟩
  · rw [(next_deadline_none s now).2 hq] at h
    cases h
  rcases next_deadline_due h with rfl | ⟨hlt, -⟩
  · have hdue : d < e.due := hhead e (by rw [hq]; rfl)
    have hmem : e ∈ s.queue := by
      rw [hq]
      exact List.mem_cons_self
    have hmin : e.due ∈ (s.queue.map (·.due)).filter (d < ·) :=
      List.mem_filter.2 ⟨List.mem_map.2 ⟨e, hmem, rfl⟩, by simpa using hdue⟩
    unfold RepressSpacer.next_deadline at h
    rw [if_neg (List.ne_nil_of_mem hmem)] at h
    rcases hm : ((s.queue.map (·.due)).filter (d < ·)).min? with _ | m
    · rw [List.min?_eq_none_iff] at hm
      rw [hm] at hmin
      cases hmin
    · have hlt := (List.mem_filter.1 (List.min?_eq_some_iff.1 hm).1).2
      rw [hm] at h
      obtain rfl : m = d := Option.some.inj h
      exact of_decide_eq_true hlt
  · exact hlt

/-! ## What shrinks -/

/-- How many edges are due later than `now`. -/
def later (now : Nat) (queue : List (ScheduledEdge L)) : Nat := queue.countP (now < ·.due)

/-- An emitted edge is worth more than all the due times left to come. -/
def undrained (s : RepressSpacer L) (now : Nat) : Nat := s.queue.length * s.queue.length + later now s.queue

theorem undrained_le (s : RepressSpacer L) (now : Nat) : undrained s now ≤ s.queue.length * (s.queue.length + 1) := by
  rw [Nat.mul_add_one]
  exact Nat.add_le_add_left List.countP_le_length _

/-- At a due time that was to come, one due time fewer is. -/
theorem later_lt {now d : Nat} {queue : List (ScheduledEdge L)} (hd : now < d) (h : ∃ e ∈ queue, e.due = d) :
    later d queue < later now queue := by
  obtain ⟨e, he, rfl⟩ := h
  obtain ⟨before, behind, rfl⟩ := List.append_of_mem he
  have hmono : ∀ edges : List (ScheduledEdge L), later e.due edges ≤ later now edges := by
    intro edges
    apply List.countP_mono_left
    intro x _ hx
    exact decide_eq_true (hd.trans (of_decide_eq_true hx))
  have hbefore := hmono before
  have hbehind := hmono behind
  simp only [later, List.countP_append, List.countP_cons, Nat.lt_irrefl, hd, decide_true, decide_false, if_true,
    Bool.false_eq_true, if_false] at hbefore hbehind ⊢
  omega

theorem emit_shorter (s : RepressSpacer L) (now : Nat) (pressed : Fin L → Bool)
    (h : selected (select now Marks.clear s.queue) ≠ []) :
    (s.emit now (selected (select now Marks.clear s.queue)).length pressed).1.queue.length < s.queue.length := by
  have hcount := emitted_add_kept (s.flushed now (selected (select now Marks.clear s.queue)).length)
  have hlen := congrArg List.length (flushed_edges s now (selected (select now Marks.clear s.queue)).length)
  have hpos := List.length_pos_iff.2 h
  rw [List.length_map] at hlen
  rw [hlen, RepressSpacer.flushed, outcome_emitted, outcome_kept, List.take_length] at hcount
  rw [RepressSpacer.emit, List.length_map]
  omega

theorem undrained_shorter {s s' : RepressSpacer L} (h : s'.queue.length < s.queue.length) (now : Nat) :
    undrained s' now < s.queue.length * s.queue.length :=
  calc undrained s' now
    _ ≤ s'.queue.length * (s'.queue.length + 1) := undrained_le s' now
    _ ≤ s'.queue.length * s.queue.length := Nat.mul_le_mul_left _ h
    _ < s.queue.length * s.queue.length := Nat.mul_lt_mul_of_pos_right h (Nat.zero_lt_of_lt h)

/-! ## Flushing at each deadline -/

variable [KeySink κ L]

/-- One flush that submits everything it selects, at a deadline that was to come. -/
theorem flush_drains {s : RepressSpacer L} {t now : Nat} {sink : κ} {pressed : Fin L → Bool}
    (hdeadline : s.next_deadline t = some now) (hlater : t < now) (h : (s.flush now sink pressed).1 = .ok ()) :
    undrained (s.flush now sink pressed).2.1 now < undrained s t := by
  rcases flush_whole h with ⟨-, hsame⟩ | ⟨hsome, hemit⟩
  · rw [hsame]
    rcases next_deadline_due hdeadline with rfl | ⟨-, hdue⟩
    · exact absurd hlater (Nat.lt_irrefl _)
    · exact Nat.add_lt_add_left (later_lt hlater hdue) _
  · rw [hemit]
    exact (undrained_shorter (emit_shorter s now pressed hsome) now).trans_le (Nat.le_add_right _ _)

theorem flush_gap (s : RepressSpacer L) (now : Nat) (sink : κ) (pressed : Fin L → Bool)
    (h : (s.flush now sink pressed).1 = .ok ()) : (s.flush now sink pressed).2.1.gap = s.gap := by
  rcases flush_whole h with ⟨-, hsame⟩ | ⟨-, hemit⟩
  · rw [hsame]
  · rw [hemit]
    rfl

/-- Up to `n` flushes, each at the deadline the one before left, from `now` on; a refused one ends them. -/
def drain : Nat → Nat → RepressSpacer L → κ → (Fin L → Bool) →
    Except IoError Unit × RepressSpacer L × κ × (Fin L → Bool)
  | 0, _, s, sink, pressed => (.ok (), s, sink, pressed)
  | n + 1, now, s, sink, pressed =>
    match s.next_deadline now with
    | none => (.ok (), s, sink, pressed)
    | some deadline =>
      match s.flush deadline sink pressed with
      | (.error e, rest) => (.error e, rest)
      | (.ok (), s, sink, pressed) => drain n deadline s sink pressed

theorem drain_empties {n now : Nat} {s : RepressSpacer L} {sink : κ} {pressed : Fin L → Bool} (hgap : 0 < s.gap)
    (hhead : ∀ e ∈ s.queue.head?, now < e.due) (hn : undrained s now ≤ n)
    (h : (drain n now s sink pressed).1 = .ok ()) : (drain n now s sink pressed).2.1.queue = [] := by
  induction n generalizing now s sink pressed with
  | zero =>
    rw [drain]
    rcases hq : s.queue with _ | ⟨e, queue⟩
    · rfl
    · rw [undrained, hq, List.length_cons, Nat.succ_mul] at hn
      omega
  | succ n ih =>
    rw [drain] at h ⊢
    rcases hd : s.next_deadline now with _ | deadline
    · exact (next_deadline_none s now).1 hd
    rw [hd] at h
    have hlater := next_deadline_ahead hhead hd
    rcases hf : s.flush deadline sink pressed with ⟨e | ⟨⟨⟩⟩, s', sink', pressed'⟩
    · dsimp only at h
      rw [hf] at h
      cases h
    have hok : (s.flush deadline sink pressed).1 = .ok () := by rw [hf]
    have hdrains := flush_drains hd hlater hok
    have hgap' := flush_gap s deadline sink pressed hok
    have hsettled := flush_settled hgap hok
    dsimp only at h ⊢
    rw [hf] at h hdrains hgap' hsettled ⊢
    exact ih (hgap' ▸ hgap) hsettled (Nat.le_of_lt_succ (hdrains.trans_le hn)) h

/-- A flush that submits everything it selects leaves a deadline exactly when it leaves edges, and one that
is still to come. From there on, flushing at every deadline empties the queue, in no more flushes than the
square of the edges left, and the edges left once more. -/
theorem deferred_edges_drain {s : RepressSpacer L} (hgap : 0 < s.gap) {t : Nat} {sink : κ} {pressed : Fin L → Bool}
    (h : (s.flush t sink pressed).1 = .ok ()) :
    let left := (s.flush t sink pressed).2.1
    (left.next_deadline t = none ↔ left.queue = []) ∧
    (∀ deadline ∈ left.next_deadline t, t < deadline) ∧
    ∀ (n : Nat) (sink : κ) (pressed : Fin L → Bool), left.queue.length * (left.queue.length + 1) ≤ n →
      (drain n t left sink pressed).1 = .ok () → (drain n t left sink pressed).2.1.queue = [] := by
  intro left
  have hsettled := flush_settled hgap h
  have hgap' : 0 < left.gap := by
    rw [flush_gap s t sink pressed h]
    exact hgap
  refine ⟨next_deadline_none left t, fun deadline hd => next_deadline_ahead hsettled hd, fun n sink pressed hn hok => ?_⟩
  exact drain_empties hgap' hsettled ((undrained_le left t).trans hn) hok

/-- A press of lane 1 and its release, queued in one instant. -/
def tapped : RepressSpacer 2 :=
  ((RepressSpacer.new 2 16).enqueue ⟨Fin.last 1, true, true⟩ 0 false).enqueue ⟨Fin.last 1, false, false⟩ 0 false

/-- The press goes out at once, the release at the one deadline left. -/
theorem deferred_edges_drain_tap :
    let left := (tapped.flush 0 (⟨⟩ : TakesAll 2) fun _ => false).2.1
    left.next_deadline 0 = some 16 ∧ (drain 1 0 left (⟨⟩ : TakesAll 2) fun _ => false).2.1.queue = [] ∧
    (∀ deadline ∈ left.next_deadline 0, 0 < deadline) ∧
    (drain 2 0 left (⟨⟩ : TakesAll 2) fun _ => false).2.1.queue = [] := by
  have hgap : 0 < tapped.gap := by decide
  have hflush : (tapped.flush 0 (⟨⟩ : TakesAll 2) fun _ => false).1 = .ok () := rfl
  obtain ⟨-, hahead, hdrains⟩ := deferred_edges_drain hgap hflush
  exact ⟨by decide, by decide, hahead, hdrains 2 ⟨⟩ (fun _ => false) (by decide) rfl⟩

end Trackpad.Keyboard
