import Trackpad.Phone.SendRuns
import Trackpad.Phone.Transport
/-!
# What the send queue keeps and selects

The frames of a session are queued one after the other, selected by the writer and retired by cumulative ACKs. `queued`
lists what was queued and `selected` what was selected, the oldest first.
-/

namespace Trackpad

namespace V5SendQueue

variable {π : Type}

/-- The retained frames, the oldest first. -/
def toList (q : V5SendQueue π) : List (Frame π) := (List.range' q.head q.size).map q.get

/-- How often a sequence number was selected. -/
def copies (selected : List (Frame π)) (sequence : Nat) : Nat := selected.countP (·.sequence = sequence)

theorem copies_append (selected : List (Frame π)) (frame : Frame π) (sequence : Nat) :
    copies (selected ++ [frame]) sequence =
      copies selected sequence + if frame.sequence = sequence then 1 else 0 := by
  simp [copies, List.countP_append, List.countP_cons]

theorem copies_pos {selected : List (Frame π)} {sequence : Nat} (h : 0 < copies selected sequence) :
    ∃ frame ∈ selected, frame.sequence = sequence := by
  obtain ⟨frame, hmem, hf⟩ := List.countP_pos_iff.1 h
  exact ⟨frame, hmem, by simpa using hf⟩

/-- The counter of a frame stops one past the immediate copies. -/
theorem markSent_count {frame : Frame π} {n : Nat} (h : frame.sendCount = min (IMMEDIATE_COPIES + 1) n) (now : Int) :
    (markSent frame now).sendCount = min (IMMEDIATE_COPIES + 1) (n + 1) := by
  unfold markSent
  dsimp only
  rw [h]
  split <;> omega

/-- A selected frame was sent twice before and none is between its copies, or it is the one at `immediate`. -/
theorem next_selects {window : Nat} {q : V5SendQueue π} (h : Cursors window q) (now : Int) :
    q.next now window = (none, q.settle window) ∨
    ∃ i repair lastWasRepair, q.next now window =
        (some (markSent (q.get i) now), (q.settle window).marked now i repair lastWasRepair) ∧
      q.head ≤ i ∧ i < q.windowEnd window ∧
      ((i < (q.settle window).immediate ∧ q.firsts = (q.settle window).immediate ∧
          ((q.settle window).marked now i repair lastWasRepair).firsts = q.firsts) ∨
        (i = (q.settle window).immediate ∧ (q.get i).sendCount < IMMEDIATE_COPIES ∧
          ((q.settle window).marked now i repair lastWasRepair).firsts = i + 1)) := by
  obtain ⟨hs, hunsent, hend, -⟩ := h.settle
  obtain ⟨hlow, hcases⟩ := h.cursor_spec
  have hfirsts := h.settle_firsts
  rcases next_step h now with ⟨hr, hnext⟩ | ⟨-, hf, hnext⟩ | ⟨-, -, hnext⟩
  · refine .inr ⟨_, _, _, hnext, hlow, Nat.lt_of_lt_of_le hr.1 hend, .inl ⟨hr.1, ?_, ?_⟩⟩
    · exact hfirsts.symm.trans (hr.idle h)
    · exact (hs.repaired now hlow hr.1 (hr.idle h)).2.trans hfirsts
  · exact .inr ⟨_, _, _, hnext, hs.head_le, hf, .inr ⟨rfl, hunsent hf, (hs.copied now hf q.cursor hlow hcases).2⟩⟩
  · exact .inl hnext

end V5SendQueue

namespace V5Transport
open V5SendQueue

/-- A session from its start, under one window. -/
inductive Queueing (window : Nat) : V5Transport → List Content → List (Frame Content) → Prop
  | start {p : V5Transport} : p.unacknowledged.capacity = MAX_HOST_WINDOW →
      Queueing window { p with nextSequence := 0, highestAcknowledged := none,
                               unacknowledged := p.unacknowledged.clear } [] []
  | enqueue {p : V5Transport} {queued : List Content} {selected : List (Frame Content)} (cause : Cause)
      (content : Content) (now : Int) : Queueing window p queued selected →
      Queueing window (p.enqueueFrameLocked cause content now)
        (if p.unacknowledged.size ≥ MAX_HOST_WINDOW then queued else queued ++ [content]) selected
  | next {p : V5Transport} {queued : List Content} {selected : List (Frame Content)} (now : Int) :
      Queueing window p queued selected →
      Queueing window { p with unacknowledged := (p.unacknowledged.next now window).2 } queued
        (selected ++ (p.unacknowledged.next now window).1.toList)
  | acknowledge {p : V5Transport} {queued : List Content} {selected : List (Frame Content)} (acknowledged : Nat) :
      Queueing window p queued selected → Queueing window (p.acknowledgeLocked acknowledged).2 queued selected

/-- The ring holds what was queued and not acknowledged, and counts the copies of each. -/
structure Retains (window : Nat) (p : V5Transport) (queued : List Content) (selected : List (Frame Content)) : Prop where
  cursors : Cursors window p.unacknowledged
  capacity : p.unacknowledged.capacity = MAX_HOST_WINDOW
  next : p.nextSequence = queued.length
  tail : p.unacknowledged.tail = queued.length
  head : p.unacknowledged.head = p.highestAcknowledged.elim 0 (· + 1)
  frames : ∀ i, p.unacknowledged.head ≤ i → i < p.unacknowledged.tail →
    (p.unacknowledged.get i).sequence = i ∧ queued[i]? = some (p.unacknowledged.get i).payload
  counts : ∀ i, p.unacknowledged.head ≤ i → i < p.unacknowledged.tail →
    (p.unacknowledged.get i).sendCount = min (IMMEDIATE_COPIES + 1) (copies selected i)
  chosen : ∀ frame ∈ selected, frame.sequence < p.unacknowledged.firsts
  pair : ∀ i, p.unacknowledged.head ≤ i → i < p.unacknowledged.tail → copies selected i = 1 →
    ∃ frame, selected.getLast? = some frame ∧ frame.sequence = i

variable {window : Nat} {p : V5Transport} {queued : List Content} {selected : List (Frame Content)}

theorem retains_start (hcapacity : p.unacknowledged.capacity = MAX_HOST_WINDOW) :
    Retains window { p with nextSequence := 0, highestAcknowledged := none,
                            unacknowledged := p.unacknowledged.clear } [] [] where
  cursors := cursors_clear window _
  capacity := hcapacity
  next := rfl
  tail := rfl
  head := rfl
  frames i _ hi := absurd hi (Nat.not_lt_zero i)
  counts i _ hi := absurd hi (Nat.not_lt_zero i)
  chosen _ h := absurd h List.not_mem_nil
  pair i _ hi := absurd hi (Nat.not_lt_zero i)

theorem Retains.firsts_le (h : Retains window p queued selected) : p.unacknowledged.firsts ≤ p.unacknowledged.tail := by
  have himm := h.cursors.immediate_le
  rcases firsts_cases p.unacknowledged with ⟨he, hlt, -⟩ | ⟨he, -⟩ <;> omega

/-- A full queue takes no frame. -/
theorem Retains.enqueue (h : Retains window p queued selected) (cause : Cause) (content : Content) (now : Int) :
    Retains window (p.enqueueFrameLocked cause content now)
      (if p.unacknowledged.size ≥ MAX_HOST_WINDOW then queued else queued ++ [content]) selected := by
  unfold enqueueFrameLocked
  split
  · next hfull =>
    exact ⟨h.cursors, h.capacity, h.next, h.tail, h.head, h.frames, h.counts, h.chosen, h.pair⟩
  · next hroom =>
    have hadd : p.unacknowledged.add p.nextSequence content now =
        some (p.unacknowledged.append ⟨p.nextSequence, content, now, 0, 0⟩) :=
      add_some (by rw [h.capacity]; omega) _ _ _
    obtain ⟨hcursors, hfirsts, htail, hself, hkeep, hhead, -, -, hcapacity⟩ := h.cursors.add hadd
    have hle := h.firsts_le
    have hlength := h.tail
    rw [hadd]
    dsimp only
    refine ⟨hcursors, hcapacity.trans h.capacity, ?_, ?_, hhead.trans h.head, ?_, ?_, ?_, ?_⟩
    · dsimp only
      rw [h.next, List.length_append, List.length_singleton]
    · rw [htail, hlength, List.length_append, List.length_singleton]
    · intro i hi hlt
      rw [hhead] at hi
      rw [htail] at hlt
      dsimp only
      rcases Nat.lt_succ_iff_lt_or_eq.1 hlt with hlt | rfl
      · rw [hkeep i hi hlt, List.getElem?_append_left (by omega)]
        exact h.frames i hi hlt
      · rw [hself, hlength, List.getElem?_concat_length]
        exact ⟨h.next, rfl⟩
    · intro i hi hlt
      rw [hhead] at hi
      rw [htail] at hlt
      dsimp only
      rcases Nat.lt_succ_iff_lt_or_eq.1 hlt with hlt | rfl
      · rw [hkeep i hi hlt]
        exact h.counts i hi hlt
      · -- Nothing was selected under a number that was not queued yet.
        have hnone : copies selected p.unacknowledged.tail = 0 := by
          by_contra hsome
          obtain ⟨frame, hmem, hsequence⟩ := copies_pos (Nat.pos_of_ne_zero hsome)
          have := h.chosen frame hmem
          omega
        rw [hself, hnone]
        rfl
    · dsimp only
      rw [hfirsts]
      exact h.chosen
    · intro i hi hlt hone
      rw [hhead] at hi
      rw [htail] at hlt
      rcases Nat.lt_succ_iff_lt_or_eq.1 hlt with hlt | rfl
      · exact h.pair i hi hlt hone
      · obtain ⟨frame, hmem, hsequence⟩ := copies_pos (by rw [hone]; exact Nat.one_pos)
        have := h.chosen frame hmem
        omega

/-- The counters tell how far each retained frame is. -/
theorem Retains.copies_cases (h : Retains window p queued selected) {i : Nat} (hi : p.unacknowledged.head ≤ i)
    (hlt : i < p.unacknowledged.tail) :
    (i < (p.unacknowledged.settle window).immediate → 2 ≤ copies selected i) ∧
    ((p.unacknowledged.settle window).immediate < i → copies selected i = 0) ∧
    (p.unacknowledged.firsts ≤ i → copies selected i = 0) := by
  obtain ⟨hs, -⟩ := h.cursors.settle
  have hcount := h.counts i hi hlt
  refine ⟨fun hbelow => ?_, fun habove => ?_, fun hunsent => ?_⟩
  · have htwice := hs.twice i hi hbelow
    rw [(settle_frames window p.unacknowledged).2.2.1, hcount] at htwice
    simp only [IMMEDIATE_COPIES] at htwice
    omega
  · have hzero := hs.unsent i habove hlt
    rw [(settle_frames window p.unacknowledged).2.2.1, hcount] at hzero
    omega
  · have hzero : (p.unacknowledged.get i).sendCount = 0 := by
      rcases firsts_cases p.unacknowledged with ⟨he, -⟩ | ⟨he, hzero⟩
      · exact h.cursors.unsent i (by omega) hlt
      · rcases Nat.lt_or_eq_of_le (he ▸ hunsent) with hgt | rfl
        · exact h.cursors.unsent i hgt hlt
        · exact hzero hlt
    rw [hcount] at hzero
    omega

/-- What a call selects. -/
theorem Retains.select (h : Retains window p queued selected) (now : Int) {frame : Frame Content}
    (hframe : (p.unacknowledged.next now window).1 = some frame) :
    p.unacknowledged.head ≤ frame.sequence ∧ frame.sequence < p.unacknowledged.tail ∧
    frame.sequence < p.unacknowledged.head + window ∧ queued[frame.sequence]? = some frame.payload ∧
    (copies selected frame.sequence = 0 → (∀ g ∈ selected, g.sequence < frame.sequence) ∧
      ∀ n, p.unacknowledged.head ≤ n → n < frame.sequence → 2 ≤ copies selected n) ∧
    ∀ n, p.unacknowledged.head ≤ n → n < p.unacknowledged.tail → copies selected n = 1 → frame.sequence = n := by
  have hinside : p.unacknowledged.windowEnd window ≤ p.unacknowledged.tail ∧
      p.unacknowledged.windowEnd window ≤ p.unacknowledged.head + window := by rw [windowEnd]; omega
  rcases next_selects h.cursors now with hnext | ⟨i, repair, last, hnext, hi, hlt, hcases⟩
  · rw [hnext] at hframe
    cases hframe
  · rw [hnext] at hframe
    obtain rfl := Option.some.inj hframe
    obtain ⟨hsequence, hpayload⟩ := h.frames i hi (by omega)
    have hmarked : (markSent (p.unacknowledged.get i) now).sequence = i := hsequence
    rw [hmarked]
    refine ⟨hi, by omega, by omega, hpayload, fun hnone => ?_, fun n hn hnt hone => ?_⟩
    · have himm : i = (p.unacknowledged.settle window).immediate := by
        rcases hcases with ⟨hbelow, -⟩ | ⟨he, -⟩
        · have := (h.copies_cases hi (by omega)).1 hbelow
          omega
        · exact he
      refine ⟨fun g hg => ?_, fun n hn hni => (h.copies_cases hn (by omega)).1 (by omega)⟩
      have hchosen := h.chosen g hg
      have hfirsts := h.cursors.settle_firsts
      rcases firsts_cases (p.unacknowledged.settle window) with ⟨-, -, hpos⟩ | ⟨he, -⟩
      · rw [(settle_frames window p.unacknowledged).2.2.1, ← himm, h.counts i hi (by omega), hnone] at hpos
        exact absurd hpos (by decide)
      · omega
    · obtain ⟨h1, h2, h3⟩ := h.copies_cases hn hnt
      have hat : n = (p.unacknowledged.settle window).immediate := by
        by_contra hne
        rcases Nat.lt_or_gt_of_ne hne with hlt' | hgt
        · have := h1 hlt'
          omega
        · have := h2 hgt
          omega
      rcases hcases with ⟨-, hidle, -⟩ | ⟨he, -⟩
      · have := h3 (by omega)
        omega
      · omega

theorem Retains.turn (h : Retains window p queued selected) (now : Int) :
    Retains window { p with unacknowledged := (p.unacknowledged.next now window).2 } queued
      (selected ++ (p.unacknowledged.next now window).1.toList) := by
  have hcursors := h.cursors.next now
  have htail := h.firsts_le
  rcases next_selects h.cursors now with hnext | ⟨i, repair, last, hnext, hi, hlt, hcases⟩
  · rw [hnext] at hcursors ⊢
    rw [Option.toList_none, List.append_nil]
    refine ⟨hcursors, h.capacity, h.next, h.tail, h.head, h.frames, h.counts, fun g hg => ?_, h.pair⟩
    exact h.cursors.settle_firsts.symm ▸ h.chosen g hg
  · have hit : i < p.unacknowledged.tail := by rw [windowEnd] at hlt; omega
    obtain ⟨hsequence, -⟩ := h.frames i hi hit
    have hsize := h.cursors.size_le
    have hself : ((p.unacknowledged.settle window).marked now i repair last).get i =
        markSent (p.unacknowledged.get i) now := get_marked_self now i repair last (p.unacknowledged.settle window)
    have hother : ∀ j, p.unacknowledged.head ≤ j → j < p.unacknowledged.tail → i ≠ j →
        ((p.unacknowledged.settle window).marked now i repair last).get j = p.unacknowledged.get j :=
      fun j hj hjlt hne =>
        get_marked_ne (q := p.unacknowledged.settle window) hsize now repair last hi hit hj hjlt hne
    have hmarked : (markSent (p.unacknowledged.get i) now).sequence = i := hsequence
    have hframe : (p.unacknowledged.next now window).1 = some (markSent (p.unacknowledged.get i) now) := by rw [hnext]
    obtain ⟨-, -, -, -, -, hpair⟩ := h.select now hframe
    rw [hmarked] at hpair
    rw [hnext] at hcursors ⊢
    rw [Option.toList_some]
    refine ⟨hcursors, h.capacity, h.next, h.tail, h.head, fun j hj hjlt => ?_, fun j hj hjlt => ?_, fun g hg => ?_,
      fun j hj hjlt hone => ?_⟩
    · by_cases hj' : i = j
      · subst hj'
        dsimp only
        rw [hself]
        exact h.frames i hi hit
      · dsimp only
        rw [hother j hj hjlt hj']
        exact h.frames j hj hjlt
    · rw [copies_append, hmarked]
      by_cases hj' : i = j
      · subst hj'
        dsimp only
        rw [hself, if_pos rfl]
        exact markSent_count (h.counts i hi hit) now
      · dsimp only
        rw [hother j hj hjlt hj', if_neg hj']
        exact h.counts j hj hjlt
    · have hfirsts := h.cursors.settle_firsts
      have hge : (p.unacknowledged.settle window).immediate ≤ (p.unacknowledged.settle window).firsts := by
        rcases firsts_cases (p.unacknowledged.settle window) with ⟨he, -⟩ | ⟨he, -⟩ <;> omega
      dsimp only
      rcases List.mem_append.1 hg with hg | hg
      · have := h.chosen g hg
        rcases hcases with ⟨-, -, he⟩ | ⟨himm, hcount, he⟩
        · omega
        · rcases firsts_cases (p.unacknowledged.settle window) with ⟨he', -⟩ | ⟨he', -⟩ <;> omega
      · rw [List.mem_singleton.1 hg, hmarked]
        rcases hcases with ⟨hbelow, hidle, he⟩ | ⟨-, -, he⟩ <;> omega
    · rw [copies_append, hmarked] at hone
      refine ⟨_, List.getLast?_concat, hmarked.trans ?_⟩
      by_contra hj'
      rw [if_neg hj'] at hone
      exact hj' (hpair j hj hjlt hone)

/-! ## Acknowledgements -/

/-- An ACK retires the frames up to its sequence number, sent or not. -/
theorem retire_cursors {acknowledged : Nat} (fuel : Nat) {q : V5SendQueue Content} (h : Cursors window q)
    (hsequences : ∀ i, q.head ≤ i → i < q.tail → (q.get i).sequence = i) (hle : q.head ≤ acknowledged + 1)
    (hlt : acknowledged < q.tail) (hfuel : q.tail ≤ q.head + fuel) :
    Cursors window (retire acknowledged fuel q) ∧ (retire acknowledged fuel q).head = acknowledged + 1 ∧
    (retire acknowledged fuel q).tail = q.tail ∧ (retire acknowledged fuel q).get = q.get ∧
    (retire acknowledged fuel q).capacity = q.capacity ∧ q.firsts ≤ (retire acknowledged fuel q).firsts := by
  have hmid := h.head_le
  have htail := h.immediate_le
  induction fuel generalizing q with
  | zero => exact ⟨h, by rw [retire]; omega, rfl, rfl, rfl, Nat.le_refl _⟩
  | succ fuel ih =>
    rw [retire]
    split
    · next hempty =>
      have heq : q.head = q.tail := by simpa [isEmpty] using hempty
      exact ⟨h, by omega, rfl, rfl, rfl, Nat.le_refl _⟩
    next hempty =>
    have hne : q.head ≠ q.tail := by simpa [isEmpty] using hempty
    rw [hsequences q.head (Nat.le_refl _) (by omega)]
    split
    · exact ⟨h, by omega, rfl, rfl, rfl, Nat.le_refl _⟩
    · have hfalse : q.isEmpty = false := by simpa using hempty
      obtain ⟨hcursors, hfirsts⟩ := h.removeFirst
      have hfirsts := hfirsts hfalse
      have hhead : q.removeFirst.head = q.head + 1 := by rw [removeFirst_cursors hfalse]
      have htail' : q.removeFirst.tail = q.tail := rfl
      obtain ⟨h1, h2, h3, h4, h5, h6⟩ := ih hcursors
        (fun i hi hit => hsequences i (by omega) hit) (by omega) (by omega) (by omega) hcursors.head_le hcursors.immediate_le
      exact ⟨h1, h2, h3, h4, h5, by omega⟩

/-- The ACKs that change nothing: no ACK at all, one the phone has seen, and one of a frame not yet queued. -/
def Stale (p : V5Transport) (acknowledged : Nat) : Prop :=
  acknowledged = NO_ACK ∨ (∃ highest, p.highestAcknowledged = some highest ∧ acknowledged ≤ highest) ∨
    p.nextSequence ≤ acknowledged

theorem acknowledge_stale {acknowledged : Nat} (hstale : Stale p acknowledged) :
    p.acknowledgeLocked acknowledged = (false, p) := by
  rw [acknowledgeLocked, if_pos]
  rcases hstale with h | ⟨highest, hhighest, h⟩ | h
  · exact .inl h
  · exact .inr (.inl (by rw [hhighest]; simpa using h))
  · exact .inr (.inr h)

theorem acknowledge_new {acknowledged : Nat} (hnew : ¬ Stale p acknowledged) :
    (p.acknowledgeLocked acknowledged).2.highestAcknowledged = some acknowledged ∧
    (p.acknowledgeLocked acknowledged).2.nextSequence = p.nextSequence ∧
    (p.acknowledgeLocked acknowledged).2.unacknowledged =
      retire acknowledged p.unacknowledged.size p.unacknowledged := by
  rw [acknowledgeLocked, if_neg]
  · dsimp only
    split <;> exact ⟨rfl, rfl, rfl⟩
  · rintro (h | h | h)
    · exact hnew (.inl h)
    · obtain ⟨highest, hhighest, hle⟩ := (Option.any_eq_true _ _).1 h
      exact hnew (.inr (.inl ⟨highest, hhighest, by simpa using hle⟩))
    · exact hnew (.inr (.inr h))

theorem Retains.acknowledge (h : Retains window p queued selected) (acknowledged : Nat) :
    Retains window (p.acknowledgeLocked acknowledged).2 queued selected := by
  by_cases hstale : Stale p acknowledged
  · rw [acknowledge_stale hstale]
    exact h
  · obtain ⟨hhighest, hnext, hqueue⟩ := acknowledge_new hstale
    have hle : p.unacknowledged.head ≤ acknowledged + 1 := by
      rw [h.head]
      cases hack : p.highestAcknowledged with
      | none => exact Nat.zero_le _
      | some highest =>
        by_contra hgt
        exact hstale (.inr (.inl ⟨highest, hack, by rw [Option.elim_some] at hgt; omega⟩))
    have hlt : acknowledged < p.unacknowledged.tail := by
      rw [h.tail, ← h.next]
      by_contra hge
      exact hstale (.inr (.inr (Nat.le_of_not_lt hge)))
    obtain ⟨hcursors, hhead, htail, hget, hcapacity, hfirsts⟩ := retire_cursors p.unacknowledged.size h.cursors
      (fun i hi hit => (h.frames i hi hit).1) hle hlt (by rw [size]; omega)
    rw [← hqueue] at hcursors hhead htail hget hcapacity hfirsts
    refine ⟨hcursors, hcapacity.trans h.capacity, hnext.trans h.next, htail.trans h.tail, ?_, fun i hi hit => ?_,
      fun i hi hit => ?_, fun g hg => Nat.lt_of_lt_of_le (h.chosen g hg) hfirsts, fun i hi hit hone => ?_⟩
    · rw [hhead, hhighest, Option.elim_some]
    · rw [hget]
      exact h.frames i (by omega) (htail ▸ hit)
    · rw [hget]
      exact h.counts i (by omega) (htail ▸ hit)
    · exact h.pair i (by omega) (htail ▸ hit) hone

theorem Queueing.retains (h : Queueing window p queued selected) : Retains window p queued selected := by
  induction h with
  | start hcapacity => exact retains_start hcapacity
  | enqueue cause content now _ ih => exact ih.enqueue cause content now
  | next now _ ih => exact ih.turn now
  | acknowledge acknowledged _ ih => exact ih.acknowledge acknowledged

/-- The ring holds what was queued behind the highest ACK, in order and as it was queued. -/
theorem Retains.toList (h : Retains window p queued selected) :
    p.unacknowledged.toList.map (fun frame => (frame.payload, frame.sequence)) =
      queued.zipIdx.drop (p.highestAcknowledged.elim 0 (· + 1)) := by
  have hhead := h.cursors.head_le.trans h.cursors.immediate_le
  have htail := h.tail
  rw [← h.head]
  refine List.ext_getElem? fun k => ?_
  rw [List.getElem?_map, V5SendQueue.toList, List.getElem?_map, List.getElem?_drop, List.getElem?_zipIdx]
  by_cases hk : k < p.unacknowledged.size
  · rw [size] at hk
    obtain ⟨hsequence, hpayload⟩ := h.frames (p.unacknowledged.head + k) (by omega) (by omega)
    rw [List.getElem?_range' (by rw [size]; exact hk), hpayload]
    simp only [Option.map_some, Nat.one_mul, Nat.zero_add, hsequence]
  · rw [size] at hk
    rw [List.getElem?_eq_none (by rw [List.length_range', size]; omega), List.getElem?_eq_none (by omega)]
    rfl

/-- The send queue is safe over any session: it keeps exactly the frames above the highest ACK, in order and as they
were queued. A selected frame lies inside the window. A first copy goes out only once both copies of every earlier
frame still retained did, and before any later one; between the two copies of a retained frame no other is selected.
A stale ACK changes nothing. -/
theorem selects_in_order (h : Queueing window p queued selected) :
    p.nextSequence = queued.length ∧
    p.unacknowledged.toList.map (fun frame => (frame.payload, frame.sequence)) =
      queued.zipIdx.drop (p.highestAcknowledged.elim 0 (· + 1)) ∧
    (∀ now frame, (p.unacknowledged.next now window).1 = some frame →
      frame.sequence < p.unacknowledged.head + window ∧ queued[frame.sequence]? = some frame.payload ∧
      (copies selected frame.sequence = 0 → (∀ g ∈ selected, g.sequence < frame.sequence) ∧
        ∀ n < frame.sequence, p.highestAcknowledged.any (n ≤ ·) = true ∨ 2 ≤ copies selected n) ∧
      (copies selected frame.sequence = 1 → ∃ g, selected.getLast? = some g ∧ g.sequence = frame.sequence) ∧
      ∀ n < p.nextSequence, p.highestAcknowledged.any (n ≤ ·) = true ∨ (copies selected n = 1 → frame.sequence = n)) ∧
    ∀ acknowledged, Stale p acknowledged → p.acknowledgeLocked acknowledged = (false, p) := by
  have hr := h.retains
  have hretained : ∀ n, p.highestAcknowledged.any (n ≤ ·) = true ∨ p.unacknowledged.head ≤ n := by
    intro n
    rw [hr.head]
    cases p.highestAcknowledged with
    | none => exact .inr (Nat.zero_le _)
    | some highest =>
      simp only [Option.any_some, decide_eq_true_eq, Option.elim_some]
      omega
  refine ⟨hr.next, hr.toList, fun now frame hframe => ?_, fun _ => acknowledge_stale⟩
  obtain ⟨hlow, hlt, hin, hpayload, hfirst, hpair⟩ := hr.select now hframe
  refine ⟨hin, hpayload, fun hnone => ⟨(hfirst hnone).1, fun n hn => ?_⟩, hr.pair frame.sequence hlow hlt, fun n hn => ?_⟩
  · rcases hretained n with hacked | hkept
    · exact .inl hacked
    · exact .inr ((hfirst hnone).2 n hkept hn)
  · rcases hretained n with hacked | hkept
    · exact .inl hacked
    · exact .inr (hpair n hkept (by rw [hr.tail, ← hr.next]; exact hn))

/-- A session that has just begun, with nothing queued. -/
def begun : V5Transport :=
  { opened .empty 1 with
    nextSequence := 0
    highestAcknowledged := none
    unacknowledged := (opened .empty 1).unacknowledged.clear }

/-- Three frames queued, the first selected twice and acknowledged. -/
def oneAcknowledged : V5Transport :=
  let p := (begun.enqueueFrameLocked .start (startContent 0) 0).enqueueFrameLocked .heartbeat (retainedContent .empty 0) 0
  let p := p.enqueueFrameLocked .heartbeat (retainedContent .empty 1) 1
  let p := { p with unacknowledged := (p.unacknowledged.next 1 64).2 }
  let p := { p with unacknowledged := (p.unacknowledged.next 1 64).2 }
  (p.acknowledgeLocked 0).2

/-- The second selected once. -/
def secondSelected : V5Transport :=
  { oneAcknowledged with unacknowledged := (oneAcknowledged.unacknowledged.next 2 64).2 }

/-- Its second copy is the next one out, at whatever time that is. -/
theorem selects_in_order_second :
    oneAcknowledged.unacknowledged.toList.map (fun frame => (frame.payload, frame.sequence)) =
      [(retainedContent .empty 0, 1), (retainedContent .empty 1, 2)] ∧
    oneAcknowledged.acknowledgeLocked 3 = (false, oneAcknowledged) ∧
    (oneAcknowledged.unacknowledged.next 2 64).1.map (·.sequence) = some 1 ∧
    (secondSelected.unacknowledged.next 3 64).1.map (·.sequence) = some 1 ∧
    ∀ now frame, (secondSelected.unacknowledged.next now 64).1 = some frame → frame.sequence = 1 := by
  have hstart : Queueing 64 begun [] [] := .start rfl
  have hqueued := ((hstart.enqueue .start (startContent 0) 0).enqueue .heartbeat (retainedContent .empty 0) 0).enqueue
    .heartbeat (retainedContent .empty 1) 1
  have hacknowledged := ((hqueued.next 1).next 1).acknowledge 0
  obtain ⟨-, hkept, -, hstale⟩ := selects_in_order hacknowledged
  obtain ⟨-, -, hselects, -⟩ := selects_in_order (hacknowledged.next 2)
  refine ⟨hkept, hstale 3 (.inr (.inr (by decide))), rfl, rfl, fun now frame hframe => ?_⟩
  exact ((hselects now frame hframe).2.2.2.2 1 (by decide)).resolve_left (by decide) rfl

end V5Transport

end Trackpad
