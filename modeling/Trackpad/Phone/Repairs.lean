import Trackpad.Phone.SendRuns
/-!
# The order of repairs

The repair cursor goes round the frames that were sent. As long as they stand in the order of their last sending from
the cursor on, an overdue frame is never hidden behind it. A copy of a new frame breaks that order where the cursor has
already passed older frames.
-/

namespace Trackpad.V5SendQueue

variable {π : Type} {window : Nat} {q : V5SendQueue π} {t : Int}

/-- A frame of the window that was sent twice, the last time at least two milliseconds ago. -/
structure Overdue (window : Nat) (q : V5SendQueue π) (now : Int) (i : Nat) : Prop where
  head_le : q.head ≤ i
  inside : i < q.windowEnd window
  twice : IMMEDIATE_COPIES ≤ (q.get i).sendCount
  late : REPAIR_NANOS ≤ now - (q.get i).lastSentNanos

/-- The call is to send an immediate copy while the repair cursor stands past a frame that was last sent earlier. -/
def Overtakes (window : Nat) (q : V5SendQueue π) (now : Int) : Prop :=
  Fresh window q ∧ ¬ Repairs window q now ∧ ∃ i < q.cursor, q.head ≤ i ∧ (q.get i).lastSentNanos < now

instance (window : Nat) (q : V5SendQueue π) (now : Int) : Decidable (Overtakes window q now) :=
  inferInstanceAs (Decidable (_ ∧ _))

/-- Going round from `cursor`, the frame at `i` comes no later than the one at `j`. -/
def Before (cursor i j : Nat) : Prop := (cursor ≤ i ∧ j < cursor) ∨ (i ≤ j ∧ (j < cursor ∨ cursor ≤ i))

/-- The sent frames, in the order in which the repair cursor meets them, were last sent one after the other. -/
structure Rotating (q : V5SendQueue π) (t : Int) : Prop where
  past : ∀ i, q.head ≤ i → i < q.firsts → (q.get i).lastSentNanos ≤ t
  order : ∀ i j, q.head ≤ i → i < q.firsts → q.head ≤ j → j < q.firsts → Before q.repair i j →
    (q.get i).lastSentNanos ≤ (q.get j).lastSentNanos

/-- The frame at the cursor was sent no later than any other. -/
theorem Rotating.cursor_first (h : Rotating q t) (hc : Cursors window q) {i : Nat} (hi : q.head ≤ i) (hlt : i < q.firsts) :
    (q.get q.cursor).lastSentNanos ≤ (q.get i).lastSentNanos := by
  have hrepair := hc.head_le_repair
  have hcases := firsts_cases q
  rw [cursor]
  by_cases hwrap : q.repair ≥ q.immediate ∨ q.repair < q.head
  · rw [if_pos hwrap]
    refine h.order q.head i (Nat.le_refl _) (by omega) hi hlt (.inr ⟨hi, ?_⟩)
    rcases hcases with ⟨he, -⟩ | ⟨he, -⟩
    · rcases hc.behind (by omega) with hlow | hlow <;> omega
    · omega
  · rw [if_neg hwrap]
    refine h.order q.repair i hrepair (by omega) hi hlt ?_
    rw [Before]
    omega

/-- Settling moves a cursor that was past every frame back to the head. -/
theorem Rotating.settle (h : Rotating q t) (hc : Cursors window q) : Rotating (q.settle window) t := by
  have hfirsts := hc.settle_firsts
  have hrepair := hc.settle_repair
  obtain ⟨hhead, -, hget, -, -⟩ := settle_frames window q
  refine ⟨fun i hi hlt => ?_, fun i j hi hilt hj hjlt hbefore => ?_⟩
  · rw [hget]
    exact h.past i hi (hfirsts ▸ hlt)
  · rw [hfirsts] at hilt hjlt
    rw [hhead] at hi hj
    rw [hrepair, cursor] at hbefore
    rw [hget]
    refine h.order i j hi hilt hj hjlt ?_
    have hlow := hc.head_le_repair
    rcases firsts_cases q with ⟨he, -⟩ | ⟨he, -⟩
    · have hbehind := hc.behind (by omega)
      rw [Before] at hbefore ⊢
      split at hbefore <;> omega
    · rw [Before] at hbefore ⊢
      split at hbefore <;> omega

/-- A repaired frame is the last of the round. -/
theorem Rotating.repaired (h : Rotating q t) (hc : Cursors window q) {now : Int} (hnow : t ≤ now)
    (hlt : q.repair < q.immediate) (hidle : q.firsts = q.immediate) :
    Rotating (q.marked now q.repair (q.repair + 1) true) now := by
  have htail := hc.immediate_le
  have hlow := hc.head_le_repair
  have hself := get_marked_self now q.repair (q.repair + 1) true q
  have hother : ∀ j, q.head ≤ j → j < q.firsts → q.repair ≠ j →
      (q.marked now q.repair (q.repair + 1) true).get j = q.get j :=
    fun j hj hjlt hne => get_marked_ne hc.size_le now (q.repair + 1) true hlow (by omega) hj (by omega) hne
  have hfirsts := (hc.repaired now hlow hlt hidle).2
  have hmarked : ∀ j, q.head ≤ j → j < q.firsts →
      ((q.marked now q.repair (q.repair + 1) true).get j).lastSentNanos ≤ now := by
    intro j hj hjlt
    by_cases he : q.repair = j
    · subst he
      rw [hself]
      exact Int.le_refl _
    · rw [hother j hj hjlt he]
      exact (h.past j hj hjlt).trans hnow
  refine ⟨fun j hj hjlt => hmarked j hj (hfirsts ▸ hjlt), fun a b ha halt hb hblt hbefore => ?_⟩
  rw [hfirsts] at halt hblt
  change Before (q.repair + 1) a b at hbefore
  by_cases hbi : q.repair = b
  · subst hbi
    rw [hself]
    exact hmarked a ha halt
  · have hai : q.repair ≠ a := by rw [Before] at hbefore; omega
    rw [hother a ha halt hai, hother b hb hblt hbi]
    refine h.order a b ha halt hb hblt ?_
    rw [Before] at hbefore ⊢
    omega

/-- A copy of a new frame is the last of the round too, unless the cursor has passed a frame that was sent earlier. -/
theorem Rotating.copied (h : Rotating q t) (hc : Cursors window q) {now : Int} (hnow : t ≤ now)
    (hlt : q.immediate < q.windowEnd window) (hbehind : q.repair < q.immediate ∨ q.repair = q.head)
    (hnone : ∀ i, q.head ≤ i → i < q.repair → now ≤ (q.get i).lastSentNanos) :
    Rotating (q.marked now q.immediate q.repair false) now := by
  have hself := get_marked_self now q.immediate q.repair false q
  have hlow := hc.head_le
  have hin : q.immediate < q.tail := by rw [windowEnd] at hlt; omega
  have hother : ∀ j, q.head ≤ j → j < q.immediate → (q.marked now q.immediate q.repair false).get j = q.get j :=
    fun j hj hjlt => get_marked_ne hc.size_le now q.repair false hlow hin hj (by omega) (by omega)
  have hfirsts := (hc.copied now hlt q.repair hc.head_le_repair hbehind).2
  have hle : q.immediate ≤ q.firsts := by rcases firsts_cases q with ⟨he, -⟩ | ⟨he, -⟩ <;> omega
  have hmarked : ∀ j, q.head ≤ j → j < q.immediate + 1 →
      ((q.marked now q.immediate q.repair false).get j).lastSentNanos ≤ now := by
    intro j hj hjlt
    rcases Nat.lt_succ_iff_lt_or_eq.1 hjlt with hjlt | rfl
    · rw [hother j hj hjlt]
      exact (h.past j hj (by omega)).trans hnow
    · rw [hself]
      exact Int.le_refl _
  refine ⟨fun j hj hjlt => hmarked j hj (hfirsts ▸ hjlt), fun a b ha halt hb hblt hbefore => ?_⟩
  rw [hfirsts] at halt hblt
  change Before q.repair a b at hbefore
  change q.head ≤ a at ha
  change q.head ≤ b at hb
  rcases Nat.lt_succ_iff_lt_or_eq.1 hblt with hb' | rfl
  · rw [hother b hb hb']
    rcases Nat.lt_succ_iff_lt_or_eq.1 halt with ha' | rfl
    · rw [hother a ha ha']
      exact h.order a b ha (by omega) hb (by omega) hbefore
    · rw [hself]
      -- Only the frames the cursor has passed come after the new one.
      refine hnone b hb ?_
      rw [Before] at hbefore
      omega
  · rw [hself]
    exact hmarked a ha halt

theorem Rotating.next (h : Rotating q t) (hc : Cursors window q) {now : Int} (hnow : t ≤ now)
    (hpermitted : ¬ Overtakes window q now) : Rotating (q.next now window).2 now := by
  have hs := hc.settle.1
  have hrot := h.settle hc
  have hrepair := hc.settle_repair
  obtain ⟨hhead, -, hget, -, -⟩ := settle_frames window q
  rcases next_step hc now with ⟨hr, hnext⟩ | ⟨hr, hf, hnext⟩ | ⟨-, -, hnext⟩
  · rw [hnext, ← hrepair]
    exact hrot.repaired hs hnow (hrepair ▸ hr.1) (hr.idle hc)
  · rw [hnext, ← hrepair]
    refine hrot.copied hs hnow hf (by rw [hrepair, hhead]; exact hc.cursor_spec.2) fun i hi hlt => ?_
    rw [hget]
    by_contra hearly
    exact hpermitted ⟨hf, hr, i, hrepair ▸ hlt, hi, Int.not_le.1 hearly⟩
  · rw [hnext]
    exact ⟨fun i hi hlt => (hrot.past i hi hlt).trans hnow, hrot.order⟩

theorem Rotating.add (h : Rotating q t) (hc : Cursors window q) {now : Int} (hnow : t ≤ now) {q' : V5SendQueue π}
    {sequence : Nat} {payload : π} (hadd : q.add sequence payload now = some q') : Rotating q' now := by
  obtain ⟨-, hfirsts, -, -, hget, hhead, hrepair, -, -⟩ := hc.add hadd
  have hin := (firsts_cases q)
  have htail := hc.immediate_le
  refine ⟨fun i hi hlt => ?_, fun i j hi hilt hj hjlt hbefore => ?_⟩
  · rw [hget i (by omega) (by omega)]
    exact (h.past i (by omega) (by omega)).trans hnow
  · rw [hget i (by omega) (by omega), hget j (by omega) (by omega)]
    exact h.order i j (by omega) (by omega) (by omega) (by omega) (hrepair ▸ hbefore)

theorem Rotating.removeFirst (h : Rotating q t) (hc : Cursors window q) : Rotating q.removeFirst t := by
  cases he : q.isEmpty with
  | true =>
    rw [removeFirst_empty hc he]
    exact h
  | false =>
    have hfirsts := hc.removeFirst.2 he
    have hlow := hc.head_le_repair
    rw [removeFirst_cursors he] at hfirsts ⊢
    refine ⟨fun i hi hlt => ?_, fun i j hi hilt hj hjlt hbefore => ?_⟩
    · rw [hfirsts] at hlt
      change q.head + 1 ≤ i at hi
      exact h.past i (by omega) (by omega)
    · rw [hfirsts] at hilt hjlt
      change q.head + 1 ≤ i at hi
      change q.head + 1 ≤ j at hj
      refine h.order i j (by omega) (by omega) (by omega) (by omega) ?_
      change Before (max (q.head + 1) q.repair) i j at hbefore
      rw [Before] at hbefore ⊢
      omega

theorem Run.rotating (h : Run (fun q now => ¬ Overtakes window q now) window q t) : Rotating q t := by
  have hnone : ∀ (q : V5SendQueue π) t, q.firsts = 0 → Rotating q t := fun q t h =>
    ⟨fun i _ hi => absurd hi (by omega), fun i _ _ hi => absurd hi (by omega)⟩
  induction h with
  | new capacity payload now => exact hnone _ _ rfl
  | add hrun hnow hadd ih => exact ih.add hrun.cursors hnow hadd
  | removeFirst hrun ih => exact ih.removeFirst hrun.cursors
  | clear _ _ => exact hnone _ _ rfl
  | next hrun hnow hpermitted ih => exact ih.next hrun.cursors hnow hpermitted

/-- As long as no immediate copy goes out while the cursor stands past a frame that was last sent earlier, an overdue
frame never waits: `next` has a frame and the deadline is now. -/
theorem overdue_sent (h : Run (fun q now => ¬ Overtakes window q now) window q t) {now : Int} {i : Nat}
    (hi : Overdue window q now i) : (q.next now window).1.isSome = true ∧ q.nanosUntilSend now window = some 0 := by
  have hc := h.cursors
  have hend := hc.settle.2.2.1
  have hinside := hi.inside
  have hlate := hi.late
  have hsent : i < q.firsts := by
    rcases Nat.lt_trichotomy q.immediate i with hlt | rfl | hgt
    · have htwice := hi.twice
      rw [hc.unsent i hlt (by rw [windowEnd] at hinside; omega)] at htwice
      exact absurd htwice (by decide)
    · rcases firsts_cases q with ⟨he, -⟩ | ⟨-, hzero⟩
      · omega
      · have htwice := hi.twice
        rw [hzero (by rw [windowEnd] at hinside; omega)] at htwice
        exact absurd htwice (by decide)
    · rcases firsts_cases q with ⟨he, -⟩ | ⟨he, -⟩ <;> omega
  have hfirst := h.rotating.cursor_first hc hi.head_le hsent
  have hlow := hi.head_le
  refine ⟨?_, ?_⟩
  · rcases next_step hc now with ⟨-, hnext⟩ | ⟨-, -, hnext⟩ | ⟨hr, hf, -⟩
    · rw [hnext]; rfl
    · rw [hnext]; rfl
    · -- Every frame of the window was sent twice, and the one at the cursor is due.
      refine absurd ⟨?_, by omega, .inl hf⟩ hr
      rcases hc.cursor_spec.2 with hcursor | hcursor
      · exact hcursor
      · rw [Fresh] at hf
        omega
  · have hne : q.isEmpty = false := by
      simp only [isEmpty, beq_eq_false_iff_ne]
      rw [windowEnd] at hinside
      omega
    rw [nanosUntilSend, hne, if_neg (by simp)]
    split
    · rfl
    · change some (max 0 (REPAIR_NANOS - (now - (q.get q.cursor).lastSentNanos))) = some 0
      rw [max_eq_left (by omega)]

/-- Two frames sent twice at 0, and the first of them again two milliseconds later. -/
def repairedOnce : V5SendQueue Unit :=
  let q := ((new 4 ()).append ⟨0, (), 0, 0, 0⟩).append ⟨1, (), 0, 0, 0⟩
  ((((((q.next 0 4).2.next 0 4).2.next 0 4).2.next 0 4).2).next 2000000 4).2

theorem repairedOnce_run : Run (fun q now => ¬ Overtakes 4 q now) 4 repairedOnce 2000000 := by
  have hadded : Run (fun q now => ¬ Overtakes 4 q now) 4
      (((new 4 ()).append ⟨0, (), 0, 0, 0⟩).append ⟨1, (), 0, 0, 0⟩) 0 :=
    .add (.add (.new 4 () 0) (Int.le_refl _) rfl) (Int.le_refl _) rfl
  have hfirst := (hadded.next (Int.le_refl _) (by decide +kernel)).next (Int.le_refl _) (by decide +kernel)
  have hsecond := (hfirst.next (Int.le_refl _) (by decide +kernel)).next (Int.le_refl _) (by decide +kernel)
  exact hsecond.next (by decide) (by decide +kernel)

/-- The second frame is due as soon as the first was repaired. -/
theorem overdue_sent_second : (repairedOnce.next 2000001 4).1.isSome = true ∧
    repairedOnce.nanosUntilSend 2000001 4 = some 0 :=
  overdue_sent repairedOnce_run (i := 1) ⟨by decide +kernel, by decide +kernel, by decide +kernel, by decide +kernel⟩

/-- A third frame, sent twice while the cursor stands on the second, which is then repaired. -/
def overtaken : V5SendQueue Unit :=
  ((((repairedOnce.append ⟨2, (), 3999998, 0, 0⟩).next 3999998 4).2.next 3999998 4).2.next 3999999 4).2

/-- The first frame is overdue, but the cursor stands on the third: `next` has no frame, and the writer would sleep. -/
theorem head_hidden : ∃ t, Run (fun _ _ => True) 4 overtaken t ∧ t ≤ 4000000 ∧ Overdue 4 overtaken 4000000 0 ∧
    (overtaken.next 4000000 4).1 = none ∧ overtaken.nanosUntilSend 4000000 4 = some 1999998 := by
  have hadded : Run (fun _ _ => True) 4 (repairedOnce.append ⟨2, (), 3999998, 0, 0⟩) 3999998 :=
    .add (repairedOnce_run.mono fun _ _ _ => trivial) (by decide) rfl
  refine ⟨3999999, ((hadded.next (Int.le_refl _) trivial).next (Int.le_refl _) trivial).next (by decide) trivial, by decide,
    ⟨by decide +kernel, by decide +kernel, by decide +kernel, by decide +kernel⟩, by decide +kernel, by decide +kernel⟩

end Trackpad.V5SendQueue
