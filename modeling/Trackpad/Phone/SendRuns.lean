import Trackpad.Phone.SendQueue
/-!
# Runs of the send queue

`Cursors` is what any calls leave of the ring and its three cursors, `next_step` is all that a call of `next` can do.
The deadline of the writer follows: `nanosUntilSend` names the first time at which `next` has a frame again.
-/

namespace Trackpad.V5SendQueue

variable {π : Type}

/-- A queue over frames that hold `payload` until one is added. -/
def new (capacity : Nat) (payload : π) : V5SendQueue π :=
  ⟨capacity, fun _ => ⟨0, payload, 0, 0, 0⟩, 0, 0, 0, 0, false⟩

/-- The frames of the window end here. -/
def windowEnd (window : Nat) (q : V5SendQueue π) : Nat := min q.tail (q.head + window)

/-- The frame `nanosUntilSend` waits for. -/
def cursor (q : V5SendQueue π) : Nat := if q.repair ≥ q.immediate ∨ q.repair < q.head then q.head else q.repair

/-- Frames below `immediate` were sent twice and frames above it never; the repair cursor is behind a frame that is
between its two copies. -/
structure Cursors (window : Nat) (q : V5SendQueue π) : Prop where
  head_le : q.head ≤ q.immediate
  immediate_le : q.immediate ≤ q.tail
  firsts_le : q.firsts ≤ q.head + window
  size_le : q.tail ≤ q.head + q.capacity
  twice : ∀ i, q.head ≤ i → i < q.immediate → IMMEDIATE_COPIES ≤ (q.get i).sendCount
  unsent : ∀ i, q.immediate < i → i < q.tail → (q.get i).sendCount = 0
  head_le_repair : q.head ≤ q.repair
  behind : q.immediate < q.firsts → q.repair < q.immediate ∨ q.repair = q.head

variable {window : Nat} {q : V5SendQueue π}

theorem firsts_cases (q : V5SendQueue π) :
    (q.firsts = q.immediate + 1 ∧ q.immediate < q.tail ∧ 0 < (q.get q.immediate).sendCount) ∨
    (q.firsts = q.immediate ∧ (q.immediate < q.tail → (q.get q.immediate).sendCount = 0)) := by
  unfold firsts
  split
  · next h => exact .inl ⟨rfl, h⟩
  · next h => exact .inr ⟨rfl, fun hlt => Nat.eq_zero_of_not_pos fun hpos => h ⟨hlt, hpos⟩⟩

/-! ## Settling -/

theorem settle_frames (window : Nat) (q : V5SendQueue π) : (q.settle window).head = q.head ∧
    (q.settle window).tail = q.tail ∧ (q.settle window).get = q.get ∧ (q.settle window).capacity = q.capacity ∧
    (q.settle window).lastWasRepair = q.lastWasRepair := ⟨rfl, rfl, rfl, rfl, rfl⟩

/-- `immediate` moves past the frame it stands on once that was sent twice. -/
theorem Cursors.settle_immediate (h : Cursors window q) :
    (q.settle window).immediate =
      if q.immediate < q.windowEnd window ∧ IMMEDIATE_COPIES ≤ (q.get q.immediate).sendCount then q.immediate + 1
      else q.immediate := skipSent_spec window h.unsent

/-- Settling does not change which frame is next to repair. -/
theorem Cursors.settle_repair (h : Cursors window q) : (q.settle window).repair = q.cursor := by
  have hsettle : (q.settle window).repair =
      if q.repair ≥ (q.settle window).immediate ∨ q.repair < q.head then q.head else q.repair := rfl
  rw [hsettle, h.settle_immediate, cursor]
  split
  · next hmoved =>
    obtain ⟨hlt, hsent⟩ := hmoved
    have hfirst : q.immediate < q.firsts := by
      rcases firsts_cases q with ⟨he, -, -⟩ | ⟨-, hzero⟩
      · omega
      · rw [hzero (by rw [windowEnd] at hlt; omega)] at hsent
        exact absurd hsent (by decide)
    have hhead := h.head_le
    rcases h.behind hfirst with hlow | hhead'
    · split <;> split <;> omega
    · split <;> split <;> omega
  · rfl

/-- Only one frame past `immediate` is sent. -/
theorem Cursors.settle_firsts (h : Cursors window q) : (q.settle window).firsts = q.firsts := by
  have himm := h.settle_immediate
  have hdef : (q.settle window).firsts =
      if (q.settle window).immediate < q.tail ∧ 0 < (q.get (q.settle window).immediate).sendCount
      then (q.settle window).immediate + 1 else (q.settle window).immediate := rfl
  rw [hdef]
  split at himm
  · next hmoved =>
    obtain ⟨hlt, hsent⟩ := hmoved
    rw [windowEnd] at hlt
    rw [himm]
    rcases firsts_cases q with ⟨he, -, -⟩ | ⟨-, hzero⟩
    · rw [he, if_neg]
      rintro ⟨h1, h2⟩
      rw [h.unsent _ (Nat.lt_succ_self _) h1] at h2
      exact absurd h2 (Nat.lt_irrefl 0)
    · rw [hzero (by omega)] at hsent
      exact absurd hsent (by decide)
  · rw [himm, firsts]

/-- Once settled, no frame of the window that `immediate` has passed was sent less than twice. -/
theorem Cursors.settle (h : Cursors window q) : Cursors window (q.settle window) ∧
    ((q.settle window).immediate < q.windowEnd window → (q.get (q.settle window).immediate).sendCount < IMMEDIATE_COPIES) ∧
    (q.settle window).immediate ≤ q.windowEnd window ∧ (q.settle window).cursor = q.cursor := by
  have himm := h.settle_immediate
  have hrepair := h.settle_repair
  have hfirsts := h.settle_firsts
  obtain ⟨hhead, htail, hget, hcapacity, -⟩ := settle_frames window q
  have hlow := h.head_le
  have hhigh := h.immediate_le
  have hwindow := h.firsts_le
  have hge : q.immediate ≤ (q.settle window).immediate := by rw [himm]; split <;> omega
  have hend : (q.settle window).immediate ≤ q.windowEnd window := by
    rw [himm]
    split
    · omega
    · rw [windowEnd]
      rcases firsts_cases q with ⟨he, -, -⟩ | ⟨he, -⟩ <;> omega
  have hcursor : q.head ≤ q.cursor ∧ (q.cursor < (q.settle window).immediate ∨ q.cursor = q.head) := by
    rw [cursor]
    split <;> omega
  refine ⟨⟨?_, ?_, ?_, ?_, ?_, ?_, ?_, ?_⟩, ?_, hend, ?_⟩
  · rw [hhead]; omega
  · rw [htail]; rw [windowEnd] at hend; omega
  · rw [hfirsts, hhead]; exact hwindow
  · rw [htail, hhead, hcapacity]; exact h.size_le
  · intro i hi hlt
    rw [hget]
    by_cases hbelow : i < q.immediate
    · exact h.twice i hi hbelow
    · split at himm
      · next hmoved =>
        obtain rfl : i = q.immediate := by omega
        exact hmoved.2
      · omega
  · intro i hi hlt
    rw [hget]
    exact h.unsent i (by omega) hlt
  · rw [hrepair, hhead]; exact hcursor.1
  · intro _
    rw [hrepair, hhead]
    exact hcursor.2
  · intro hlt
    split at himm
    · rw [himm] at hlt ⊢
      rw [h.unsent _ (Nat.lt_succ_self _) (by rw [windowEnd] at hlt; omega)]
      decide
    · next hstay =>
      rw [himm] at hlt ⊢
      exact Nat.lt_of_not_le fun hsent => hstay ⟨hlt, hsent⟩
  · have hdef : (q.settle window).cursor = if (q.settle window).repair ≥ (q.settle window).immediate ∨
        (q.settle window).repair < q.head then q.head else (q.settle window).repair := rfl
    rw [hdef, hrepair]
    split <;> omega

/-! ## What a call does -/

/-- Whether a frame waits for an immediate copy. -/
def Fresh (window : Nat) (q : V5SendQueue π) : Prop := (q.settle window).immediate < q.windowEnd window

instance (window : Nat) (q : V5SendQueue π) : Decidable (Fresh window q) := inferInstanceAs (Decidable (_ < _))

/-- Whether the frame at the repair cursor is sent before a frame that waits for an immediate copy. -/
def Repairs (window : Nat) (q : V5SendQueue π) (now : Int) : Prop :=
  q.cursor < (q.settle window).immediate ∧ now - (q.get q.cursor).lastSentNanos ≥ REPAIR_NANOS ∧
  (¬ Fresh window q ∨ (q.lastWasRepair = false ∧ (q.get (q.settle window).immediate).sendCount = 0))

instance (window : Nat) (q : V5SendQueue π) (now : Int) : Decidable (Repairs window q now) :=
  inferInstanceAs (Decidable (_ ∧ _))

/-- A call sends the frame at the repair cursor, or else the frame that waits for an immediate copy, or else none. -/
theorem next_step (h : Cursors window q) (now : Int) :
    (Repairs window q now ∧ q.next now window =
      (some (markSent (q.get q.cursor) now), (q.settle window).marked now q.cursor (q.cursor + 1) true)) ∨
    (¬ Repairs window q now ∧ Fresh window q ∧ q.next now window =
      (some (markSent (q.get (q.settle window).immediate) now),
        (q.settle window).marked now (q.settle window).immediate q.cursor false)) ∨
    (¬ Repairs window q now ∧ ¬ Fresh window q ∧ q.next now window = (none, q.settle window)) := by
  have hdef : q.next now window =
      if Repairs window q now then
        (some (markSent (q.get q.cursor) now), (q.settle window).marked now q.cursor (q.cursor + 1) true)
      else if Fresh window q then
        (some (markSent (q.get (q.settle window).immediate) now),
          (q.settle window).marked now (q.settle window).immediate q.cursor false)
      else (none, q.settle window) := by
    have hrepair := h.settle_repair
    obtain ⟨hhead, htail, hget, -, hlast⟩ := settle_frames window q
    unfold next
    simp only [hrepair, hhead, htail, hget, hlast]
    rfl
  by_cases hr : Repairs window q now
  · exact .inl ⟨hr, by rw [hdef, if_pos hr]⟩
  · by_cases hf : Fresh window q
    · exact .inr (.inl ⟨hr, hf, by rw [hdef, if_neg hr, if_pos hf]⟩)
    · exact .inr (.inr ⟨hr, hf, by rw [hdef, if_neg hr, if_neg hf]⟩)

/-- A repair leaves the cursors past the frame it sent. -/
theorem Cursors.repaired (h : Cursors window q) (now : Int) {i : Nat} (hi : q.head ≤ i) (hlt : i < q.immediate)
    (hidle : q.firsts = q.immediate) :
    Cursors window (q.marked now i (i + 1) true) ∧ (q.marked now i (i + 1) true).firsts = q.firsts := by
  have htail := h.immediate_le
  have hself := get_marked_self now i (i + 1) true q
  have hother : ∀ j, q.head ≤ j → j < q.tail → i ≠ j → (q.marked now i (i + 1) true).get j = q.get j :=
    fun j hj hjlt hne => get_marked_ne h.size_le now (i + 1) true hi (by omega) hj hjlt hne
  have hfirsts : (q.marked now i (i + 1) true).firsts = q.firsts := by
    have hdef : (q.marked now i (i + 1) true).firsts =
        if q.immediate < q.tail ∧ 0 < ((q.marked now i (i + 1) true).get q.immediate).sendCount then q.immediate + 1
        else q.immediate := rfl
    rw [hdef, hidle, if_neg]
    rintro ⟨hin, hpos⟩
    rw [hother _ h.head_le hin (by omega)] at hpos
    rcases firsts_cases q with ⟨he, -, -⟩ | ⟨-, hzero⟩
    · omega
    · rw [hzero hin] at hpos
      exact absurd hpos (Nat.lt_irrefl 0)
  refine ⟨⟨h.head_le, htail, hfirsts ▸ h.firsts_le, h.size_le, ?_, ?_, ?_, ?_⟩, hfirsts⟩
  · intro j hj hjlt
    by_cases he : i = j
    · subst he
      have hsent := h.twice i hj hjlt
      rw [hself, markSent]
      dsimp only
      split <;> omega
    · rw [hother j hj (Nat.lt_of_lt_of_le hjlt htail) he]
      exact h.twice j hj hjlt
  · intro j hj hjlt
    rw [hother j (h.head_le.trans (Nat.le_of_lt hj)) hjlt (by change q.immediate < j at hj; omega)]
    exact h.unsent j hj hjlt
  · exact hi.trans (Nat.le_succ i)
  · intro hlt'
    rw [hfirsts, hidle] at hlt'
    exact absurd hlt' (Nat.lt_irrefl _)

/-- An immediate copy is that of the frame at `immediate`. -/
theorem Cursors.copied (h : Cursors window q) (now : Int) (hlt : q.immediate < q.windowEnd window) (repair : Nat)
    (hrepair : q.head ≤ repair) (hbehind : repair < q.immediate ∨ repair = q.head) :
    Cursors window (q.marked now q.immediate repair false) ∧
    (q.marked now q.immediate repair false).firsts = q.immediate + 1 := by
  rw [windowEnd] at hlt
  have hself := get_marked_self now q.immediate repair false q
  have hother : ∀ j, q.head ≤ j → j < q.tail → q.immediate ≠ j →
      (q.marked now q.immediate repair false).get j = q.get j :=
    fun j hj hjlt hne => get_marked_ne h.size_le now repair false h.head_le (by omega) hj hjlt hne
  have hfirsts : (q.marked now q.immediate repair false).firsts = q.immediate + 1 := by
    have hdef : (q.marked now q.immediate repair false).firsts =
        if q.immediate < q.tail ∧ 0 < ((q.marked now q.immediate repair false).get q.immediate).sendCount
        then q.immediate + 1 else q.immediate := rfl
    rw [hdef, if_pos ⟨by omega, by rw [hself]; exact markSent_pos _ now⟩]
  refine ⟨⟨h.head_le, h.immediate_le, ?_, h.size_le, ?_, ?_, hrepair, fun _ => hbehind⟩, hfirsts⟩
  · rw [hfirsts]
    change q.immediate + 1 ≤ q.head + window
    omega
  · intro j hj hjlt
    rw [hother j hj (Nat.lt_of_lt_of_le hjlt h.immediate_le) (by change j < q.immediate at hjlt; omega)]
    exact h.twice j hj hjlt
  · intro j hj hjlt
    rw [hother j (h.head_le.trans (Nat.le_of_lt hj)) hjlt (by change q.immediate < j at hj; omega)]
    exact h.unsent j hj hjlt

/-- The cursor is on a frame that was sent twice, or at the head. -/
theorem Cursors.cursor_spec (h : Cursors window q) :
    q.head ≤ q.cursor ∧ (q.cursor < (q.settle window).immediate ∨ q.cursor = q.head) := by
  have hs := h.settle.1
  have hrepair := h.settle_repair
  have himm := h.settle_immediate
  have hge : q.immediate ≤ (q.settle window).immediate := by rw [himm]; split <;> omega
  rw [cursor]
  split <;> omega

/-- A repair goes first only where no frame is between its copies. -/
theorem Repairs.idle {now : Int} (h : Cursors window q) (hr : Repairs window q now) :
    (q.settle window).firsts = (q.settle window).immediate := by
  obtain ⟨hs, -, hend, -⟩ := h.settle
  rcases firsts_cases (q.settle window) with ⟨he, hlt, hpos⟩ | ⟨he, -⟩
  · rcases hr.2.2 with hfresh | ⟨-, hzero⟩
    · have hwindow := hs.firsts_le
      rw [he] at hwindow
      refine absurd ?_ hfresh
      rw [Fresh, windowEnd]
      obtain ⟨hhead, htail, -⟩ := settle_frames window q
      omega
    · rw [(settle_frames window q).2.2.1, hzero] at hpos
      exact absurd hpos (Nat.lt_irrefl 0)
  · exact he

theorem Cursors.next (h : Cursors window q) (now : Int) : Cursors window (q.next now window).2 := by
  obtain ⟨hs, hunsent, hend, -⟩ := h.settle
  obtain ⟨hlow, hcases⟩ := h.cursor_spec
  rcases next_step h now with ⟨hr, hnext⟩ | ⟨-, hf, hnext⟩ | ⟨-, -, hnext⟩
  · rw [hnext]
    exact (hs.repaired now hlow hr.1 (hr.idle h)).1
  · rw [hnext]
    exact (hs.copied now hf q.cursor hlow hcases).1
  · rw [hnext]
    exact hs

theorem Cursors.add (h : Cursors window q) {q' : V5SendQueue π} {sequence : Nat} {payload : π} {now : Int}
    (hadd : q.add sequence payload now = some q') :
    Cursors window q' ∧ q'.firsts = q.firsts ∧ q'.tail = q.tail + 1 ∧
    q'.get q.tail = ⟨sequence, payload, now, 0, 0⟩ ∧ (∀ i, q.head ≤ i → i < q.tail → q'.get i = q.get i) ∧
    q'.head = q.head ∧ q'.repair = q.repair ∧ q'.immediate = q.immediate ∧ q'.capacity = q.capacity := by
  have hhead := h.head_le
  have himm := h.immediate_le
  have hsize := h.size_le
  unfold V5SendQueue.add at hadd
  split at hadd
  · cases hadd
  rename_i hfull
  obtain rfl := (Option.some.inj hadd).symm
  have hroom : q.tail < q.head + q.capacity := by
    simp only [size] at hfull
    omega
  have hself := get_append_self q ⟨sequence, payload, now, 0, 0⟩
  have hkeep : ∀ i, q.head ≤ i → i < q.tail → (q.append ⟨sequence, payload, now, 0, 0⟩).get i = q.get i :=
    fun i hi hlt => get_append hroom _ hi hlt
  have hfirsts : (q.append ⟨sequence, payload, now, 0, 0⟩).firsts = q.firsts := by
    have hdef : (q.append ⟨sequence, payload, now, 0, 0⟩).firsts = if q.immediate < q.tail + 1 ∧
        0 < ((q.append ⟨sequence, payload, now, 0, 0⟩).get q.immediate).sendCount
        then q.immediate + 1 else q.immediate := rfl
    rw [hdef, firsts]
    rcases Nat.lt_or_eq_of_le himm with hlt | heq
    · rw [hkeep q.immediate hhead hlt]
      simp only [hlt, Nat.lt_succ_of_lt hlt]
    · rw [heq, hself]
      simp
  refine ⟨⟨hhead, Nat.le_succ_of_le himm, hfirsts ▸ h.firsts_le, hroom, ?_, ?_, h.head_le_repair, ?_⟩, hfirsts, rfl,
    hself, hkeep, rfl, rfl, rfl, rfl⟩
  · intro i hi hlt
    rw [hkeep i hi (Nat.lt_of_lt_of_le hlt himm)]
    exact h.twice i hi hlt
  · intro i hi hlt
    rcases Nat.lt_succ_iff_lt_or_eq.1 hlt with hlt | rfl
    · rw [hkeep i (hhead.trans (Nat.le_of_lt hi)) hlt]
      exact h.unsent i hi hlt
    · rw [hself]
  · rw [hfirsts]
    exact h.behind

theorem removeFirst_empty (h : Cursors window q) (he : q.isEmpty = true) : q.removeFirst = q := by
  rw [removeFirst, he]
  simp only [if_true, Nat.max_eq_right h.head_le, Nat.max_eq_right h.head_le_repair]

/-- Retiring the first frame moves the cursors that stand on it. -/
theorem removeFirst_cursors (he : q.isEmpty = false) : q.removeFirst =
    { q with head := q.head + 1, immediate := max (q.head + 1) q.immediate, repair := max (q.head + 1) q.repair } := by
  simp [removeFirst, he]

theorem Cursors.removeFirst (h : Cursors window q) : Cursors window q.removeFirst ∧
    (q.isEmpty = false → q.removeFirst.firsts = max (q.head + 1) q.firsts) := by
  cases he : q.isEmpty with
  | true =>
    rw [removeFirst_empty h he]
    exact ⟨h, fun hc => by cases hc⟩
  | false =>
    rw [removeFirst_cursors he]
    have hhead := h.head_le
    have himm := h.immediate_le
    have hsize := h.size_le
    have hwindow := h.firsts_le
    have hlt : q.head < q.tail := by
      simp only [isEmpty, beq_eq_false_iff_ne] at he
      omega
    have hfirsts : (⟨q.capacity, q.frames, q.head + 1, q.tail, max (q.head + 1) q.immediate, max (q.head + 1) q.repair,
        q.lastWasRepair⟩ : V5SendQueue π).firsts = max (q.head + 1) q.firsts := by
      have hdef : (⟨q.capacity, q.frames, q.head + 1, q.tail, max (q.head + 1) q.immediate, max (q.head + 1) q.repair,
          q.lastWasRepair⟩ : V5SendQueue π).firsts = if max (q.head + 1) q.immediate < q.tail ∧
            0 < (q.get (max (q.head + 1) q.immediate)).sendCount then max (q.head + 1) q.immediate + 1
          else max (q.head + 1) q.immediate := rfl
      rw [hdef]
      rcases Nat.lt_or_eq_of_le hhead with hbelow | heq
      · rw [Nat.max_eq_right hbelow]
        rcases firsts_cases q with ⟨hf, h1, h2⟩ | ⟨hf, hzero⟩
        · rw [if_pos ⟨h1, h2⟩]
          omega
        · rw [if_neg]
          · omega
          · rintro ⟨h1, h2⟩
            rw [hzero h1] at h2
            exact absurd h2 (Nat.lt_irrefl 0)
      · rw [← heq, Nat.max_eq_left (Nat.le_succ _), if_neg]
        · rcases firsts_cases q with ⟨hf, -, -⟩ | ⟨hf, -⟩ <;> omega
        · rintro ⟨h1, h2⟩
          rw [h.unsent _ (by omega) h1] at h2
          exact absurd h2 (Nat.lt_irrefl 0)
    refine ⟨⟨Nat.le_max_left _ _, ?_, ?_, ?_, ?_, ?_, Nat.le_max_left _ _, ?_⟩, fun _ => hfirsts⟩
    · exact Nat.max_le.2 ⟨hlt, himm⟩
    · rw [hfirsts]
      exact Nat.max_le.2 ⟨by
        change q.head + 1 ≤ q.head + 1 + window
        omega, by
        change q.firsts ≤ q.head + 1 + window
        omega⟩
    · change q.tail ≤ q.head + 1 + q.capacity
      omega
    · intro i hi hlt'
      change q.head + 1 ≤ i at hi
      change i < max (q.head + 1) q.immediate at hlt'
      exact h.twice i (by omega) (by omega)
    · intro i hi hlt'
      change max (q.head + 1) q.immediate < i at hi
      exact h.unsent i (by omega) hlt'
    · intro hbetween
      rw [hfirsts] at hbetween
      change max (q.head + 1) q.immediate < max (q.head + 1) q.firsts at hbetween
      change max (q.head + 1) q.repair < max (q.head + 1) q.immediate ∨ max (q.head + 1) q.repair = q.head + 1
      rcases h.behind (by omega) with hlow | hlow <;> omega

theorem cursors_new (window capacity : Nat) (payload : π) : Cursors window (new capacity payload) where
  head_le := Nat.le_refl _
  immediate_le := Nat.le_refl _
  firsts_le := Nat.zero_le _
  size_le := Nat.zero_le _
  twice i _ hi := absurd hi (Nat.not_lt_zero i)
  unsent i _ hi := absurd hi (Nat.not_lt_zero i)
  head_le_repair := Nat.le_refl _
  behind _ := .inr rfl

theorem cursors_clear (window : Nat) (q : V5SendQueue π) : Cursors window q.clear where
  head_le := Nat.le_refl _
  immediate_le := Nat.le_refl _
  firsts_le := Nat.zero_le _
  size_le := Nat.zero_le _
  twice i _ hi := absurd hi (Nat.not_lt_zero i)
  unsent i _ hi := absurd hi (Nat.not_lt_zero i)
  head_le_repair := Nat.le_refl _
  behind _ := .inr rfl

/-! ## Runs -/

/-- The states of a queue under one window whose calls of `next` all meet `permits`, and the time of the last call. -/
inductive Run (permits : V5SendQueue π → Int → Prop) (window : Nat) : V5SendQueue π → Int → Prop
  | new (capacity : Nat) (payload : π) (now : Int) : Run permits window (new capacity payload) now
  | add {q q' : V5SendQueue π} {t now : Int} {sequence : Nat} {payload : π} : Run permits window q t → t ≤ now →
      q.add sequence payload now = some q' → Run permits window q' now
  | removeFirst {q : V5SendQueue π} {t : Int} : Run permits window q t → Run permits window q.removeFirst t
  | clear {q : V5SendQueue π} {t : Int} : Run permits window q t → Run permits window q.clear t
  | next {q : V5SendQueue π} {t now : Int} : Run permits window q t → t ≤ now → permits q now →
      Run permits window (q.next now window).2 now

variable {permits : V5SendQueue π → Int → Prop} {t : Int}

theorem Run.mono {permits' : V5SendQueue π → Int → Prop} (himp : ∀ q now, permits q now → permits' q now)
    (h : Run permits window q t) : Run permits' window q t := by
  induction h with
  | new capacity payload now => exact .new capacity payload now
  | add _ hnow hadd ih => exact .add ih hnow hadd
  | removeFirst _ ih => exact .removeFirst ih
  | clear _ ih => exact .clear ih
  | next _ hnow hpermitted ih => exact .next ih hnow (himp _ _ hpermitted)

theorem Run.cursors (h : Run permits window q t) : Cursors window q := by
  induction h with
  | new capacity payload _ => exact cursors_new window capacity payload
  | add _ _ hadd ih => exact (ih.add hadd).1
  | removeFirst _ ih => exact ih.removeFirst.1
  | clear _ _ => exact cursors_clear window _
  | next _ _ _ ih => exact ih.next _

/-! ## The writer's deadline -/

theorem settle_settle (h : Cursors window q) : (q.settle window).settle window = q.settle window := by
  obtain ⟨hs, hunsent, -, hcursor⟩ := h.settle
  have himm : ((q.settle window).settle window).immediate = (q.settle window).immediate := by
    rw [hs.settle_immediate, if_neg]
    rintro ⟨hlt, hsent⟩
    exact absurd hsent (Nat.not_le.2 (hunsent hlt))
  have hrepair : ((q.settle window).settle window).repair = (q.settle window).repair := by
    rw [hs.settle_repair, hcursor, h.settle_repair]
  calc (q.settle window).settle window
      = { q.settle window with immediate := ((q.settle window).settle window).immediate,
                               repair := ((q.settle window).settle window).repair } := rfl
    _ = q.settle window := by rw [himm, hrepair]

/-- Where no frame waits for an immediate copy, the deadline is that of the frame at the cursor. -/
theorem nanosUntilSend_idle (h : Cursors window q) (hne : q.isEmpty = false) (hidle : ¬ Fresh window q) (now : Int) :
    q.nanosUntilSend now window = some (max 0 (REPAIR_NANOS - (now - (q.get q.cursor).lastSentNanos))) := by
  have himm := h.settle_immediate
  rw [nanosUntilSend, hne, if_neg (by simp), if_neg]
  · rfl
  · rintro ⟨hlt, hsent⟩
    rw [if_neg (fun hc => absurd hc.2 (Nat.not_le.2 hsent))] at himm
    exact hidle (by rw [Fresh, himm]; exact hlt)

/-- The writer neither spins nor oversleeps: where `next` has no frame, the deadline is in the future, `next` has none
and changes nothing before it, and has one when it comes. -/
theorem next_at_deadline (h : Run permits window q t) (hwindow : 1 ≤ window) (hne : q.isEmpty = false) {now : Int}
    (hnone : (q.next now window).1 = none) :
    ∃ d > 0, q.nanosUntilSend now window = some d ∧ (q.next now window).2.nanosUntilSend now window = some d ∧
      (∀ s, now ≤ s → s < now + d → (q.next now window).2.next s window = (none, (q.next now window).2)) ∧
      ((q.next now window).2.next (now + d) window).1.isSome = true := by
  have hc := h.cursors
  obtain ⟨hs, -, hend, hcursor⟩ := hc.settle
  obtain ⟨hhead, htail, hget, -, -⟩ := settle_frames window q
  rcases next_step hc now with ⟨-, hnext⟩ | ⟨-, -, hnext⟩ | ⟨hr, hf, hnext⟩
  · rw [hnext] at hnone; cases hnone
  · rw [hnext] at hnone; cases hnone
  rw [hnext]
  -- The window is not empty, so the frame at the cursor was sent twice.
  have hsent : q.cursor < (q.settle window).immediate := by
    have hlt : q.head < q.tail := by
      have hle := hc.head_le.trans hc.immediate_le
      simp only [isEmpty, beq_eq_false_iff_ne] at hne
      omega
    rcases hc.cursor_spec.2 with hlow | hlow
    · exact hlow
    · rw [Fresh, windowEnd] at hf
      omega
  have hfresh : ¬ Fresh window (q.settle window) := by
    rw [Fresh, settle_settle hc]
    exact hf
  have hwaits : ∀ s, Repairs window (q.settle window) s ↔ s - (q.get q.cursor).lastSentNanos ≥ REPAIR_NANOS := by
    intro s
    rw [Repairs, settle_settle hc, hcursor, hget]
    exact ⟨fun h => h.2.1, fun h => ⟨hsent, h, .inl hfresh⟩⟩
  have hlate : now - (q.get q.cursor).lastSentNanos < REPAIR_NANOS := by
    by_contra hdue
    exact hr ⟨hsent, Int.not_lt.1 hdue, .inl hf⟩
  have hbefore : q.nanosUntilSend now window = some (REPAIR_NANOS - (now - (q.get q.cursor).lastSentNanos)) := by
    rw [nanosUntilSend_idle hc hne hf, max_eq_right (by omega)]
  have hafter : (q.settle window).nanosUntilSend now window =
      some (REPAIR_NANOS - (now - (q.get q.cursor).lastSentNanos)) := by
    rw [nanosUntilSend_idle hs hne hfresh, hcursor, hget, max_eq_right (by omega)]
  refine ⟨_, by omega, hbefore, hafter, fun s _ hlt => ?_, ?_⟩
  · rcases next_step hs s with ⟨hr', -⟩ | ⟨-, hf', -⟩ | ⟨-, -, hnext'⟩
    · have := (hwaits s).1 hr'
      omega
    · exact absurd hf' hfresh
    · rw [hnext', settle_settle hc]
  · rcases next_step hs (now + (REPAIR_NANOS - (now - (q.get q.cursor).lastSentNanos))) with ⟨-, h'⟩ | ⟨-, h', -⟩ | ⟨h', -⟩
    · rw [h']; rfl
    · exact absurd h' hfresh
    · exact absurd ((hwaits _).2 (by omega)) h'

/-- One frame, sent twice at 100, and the deadline a nanosecond before it is due again. -/
def sentTwice : V5SendQueue Unit :=
  ((((new 4 ()).append ⟨9, (), 100, 0, 0⟩).next 100 4).2.next 101 4).2

theorem next_at_deadline_pair : sentTwice.nanosUntilSend 2000100 4 = some 1 ∧
    ((sentTwice.next 2000100 4).2.next 2000101 4).1.isSome = true := by
  have hrun : Run (fun _ _ => True) 4 sentTwice 101 :=
    .next (.next (.add (.new 4 () 100) (Int.le_refl _) rfl) (Int.le_refl _) trivial) (by decide) trivial
  have hnone : (sentTwice.next 2000100 4).1 = none := by decide +kernel
  obtain ⟨d, -, hd, -, -, hsome⟩ := next_at_deadline hrun (by decide) rfl hnone
  have h1 : sentTwice.nanosUntilSend 2000100 4 = some 1 := by decide +kernel
  obtain rfl := Option.some.inj (hd.symm.trans h1)
  exact ⟨h1, hsome⟩

end Trackpad.V5SendQueue
