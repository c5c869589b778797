import Mathlib
/-!
# The phone's send queue

`V5SendQueue` keeps the frames the host has not acknowledged in a ring, sends each new one twice and
repeats an old one every two milliseconds. The indices only grow; a frame lives in the slot of its
index modulo the capacity. Times are those of `System.nanoTime`.
-/

namespace Trackpad

def REPAIR_NANOS : Int := 2000000
def IMMEDIATE_COPIES : Nat := 2

structure Frame (π : Type) where
  sequence : Nat
  payload : π
  queuedNanos : Int
  lastSentNanos : Int
  sendCount : Nat

structure V5SendQueue (π : Type) where
  capacity : Nat
  frames : Nat → Frame π
  head : Nat
  tail : Nat
  immediate : Nat
  repair : Nat
  lastWasRepair : Bool

namespace V5SendQueue

variable {π : Type}

def get (q : V5SendQueue π) (index : Nat) : Frame π := q.frames (index % q.capacity)

def set (q : V5SendQueue π) (index : Nat) (frame : Frame π) : V5SendQueue π :=
  { q with frames := Function.update q.frames (index % q.capacity) frame }

def size (q : V5SendQueue π) : Nat := q.tail - q.head
def isEmpty (q : V5SendQueue π) : Bool := q.head == q.tail
def peekFirst (q : V5SendQueue π) : Option (Frame π) := if q.isEmpty then none else some (q.get q.head)
def peekLast (q : V5SendQueue π) : Option (Frame π) := if q.isEmpty then none else some (q.get (q.tail - 1))

def append (frame : Frame π) (q : V5SendQueue π) : V5SendQueue π := { q.set q.tail frame with tail := q.tail + 1 }

def add (sequence : Nat) (payload : π) (now : Int) (q : V5SendQueue π) : Option (V5SendQueue π) :=
  if q.size = q.capacity then none else some (q.append ⟨sequence, payload, now, 0, 0⟩)

def removeFirst (q : V5SendQueue π) : V5SendQueue π :=
  let head := if q.isEmpty then q.head else q.head + 1
  { q with head := head, immediate := max head q.immediate, repair := max head q.repair }

def clear (q : V5SendQueue π) : V5SendQueue π :=
  { q with head := 0, tail := 0, immediate := 0, repair := 0, lastWasRepair := false }

def markSent (frame : Frame π) (now : Int) : Frame π :=
  { frame with
    lastSentNanos := now
    sendCount := if frame.sendCount ≤ IMMEDIATE_COPIES then frame.sendCount + 1 else frame.sendCount }

/-- The queue once the frame at `i` was marked as sent. -/
def marked (now : Int) (i repair : Nat) (lastWasRepair : Bool) (q : V5SendQueue π) : V5SendQueue π :=
  { q.set i (markSent (q.get i) now) with repair := repair, lastWasRepair := lastWasRepair }

/-- The loop that moves `immediate` past the frames sent twice; it stops after `fuel` frames. -/
def skipSent (q : V5SendQueue π) : (fuel immediate : Nat) → Nat
  | 0, immediate => immediate
  | fuel + 1, immediate =>
    if (q.get immediate).sendCount ≥ IMMEDIATE_COPIES then q.skipSent fuel (immediate + 1) else immediate

/-- The cursors as `next` moves them before it chooses. -/
def settle (window : Nat) (q : V5SendQueue π) : V5SendQueue π :=
  let immediate := q.skipSent (min q.tail (q.head + window) - q.immediate) q.immediate
  { q with
    immediate := immediate
    repair := if q.repair ≥ immediate ∨ q.repair < q.head then q.head else q.repair }

/-- The frame to send, marked as sent. Between two immediate pairs one due repair goes first. -/
def next (now : Int) (window : Nat) (q : V5SendQueue π) : Option (Frame π) × V5SendQueue π :=
  let q := q.settle window
  let fresh := q.immediate < min q.tail (q.head + window)
  if q.repair < q.immediate ∧ now - (q.get q.repair).lastSentNanos ≥ REPAIR_NANOS ∧
      (¬ fresh ∨ (q.lastWasRepair = false ∧ (q.get q.immediate).sendCount = 0)) then
    (some (markSent (q.get q.repair) now), q.marked now q.repair (q.repair + 1) true)
  else if fresh then
    (some (markSent (q.get q.immediate) now), q.marked now q.immediate q.repair false)
  else (none, q)

def nanosUntilSend (now : Int) (window : Nat) (q : V5SendQueue π) : Option Int :=
  if q.isEmpty then none
  else if q.immediate < min q.tail (q.head + window) ∧ (q.get q.immediate).sendCount < IMMEDIATE_COPIES then some 0
  else
    let nextRepair := if q.repair ≥ q.immediate ∨ q.repair < q.head then q.head else q.repair
    some (max 0 (REPAIR_NANOS - (now - (q.get nextRepair).lastSentNanos)))

/-! ## The ring -/

theorem slot_ne {capacity i j : Nat} (hij : i < j) (hnear : j < i + capacity) : i % capacity ≠ j % capacity := by
  intro h
  have hzero : (j - i) % capacity = 0 := Nat.sub_mod_eq_zero_of_mod_eq h.symm
  have hlt : j - i < capacity := by omega
  rw [Nat.mod_eq_of_lt hlt] at hzero
  omega

theorem get_set_self (q : V5SendQueue π) (i : Nat) (frame : Frame π) : (q.set i frame).get i = frame := by
  simp [get, set]

theorem get_set_ne (q : V5SendQueue π) {i j : Nat} (frame : Frame π) (hne : i ≠ j) (hij : j < i + q.capacity)
    (hji : i < j + q.capacity) : (q.set i frame).get j = q.get j := by
  have hslot : j % q.capacity ≠ i % q.capacity := by
    rcases Nat.lt_or_gt_of_ne hne with hlt | hgt
    · exact (slot_ne hlt hij).symm
    · exact slot_ne hgt hji
  simp only [get, set, Function.update_of_ne hslot]

/-! ## Invariant -/

/-- The queue while `window` does not change: a frame's index is its sequence, and only the frame at
`immediate` may be between its two copies. -/
structure Inv (window : Nat) (q : V5SendQueue π) : Prop where
  head_le : q.head ≤ q.immediate
  immediate_le : q.immediate ≤ q.tail
  window_le : q.immediate ≤ q.head + window
  size_le : q.tail ≤ q.head + q.capacity
  sequences : ∀ i, q.head ≤ i → i < q.tail → (q.get i).sequence = i
  unsent : ∀ i, q.immediate < i → i < q.tail → (q.get i).sendCount = 0

/-- How many frames were sent at least once. -/
def firsts (q : V5SendQueue π) : Nat :=
  if q.immediate < q.tail ∧ 0 < (q.get q.immediate).sendCount then q.immediate + 1 else q.immediate

theorem inv_clear (window : Nat) (q : V5SendQueue π) : Inv window q.clear where
  head_le := Nat.le_refl _
  immediate_le := Nat.le_refl _
  window_le := Nat.zero_le _
  size_le := Nat.zero_le _
  sequences i _ hi := absurd hi (Nat.not_lt_zero i)
  unsent i _ hi := absurd hi (Nat.not_lt_zero i)

theorem get_append_self (q : V5SendQueue π) (frame : Frame π) : (q.append frame).get q.tail = frame :=
  get_set_self q q.tail frame

theorem get_append {q : V5SendQueue π} (hroom : q.tail < q.head + q.capacity)
    (frame : Frame π) {i : Nat} (hi : q.head ≤ i) (hlt : i < q.tail) : (q.append frame).get i = q.get i :=
  get_set_ne q frame (by omega) (by omega) (by omega)

/-- Adding the next sequence number. -/
theorem add_spec {window : Nat} {q q' : V5SendQueue π} (h : Inv window q) {payload : π} {now : Int}
    (hadd : q.add q.tail payload now = some q') :
    Inv window q' ∧ q' = q.append ⟨q.tail, payload, now, 0, 0⟩ ∧ q'.firsts = q.firsts ∧
    ∀ i, q.head ≤ i → i < q.tail → q'.get i = q.get i := by
  have hhead := h.head_le
  have himm := h.immediate_le
  have hsize := h.size_le
  unfold add at hadd
  split at hadd
  · cases hadd
  rename_i hfull
  obtain rfl := (Option.some.inj hadd).symm
  have hroom : q.tail < q.head + q.capacity := by
    simp only [size] at hfull
    omega
  have hself := get_append_self q ⟨q.tail, payload, now, 0, 0⟩
  have hkeep : ∀ i, q.head ≤ i → i < q.tail → (q.append ⟨q.tail, payload, now, 0, 0⟩).get i = q.get i :=
    fun i hi hlt => get_append hroom _ hi hlt
  have htail : (q.append ⟨q.tail, payload, now, 0, 0⟩).tail = q.tail + 1 := rfl
  refine ⟨⟨hhead, Nat.le_succ_of_le himm, h.window_le, hroom, ?_, ?_⟩, rfl, ?_, hkeep⟩
  · intro i hi hlt
    rcases Nat.lt_succ_iff_lt_or_eq.1 hlt with hlt | rfl
    · rw [hkeep i hi hlt]
      exact h.sequences i hi hlt
    · rw [hself]
  · intro i hi hlt
    rcases Nat.lt_succ_iff_lt_or_eq.1 hlt with hlt | rfl
    · rw [hkeep i (hhead.trans (Nat.le_of_lt hi)) hlt]
      exact h.unsent i hi hlt
    · rw [hself]
  · unfold firsts
    change (if q.immediate < q.tail + 1 ∧ 0 < ((q.append ⟨q.tail, payload, now, 0, 0⟩).get q.immediate).sendCount
      then q.immediate + 1 else q.immediate) = _
    rcases Nat.lt_or_eq_of_le himm with hlt | heq
    · rw [hkeep q.immediate hhead hlt]
      simp only [hlt, Nat.lt_succ_of_lt hlt]
    · rw [heq, hself]
      simp

theorem add_some {q : V5SendQueue π} (h : q.size < q.capacity) (sequence : Nat) (payload : π) (now : Int) :
    q.add sequence payload now = some (q.append ⟨sequence, payload, now, 0, 0⟩) := by
  rw [add, if_neg (Nat.ne_of_lt h)]

theorem firsts_le {window : Nat} {q : V5SendQueue π} (h : Inv window q) : q.immediate ≤ q.firsts ∧ q.firsts ≤ q.tail := by
  have himm := h.immediate_le
  unfold firsts
  split <;> omega

/-- The cursors may move as long as no unsent frame is left behind them. -/
theorem Inv.advance {window : Nat} {q : V5SendQueue π} (h : Inv window q) {head immediate : Nat} (repair : Nat)
    (lastWasRepair : Bool) (hh : q.head ≤ head) (hi : q.immediate ≤ immediate) (hhi : head ≤ immediate)
    (hf : immediate ≤ q.firsts) (hw : immediate ≤ head + window) (hsent : immediate = q.immediate ∨ immediate = q.firsts) :
    Inv window { q with head := head, immediate := immediate, repair := repair, lastWasRepair := lastWasRepair } ∧
    ({ q with head := head, immediate := immediate, repair := repair, lastWasRepair := lastWasRepair } : V5SendQueue π).firsts =
      q.firsts := by
  have hle := (firsts_le h).2
  have hsize := h.size_le
  refine ⟨⟨hhi, hf.trans hle, hw, ?_, ?_, ?_⟩, ?_⟩
  · dsimp only
    omega
  · exact fun i h1 h2 => h.sequences i (hh.trans h1) h2
  · exact fun i h1 h2 => h.unsent i (Nat.lt_of_le_of_lt hi h1) h2
  · rcases hsent with rfl | rfl
    · rfl
    · -- The frame after the last one sent was never sent.
      change (if q.firsts < q.tail ∧ 0 < (q.get q.firsts).sendCount then q.firsts + 1 else q.firsts) = q.firsts
      rw [if_neg]
      rintro ⟨hlt, hpos⟩
      rcases Nat.lt_or_eq_of_le (firsts_le h).1 with hgt | heq
      · rw [h.unsent _ hgt hlt] at hpos
        exact absurd hpos (Nat.lt_irrefl 0)
      · have hcontra : q.firsts = q.immediate + 1 := by
          unfold firsts
          rw [if_pos]
          rw [heq]
          exact ⟨hlt, hpos⟩
        omega

/-- Retiring the first frame, once it was sent. -/
theorem removeFirst_spec {window : Nat} {q : V5SendQueue π} (h : Inv window q) (hsent : q.head < q.firsts) :
    Inv window q.removeFirst ∧ q.removeFirst.head = q.head + 1 ∧ q.removeFirst.tail = q.tail ∧
    q.removeFirst.firsts = q.firsts ∧ q.removeFirst.get = q.get := by
  have hhead := h.head_le
  have hw := h.window_le
  obtain ⟨hlow, hhigh⟩ := firsts_le h
  have hempty : q.isEmpty = false := by
    simp only [isEmpty, beq_eq_false_iff_ne]
    omega
  have heq : q.removeFirst =
      { q with head := q.head + 1, immediate := max (q.head + 1) q.immediate, repair := max (q.head + 1) q.repair } := by
    simp [removeFirst, hempty]
  have hcases : max (q.head + 1) q.immediate = q.immediate ∨ max (q.head + 1) q.immediate = q.firsts := by
    rcases Nat.lt_or_eq_of_le hhead with hlt | he
    · left
      omega
    · right
      unfold firsts at hsent ⊢
      split at hsent <;> split <;> omega
  obtain ⟨hinv, hfirsts⟩ := h.advance (max (q.head + 1) q.repair) q.lastWasRepair (Nat.le_succ q.head)
    (Nat.le_max_right (q.head + 1) q.immediate) (Nat.le_max_left _ _) (by omega) (by omega) hcases
  rw [heq]
  exact ⟨hinv, rfl, rfl, hfirsts, rfl⟩

/-- Above `immediate` nothing was sent, so the loop moves by one frame at most. -/
theorem skipSent_spec (window : Nat) {q : V5SendQueue π}
    (hunsent : ∀ i, q.immediate < i → i < q.tail → (q.get i).sendCount = 0) :
    q.skipSent (min q.tail (q.head + window) - q.immediate) q.immediate =
      if q.immediate < min q.tail (q.head + window) ∧ IMMEDIATE_COPIES ≤ (q.get q.immediate).sendCount then q.immediate + 1
      else q.immediate := by
  rcases hfuel : min q.tail (q.head + window) - q.immediate with _ | fuel
  · rw [skipSent, if_neg (by omega)]
  · rw [skipSent]
    split
    · rename_i hcopies
      rw [if_pos ⟨by omega, hcopies⟩]
      rcases fuel with _ | fuel
      · rfl
      · have hzero := hunsent (q.immediate + 1) (Nat.lt_succ_self _) (by omega)
        rw [skipSent, hzero, if_neg (by decide)]
    · rename_i hcopies
      rw [if_neg (fun hc => hcopies hc.2)]

/-- Settling moves the cursors past no unsent frame. -/
theorem settle_spec {window : Nat} {q : V5SendQueue π} (h : Inv window q) :
    Inv window (q.settle window) ∧ (q.settle window).firsts = q.firsts ∧ (q.settle window).head = q.head ∧
    (q.settle window).tail = q.tail ∧ (q.settle window).get = q.get ∧ q.immediate ≤ (q.settle window).immediate := by
  have hw := h.window_le
  have hhead := h.head_le
  obtain ⟨hlow, hhigh⟩ := firsts_le h
  have hstep := skipSent_spec window h.unsent
  have hcases : q.skipSent (min q.tail (q.head + window) - q.immediate) q.immediate = q.immediate ∨
      q.skipSent (min q.tail (q.head + window) - q.immediate) q.immediate = q.firsts := by
    rw [hstep]
    split
    · rename_i hc
      right
      unfold firsts
      rw [if_pos ⟨by omega, Nat.lt_of_lt_of_le (by decide) hc.2⟩]
    · exact .inl rfl
  have hle : q.skipSent (min q.tail (q.head + window) - q.immediate) q.immediate ≤ q.head + window := by
    rw [hstep]
    split <;> omega
  have hge : q.immediate ≤ q.skipSent (min q.tail (q.head + window) - q.immediate) q.immediate := by
    rw [hstep]
    split <;> omega
  obtain ⟨hinv, hfirsts⟩ := h.advance
    (if q.repair ≥ q.skipSent (min q.tail (q.head + window) - q.immediate) q.immediate ∨ q.repair < q.head then q.head else q.repair)
    q.lastWasRepair (Nat.le_refl q.head) hge (hhead.trans hge) (by rcases hcases with he | he <;> omega) hle hcases
  exact ⟨hinv, hfirsts, rfl, rfl, rfl, hge⟩

theorem get_marked_self (now : Int) (i repair : Nat) (lastWasRepair : Bool) (q : V5SendQueue π) :
    (q.marked now i repair lastWasRepair).get i = markSent (q.get i) now :=
  get_set_self q i (markSent (q.get i) now)

theorem get_marked_ne {q : V5SendQueue π} (hsize : q.tail ≤ q.head + q.capacity) (now : Int) {i j : Nat} (repair : Nat)
    (lastWasRepair : Bool) (hi : q.head ≤ i) (hlt : i < q.tail) (hj : q.head ≤ j) (hjlt : j < q.tail) (hne : i ≠ j) :
    (q.marked now i repair lastWasRepair).get j = q.get j :=
  get_set_ne q _ hne (by omega) (by omega)

theorem markSent_pos (frame : Frame π) (now : Int) : 0 < (markSent frame now).sendCount := by
  unfold markSent
  dsimp only
  split
  · omega
  · rename_i hmany
    simp only [IMMEDIATE_COPIES] at hmany
    omega

/-- Marking a live frame at or below `immediate` as sent. -/
theorem marked_spec {window : Nat} {q : V5SendQueue π} (h : Inv window q) (now : Int) {i : Nat} (hi : q.head ≤ i)
    (hlt : i < q.tail) (hle : i ≤ q.immediate) (repair : Nat) (lastWasRepair : Bool) :
    Inv window (q.marked now i repair lastWasRepair) ∧ i < (q.marked now i repair lastWasRepair).firsts ∧
    q.firsts ≤ (q.marked now i repair lastWasRepair).firsts ∧ (q.marked now i repair lastWasRepair).firsts ≤ q.firsts + 1 ∧
    ∀ j, q.head ≤ j → j < q.tail → ((q.marked now i repair lastWasRepair).get j).payload = (q.get j).payload := by
  have hself := get_marked_self now i repair lastWasRepair q
  have hother : ∀ j, q.head ≤ j → j < q.tail → i ≠ j → (q.marked now i repair lastWasRepair).get j = q.get j :=
    fun j hj hjlt hne => get_marked_ne h.size_le now repair lastWasRepair hi hlt hj hjlt hne
  have hfirsts : i < (q.marked now i repair lastWasRepair).firsts ∧ q.firsts ≤ (q.marked now i repair lastWasRepair).firsts ∧
      (q.marked now i repair lastWasRepair).firsts ≤ q.firsts + 1 := by
    have hdef : (q.marked now i repair lastWasRepair).firsts =
        if q.immediate < q.tail ∧ 0 < ((q.marked now i repair lastWasRepair).get q.immediate).sendCount then q.immediate + 1
        else q.immediate := rfl
    rw [hdef]
    rcases Nat.lt_or_eq_of_le hle with hbelow | rfl
    · have hsame : (q.marked now i repair lastWasRepair).get q.immediate = q.get q.immediate ∨ q.immediate = q.tail := by
        rcases Nat.lt_or_eq_of_le h.immediate_le with hin | hout
        · exact .inl (hother _ h.head_le hin (Nat.ne_of_lt hbelow))
        · exact .inr hout
      unfold firsts
      rcases hsame with hsame | hout
      · rw [hsame]
        split <;> omega
      · rw [if_neg (by omega), if_neg (by omega)]
        omega
    · rw [hself, if_pos ⟨hlt, markSent_pos _ now⟩]
      unfold firsts
      split <;> omega
  refine ⟨⟨h.head_le, h.immediate_le, h.window_le, h.size_le, ?_, ?_⟩, hfirsts.1, hfirsts.2.1, hfirsts.2.2, ?_⟩
  · intro j hj hjlt
    by_cases he : i = j
    · subst he
      rw [hself]
      exact h.sequences i hj hjlt
    · rw [hother j hj hjlt he]
      exact h.sequences j hj hjlt
  · intro j hj hjlt
    have hne : i ≠ j := Nat.ne_of_lt (Nat.lt_of_le_of_lt hle hj)
    rw [hother j (h.head_le.trans (Nat.le_of_lt hj)) hjlt hne]
    exact h.unsent j hj hjlt
  · intro j hj hjlt
    by_cases he : i = j
    · subst he
      rw [hself]
      rfl
    · rw [hother j hj hjlt he]

/-- What a call does once the cursors are settled: it sends a frame of the window, or nothing. -/
theorem next_cases {window : Nat} {q : V5SendQueue π} (h : Inv window q) (now : Int) :
    q.next now window = (none, q.settle window) ∨
    ∃ i repair lastWasRepair, q.head ≤ i ∧ i < q.tail ∧ i < q.head + window ∧ i ≤ (q.settle window).immediate ∧
      q.next now window =
        (some (markSent ((q.settle window).get i) now), (q.settle window).marked now i repair lastWasRepair) := by
  obtain ⟨hinv, -, hhead, htail, -, -⟩ := settle_spec h
  have hle_tail := hinv.immediate_le
  have hle_window := hinv.window_le
  have hle_head := hinv.head_le
  rw [htail] at hle_tail
  rw [hhead] at hle_window hle_head
  unfold next
  dsimp only
  split
  · rename_i hrepair
    have hback : q.head ≤ (q.settle window).repair := by
      simp only [settle]
      split <;> omega
    exact .inr ⟨(q.settle window).repair, _, true, hback, by omega, by omega, Nat.le_of_lt hrepair.1, rfl⟩
  split
  · rename_i hfresh
    rw [htail, hhead] at hfresh
    exact .inr ⟨(q.settle window).immediate, _, false, hle_head, by omega, by omega, Nat.le_refl _, rfl⟩
  · exact .inl rfl

theorem next_capacity {window : Nat} {q : V5SendQueue π} (h : Inv window q) (now : Int) :
    (q.next now window).2.capacity = q.capacity := by
  rcases next_cases h now with hnone | ⟨i, repair, lastWasRepair, -, -, -, -, hsent⟩
  · rw [hnone]
    rfl
  · rw [hsent]
    rfl

/-- What a call selects: a frame of the window, as it was queued; the others keep what they hold. -/
theorem next_spec {window : Nat} {q : V5SendQueue π} (h : Inv window q) (now : Int) :
    Inv window (q.next now window).2 ∧ (q.next now window).2.head = q.head ∧ (q.next now window).2.tail = q.tail ∧
    q.firsts ≤ (q.next now window).2.firsts ∧
    (∀ j, q.head ≤ j → j < q.tail → ((q.next now window).2.get j).payload = (q.get j).payload) ∧
    ((q.next now window).1 = none → (q.next now window).2.firsts = q.firsts) ∧
    ∀ frame, (q.next now window).1 = some frame →
      q.head ≤ frame.sequence ∧ frame.sequence < q.tail ∧ frame.sequence < q.head + window ∧
      frame.payload = (q.get frame.sequence).payload ∧ frame.sequence < (q.next now window).2.firsts ∧
      (q.next now window).2.firsts ≤ q.firsts + 1 := by
  obtain ⟨hinv, hfirsts, hhead, htail, hget, -⟩ := settle_spec h
  rcases next_cases h now with hnone | ⟨i, repair, lastWasRepair, hi, hlt, hwin, hle, hsent⟩
  · rw [hnone]
    refine ⟨hinv, hhead, htail, Nat.le_of_eq hfirsts.symm, fun j _ _ => by rw [hget], fun _ => hfirsts, ?_⟩
    intro frame hframe
    cases hframe
  · obtain ⟨hmarked, hifirst, hge, hup, hpayload⟩ :=
      marked_spec hinv now (hhead ▸ hi) (htail ▸ hlt) hle repair lastWasRepair
    rw [hfirsts] at hge hup
    rw [hhead, htail, hget] at hpayload
    rw [hsent]
    refine ⟨hmarked, hhead, htail, hge, hpayload, fun h => absurd h (by simp), ?_⟩
    intro frame hframe
    obtain rfl := Option.some.inj hframe
    have hseq : (markSent ((q.settle window).get i) now).sequence = i := by
      rw [hget]
      exact h.sequences i hi hlt
    rw [hseq]
    refine ⟨hi, hlt, hwin, ?_, hifirst, hup⟩
    rw [hget]
    rfl

/-- Where nothing retained was sent yet, the oldest frame goes out. -/
theorem next_sends {window : Nat} {q : V5SendQueue π} (h : Inv window q) (hfirsts : q.firsts = q.head) (hlt : q.head < q.tail)
    (hwindow : 0 < window) (now : Int) :
    ∃ frame q', q.next now window = (some frame, q') ∧ frame.sequence = q.head ∧ frame.payload = (q.get q.head).payload ∧
      Inv window q' ∧ q'.firsts = q.head + 1 ∧ q'.head = q.head ∧ q'.tail = q.tail ∧ q'.capacity = q.capacity := by
  obtain ⟨hs, hsfirsts, hhead, htail, hget, -⟩ := settle_spec h
  have hcapacity := next_capacity h now
  obtain ⟨hinv, hhead', htail', -, -, -, hselected⟩ := next_spec h now
  rcases next_cases h now with hnone | ⟨i, repair, lastWasRepair, -, -, -, -, hsent⟩
  · -- The frame at `immediate` is the oldest one, and it is in the window.
    have himm : (q.settle window).immediate = q.head := by
      have hle := (firsts_le hs).1
      have hge := hs.head_le
      omega
    have hnext := congrArg Prod.fst hnone
    unfold next at hnext
    dsimp only at hnext
    rw [himm, htail, hhead, if_neg (by have := hs.head_le; rw [settle] at this; simp only [settle]; split <;> omega)] at hnext
    rw [if_pos (by omega)] at hnext
    cases hnext
  · rw [hsent] at hcapacity hinv hhead' htail' hselected
    obtain ⟨hlow, hlt', -, hpayload, hfirst, hup⟩ := hselected _ rfl
    have hsequence : (markSent ((q.settle window).get i) now).sequence = q.head := by
      rw [hfirsts] at hup
      omega
    rw [hsequence] at hpayload hfirst
    rw [hfirsts] at hup
    exact ⟨_, _, hsent, hsequence, hpayload, hinv, Nat.le_antisymm hup hfirst, hhead', htail', hcapacity⟩

end V5SendQueue

end Trackpad
