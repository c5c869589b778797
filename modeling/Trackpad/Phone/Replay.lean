import Trackpad.Replay
/-!
# The phone's replay window

`V5Protocol.ReplayWindow` is the same window in Java: its longs are signed, so that it compares with
`compareUnsigned`, its arithmetic wraps, and its indices are truncated to `int`. It simulates the
host's window, and both decide by the set of committed numbers alone.
-/

namespace Trackpad.V5Protocol

def BITS : BitVec 64 := 1024

structure ReplayWindow where
  words : Fin REPLAY_WINDOW_WORDS → BitVec 64
  initialized : Bool
  highest : BitVec 64

/-- `(int) value` -/
def int (value : BitVec 64) : Int := (value.setWidth 32).toInt

/-- `1L << (distance % Long.SIZE)`, of which Java reads the low six bits. -/
def mask (distance : Int) : BitVec 64 := 1#64 <<< (distance.tmod 64 % 64).toNat

namespace ReplayWindow

def new : ReplayWindow := ⟨fun _ => 0, false, 0⟩

def wouldAccept (packetNumber : BitVec 64) (w : ReplayWindow) : Bool :=
  if !w.initialized || w.highest.ult packetNumber then true
  else
    let distance := w.highest - packetNumber
    if BITS.ule distance then false
    else
      let offset := int distance
      Trackpad.ReplayWindow.word w.words (offset.tdiv 64).toNat &&& mask offset == 0

/-- What the loop of `shiftOlder` writes to `words[destination]`. -/
def shifted (wordShift bitShift destination : Nat) (words : Fin REPLAY_WINDOW_WORDS → BitVec 64) : BitVec 64 :=
  if destination ≥ wordShift then
    let value := Trackpad.ReplayWindow.word words (destination - wordShift) <<< bitShift
    if bitShift ≠ 0 ∧ destination > wordShift then
      value ||| (Trackpad.ReplayWindow.word words (destination - wordShift - 1) >>> (64 - bitShift))
    else value
  else 0

/-- The loop, from `destination - 1` down to 0. -/
def shiftLoop (wordShift bitShift : Nat) :
    (destination : Nat) → (Fin REPLAY_WINDOW_WORDS → BitVec 64) → Fin REPLAY_WINDOW_WORDS → BitVec 64
  | 0, words => words
  | destination + 1, words =>
    shiftLoop wordShift bitShift destination fun i =>
      if i.val = destination then shifted wordShift bitShift destination words else words i

def shiftOlder (distance : Nat) (words : Fin REPLAY_WINDOW_WORDS → BitVec 64) : Fin REPLAY_WINDOW_WORDS → BitVec 64 :=
  shiftLoop (distance / 64) (distance % 64) REPLAY_WINDOW_WORDS words

/-- `none` where the index is out of bounds, which throws. -/
def commit (packetNumber : BitVec 64) (w : ReplayWindow) : Option ReplayWindow :=
  if !w.initialized then
    some ⟨fun i => if i.val = 0 then 1 else w.words i, true, packetNumber⟩
  else if w.highest.ult packetNumber then
    let unsignedDistance := packetNumber - w.highest
    let words := if BITS.ule unsignedDistance then fun _ => 0 else shiftOlder (int unsignedDistance).toNat w.words
    some ⟨Trackpad.ReplayWindow.set words 0 1, w.initialized, packetNumber⟩
  else
    let distance := int (w.highest - packetNumber)
    let index := distance.tdiv 64
    if 0 ≤ index ∧ index < REPLAY_WINDOW_WORDS then
      some { w with words := Trackpad.ReplayWindow.set w.words index.toNat (mask distance) }
    else none

/-! ## The loop shifts in place -/

theorem shifted_congr {wordShift bitShift destination : Nat} {words words' : Fin REPLAY_WINDOW_WORDS → BitVec 64}
    (h : ∀ i, i ≤ destination → Trackpad.ReplayWindow.word words i = Trackpad.ReplayWindow.word words' i) :
    shifted wordShift bitShift destination words = shifted wordShift bitShift destination words' := by
  unfold shifted
  rw [h _ (Nat.sub_le _ _), h _ ((Nat.sub_le _ _).trans (Nat.sub_le _ _))]

/-- A word reads only words the loop has not reached. -/
theorem shiftLoop_spec (wordShift bitShift : Nat) {destination : Nat} (hd : destination ≤ REPLAY_WINDOW_WORDS)
    (words : Fin REPLAY_WINDOW_WORDS → BitVec 64) (i : Fin REPLAY_WINDOW_WORDS) :
    shiftLoop wordShift bitShift destination words i =
      if i.val < destination then shifted wordShift bitShift i words else words i := by
  induction destination generalizing words with
  | zero => simp [shiftLoop]
  | succ destination ih =>
    rw [shiftLoop, ih (Nat.le_of_succ_le hd)]
    rcases Nat.lt_trichotomy i.val destination with hlt | heq | hgt
    · rw [if_pos hlt, if_pos (by omega)]
      apply shifted_congr
      intro j hj
      have hne : j ≠ destination := by omega
      simp only [Trackpad.ReplayWindow.word, hne, if_false]
    · rw [if_neg (by omega), if_pos heq, if_pos (by omega), heq]
    · rw [if_neg (by omega), if_neg (by omega), if_neg (by omega)]

theorem shiftOlder_eq {distance : Nat} (h : distance < REPLAY_WINDOW_BITS) (words : Fin REPLAY_WINDOW_WORDS → BitVec 64) :
    shiftOlder distance words = Trackpad.ReplayWindow.shift words distance := by
  funext i
  rw [shiftOlder, shiftLoop_spec _ _ (Nat.le_refl _), if_pos i.isLt, Trackpad.ReplayWindow.shift, if_neg (by omega)]
  rfl

/-! ## Longs as packet numbers -/

theorem ult_iff (a b : BitVec 64) : a.ult b = true ↔ a.toNat < b.toNat := by
  simp [BitVec.ult]

theorem distance_toNat {a b : BitVec 64} (h : b.toNat ≤ a.toNat) : (a - b).toNat = a.toNat - b.toNat :=
  BitVec.toNat_sub_of_le (by simpa [BitVec.le_def] using h)

theorem bits_ule (distance : BitVec 64) : BITS.ule distance = decide (REPLAY_WINDOW_BITS ≤ distance.toNat) := by
  rw [Bool.eq_iff_iff, decide_eq_true_iff]
  simp [BitVec.ule, BITS, REPLAY_WINDOW_BITS]

/-- A distance within the window survives the cast to `int`. -/
theorem int_small {distance : BitVec 64} (h : distance.toNat < REPLAY_WINDOW_BITS) : int distance = distance.toNat := by
  have hlt : distance.toNat < 1024 := h
  have hmod : (distance.setWidth 32).toNat = distance.toNat := by
    rw [BitVec.toNat_setWidth]
    omega
  rw [int, BitVec.toInt_eq_toNat_of_lt (by omega), hmod]

theorem mask_small (distance : Nat) : mask distance = 1#64 <<< (distance % 64) := by
  have h : ((distance : Int).tmod 64 % 64).toNat = distance % 64 := by
    rw [Int.tmod_eq_emod_of_nonneg (Int.natCast_nonneg _)]
    omega
  rw [mask, h]

theorem index_small (distance : Nat) : (distance : Int).tdiv 64 = (distance / 64 : Nat) := by
  rw [Int.tdiv_eq_ediv_of_nonneg (Int.natCast_nonneg _)]
  rfl

/-! ## Simulation -/

/-- The phone's window in the state of the host's. -/
structure Same (j : ReplayWindow) (w : Trackpad.ReplayWindow) : Prop where
  highest : w.highest = if j.initialized then some j.highest.toNat else none
  words : j.words = w.words

theorem same_new : Same new .default := ⟨rfl, rfl⟩

theorem wouldAccept_same {j : ReplayWindow} {w : Trackpad.ReplayWindow} (h : Same j w) (n : BitVec 64) :
    j.wouldAccept n = w.would_accept n.toNat := by
  have hhighest := h.highest
  unfold wouldAccept Trackpad.ReplayWindow.would_accept
  rcases hi : j.initialized with _ | _
  · rw [hi] at hhighest
    simp [hhighest]
  · simp only [hi, if_true] at hhighest
    simp only [hhighest, Bool.not_true, Bool.false_or, ult_iff, gt_iff_lt]
    split
    · rfl
    · rename_i hle
      have hd := distance_toNat (a := j.highest) (b := n) (by omega)
      simp only [bits_ule, hd, decide_eq_true_eq]
      split
      · rfl
      · rename_i hnear
        have hint := @int_small (j.highest - n) (by omega)
        rw [hint, hd, mask_small, index_small, h.words]
        rfl

theorem commit_same {j : ReplayWindow} {w : Trackpad.ReplayWindow} (h : Same j w) {n : BitVec 64}
    (haccept : j.wouldAccept n = true) : ∃ j', j.commit n = some j' ∧ Same j' (w.commit n.toNat) := by
  have hhighest := h.highest
  unfold commit Trackpad.ReplayWindow.commit
  rcases hi : j.initialized with _ | _
  · rw [hi] at hhighest
    simp only [hhighest, h.words]
    exact ⟨_, rfl, rfl, rfl⟩
  · simp only [hi, if_true] at hhighest
    simp only [hhighest, Bool.not_true, Bool.false_eq_true, if_false, ult_iff, gt_iff_lt]
    split
    · rename_i hgt
      have hd := distance_toNat (a := n) (b := j.highest) (by omega)
      refine ⟨_, rfl, rfl, ?_⟩
      simp only [bits_ule, hd, decide_eq_true_eq]
      congr 1
      split
      · rename_i hfar
        rw [Trackpad.ReplayWindow.shift, if_pos hfar]
      · rename_i hnear
        have hint := @int_small (n - j.highest) (by omega)
        rw [hint, hd, Int.toNat_natCast, shiftOlder_eq (by omega), h.words]
    · -- An accepted number behind the highest is within the window, so the index is in bounds.
      rename_i hle
      have hd := distance_toNat (a := j.highest) (b := n) (by omega)
      have hnear : j.highest.toNat - n.toNat < REPLAY_WINDOW_BITS := by
        rw [wouldAccept_same h, Trackpad.ReplayWindow.would_accept, hhighest] at haccept
        dsimp only at haccept
        rw [if_neg hle] at haccept
        split at haccept
        · cases haccept
        · omega
      have hint := @int_small (j.highest - n) (by omega)
      have hbound : (j.highest.toNat - n.toNat) / 64 < REPLAY_WINDOW_WORDS := by
        simp only [REPLAY_WINDOW_WORDS, REPLAY_WINDOW_BITS] at hnear ⊢
        omega
      rw [hint, hd, mask_small, index_small, if_pos ⟨by omega, by omega⟩, if_pos hnear, Int.toNat_natCast]
      refine ⟨_, rfl, ?_, ?_⟩
      · dsimp only
        rw [if_pos rfl]
      · rw [h.words]

end ReplayWindow

/-! ## Histories -/

/-- A record of a history: its packet number, and whether it authenticates. -/
abbrev Received := BitVec 64 × Bool

/-- The host's window after a record, and the numbers committed so far. -/
def hostReceives (s : Trackpad.ReplayWindow × List (BitVec 64)) (r : Received) : Trackpad.ReplayWindow × List (BitVec 64) :=
  if s.1.would_accept r.1.toNat && r.2 then (s.1.commit r.1.toNat, r.1 :: s.2) else s

/-- The phone's; `none` if a commit throws. -/
def phoneReceives (s : ReplayWindow × List (BitVec 64)) (r : Received) : Option (ReplayWindow × List (BitVec 64)) :=
  if s.1.wouldAccept r.1 && r.2 then (s.1.commit r.1).map fun w => (w, r.1 :: s.2) else some s

def numbers (committed : List (BitVec 64)) : Set Nat := {n | ∃ m ∈ committed, m.toNat = n}

theorem numbers_cons (n : BitVec 64) (committed : List (BitVec 64)) :
    numbers (n :: committed) = insert n.toNat (numbers committed) := by
  ext m
  simp only [numbers, List.mem_cons, exists_eq_or_imp, Set.mem_ofPred_eq, Set.mem_insert_iff]
  rw [eq_comm]

/-- The windows after a common history: in the same state, and remembering what was committed. -/
structure Agree (host : Trackpad.ReplayWindow × List (BitVec 64)) (phone : ReplayWindow × List (BitVec 64)) : Prop where
  same : phone.1.Same host.1
  committed : phone.2 = host.2
  remembers : host.1.Remembers (numbers host.2)

theorem receives_agree {host : Trackpad.ReplayWindow × List (BitVec 64)} {phone : ReplayWindow × List (BitVec 64)}
    (h : Agree host phone) (r : Received) : ∃ phone', phoneReceives phone r = some phone' ∧ Agree (hostReceives host r) phone' := by
  have hdecide := ReplayWindow.wouldAccept_same h.same r.1
  unfold phoneReceives hostReceives
  rw [hdecide]
  split
  · rename_i hok
    rw [Bool.and_eq_true] at hok
    obtain ⟨w, hw, hsame⟩ := ReplayWindow.commit_same h.same (hdecide.trans hok.1)
    refine ⟨(w, r.1 :: phone.2), by rw [hw]; rfl, hsame, ?_, ?_⟩
    · rw [h.committed]
    · dsimp only
      rw [numbers_cons]
      exact Trackpad.ReplayWindow.commit_remembers h.remembers r.1.toNat
  · exact ⟨phone, rfl, h⟩

theorem history_agrees (history : List Received) {host : Trackpad.ReplayWindow × List (BitVec 64)}
    {phone : ReplayWindow × List (BitVec 64)} (h : Agree host phone) :
    ∃ phone', history.foldlM phoneReceives phone = some phone' ∧ Agree (history.foldl hostReceives host) phone' := by
  induction history generalizing host phone with
  | nil => exact ⟨phone, rfl, h⟩
  | cons r history ih =>
    obtain ⟨phone₁, hstep, hagree⟩ := receives_agree h r
    obtain ⟨phone', hrun, hagree'⟩ := ih hagree
    refine ⟨phone', ?_, hagree'⟩
    rw [List.foldlM_cons, hstep]
    exact hrun

/-- On every history of packet numbers both windows accept exactly the numbers that were not
committed and lie above the highest committed number minus 1,024, and committing an accepted number
never fails. -/
theorem replay_windows_agree (history : List Received) :
    ∃ phone, history.foldlM phoneReceives (.new, []) = some phone ∧
      let host := history.foldl hostReceives (.default, [])
      phone.2 = host.2 ∧ ∀ n : BitVec 64,
        (host.1.would_accept n.toNat = true ↔ n ∉ host.2 ∧ ∀ m ∈ host.2, (m.toNat : Int) - 1024 < n.toNat) ∧
        (phone.1.wouldAccept n = true ↔ n ∉ host.2 ∧ ∀ m ∈ host.2, (m.toNat : Int) - 1024 < n.toNat) := by
  have hstart : Agree (.default, []) (.new, []) := by
    refine ⟨ReplayWindow.same_new, rfl, ?_⟩
    simpa [numbers] using Trackpad.ReplayWindow.remembers_default
  obtain ⟨phone, hrun, hagree⟩ := history_agrees history hstart
  refine ⟨phone, hrun, hagree.committed, fun n => ?_⟩
  have hfresh := Trackpad.ReplayWindow.would_accept_iff hagree.remembers n.toNat
  have hiff : Trackpad.ReplayWindow.Fresh (numbers (history.foldl hostReceives (.default, [])).2) n.toNat ↔
      n ∉ (history.foldl hostReceives (.default, [])).2 ∧
      ∀ m ∈ (history.foldl hostReceives (.default, [])).2, (m.toNat : Int) - 1024 < n.toNat := by
    unfold Trackpad.ReplayWindow.Fresh numbers
    simp only [Set.mem_ofPred_eq, forall_exists_index, and_imp, forall_apply_eq_imp_iff₂]
    apply and_congr
    · rw [not_iff_not]
      constructor
      · rintro ⟨m, hm, he⟩
        rwa [← BitVec.eq_of_toNat_eq he]
      · exact fun hn => ⟨n, hn, rfl⟩
    · apply forall₂_congr
      intro m _
      simp only [REPLAY_WINDOW_BITS]
      omega
  rw [ReplayWindow.wouldAccept_same hagree.same, hfresh]
  exact ⟨hiff, hiff⟩

end Trackpad.V5Protocol
