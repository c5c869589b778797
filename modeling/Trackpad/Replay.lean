import Mathlib
/-!
# The replay window

`ReplayWindow` remembers which of the last 1,024 packet numbers were opened, as a bitmap of 64-bit
words counted back from the highest. `Remembers` says what it stands for: the set of every packet
number committed so far.
-/

namespace Trackpad

def REPLAY_WINDOW_BITS : Nat := 1024

def REPLAY_WINDOW_WORDS : Nat := REPLAY_WINDOW_BITS / 64

structure ReplayWindow where
  highest : Option Nat
  words : Fin REPLAY_WINDOW_WORDS → BitVec 64

namespace ReplayWindow

def default : ReplayWindow := ⟨none, fun _ => 0⟩

/-- `words[index]`; the callers keep the index in range. -/
def word (words : Fin REPLAY_WINDOW_WORDS → BitVec 64) (index : Nat) : BitVec 64 :=
  if h : index < REPLAY_WINDOW_WORDS then words ⟨index, h⟩ else 0

def would_accept (w : ReplayWindow) (packet_number : Nat) : Bool :=
  match w.highest with
  | none => true
  | some highest =>
    if packet_number > highest then true
    else
      let distance := highest - packet_number
      if distance ≥ REPLAY_WINDOW_BITS then false
      else word w.words (distance / 64) &&& (1#64 <<< (distance % 64)) == 0

/-- The loop runs from the last word down and reads only words it has not reached, so every word is
made from the old ones. -/
def shift (words : Fin REPLAY_WINDOW_WORDS → BitVec 64) (bits : Nat) : Fin REPLAY_WINDOW_WORDS → BitVec 64 :=
  if bits ≥ REPLAY_WINDOW_BITS then fun _ => 0
  else
    let word_shift := bits / 64
    let bit_shift := bits % 64
    fun destination =>
      if destination.val ≥ word_shift then
        let value := word words (destination.val - word_shift) <<< bit_shift
        if bit_shift ≠ 0 ∧ destination.val > word_shift then
          value ||| (word words (destination.val - word_shift - 1) >>> (64 - bit_shift))
        else value
      else 0

/-- `words[index] |= mask`. -/
def set (words : Fin REPLAY_WINDOW_WORDS → BitVec 64) (index : Nat) (mask : BitVec 64) :
    Fin REPLAY_WINDOW_WORDS → BitVec 64 :=
  fun i => if i.val = index then words i ||| mask else words i

def commit (w : ReplayWindow) (packet_number : Nat) : ReplayWindow :=
  match w.highest with
  | none => ⟨some packet_number, fun i => if i.val = 0 then 1 else w.words i⟩
  | some highest =>
    if packet_number > highest then
      ⟨some packet_number, set (shift w.words (packet_number - highest)) 0 1⟩
    else
      let distance := highest - packet_number
      if distance < REPLAY_WINDOW_BITS then
        { w with words := set w.words (distance / 64) (1#64 <<< (distance % 64)) }
      else w

/-! ## The bitmap -/

/-- The bit that stands for the packet `distance` behind the highest. -/
def bit (words : Fin REPLAY_WINDOW_WORDS → BitVec 64) (distance : Nat) : Bool :=
  (word words (distance / 64)).getLsbD (distance % 64)

theorem and_bit_eq_zero (x : BitVec 64) {k : Nat} (hk : k < 64) :
    (x &&& (1#64 <<< k) == 0) = !x.getLsbD k := by
  have h : x &&& (1#64 <<< k) = if x.getLsbD k then BitVec.twoPow 64 k else 0#64 := BitVec.and_twoPow x k
  rw [h]
  cases x.getLsbD k with
  | false => rfl
  | true =>
    have hne : BitVec.twoPow 64 k ≠ 0#64 := fun e => by
      have := congrArg (BitVec.getLsbD · k) e
      simp [hk] at this
    simpa using hne

/-- One word of a shifted bitmap, bit by bit. -/
theorem shifted_word_bit (word : Nat → BitVec 64) (bits distance : Nat) :
    (if distance / 64 ≥ bits / 64 then
        let value := word (distance / 64 - bits / 64) <<< (bits % 64)
        if bits % 64 ≠ 0 ∧ distance / 64 > bits / 64 then
          value ||| (word (distance / 64 - bits / 64 - 1) >>> (64 - bits % 64))
        else value
      else 0).getLsbD (distance % 64) =
      (decide (bits ≤ distance) && (word ((distance - bits) / 64)).getLsbD ((distance - bits) % 64)) := by
  have hlt : distance % 64 < 64 := Nat.mod_lt _ (by decide)
  have hlt' : bits % 64 < 64 := Nat.mod_lt _ (by decide)
  rcases Nat.lt_or_ge (distance / 64) (bits / 64) with hq | hq
  · have hgt : ¬ bits ≤ distance := by omega
    rw [if_neg (by omega)]
    simp [hgt]
  · rw [if_pos hq]
    dsimp only
    rcases Nat.lt_or_ge (distance % 64) (bits % 64) with hr | hr
    · -- The bit comes out of the word before.
      rcases Nat.eq_or_lt_of_le hq with he | hgt
      · have hbits : ¬ bits ≤ distance := by omega
        rw [if_neg (by omega)]
        simp [hr, hbits]
      · have hbits : bits ≤ distance := by omega
        have hword : (distance - bits) / 64 = distance / 64 - bits / 64 - 1 := by omega
        have hbit : (distance - bits) % 64 = 64 - bits % 64 + distance % 64 := by omega
        rw [if_pos ⟨by omega, hgt⟩, hword, hbit]
        simp [hr, hbits]
    · have hbits : bits ≤ distance := by omega
      have hword : (distance - bits) / 64 = distance / 64 - bits / 64 := by omega
      have hbit : (distance - bits) % 64 = distance % 64 - bits % 64 := by omega
      have hr' : ¬ distance % 64 < bits % 64 := by omega
      rw [hword, hbit]
      split
      · have hout : 64 ≤ 64 - bits % 64 + distance % 64 := by omega
        have hzero : (word (distance / 64 - bits / 64 - 1)).getLsbD (64 - bits % 64 + distance % 64) = false :=
          BitVec.getLsbD_of_ge _ _ hout
        simp only [BitVec.getLsbD_or, BitVec.getLsbD_shiftLeft, BitVec.getLsbD_ushiftRight, hzero, hlt, hr', hbits,
          decide_true, decide_false, Bool.not_false, Bool.true_and, Bool.or_false]
      · simp only [BitVec.getLsbD_shiftLeft, hlt, hr', hbits, decide_true, decide_false, Bool.not_false, Bool.true_and]

/-- Shifting the bitmap moves every packet further behind. -/
theorem bit_shift (words : Fin REPLAY_WINDOW_WORDS → BitVec 64) (bits : Nat) {distance : Nat}
    (h : distance < REPLAY_WINDOW_BITS) :
    bit (shift words bits) distance = (decide (bits ≤ distance) && bit words (distance - bits)) := by
  have hword : distance / 64 < REPLAY_WINDOW_WORDS := by
    simp only [REPLAY_WINDOW_WORDS, REPLAY_WINDOW_BITS] at h ⊢; omega
  unfold shift
  split
  · have hgt : ¬ bits ≤ distance := by omega
    simp [bit, word, hword, hgt]
  · rw [bit, word, dif_pos hword]
    exact shifted_word_bit (word words) bits distance

/-- Setting one bit. -/
theorem bit_set (words : Fin REPLAY_WINDOW_WORDS → BitVec 64) (at_ : Nat) {distance : Nat} (h : distance < REPLAY_WINDOW_BITS) :
    bit (set words (at_ / 64) (1#64 <<< (at_ % 64))) distance = (decide (distance = at_) || bit words distance) := by
  have hword : distance / 64 < REPLAY_WINDOW_WORDS := by
    simp only [REPLAY_WINDOW_WORDS, REPLAY_WINDOW_BITS] at h ⊢; omega
  have hlt : at_ % 64 < 64 := Nat.mod_lt _ (by decide)
  simp only [bit, word, hword, dif_pos, set]
  split
  · rename_i hw
    have hmask : (1#64 <<< (at_ % 64)).getLsbD (distance % 64) = decide (at_ % 64 = distance % 64) := by
      rw [← BitVec.twoPow_eq, BitVec.getLsbD_twoPow]; simp [hlt]
    rw [BitVec.getLsbD_or, hmask, Bool.or_comm]
    congr 1
    rw [decide_eq_decide]
    omega
  · rename_i hw
    have hne : distance ≠ at_ := fun e => hw (by rw [e])
    simp [hne]

/-! ## What the window remembers -/

/-- The window once the packets `committed` went through it: every bit says whether its packet did. -/
def Remembers (w : ReplayWindow) (committed : Set Nat) : Prop :=
  match w.highest with
  | none => committed = ∅ ∧ ∀ distance, distance < REPLAY_WINDOW_BITS → bit w.words distance = false
  | some highest => highest ∈ committed ∧ (∀ n ∈ committed, n ≤ highest) ∧
      ∀ distance, distance < REPLAY_WINDOW_BITS →
        (bit w.words distance = true ↔ distance ≤ highest ∧ highest - distance ∈ committed)

/-- What a window of 1,024 packets should accept: a number it has not seen, within reach of every one
it has. -/
def Fresh (committed : Set Nat) (n : Nat) : Prop := n ∉ committed ∧ ∀ m ∈ committed, m < n + REPLAY_WINDOW_BITS

theorem remembers_default : Remembers default ∅ :=
  ⟨rfl, fun _ _ => by simp [bit, word, default]⟩

theorem would_accept_iff {w : ReplayWindow} {committed : Set Nat} (h : Remembers w committed) (n : Nat) :
    w.would_accept n = true ↔ Fresh committed n := by
  unfold Remembers at h
  unfold would_accept Fresh
  split at h
  · rename_i hw
    simp [h.1]
  · rename_i highest hw
    obtain ⟨hmem, hmax, hbits⟩ := h
    dsimp only
    split
    · rename_i hgt
      refine iff_of_true rfl ⟨fun hn => ?_, fun m hm => ?_⟩
      · exact absurd (hmax n hn) (by omega)
      · have := hmax m hm; omega
    · rename_i hle
      split
      · rename_i hfar
        refine iff_of_false (by simp) fun hn => ?_
        have := hn.2 highest hmem
        omega
      · rename_i hnear
        have hb := hbits (highest - n) (by omega)
        have hsub : highest - (highest - n) = n := by omega
        rw [hsub, bit] at hb
        rw [and_bit_eq_zero _ (Nat.mod_lt _ (by decide)), Bool.not_eq_true', ← Bool.not_eq_true, hb]
        constructor
        · intro hn
          refine ⟨fun hmem' => hn ⟨by omega, hmem'⟩, fun m hm => ?_⟩
          have := hmax m hm
          omega
        · intro hn hmem'
          exact hn.1 hmem'.2

theorem commit_remembers {w : ReplayWindow} {committed : Set Nat} (h : Remembers w committed) (n : Nat) :
    Remembers (w.commit n) (insert n committed) := by
  unfold Remembers at h
  unfold commit
  split at h
  · rename_i hw
    obtain ⟨rfl, hbits⟩ := h
    simp only [Remembers]
    refine ⟨by simp, by simp, fun distance hd => ?_⟩
    by_cases h0 : distance = 0
    · subst h0
      simp [bit, word, REPLAY_WINDOW_WORDS, REPLAY_WINDOW_BITS]
    · have hold := hbits distance hd
      have hword : distance / 64 < REPLAY_WINDOW_WORDS := by
        simp only [REPLAY_WINDOW_WORDS, REPLAY_WINDOW_BITS] at hd ⊢; omega
      have hne : ¬ (distance ≤ n ∧ n - distance = n) := by omega
      simp only [bit, word, hword, dif_pos] at hold ⊢
      simp only [insert_empty_eq, Set.mem_singleton_iff, hne, iff_false, Bool.not_eq_true]
      split
      · rename_i hz
        have hbit : distance % 64 ≠ 0 := by omega
        simp [hbit]
      · exact hold
  · rename_i highest hw
    obtain ⟨hmem, hmax, hbits⟩ := h
    dsimp only
    split
    · rename_i hgt
      refine ⟨by simp, ?_, fun distance hd => ?_⟩
      · intro m hm
        rcases hm with rfl | hm
        · exact le_rfl
        · have := hmax m hm; omega
      · have hset := bit_set (shift w.words (n - highest)) 0 hd
        simp only [Nat.zero_div, Nat.zero_mod, BitVec.shiftLeft_zero] at hset
        change bit (set (shift w.words (n - highest)) 0 1#64) distance = true ↔ _
        rw [hset, bit_shift _ _ hd, Bool.or_eq_true, Bool.and_eq_true, decide_eq_true_eq, decide_eq_true_eq,
          hbits (distance - (n - highest)) (by omega), Set.mem_insert_iff]
        have hback : n - highest ≤ distance → highest - (distance - (n - highest)) = n - distance := by omega
        constructor
        · rintro (rfl | ⟨h1, h2, h3⟩)
          · exact ⟨by omega, .inl (by omega)⟩
          · exact ⟨by omega, .inr (by rwa [hback h1] at h3)⟩
        · rintro ⟨h1, h2 | h2⟩
          · exact .inl (by omega)
          · have hle : n - highest ≤ distance := by have := hmax _ h2; omega
            exact .inr ⟨hle, by omega, by rwa [hback hle]⟩
    · rename_i hle
      have hmax' : ∀ m ∈ insert n committed, m ≤ highest := by
        intro m hm
        rcases hm with rfl | hm
        · omega
        · exact hmax m hm
      split
      · rename_i hnear
        simp only [Remembers, hw]
        refine ⟨Set.mem_insert_of_mem _ hmem, hmax', fun distance hd => ?_⟩
        rw [bit_set _ _ hd, Bool.or_eq_true, decide_eq_true_eq, hbits distance hd, Set.mem_insert_iff]
        constructor
        · rintro (rfl | ⟨h1, h2⟩)
          · exact ⟨by omega, .inl (by omega)⟩
          · exact ⟨h1, .inr h2⟩
        · rintro ⟨h1, h2 | h2⟩
          · exact .inl (by omega)
          · exact .inr ⟨h1, h2⟩
      · rename_i hfar
        simp only [Remembers, hw]
        refine ⟨Set.mem_insert_of_mem _ hmem, hmax', fun distance hd => ?_⟩
        rw [hbits distance hd, Set.mem_insert_iff]
        constructor
        · exact fun h => ⟨h.1, .inr h.2⟩
        · rintro ⟨h1, h2 | h2⟩
          · omega
          · exact ⟨h1, h2⟩

end ReplayWindow

end Trackpad
