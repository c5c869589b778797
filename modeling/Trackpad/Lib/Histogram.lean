import Mathlib.Order.Monotone.Basic
import Mathlib.Algebra.Order.Ring.Nat
/-!
# Order statistics from a histogram

Values are counted in bins that follow their order. Then the bin at which the counts reach a rank is the bin of the
value of that rank. Log-linear bins split every power of two into `2 ^ k` bins of one width.
-/

namespace Histogram

section Order
variable {α : Type} [LinearOrder α]

/-- The `k`-th smallest value, counted from one. -/
def smallest (values : List α) (k : Nat) : Option α := (values.mergeSort fun a b => decide (a ≤ b))[k - 1]?

omit [LinearOrder α] in
theorem split_at {l : List α} {i : Nat} (h : i < l.length) :
    ∃ before v after, l = before ++ v :: after ∧ before.length = i :=
  ⟨l.take i, l[i], l.drop (i + 1), by rw [← List.drop_eq_getElem_cons h, List.take_append_drop], by simp; omega⟩

/-- Fewer than `k` values lie below the `k`-th smallest, and at least `k` no higher than it. -/
theorem smallest_spec {values : List α} {k : Nat} (hpos : 1 ≤ k) (hk : k ≤ values.length) :
    ∃ v ∈ values, smallest values k = some v ∧ values.countP (· < v) < k ∧ k ≤ values.countP (· ≤ v) := by
  have hperm := List.mergeSort_perm values fun a b => decide (a ≤ b)
  have hsorted : (values.mergeSort fun a b => decide (a ≤ b)).Pairwise (· ≤ ·) := by
    have hpairs : (values.mergeSort fun a b => decide (a ≤ b)).Pairwise fun a b => decide (a ≤ b) = true :=
      List.pairwise_mergeSort (by simpa using fun a b c hab hbc => le_trans hab hbc) (by simpa using le_total) values
    simpa using hpairs
  unfold smallest
  generalize values.mergeSort (fun a b => decide (a ≤ b)) = sorted at hperm hsorted
  obtain ⟨below, v, above, rfl, hbelow⟩ := split_at (l := sorted) (i := k - 1) (by rw [hperm.length_eq]; omega)
  rw [List.pairwise_append, List.pairwise_cons] at hsorted
  obtain ⟨-, ⟨habove, -⟩, hle⟩ := hsorted
  refine ⟨v, hperm.mem_iff.1 (by simp), by simp [← hbelow], ?_, ?_⟩
  · have hnone : (v :: above).countP (· < v) = 0 := by
      rw [List.countP_eq_zero]
      intro x hx
      rcases List.mem_cons.1 hx with rfl | hx
      · simp
      · simpa using habove x hx
    have hcount := List.countP_le_length (p := (· < v)) (l := below)
    rw [← hperm.countP_eq, List.countP_append, hnone]
    omega
  · have hall : below.countP (· ≤ v) = below.length := by
      rw [List.countP_eq_length]
      intro x hx
      simpa using hle x hx v List.mem_cons_self
    rw [← hperm.countP_eq, List.countP_append, hall, List.countP_cons]
    simp only [le_refl, decide_true, if_true]
    omega

end Order

/-! ## Counting -/

/-- The first bin, from `index` on, at which the counts reach `rank`; `count` was counted before. -/
def reaching (rank : Nat) : List Nat → Nat → Nat → Option Nat
  | [], _, _ => none
  | n :: bins, index, count => if rank ≤ count + n then some index else reaching rank bins (index + 1) (count + n)

theorem reaching_eq {rank i : Nat} {bins : List Nat} (index count : Nat) (hi : i < bins.length)
    (hbelow : count + (bins.take i).sum < rank) (hreach : rank ≤ count + (bins.take (i + 1)).sum) :
    reaching rank bins index count = some (index + i) := by
  induction bins generalizing i index count with
  | nil => simp at hi
  | cons n bins ih =>
    rw [reaching]
    cases i with
    | zero =>
      rw [if_pos (by simpa using hreach)]
      rfl
    | succ i =>
      simp only [List.length_cons, List.take_succ_cons, List.sum_cons] at hi hbelow hreach
      rw [if_neg (by omega), ih (i := i) (index + 1) (count + n) (by omega) (by omega) (by omega)]
      congr 1
      omega

section Bins
variable {α : Type} (bin : α → Nat)

/-- Every bin counts the values that fall into it. -/
def Counts (values : List α) (bins : List Nat) : Prop := ∀ i, bins[i]?.getD 0 = values.countP (bin · = i)

variable {bin}

theorem counts_replicate (n : Nat) : Counts bin [] (List.replicate n 0) := by
  intro i
  simp only [List.getElem?_replicate, List.countP_nil]
  split <;> rfl

theorem counts_concat {values : List α} {bins : List Nat} (h : Counts bin values bins) {v : α}
    (hv : bin v < bins.length) : Counts bin (values ++ [v]) (bins.modify (bin v) (· + 1)) := by
  intro i
  have hi := h i
  rw [List.countP_append, List.countP_singleton, List.getElem?_modify]
  by_cases hbin : bin v = i
  · subst hbin
    simp only [List.getElem?_eq_getElem hv, Option.getD_some] at hi
    simp [List.getElem?_eq_getElem hv, hi]
  · simpa [hbin] using hi

theorem sum_take_counts {values : List α} {bins : List Nat} (h : Counts bin values bins) (i : Nat) :
    (bins.take i).sum = values.countP (bin · < i) := by
  induction i with
  | zero => simp
  | succ i ih =>
    have hlast : (bins.take (i + 1)).sum = (bins.take i).sum + bins[i]?.getD 0 := by
      rw [List.take_add_one, List.sum_append]
      cases bins[i]? <;> simp
    have hcount : values.countP (bin · < i + 1) = values.countP (bin · < i) + values.countP (bin · = i) := by
      clear h ih hlast
      induction values with
      | nil => rfl
      | cons v values ih =>
        simp only [List.countP_cons, ih, decide_eq_true_eq]
        split <;> split <;> split <;> omega
    rw [hlast, ih, h i, hcount]

/-- The bin at which the counts reach `k` is that of the `k`-th smallest value. -/
theorem reaching_smallest [LinearOrder α] (hbin : Monotone bin) {values : List α} {bins : List Nat}
    (h : Counts bin values bins) (hbins : ∀ v ∈ values, bin v < bins.length) {k : Nat} (hpos : 1 ≤ k)
    (hk : k ≤ values.length) :
    ∃ v ∈ values, smallest values k = some v ∧ reaching k bins 0 0 = some (bin v) := by
  obtain ⟨v, hv, hsmallest, hbelow, hupto⟩ := smallest_spec hpos hk
  refine ⟨v, hv, hsmallest, ?_⟩
  have hlow : values.countP (bin · < bin v) ≤ values.countP (· < v) :=
    List.countP_mono_left fun u _ hu => by simpa using hbin.reflect_lt (by simpa using hu)
  have hhigh : values.countP (· ≤ v) ≤ values.countP (bin · < bin v + 1) :=
    List.countP_mono_left fun u _ hu => by simpa [Nat.lt_succ_iff] using hbin (by simpa using hu)
  rw [reaching_eq 0 0 (hbins v hv) (by rw [sum_take_counts h]; omega) (by rw [sum_take_counts h]; omega), Nat.zero_add]

end Bins

/-! ## Ranks -/

/-- A rank is one of the values' own. -/
theorem rank_bounds {n numerator denominator : Nat} (hn : 0 < n) (hpos : 1 ≤ numerator) (hle : numerator ≤ denominator) :
    1 ≤ (n * numerator + denominator - 1) / denominator ∧ (n * numerator + denominator - 1) / denominator ≤ n := by
  have hprod : 1 ≤ n * numerator := Nat.mul_pos hn hpos
  have hmul : n * numerator ≤ n * denominator := Nat.mul_le_mul_left n hle
  refine ⟨(Nat.le_div_iff_mul_le (by omega)).2 (by omega), ?_⟩
  rw [← Nat.lt_succ_iff, Nat.div_lt_iff_lt_mul (by omega), Nat.succ_mul]
  omega

/-- The whole multiples of the denominator can be taken out of the rounding. -/
theorem rank_split (n numerator denominator : Nat) (hpos : 0 < denominator) :
    n / denominator * numerator + (n % denominator * numerator + denominator - 1) / denominator =
      (n * numerator + denominator - 1) / denominator := by
  have hdivide : n * numerator + denominator - 1 =
      n % denominator * numerator + denominator - 1 + denominator * (n / denominator * numerator) := by
    have hn := congrArg (· * numerator) (Nat.mod_add_div n denominator)
    simp only [Nat.add_mul, Nat.mul_assoc] at hn
    omega
  rw [hdivide, Nat.add_mul_div_left _ _ hpos, Nat.add_comm]

/-! ## Log-linear bins -/

/-- The bin of a value: one each below `2 ^ k`, then `2 ^ k` to the power of two. -/
def index (k v : Nat) : Nat :=
  if v < 2 ^ k then v else (v.log2 - k + 1) * 2 ^ k + ((v >>> (v.log2 - k)) - 2 ^ k)

/-- The width of a bin, as a power of two. -/
def shift (k i : Nat) : Nat := i / 2 ^ k - 1

def low (k i : Nat) : Nat := if i < 2 ^ k then i else (2 ^ k + i % 2 ^ k) <<< shift k i

def high (k i : Nat) : Nat := if i < 2 ^ k then i else low k i + (2 ^ shift k i - 1)

section LogLinear
variable {k v : Nat}

theorem index_small (h : v < 2 ^ k) : index k v = v := if_pos h

/-- A value of `2 ^ k` or more is a mantissa of `k + 1` bits, shifted, and a rest. -/
theorem large_split (h : 2 ^ k ≤ v) :
    k ≤ v.log2 ∧ 2 ^ k ≤ v >>> (v.log2 - k) ∧ v >>> (v.log2 - k) < 2 ^ (k + 1) := by
  have hzero : v ≠ 0 := by have := Nat.two_pow_pos k; omega
  have hlog : k ≤ v.log2 := (Nat.le_log2 hzero).2 h
  have hlow := Nat.log2_self_le hzero
  have hhigh := Nat.lt_log2_self (n := v)
  rw [Nat.shiftRight_eq_div_pow, Nat.le_div_iff_mul_le (Nat.two_pow_pos _), Nat.div_lt_iff_lt_mul (Nat.two_pow_pos _),
    ← Nat.pow_add, ← Nat.pow_add]
  refine ⟨hlog, ?_, ?_⟩
  · rwa [show k + (v.log2 - k) = v.log2 by omega]
  · rwa [show k + 1 + (v.log2 - k) = v.log2 + 1 by omega]

theorem index_large (h : 2 ^ k ≤ v) :
    index k v / 2 ^ k = v.log2 - k + 1 ∧ index k v % 2 ^ k = (v >>> (v.log2 - k)) - 2 ^ k := by
  obtain ⟨-, hlow, hhigh⟩ := large_split h
  have hpos := Nat.two_pow_pos k
  have hrest : (v >>> (v.log2 - k)) - 2 ^ k < 2 ^ k := by rw [Nat.pow_succ] at hhigh; omega
  rw [index, if_neg (Nat.not_lt.2 h)]
  constructor
  · rw [Nat.add_comm, Nat.add_mul_div_right _ _ hpos, Nat.div_eq_of_lt hrest, Nat.zero_add]
  · rw [Nat.add_comm, Nat.add_mul_mod_self_right, Nat.mod_eq_of_lt hrest]

theorem le_index_large (h : 2 ^ k ≤ v) : (v.log2 - k + 1) * 2 ^ k ≤ index k v := by
  rw [index, if_neg (Nat.not_lt.2 h)]
  omega

theorem index_large_lt (h : 2 ^ k ≤ v) : index k v < (v.log2 - k + 2) * 2 ^ k := by
  obtain ⟨hdiv, -⟩ := index_large h
  rw [← Nat.div_lt_iff_lt_mul (Nat.two_pow_pos k), hdiv]
  omega

theorem index_monotone (k : Nat) : Monotone (index k) := by
  intro u v huv
  rcases Nat.lt_or_ge v (2 ^ k) with hv | hv
  · rw [index_small hv, index_small (by omega)]
    exact huv
  · rcases Nat.lt_or_ge u (2 ^ k) with hu | hu
    · have hle := le_index_large hv
      rw [Nat.add_mul, Nat.one_mul] at hle
      rw [index_small hu]
      omega
    · have hlog : u.log2 ≤ v.log2 :=
        (Nat.le_log2 (by have := Nat.two_pow_pos k; omega)).2
          ((Nat.log2_self_le (by have := Nat.two_pow_pos k; omega)).trans huv)
      rcases hlog.eq_or_lt with hlog | hlog
      · have hshift := Nat.div_le_div_right (c := 2 ^ (v.log2 - k)) huv
        rw [index, index, if_neg (Nat.not_lt.2 hu), if_neg (Nat.not_lt.2 hv), hlog, Nat.shiftRight_eq_div_pow,
          Nat.shiftRight_eq_div_pow]
        omega
      · have hku := (large_split hu).1
        have hlt := index_large_lt hu
        have hle := le_index_large hv
        have hmul : (u.log2 - k + 2) * 2 ^ k ≤ (v.log2 - k + 1) * 2 ^ k := Nat.mul_le_mul_right _ (by omega)
        omega

theorem not_index_small (h : 2 ^ k ≤ v) : ¬index k v < 2 ^ k := by
  have hle := le_index_large h
  rw [Nat.add_mul, Nat.one_mul] at hle
  omega

theorem shift_large (h : 2 ^ k ≤ v) : shift k (index k v) = v.log2 - k := by
  rw [shift, (index_large h).1, Nat.add_sub_cancel]

theorem low_large (h : 2 ^ k ≤ v) : low k (index k v) = v / 2 ^ (v.log2 - k) * 2 ^ (v.log2 - k) := by
  obtain ⟨-, hlow, -⟩ := large_split h
  rw [low, if_neg (not_index_small h), shift_large h, (index_large h).2, Nat.shiftLeft_eq, Nat.add_sub_cancel' hlow,
    Nat.shiftRight_eq_div_pow]

/-- A value lies between the bounds of its bin. -/
theorem low_le_high (k v : Nat) : low k (index k v) ≤ v ∧ v ≤ high k (index k v) := by
  rcases Nat.lt_or_ge v (2 ^ k) with hv | hv
  · simp [low, high, index_small hv, hv]
  · have hmod := Nat.mod_lt v (Nat.two_pow_pos (v.log2 - k))
    have hdivmod := Nat.div_add_mod' v (2 ^ (v.log2 - k))
    rw [high, if_neg (not_index_small hv), low_large hv, shift_large hv]
    omega

/-- No arithmetic of a bin leaves the width of its values. -/
theorem bounds_fit {w : Nat} (hk : k < w) (hv : v < 2 ^ w) :
    index k v < (w - k + 1) * 2 ^ k ∧ shift k (index k v) < w ∧ high k (index k v) < 2 ^ w := by
  rcases Nat.lt_or_ge v (2 ^ k) with hsmall | hlarge
  · rw [index_small hsmall, high, if_pos hsmall, shift, Nat.div_eq_of_lt hsmall]
    refine ⟨?_, by omega, hv⟩
    rw [Nat.add_mul, Nat.one_mul]
    omega
  · have hzero : v ≠ 0 := by have := Nat.two_pow_pos k; omega
    obtain ⟨hlog, -, hmantissa⟩ := large_split hlarge
    have hw : v.log2 < w := (Nat.log2_lt hzero).2 hv
    refine ⟨?_, by rw [shift_large hlarge]; omega, ?_⟩
    · exact Nat.lt_of_lt_of_le (index_large_lt hlarge) (Nat.mul_le_mul_right _ (by omega))
    · rw [high, if_neg (not_index_small hlarge), low_large hlarge, shift_large hlarge]
      rw [Nat.shiftRight_eq_div_pow] at hmantissa
      have hpos := Nat.two_pow_pos (v.log2 - k)
      have hmul : (v / 2 ^ (v.log2 - k) + 1) * 2 ^ (v.log2 - k) ≤ 2 ^ (k + 1) * 2 ^ (v.log2 - k) :=
        Nat.mul_le_mul_right _ hmantissa
      rw [← Nat.pow_add, Nat.add_mul, Nat.one_mul] at hmul
      have hpow : 2 ^ (k + 1 + (v.log2 - k)) ≤ 2 ^ w := Nat.pow_le_pow_right (by decide) (by omega)
      omega

end LogLinear

end Histogram
