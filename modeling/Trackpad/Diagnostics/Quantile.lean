import Trackpad.Lib.Histogram
import Trackpad.Diagnostics.Analysis
import Trackpad.Phone.DiagnosticRecorder
/-!
# Quantiles are true intervals

Host and phone count latencies in the same log-linear bins and read a quantile off the counts. Each writes the bins'
inverse and the rank in its own way.
-/

/-! ## The host -/

namespace Trackpad.Diagnostics

/-- `u128::div_ceil`. -/
def div_ceil (a b : Nat) : Nat := if a % b > 0 then a / b + 1 else a / b

/-- The values of bin `i`. A shift drops what leaves the `u64`, and the addition saturates. -/
def Series.bounds (i : Nat) : Nat × Nat :=
  if i < 32 then (i, i)
  else
    let exponent := i / 32 + 4
    let shift := exponent - 5
    let low := ((32 + i % 32) <<< shift) % 2 ^ 64
    (low, min (low + (1 <<< shift - 1)) (2 ^ 64 - 1))

/-- Quantile is an interval, never a falsely precise clipped scalar. -/
def Series.quantile (numerator denominator : Nat) (s : Series) : Option (Nat × Nat) :=
  if s.n = 0 then none
  else
    let rank := div_ceil (s.n * numerator) denominator
    (Histogram.reaching rank s.bins 0 0).map fun i =>
      (min (Series.bounds i).1 s.max_ns, min (Series.bounds i).2 s.max_ns)

/-- The series of the values pushed, each with its budget. -/
def Series.of (pushes : List (UInt64 × UInt64)) : Series :=
  pushes.foldl (fun s push => s.push push.1.toNat push.2.toNat) Series.default

example : (Series.of [(40, 0), (7, 0), (1000, 0)]).quantile 1 2 = some (40, 40) := by decide +kernel

end Trackpad.Diagnostics

/-! ## The phone -/

namespace Trackpad.DiagnosticRecorder

/-- The bin of a value. -/
def Statistics.index (value : Nat) : Nat :=
  let exponent := Nat.log2 (Max.max 1 value)
  let shift := exponent - 5
  if value < 32 then value else (exponent - 4) * 32 + (value >>> shift) - 32

/-- What is left of a number in a `long`. -/
def long (x : Int) : Int := Int.bmod x (2 ^ 64)

/-- The values of bin `i`. -/
def Statistics.bounds (i : Nat) : Int × Int :=
  let low := if i < 32 then (i : Int) else long (((32 + i % 32) <<< (i / 32 - 1) : Nat) : Int)
  let high := if i < 32 then (i : Int) else long (low + long ((1 <<< (i / 32 - 1) : Nat) : Int) - 1)
  (low, high)

def Statistics.quantile (numerator denominator : Nat) (s : Statistics) : String :=
  if s.n = 0 then "unavailable"
  else
    let rank := s.n / denominator * numerator + (s.n % denominator * numerator + denominator - 1) / denominator
    match Histogram.reaching rank s.histogram 0 0 with
    | some i =>
      let (low, high) := Statistics.bounds i
      "[" ++ toString low ++ "," ++ toString (min (s.max : Int) high) ++ "]"
    | none => "unavailable"

/-- The statistics of the samples taken, each a later and an earlier instant. -/
def Statistics.of (samples : List (Int64 × Int64)) : Statistics :=
  samples.foldl (fun s sample => s.sample sample.1 sample.2) Statistics.new

/-- The latency a sample records, unless it is invalid. -/
def latency (sample : Int64 × Int64) : Option Nat :=
  if sample.2 ≤ 0 ∨ sample.1 < sample.2 then none else some (sample.1 - sample.2).toInt.toNat

theorem sample_invalid {sample : Int64 × Int64} (h : latency sample = none) (s : Statistics) :
    s.sample sample.1 sample.2 = { s with invalid := s.invalid + 1 } := by
  unfold latency at h
  split at h
  · next hinvalid => rw [Statistics.sample, if_pos hinvalid]
  · cases h

theorem sample_valid {sample : Int64 × Int64} {value : Nat} (h : latency sample = some value) (s : Statistics) :
    (s.sample sample.1 sample.2).n = s.n + 1 ∧
    (s.sample sample.1 sample.2).max = Max.max s.max value ∧
    (s.sample sample.1 sample.2).histogram = s.histogram.modify (Statistics.index value) (· + 1) := by
  unfold latency at h
  split at h
  · cases h
  · next hvalid =>
    obtain rfl := Option.some.inj h
    rw [Statistics.sample, if_neg hvalid]
    exact ⟨rfl, rfl, rfl⟩

/-- A valid latency is a non-negative `long`. -/
theorem latency_fits {sample : Int64 × Int64} {value : Nat} (h : latency sample = some value) : value < 2 ^ 63 := by
  unfold latency at h
  split at h
  · cases h
  · obtain rfl := Option.some.inj h
    have := (sample.1 - sample.2).toInt_lt
    omega

end Trackpad.DiagnosticRecorder

/-! ## The bins -/

namespace Trackpad.Diagnostics

open DiagnosticRecorder Histogram

/-- The host's bins are the log-linear ones of 32 to the power of two. -/
theorem series_index (ns : Nat) : Series.index ns = index 5 ns := by
  rcases Nat.lt_or_ge ns 32 with hsmall | hlarge
  · rw [index_small (k := 5) hsmall, Series.index, if_pos hsmall]
  · obtain ⟨hlog, -, -⟩ := large_split (k := 5) hlarge
    have hbin : index 5 ns = (ns.log2 - 5 + 1) * 32 + (ns >>> (ns.log2 - 5) - 32) := if_neg (Nat.not_lt.2 hlarge)
    rw [Series.index, if_neg (Nat.not_lt.2 hlarge), hbin, Nat.max_eq_left (by omega),
      show ns.log2 - 4 = ns.log2 - 5 + 1 by omega]

/-- So are the phone's. -/
theorem statistics_index (value : Nat) : Statistics.index value = index 5 value := by
  rcases Nat.lt_or_ge value 32 with hsmall | hlarge
  · rw [index_small (k := 5) hsmall, Statistics.index, if_pos hsmall]
  · obtain ⟨hlog, hmantissa, -⟩ := large_split (k := 5) hlarge
    have hbin : index 5 value = (value.log2 - 5 + 1) * 32 + (value >>> (value.log2 - 5) - 32) :=
      if_neg (Nat.not_lt.2 hlarge)
    rw [Statistics.index, if_neg (Nat.not_lt.2 hlarge), hbin, Nat.max_eq_right (by omega),
      show value.log2 - 4 = value.log2 - 5 + 1 by omega]
    exact Nat.add_sub_assoc hmantissa _

theorem shift_at (i : Nat) : i / 32 + 4 - 5 = shift 5 i := by
  simp only [shift]
  omega

/-- Where the values fit, the host computes the bounds of a bin without overflow or saturation. -/
theorem series_bounds {i : Nat} (h : high 5 i < 2 ^ 64) : Series.bounds i = (low 5 i, high 5 i) := by
  unfold Series.bounds
  split
  · next hsmall => simp [low, high, hsmall]
  · next hlarge =>
    have hlow : low 5 i = (32 + i % 32) <<< shift 5 i := if_neg hlarge
    have hhigh : high 5 i = low 5 i + (2 ^ shift 5 i - 1) := if_neg hlarge
    dsimp only
    rw [shift_at, ← hlow, Nat.mod_eq_of_lt (by omega), Nat.one_shiftLeft, ← hhigh, Nat.min_eq_left (by omega)]

/-- Where the values fit, the phone computes the bounds of a bin without overflow. -/
theorem statistics_bounds {i : Nat} (h : high 5 i < 2 ^ 63) :
    Statistics.bounds i = ((low 5 i : Int), (high 5 i : Int)) := by
  have hlong : ∀ n : Nat, n < 2 ^ 63 → long (n : Int) = n := by
    intro n hn
    rw [long, Int.bmod_eq_of_le] <;> omega
  unfold Statistics.bounds
  dsimp only
  split
  · next hsmall => simp [low, high, hsmall]
  · next hlarge =>
    have hlow : low 5 i = (32 + i % 32) <<< shift 5 i := if_neg hlarge
    have hhigh : high 5 i = low 5 i + (2 ^ shift 5 i - 1) := if_neg hlarge
    have hpos := Nat.two_pow_pos (shift 5 i)
    have hle : 2 ^ shift 5 i ≤ low 5 i := by
      rw [hlow, Nat.shiftLeft_eq]
      exact Nat.le_mul_of_pos_left _ (by omega)
    have hwidth : i / 32 - 1 = shift 5 i := rfl
    rw [hwidth, ← hlow, Nat.one_shiftLeft, hlong _ (by omega), hlong _ (by omega),
      show (low 5 i : Int) + (2 ^ shift 5 i : Nat) - 1 = (high 5 i : Nat) by omega, hlong _ h]

/-! ## What is counted -/

/-- Values below `2 ^ w`, and what was kept of them: their number, a bound and the counts of the bins. -/
structure Tally (w : Nat) (values : List Nat) (n max : Nat) (bins : List Nat) : Prop where
  total : n = values.length
  bounded : ∀ v ∈ values, v ≤ max
  counts : Counts (index 5) values bins
  width : bins.length = 2049
  fits : ∀ v ∈ values, v < 2 ^ w

/-- A value of at most 64 bits has a bin. -/
theorem index_lt {w v : Nat} (hw : 5 < w) (hw' : w ≤ 64) (hv : v < 2 ^ w) : index 5 v < 2049 := by
  obtain ⟨hindex, -, -⟩ := bounds_fit (k := 5) hw hv
  omega

namespace Tally

variable {w n max : Nat} {values bins : List Nat}

theorem start (w : Nat) : Tally w [] 0 0 (List.replicate 2049 0) where
  total := rfl
  bounded := by simp
  counts := counts_replicate 2049
  width := List.length_replicate
  fits := by simp

theorem concat (h : Tally w values n max bins) (hw : 5 < w) (hw' : w ≤ 64) {v : Nat} (hv : v < 2 ^ w) :
    Tally w (values ++ [v]) (n + 1) (Max.max max v) (bins.modify (index 5 v) (· + 1)) where
  total := by simp [h.total]
  bounded := by
    intro u hu
    rcases List.mem_append.1 hu with hu | hu
    · exact (h.bounded u hu).trans (Nat.le_max_left _ _)
    · rw [List.mem_singleton.1 hu]
      exact Nat.le_max_right _ _
  counts := counts_concat h.counts (by rw [h.width]; exact index_lt hw hw' hv)
  width := by simp [h.width]
  fits := by
    intro u hu
    rcases List.mem_append.1 hu with hu | hu
    · exact h.fits u hu
    · rw [List.mem_singleton.1 hu]
      exact hv

/-- The bin at the rank of a quantile is that of the value of this rank, and the value lies within its bounds. -/
theorem quantile (h : Tally w values n max bins) (hw : 5 < w) (hw' : w ≤ 64) (hne : values ≠ [])
    {numerator denominator : Nat} (hpos : 1 ≤ numerator) (hle : numerator ≤ denominator) :
    ∃ v ≤ max, smallest values ((n * numerator + denominator - 1) / denominator) = some v ∧
      reaching ((n * numerator + denominator - 1) / denominator) bins 0 0 = some (index 5 v) ∧
      low 5 (index 5 v) ≤ v ∧ v ≤ high 5 (index 5 v) ∧ high 5 (index 5 v) < 2 ^ w := by
  have hn : 0 < n := by rw [h.total]; exact List.length_pos_iff.2 hne
  obtain ⟨hrank, hrank'⟩ := rank_bounds hn hpos hle
  obtain ⟨v, hv, hsmallest, hreaching⟩ := reaching_smallest (index_monotone 5) h.counts
    (fun u hu => by rw [h.width]; exact index_lt hw hw' (h.fits u hu)) hrank (hrank'.trans_eq h.total)
  obtain ⟨hlow, hhigh⟩ := low_le_high 5 v
  exact ⟨v, h.bounded v hv, hsmallest, hreaching, hlow, hhigh, (bounds_fit hw (h.fits v hv)).2.2⟩

end Tally

theorem series_tally (pushes : List (UInt64 × UInt64)) :
    Tally 64 (pushes.map (·.1.toNat)) (Series.of pushes).n (Series.of pushes).max_ns (Series.of pushes).bins := by
  have hrun : ∀ (s : Series) (values : List Nat), Tally 64 values s.n s.max_ns s.bins →
      Tally 64 (values ++ pushes.map (·.1.toNat)) (pushes.foldl (fun s push => s.push push.1.toNat push.2.toNat) s).n
        (pushes.foldl (fun s push => s.push push.1.toNat push.2.toNat) s).max_ns
        (pushes.foldl (fun s push => s.push push.1.toNat push.2.toNat) s).bins := by
    induction pushes with
    | nil => intro s values h; simpa using h
    | cons push pushes ih =>
      intro s values h
      have hpush := h.concat (by decide) (by decide) push.1.toNat_lt
      rw [← series_index] at hpush
      have hrest := ih (s.push push.1.toNat push.2.toNat) _ hpush
      rwa [List.append_assoc, List.singleton_append] at hrest
  exact hrun Series.default [] (Tally.start 64)

theorem statistics_tally (samples : List (Int64 × Int64)) :
    Tally 63 (samples.filterMap latency) (Statistics.of samples).n (Statistics.of samples).max
      (Statistics.of samples).histogram := by
  have hrun : ∀ (s : Statistics) (values : List Nat), Tally 63 values s.n s.max s.histogram →
      Tally 63 (values ++ samples.filterMap latency) (samples.foldl (fun s sample => s.sample sample.1 sample.2) s).n
        (samples.foldl (fun s sample => s.sample sample.1 sample.2) s).max
        (samples.foldl (fun s sample => s.sample sample.1 sample.2) s).histogram := by
    induction samples with
    | nil => intro s values h; simpa using h
    | cons sample samples ih =>
      intro s values h
      rw [List.foldl_cons]
      cases hlatency : latency sample with
      | none =>
        rw [List.filterMap_cons_none hlatency, sample_invalid hlatency]
        exact ih _ values h
      | some value =>
        obtain ⟨hn, hmax, hhistogram⟩ := sample_valid hlatency s
        have hsample := h.concat (by decide) (by decide) (latency_fits hlatency)
        rw [← statistics_index, ← hn, ← hmax, ← hhistogram] at hsample
        have hrest := ih (s.sample sample.1 sample.2) _ hsample
        rwa [List.append_assoc, List.singleton_append, ← List.filterMap_cons_some hlatency] at hrest
  exact hrun Statistics.new [] (Tally.start 63)

/-! ## The quantiles -/

theorem div_ceil_eq (a : Nat) {b : Nat} (hb : 0 < b) : div_ceil a b = (a + b - 1) / b := by
  have hdivmod := Nat.div_add_mod a b
  have hlt := Nat.mod_lt a hb
  unfold div_ceil
  split
  · next hrest =>
    have hsplit : a + b - 1 = a % b - 1 + b * (a / b + 1) := by
      rw [Nat.mul_add, Nat.mul_one]
      omega
    have hzero : (a % b - 1) / b = 0 := Nat.div_eq_of_lt (by omega)
    rw [hsplit, Nat.add_mul_div_left _ _ hb, hzero, Nat.zero_add]
  · have hsplit : a + b - 1 = b - 1 + b * (a / b) := by omega
    have hzero : (b - 1) / b = 0 := Nat.div_eq_of_lt (by omega)
    rw [hsplit, Nat.add_mul_div_left _ _ hb, hzero, Nat.zero_add]

theorem series_quantile (pushes : List (UInt64 × UInt64)) {numerator denominator : Nat} (hne : pushes ≠ [])
    (hpos : 1 ≤ numerator) (hle : numerator ≤ denominator) :
    ∃ v lower upper,
      smallest (pushes.map (·.1.toNat)) (div_ceil (pushes.length * numerator) denominator) = some v ∧
      (Series.of pushes).quantile numerator denominator = some (lower, upper) ∧ lower ≤ v ∧ v ≤ upper := by
  have htally := series_tally pushes
  have hn : (Series.of pushes).n = pushes.length := by rw [htally.total, List.length_map]
  obtain ⟨v, hmax, hsmallest, hreaching, hlow, hhigh, hfits⟩ :=
    htally.quantile (by decide) (by decide) (by simpa using hne) hpos hle
  have hpositive : pushes.length ≠ 0 := by simpa using hne
  rw [hn] at hsmallest hreaching
  refine ⟨v, min (low 5 (index 5 v)) (Series.of pushes).max_ns, min (high 5 (index 5 v)) (Series.of pushes).max_ns,
    by rw [div_ceil_eq _ (by omega)]; exact hsmallest, ?_, ?_⟩
  · rw [Series.quantile, if_neg (by rw [hn]; exact hpositive), hn]
    dsimp only
    rw [div_ceil_eq _ (by omega), hreaching, Option.map_some, series_bounds hfits]
  · omega

theorem statistics_quantile (samples : List (Int64 × Int64)) {numerator denominator : Nat}
    (hne : samples.filterMap latency ≠ []) (hpos : 1 ≤ numerator) (hle : numerator ≤ denominator) :
    ∃ (v : Nat) (lower upper : Int),
      smallest (samples.filterMap latency) (div_ceil ((samples.filterMap latency).length * numerator) denominator) =
        some v ∧
      (Statistics.of samples).quantile numerator denominator =
        "[" ++ toString lower ++ "," ++ toString upper ++ "]" ∧
      lower ≤ v ∧ (v : Int) ≤ upper := by
  have htally := statistics_tally samples
  obtain ⟨v, hmax, hsmallest, hreaching, hlow, hhigh, hfits⟩ := htally.quantile (by decide) (by decide) hne hpos hle
  have hpositive : (Statistics.of samples).n ≠ 0 := by rw [htally.total]; simpa using hne
  refine ⟨v, low 5 (index 5 v), min ((Statistics.of samples).max : Int) (high 5 (index 5 v)),
    by rw [div_ceil_eq _ (by omega), ← htally.total]; exact hsmallest, ?_, ?_⟩
  · rw [Statistics.quantile, if_neg hpositive]
    dsimp only
    rw [rank_split _ _ _ (by omega), hreaching]
    dsimp only
    rw [statistics_bounds hfits]
  · omega

/-- The phone's rank stays within a `long` wherever its count does. -/
theorem rank_fits {n numerator denominator : Nat} (hn : n < 2 ^ 63) (hpos : 1 ≤ numerator) (hle : numerator ≤ denominator)
    (hint : denominator < 2 ^ 31) :
    n / denominator * numerator < 2 ^ 63 ∧ n % denominator * numerator + denominator - 1 < 2 ^ 63 ∧
    n / denominator * numerator + (n % denominator * numerator + denominator - 1) / denominator < 2 ^ 63 := by
  have hwhole : n / denominator * numerator ≤ n :=
    (Nat.mul_le_mul_left _ hle).trans (Nat.div_mul_le_self n denominator)
  have hrest : n % denominator * numerator ≤ 2 ^ 31 * 2 ^ 31 :=
    Nat.mul_le_mul ((Nat.mod_lt n (by omega)).le.trans hint.le) (hle.trans hint.le)
  refine ⟨by omega, by omega, ?_⟩
  rcases Nat.eq_zero_or_pos n with rfl | hsome
  · rw [rank_split _ _ _ (by omega), Nat.zero_mul, Nat.zero_add, Nat.div_eq_of_lt (by omega)]
    decide
  · have hrank := (rank_bounds hsome hpos hle).2
    rw [rank_split _ _ _ (by omega)]
    omega

/-- A valid latency is counted in one bin on both sides, and no step on the way to it overflows. -/
theorem same_bin {sample : Int64 × Int64} {value : Nat} (h : latency sample = some value) (s : Statistics) (t : Series)
    (budget : Nat) :
    ∃ i < 2049, (s.sample sample.1 sample.2).histogram = s.histogram.modify i (· + 1) ∧
      (t.push value budget).bins = t.bins.modify i (· + 1) := by
  refine ⟨index 5 value, index_lt (by decide) (by decide) (latency_fits h), ?_, ?_⟩
  · rw [(sample_valid h s).2.2, statistics_index]
  · rw [Series.push, series_index]

theorem index_fits {ns : Nat} (h : ns < 2 ^ 64) :
    Series.index ns < 2049 ∧ (Max.max ns 1).log2 < 64 ∧
    (32 ≤ ns → 5 ≤ (Max.max ns 1).log2 ∧ 32 ≤ ns >>> ((Max.max ns 1).log2 - 5) ∧ ns >>> ((Max.max ns 1).log2 - 5) < 64) := by
  refine ⟨by rw [series_index]; exact index_lt (by decide) (by decide) h, ?_, ?_⟩
  · rw [Nat.log2_lt (by omega)]
    omega
  · intro hlarge
    rw [Nat.max_eq_left (by omega)]
    exact large_split (k := 5) hlarge

/-- Both quantiles are intervals around the value of their rank, both sides bin alike, and nothing overflows. -/
theorem quantile_intervals :
    (∀ (pushes : List (UInt64 × UInt64)) (numerator denominator : Nat),
      pushes ≠ [] → 1 ≤ numerator → numerator ≤ denominator → ∃ v lower upper,
        smallest (pushes.map (·.1.toNat)) (div_ceil (pushes.length * numerator) denominator) = some v ∧
        (Series.of pushes).quantile numerator denominator = some (lower, upper) ∧ lower ≤ v ∧ v ≤ upper) ∧
    (∀ (samples : List (Int64 × Int64)) (numerator denominator : Nat),
      samples.filterMap latency ≠ [] → 1 ≤ numerator → numerator ≤ denominator → ∃ (v : Nat) (lower upper : Int),
        smallest (samples.filterMap latency) (div_ceil ((samples.filterMap latency).length * numerator) denominator) =
          some v ∧
        (Statistics.of samples).quantile numerator denominator =
          "[" ++ toString lower ++ "," ++ toString upper ++ "]" ∧
        lower ≤ v ∧ (v : Int) ≤ upper) ∧
    (∀ ns < 2 ^ 64, Series.index ns < 2049 ∧ (Max.max ns 1).log2 < 64 ∧
      (32 ≤ ns → 5 ≤ (Max.max ns 1).log2 ∧ 32 ≤ ns >>> ((Max.max ns 1).log2 - 5) ∧
        ns >>> ((Max.max ns 1).log2 - 5) < 64)) ∧
    (∀ (sample : Int64 × Int64) (value : Nat), latency sample = some value →
      ∀ (s : Statistics) (t : Series) (budget : Nat), ∃ i < 2049,
        (s.sample sample.1 sample.2).histogram = s.histogram.modify i (· + 1) ∧
        (t.push value budget).bins = t.bins.modify i (· + 1)) ∧
    (∀ n numerator denominator, n < 2 ^ 63 → 1 ≤ numerator → numerator ≤ denominator → denominator < 2 ^ 31 →
      n / denominator * numerator < 2 ^ 63 ∧ n % denominator * numerator + denominator - 1 < 2 ^ 63 ∧
      n / denominator * numerator + (n % denominator * numerator + denominator - 1) / denominator < 2 ^ 63) :=
  ⟨fun pushes _ _ hne hpos hle => series_quantile pushes hne hpos hle,
   fun samples _ _ hne hpos hle => statistics_quantile samples hne hpos hle,
   fun _ h => index_fits h,
   fun _ _ h s t budget => same_bin h s t budget,
   fun _ _ _ hn hpos hle hint => rank_fits hn hpos hle hint⟩

end Trackpad.Diagnostics
