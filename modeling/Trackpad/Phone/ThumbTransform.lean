import Mathlib
/-!
# Thumb mode

The zone of a locked view in thumb mode is two clusters of three lanes around a gap. `mapCapturedX` bends the phone's
surface over the host's six lanes, `clampFixed` rounds the result for the wire, and `lane_for` picks the host's lane.
Floats are exact rationals.
-/

namespace Trackpad.ThumbTransform

def MIN_GAP : ℚ := 4 / 100
def MAX_GAP : ℚ := 30 / 100

def clampGap (gap : ℚ) : ℚ := max MIN_GAP (min MAX_GAP gap)

def leftEnd (gap : ℚ) : ℚ := 1 / 2 - clampGap gap / 2

def rightStart (gap : ℚ) : ℚ := 1 / 2 + clampGap gap / 2

def isInGap (physicalX gap : ℚ) : Bool := physicalX > leftEnd gap && physicalX < rightStart gap

def mapCapturedX (physicalX gap : ℚ) : ℚ :=
  let left := leftEnd gap
  let right := rightStart gap
  if physicalX ≤ left then min (499999 / 1000000) (physicalX * (1 / 2) / left)
  else if physicalX ≥ right then 1 / 2 + (physicalX - right) * (1 / 2) / (1 - right)
  else 1 / 2

/-- The lane a pointer is drawn in while pairing: 1 to 6, and 0 in the gap. -/
def laneAtPhysicalX (physicalX gap : ℚ) : ℤ :=
  if isInGap physicalX gap then 0
  else
    let left := leftEnd gap
    let right := rightStart gap
    if physicalX ≤ left then ⌊max 0 (min (999999 / 1000000) (physicalX / left)) * 3⌋ + 1
    else ⌊max 0 (min (999999 / 1000000) ((physicalX - right) / (1 - right))) * 3⌋ + 4

/-- A coordinate as the wire carries it. `Math.round` takes a half up. -/
def clampFixed (value : ℚ) : ℤ := max (-32768) (min 32767 ⌊value * 10000 + 1 / 2⌋)

/-- The host's lane, counted from zero, of a decoded coordinate. -/
def lane_for (x : ℚ) (lane_count : ℕ) : ℕ := min ⌊max 0 (min 1 x) * lane_count⌋.toNat (lane_count - 1)

/-- The lane the host presses for a captured pointer. -/
def hostLane (gap physicalX : ℚ) : ℕ := lane_for ((clampFixed (mapCapturedX physicalX gap) : ℚ) / 10000) 6

/-! ## Geometry -/

theorem clampGap_bounds (gap : ℚ) : 4 / 100 ≤ clampGap gap ∧ clampGap gap ≤ 30 / 100 := by
  unfold clampGap MIN_GAP MAX_GAP
  exact ⟨le_max_left _ _, max_le (by norm_num) (min_le_left _ _)⟩

theorem leftEnd_pos (gap : ℚ) : 0 < leftEnd gap := by
  have := (clampGap_bounds gap).2
  unfold leftEnd
  linarith

theorem leftEnd_lt_rightStart (gap : ℚ) : leftEnd gap < rightStart gap := by
  have := (clampGap_bounds gap).1
  unfold leftEnd rightStart
  linarith

theorem rightStart_lt_one (gap : ℚ) : rightStart gap < 1 := by
  have := (clampGap_bounds gap).2
  unfold rightStart
  linarith

/-- A pointer is drawn in the left cluster exactly when it is at or left of its end. -/
theorem drawn_left (gap physicalX : ℚ) :
    (1 ≤ laneAtPhysicalX physicalX gap ∧ laneAtPhysicalX physicalX gap ≤ 3) ↔ physicalX ≤ leftEnd gap := by
  have hcap : ∀ fraction : ℚ, 0 ≤ ⌊max 0 (min (999999 / 1000000) fraction) * 3⌋ ∧
      ⌊max 0 (min (999999 / 1000000) fraction) * 3⌋ < 3 := by
    intro fraction
    have hlow : (0 : ℚ) ≤ max 0 (min (999999 / 1000000) fraction) := le_max_left _ _
    have hhigh : max 0 (min (999999 / 1000000) fraction) ≤ (999999 / 1000000 : ℚ) :=
      max_le (by norm_num) (min_le_left _ _)
    refine ⟨Int.floor_nonneg.mpr (by linarith), Int.floor_lt.mpr ?_⟩
    push_cast
    linarith
  have hgap := leftEnd_lt_rightStart gap
  unfold laneAtPhysicalX isInGap
  by_cases hleft : physicalX ≤ leftEnd gap
  · have := hcap (physicalX / leftEnd gap)
    rw [if_neg (by simp [hleft]), if_pos hleft]
    exact ⟨fun _ => hleft, fun _ => ⟨by omega, by omega⟩⟩
  · by_cases hright : physicalX < rightStart gap
    · rw [if_pos (by simp [hright]; exact not_le.mp hleft)]
      exact ⟨fun h => absurd h.1 (by decide), fun h => absurd h hleft⟩
    · have := hcap ((physicalX - rightStart gap) / (1 - rightStart gap))
      rw [if_neg (by simp [hright]), if_neg hleft]
      exact ⟨fun h => by omega, fun h => absurd h hleft⟩

/-! ## The stages are monotone -/

theorem mapCapturedX_le_half {gap physicalX : ℚ} (hleft : physicalX ≤ leftEnd gap) :
    mapCapturedX physicalX gap ≤ 1 / 2 := by
  unfold mapCapturedX
  rw [if_pos hleft]
  exact (min_le_left _ _).trans (by norm_num)

theorem half_le_mapCapturedX {gap physicalX : ℚ} (hright : leftEnd gap < physicalX) :
    1 / 2 ≤ mapCapturedX physicalX gap := by
  have hroom := rightStart_lt_one gap
  unfold mapCapturedX
  rw [if_neg (not_le.mpr hright)]
  split_ifs with h
  · have : 0 ≤ (physicalX - rightStart gap) * (1 / 2) / (1 - rightStart gap) :=
      div_nonneg (mul_nonneg (by linarith) (by norm_num)) (by linarith)
    linarith
  · exact le_refl _

theorem mapCapturedX_monotone (gap : ℚ) : Monotone fun physicalX => mapCapturedX physicalX gap := by
  intro x y hxy
  change mapCapturedX x gap ≤ mapCapturedX y gap
  have hleft := leftEnd_pos gap
  have hroom := rightStart_lt_one gap
  by_cases hy : y ≤ leftEnd gap
  · -- both in the left cluster
    unfold mapCapturedX
    rw [if_pos (hxy.trans hy), if_pos hy]
    gcongr
  · by_cases hx : x ≤ leftEnd gap
    · exact (mapCapturedX_le_half hx).trans (half_le_mapCapturedX (not_le.mp hy))
    · by_cases hx' : rightStart gap ≤ x
      · -- both in the right cluster
        unfold mapCapturedX
        rw [if_neg hx, if_neg hy, if_pos hx', if_pos (hx'.trans hxy)]
        have : 0 < 1 - rightStart gap := by linarith
        gcongr
      · have hbridge : mapCapturedX x gap = 1 / 2 := by
          unfold mapCapturedX
          rw [if_neg hx, if_neg hx']
        rw [hbridge]
        exact half_le_mapCapturedX (not_le.mp hy)

theorem clampFixed_monotone : Monotone clampFixed := by
  intro v w hvw
  unfold clampFixed
  have : ⌊v * 10000 + 1 / 2⌋ ≤ ⌊w * 10000 + 1 / 2⌋ := Int.floor_le_floor (by linarith)
  omega

theorem lane_for_monotone (lane_count : ℕ) : Monotone fun x => lane_for x lane_count := by
  intro x y hxy
  change lane_for x lane_count ≤ lane_for y lane_count
  unfold lane_for
  have : max 0 (min 1 x) ≤ max 0 (min 1 y) := max_le_max (le_refl _) (min_le_min (le_refl _) hxy)
  have : ⌊max 0 (min 1 x) * lane_count⌋ ≤ ⌊max 0 (min 1 y) * lane_count⌋ :=
    Int.floor_le_floor (mul_le_mul_of_nonneg_right this (Nat.cast_nonneg _))
  omega

theorem hostLane_monotone (gap : ℚ) : Monotone (hostLane gap) := by
  intro x y hxy
  apply lane_for_monotone 6
  have : (clampFixed (mapCapturedX x gap) : ℚ) ≤ clampFixed (mapCapturedX y gap) :=
    Int.cast_le.mpr (clampFixed_monotone (mapCapturedX_monotone gap hxy))
  linarith

/-! ## Where the clusters meet -/

/-- The left three lanes are those of the coordinates below one half. -/
theorem lane_for_left (x : ℚ) : lane_for x 6 < 3 ↔ x < 1 / 2 := by
  unfold lane_for
  have hfloor : ⌊max 0 (min 1 x) * ((6 : ℕ) : ℚ)⌋ < 3 ↔ max 0 (min 1 x) * ((6 : ℕ) : ℚ) < 3 := by
    rw [Int.floor_lt]
    norm_num
  have hclamp : max 0 (min 1 x) * ((6 : ℕ) : ℚ) < 3 ↔ max 0 (min 1 x) < 1 / 2 := by
    constructor <;> intro h <;> push_cast at * <;> linarith
  have hhalf : max 0 (min 1 x) < 1 / 2 ↔ x < 1 / 2 := by
    rw [max_lt_iff, min_lt_iff]
    norm_num
  rw [← hhalf, ← hclamp, ← hfloor]
  omega

theorem clampFixed_left (value : ℚ) : clampFixed value < 5000 ↔ value < 49995 / 100000 := by
  have hround : ⌊value * 10000 + 1 / 2⌋ < 5000 ↔ value < 49995 / 100000 := by
    rw [Int.floor_lt]
    constructor <;> intro h <;> push_cast at * <;> linarith
  rw [← hround]
  unfold clampFixed
  omega

/-- The host presses a left lane exactly for what the wire rounds below one half. -/
theorem hostLane_left (gap physicalX : ℚ) :
    hostLane gap physicalX < 3 ↔ mapCapturedX physicalX gap < 49995 / 100000 := by
  unfold hostLane
  rw [lane_for_left, ← clampFixed_left]
  constructor
  · intro h
    have : ((clampFixed (mapCapturedX physicalX gap) : ℤ) : ℚ) < ((5000 : ℤ) : ℚ) := by push_cast; linarith
    exact Int.cast_lt.mp this
  · intro h
    have : ((clampFixed (mapCapturedX physicalX gap) : ℤ) : ℚ) < ((5000 : ℤ) : ℚ) := Int.cast_lt.mpr h
    push_cast at this
    linarith

theorem mapCapturedX_left {gap physicalX : ℚ} (hleft : physicalX ≤ leftEnd gap) :
    mapCapturedX physicalX gap < 49995 / 100000 ↔ physicalX < 9999 / 10000 * leftEnd gap := by
  have hpos := leftEnd_pos gap
  unfold mapCapturedX
  rw [if_pos hleft, min_lt_iff, div_lt_iff₀ hpos]
  constructor
  · rintro (h | h)
    · norm_num at h
    · linarith
  · intro h
    right
    linarith

/-- A pointer drawn in a cluster presses a lane of that cluster. -/
def Clustered (gap physicalX : ℚ) : Prop :=
  (physicalX ≤ leftEnd gap → hostLane gap physicalX < 3) ∧ (rightStart gap ≤ physicalX → 3 ≤ hostLane gap physicalX)

/-- The lanes never decrease across the surface, and a pointer keeps to its cluster except in the last ten-thousandth
of the left one, which the wire rounds to one half. -/
theorem clusters_kept (gap : ℚ) :
    (∀ physicalX, Clustered gap physicalX ↔
      ¬(9999 / 10000 * leftEnd gap ≤ physicalX ∧ physicalX ≤ leftEnd gap)) ∧ Monotone (hostLane gap) := by
  refine ⟨fun physicalX => ?_, hostLane_monotone gap⟩
  have hright : rightStart gap ≤ physicalX → 3 ≤ hostLane gap physicalX := by
    intro h
    rw [← not_lt, hostLane_left, not_lt]
    have := half_le_mapCapturedX ((leftEnd_lt_rightStart gap).trans_le h)
    linarith
  rw [not_and, not_le]
  constructor
  · rintro ⟨hleft, -⟩ hedge
    by_contra hout
    have := (mapCapturedX_left (not_lt.mp hout)).mp ((hostLane_left gap physicalX).mp (hleft (not_lt.mp hout)))
    linarith
  · refine fun h => ⟨fun hleft => ?_, hright⟩
    rw [hostLane_left, mapCapturedX_left hleft]
    by_contra hedge
    exact absurd hleft (not_le.mpr (h (not_lt.mp hedge)))

/-- At the end of the left cluster, with the default gap, the host presses the first lane of the right one. -/
theorem clusters_crossed : ¬ Clustered (14 / 100) (43 / 100) := by
  rintro ⟨hleft, -⟩
  exact absurd (hleft (by norm_num [leftEnd, clampGap, MIN_GAP, MAX_GAP])) (by
    rw [hostLane_left, mapCapturedX_left (by norm_num [leftEnd, clampGap, MIN_GAP, MAX_GAP])]
    norm_num [leftEnd, clampGap, MIN_GAP, MAX_GAP])

end Trackpad.ThumbTransform
