import Mathlib.Logic.Function.Iterate
import Mathlib.Data.List.Basic
/-!
# Cyclic redundancy checks

The bitwise check with a reflected polynomial, least significant bit first. A register is linear in the bits fed to it;
if the polynomial has a top bit, it is also injective, and no error confined to as many bits as the register has
goes unseen.
-/

namespace Crc

variable {w : Nat}

/-- One step of the register. -/
def shift (poly r : BitVec w) : BitVec w := if r.getLsbD 0 then (r >>> 1) ^^^ poly else r >>> 1

def ofBit (bit : Bool) : BitVec w := if bit then 1#w else 0#w

/-- The register after `bits`. -/
def run (poly r : BitVec w) (bits : List Bool) : BitVec w := bits.foldl (fun r bit => shift poly (r ^^^ ofBit bit)) r

/-- The word whose lowest bits are `bits`. -/
def ofBits : List Bool → BitVec w
  | [] => 0#w
  | bit :: bits => ofBit bit ^^^ (ofBits bits <<< 1)

/-! ## The step -/

variable (poly : BitVec w)

theorem ofBit_xor (a b : Bool) : (ofBit (a ^^ b) : BitVec w) = ofBit a ^^^ ofBit b := by
  cases a <;> cases b <;> simp [ofBit]

theorem shift_xor (a b : BitVec w) : shift poly (a ^^^ b) = shift poly a ^^^ shift poly b := by
  simp only [shift, BitVec.getLsbD_xor, BitVec.ushiftRight_xor_distrib]
  cases a.getLsbD 0 <;> cases b.getLsbD 0 <;> simp only [Bool.xor_false, Bool.xor_true, Bool.false_eq_true, if_true,
    if_false, Bool.not_true, Bool.not_false]
  · rw [BitVec.xor_assoc]
  · rw [BitVec.xor_assoc, BitVec.xor_assoc, BitVec.xor_comm poly]
  · -- Both steps add the polynomial, so neither does.
    have hcancel : poly ^^^ (b >>> 1 ^^^ poly) = b >>> 1 := by
      rw [BitVec.xor_comm, BitVec.xor_assoc, BitVec.xor_self, BitVec.xor_zero]
    rw [BitVec.xor_assoc, hcancel]

@[simp] theorem shift_zero : shift poly 0#w = 0#w := by simp [shift]

variable {poly}

theorem shift_ne_zero (hpoly : poly.msb = true) {r : BitVec w} (h : r ≠ 0#w) : shift poly r ≠ 0#w := by
  intro hzero
  unfold shift at hzero
  split at hzero
  · -- The top bit is the polynomial's.
    have hmsb := congrArg BitVec.msb hzero
    simp [BitVec.msb_xor, hpoly] at hmsb
  · next hlow =>
    apply h
    apply BitVec.eq_of_getLsbD_eq
    intro i _
    cases i with
    | zero => simpa using hlow
    | succ i =>
      have hbit := congrArg (fun v => BitVec.getLsbD v i) hzero
      simpa [Nat.add_comm] using hbit

theorem iterate_shift_ne_zero (hpoly : poly.msb = true) (n : Nat) {r : BitVec w} (h : r ≠ 0#w) :
    (shift poly)^[n] r ≠ 0#w := by
  induction n generalizing r with
  | zero => exact h
  | succ n ih => exact ih (shift_ne_zero hpoly h)

variable (poly)

/-! ## Feeding bits -/

theorem run_append (r : BitVec w) (xs ys : List Bool) : run poly r (xs ++ ys) = run poly (run poly r xs) ys :=
  List.foldl_append

/-- The register is linear in itself and in the bits. -/
theorem run_xor (a b : BitVec w) {xs ys : List Bool} (h : xs.length = ys.length) :
    run poly (a ^^^ b) (List.zipWith (· ^^ ·) xs ys) = run poly a xs ^^^ run poly b ys := by
  induction xs generalizing a b ys with
  | nil =>
    obtain rfl := List.length_eq_zero_iff.1 h.symm
    rfl
  | cons x xs ih =>
    cases ys with
    | nil => cases h
    | cons y ys =>
      have hrest := ih (shift poly (a ^^^ ofBit x)) (shift poly (b ^^^ ofBit y)) (by simpa using h)
      have hswap : a ^^^ b ^^^ ofBit (x ^^ y) = (a ^^^ ofBit x) ^^^ (b ^^^ ofBit y) := by
        rw [ofBit_xor]
        ac_rfl
      simp only [run, List.zipWith_cons_cons, List.foldl_cons] at hrest ⊢
      rw [hswap, shift_xor, hrest]

theorem run_zeros (r : BitVec w) {bits : List Bool} (h : ∀ bit ∈ bits, bit = false) :
    run poly r bits = (shift poly)^[bits.length] r := by
  induction bits generalizing r with
  | nil => rfl
  | cons bit bits ih =>
    obtain rfl := h bit List.mem_cons_self
    have hrest := ih (shift poly r) fun bit hbit => h bit (List.mem_cons_of_mem _ hbit)
    simpa [run, ofBit] using hrest

theorem getLsbD_ofBits (bits : List Bool) (i : Nat) :
    (ofBits bits : BitVec w).getLsbD i = (decide (i < w) && bits[i]?.getD false) := by
  induction bits generalizing i with
  | nil => simp [ofBits]
  | cons bit bits ih =>
    rw [ofBits, BitVec.getLsbD_xor, BitVec.getLsbD_shiftLeft, ih]
    cases i with
    | zero => cases bit <;> simp [ofBit]
    | succ i =>
      have hbit : (ofBit bit : BitVec w).getLsbD (i + 1) = false := by
        cases bit <;> simp [ofBit]
      rw [hbit]
      by_cases hi : i + 1 < w
      · simp [hi, show i < w by omega]
      · simp [hi]

/-- Bits below the top of the register are shifted out one by one. -/
theorem shift_ofBits {bits : List Bool} (h : bits.length < w) : shift poly (ofBits bits <<< 1) = ofBits bits := by
  have hlow : (ofBits bits <<< 1 : BitVec w).getLsbD 0 = false := by simp
  rw [shift, hlow]
  apply BitVec.eq_of_getLsbD_eq
  intro i hi
  have hget := getLsbD_ofBits (w := w) bits i
  by_cases hlast : 1 + i < w
  · simp [hlast, BitVec.getLsbD_eq_getElem hi]
  · have hnone : bits[i]? = none := List.getElem?_eq_none (by omega)
    simp [hlast, hget, hnone]

/-- Bits no more than the register holds may be added to it before they are shifted out. -/
theorem run_short (r : BitVec w) {bits : List Bool} (h : bits.length ≤ w) :
    run poly r bits = (shift poly)^[bits.length] (r ^^^ ofBits bits) := by
  induction bits generalizing r with
  | nil => simp [run, ofBits]
  | cons bit bits ih =>
    have hrest := ih (shift poly (r ^^^ ofBit bit)) (by simp at h; omega)
    simp only [run, List.foldl_cons, List.length_cons, Function.iterate_succ, Function.comp_apply] at hrest ⊢
    have hword : shift poly (ofBits bits <<< 1) = ofBits bits := shift_ofBits poly (by simp at h; omega)
    rw [hrest, ofBits, ← BitVec.xor_assoc, shift_xor poly (r ^^^ ofBit bit), hword]

/-! ## Errors -/

/-- The two differ within `w` consecutive bits at most. -/
def Burst (w : Nat) (xs ys : List Bool) : Prop := ∃ start, ∀ i : Nat, xs[i]? ≠ ys[i]? → start ≤ i ∧ i < start + w

theorem burst_append (before after : List Bool) {xs ys : List Bool} (hlength : ys.length = xs.length)
    (hshort : xs.length ≤ w) : Burst w (before ++ xs ++ after) (before ++ ys ++ after) := by
  refine ⟨before.length, ?_⟩
  intro i hne
  by_contra hout
  apply hne
  rcases Nat.lt_or_ge i before.length with hi | hi
  · rw [List.append_assoc, List.append_assoc, List.getElem?_append_left hi, List.getElem?_append_left hi]
  · have hbehind : before.length + xs.length ≤ i := by omega
    rw [List.getElem?_append_right (by simp; omega), List.getElem?_append_right (by simp; omega)]
    simp [hlength]

variable {poly}

theorem burst_seen (hpoly : poly.msb = true) (r : BitVec w) {xs ys : List Bool} (hlength : xs.length = ys.length)
    (hne : xs ≠ ys) (hburst : Burst w xs ys) : run poly r xs ≠ run poly r ys := by
  obtain ⟨start, hburst⟩ := hburst
  intro heq
  have hbit : ∀ i : Nat, (List.zipWith (· ^^ ·) xs ys)[i]? = some true ↔ xs[i]? ≠ ys[i]? := by
    intro i
    rw [List.getElem?_zipWith]
    rcases Nat.lt_or_ge i xs.length with hi | hi
    · rw [List.getElem?_eq_getElem hi, List.getElem?_eq_getElem (hlength ▸ hi)]
      simp
    · rw [List.getElem?_eq_none hi, List.getElem?_eq_none (hlength ▸ hi)]
      simp
  generalize herrors : List.zipWith (· ^^ ·) xs ys = errors at hbit
  have hzero : run poly 0#w errors = 0#w := by
    have hxor := run_xor poly r r hlength
    rwa [BitVec.xor_self, heq, BitVec.xor_self, herrors] at hxor
  -- Before and behind the burst no bit differs.
  have hsplit : errors = errors.take start ++ ((errors.drop start).take w ++ (errors.drop start).drop w) := by
    rw [List.take_append_drop, List.take_append_drop]
  have hbefore : ∀ bit ∈ errors.take start, bit = false := by
    intro bit hmem
    obtain ⟨i, hi⟩ := List.mem_iff_getElem?.1 hmem
    rw [List.getElem?_take] at hi
    split at hi
    · next hlt =>
      cases bit with
      | false => rfl
      | true => have := (hburst i ((hbit i).1 hi)).1; omega
    · cases hi
  have hafter : ∀ bit ∈ (errors.drop start).drop w, bit = false := by
    intro bit hmem
    obtain ⟨i, hi⟩ := List.mem_iff_getElem?.1 hmem
    rw [List.drop_drop, List.getElem?_drop] at hi
    cases bit with
    | false => rfl
    | true => have := (hburst _ ((hbit _).1 hi)).2; omega
  have hword : (ofBits ((errors.drop start).take w) : BitVec w) ≠ 0#w := by
    obtain ⟨i, hi⟩ : ∃ i : Nat, xs[i]? ≠ ys[i]? := by
      by_contra hall
      exact hne (List.ext_getElem? (by simpa using hall))
    obtain ⟨hfrom, hto⟩ := hburst i hi
    intro hnone
    have hget := congrArg (fun v => BitVec.getLsbD v (i - start)) hnone
    have hindex : start + (i - start) = i := by omega
    have htrue := (hbit i).2 hi
    simp only [getLsbD_ofBits, List.getElem?_take, List.getElem?_drop, hindex, htrue] at hget
    simp [show i - start < w by omega] at hget
  rw [hsplit, run_append, run_append, run_zeros poly 0#w hbefore, run_zeros poly _ hafter,
    run_short poly _ (List.length_take_le _ _)] at hzero
  have hstart : (shift poly)^[(errors.take start).length] 0#w = 0#w :=
    Function.iterate_fixed (shift_zero poly) _
  rw [hstart, BitVec.zero_xor] at hzero
  exact iterate_shift_ne_zero hpoly _ (iterate_shift_ne_zero hpoly _ hword) hzero

variable (poly)

/-- Behind the data comes its own check: the register then holds a constant. -/
theorem run_check (r final : BitVec w) {data check : List Bool} (hlength : check.length = w)
    (h : ofBits check = run poly r data ^^^ final) : run poly r (data ++ check) = (shift poly)^[w] final := by
  rw [run_append, run_short poly _ (Nat.le_of_eq hlength), h, ← BitVec.xor_assoc, BitVec.xor_self, BitVec.zero_xor, hlength]

end Crc
