import Mathlib.Data.List.Perm.Subperm
/-!
# Which captured routes are missing

`missing_original_indices` matches every current item to a captured one of its own and returns what is left.
-/

namespace Trackpad.RoutePolicy

variable {T : Type} [DecidableEq T]

/-- The loop over `current`. -/
def match_items (original : List T) : List T → List Bool → Option (List Bool)
  | [], unmatched => some unmatched
  | item :: current, unmatched => do
    let found ← original.zipIdx.find? fun (candidate, index) => unmatched[index]? = some true && candidate = item
    match_items original current (unmatched.set found.2 false)

def missing_original_indices (current original : List T) : Option (List Nat) :=
  (match_items original current (List.replicate original.length true)).map fun unmatched =>
    unmatched.zipIdx.filterMap fun (missing, index) => if missing then some index else none

def same_multiset (left right : List T) : Bool :=
  left.length = right.length && match missing_original_indices left right with
    | some missing => missing.isEmpty
    | none => false

example : missing_original_indices [1, 2] [1, 1, 2] = some [1] := by decide

/-! ## What is left unmatched -/

def unmatched_items : List T → List Bool → List T
  | item :: original, true :: unmatched => item :: unmatched_items original unmatched
  | _ :: original, false :: unmatched => unmatched_items original unmatched
  | _, _ => []

omit [DecidableEq T] in
theorem unmatched_all (original : List T) : unmatched_items original (List.replicate original.length true) = original := by
  induction original with
  | nil => rfl
  | cons item original ih => simp [unmatched_items, List.replicate_succ, ih]

omit [DecidableEq T] in
/-- Matching takes one item away. -/
theorem unmatched_set {original : List T} {unmatched : List Bool} {index : Nat} {item : T}
    (hi : original[index]? = some item) (hu : unmatched[index]? = some true) :
    (item :: unmatched_items original (unmatched.set index false)).Perm (unmatched_items original unmatched) := by
  induction original generalizing unmatched index with
  | nil => simp at hi
  | cons first original ih =>
    cases unmatched with
    | nil => simp at hu
    | cons flag unmatched =>
      cases index with
      | zero =>
        obtain rfl : first = item := by simpa using hi
        obtain rfl : flag = true := by simpa using hu
        exact List.Perm.refl _
      | succ index =>
        have hrest := ih (by simpa using hi) (by simpa using hu)
        cases flag with
        | false => exact hrest
        | true => exact (List.Perm.swap first item _).trans (hrest.cons first)

omit [DecidableEq T] in
theorem mem_unmatched {original : List T} {unmatched : List Bool} {item : T}
    (h : item ∈ unmatched_items original unmatched) :
    ∃ index : Nat, original[index]? = some item ∧ unmatched[index]? = some true := by
  induction original generalizing unmatched with
  | nil => cases unmatched <;> simp [unmatched_items] at h
  | cons first original ih =>
    rcases unmatched with - | ⟨flag, unmatched⟩
    · simp [unmatched_items] at h
    · cases flag with
      | false =>
        obtain ⟨index, hi, hu⟩ := ih h
        exact ⟨index + 1, by simpa using hi, by simpa using hu⟩
      | true =>
        rcases List.mem_cons.1 h with rfl | h
        · exact ⟨0, by simp, by simp⟩
        · obtain ⟨index, hi, hu⟩ := ih h
          exact ⟨index + 1, by simpa using hi, by simpa using hu⟩

theorem match_items_some {original current : List T} {unmatched left : List Bool}
    (h : match_items original current unmatched = some left) :
    left.length = unmatched.length ∧
      (current ++ unmatched_items original left).Perm (unmatched_items original unmatched) := by
  induction current generalizing unmatched with
  | nil =>
    obtain rfl := Option.some.inj h
    exact ⟨rfl, List.Perm.refl _⟩
  | cons item current ih =>
    simp only [match_items, Option.bind_eq_bind, Option.bind_eq_some_iff] at h
    obtain ⟨⟨candidate, index⟩, hfind, hrest⟩ := h
    have hmem := List.mem_zipIdx_iff_getElem?.1 (List.mem_of_find?_eq_some hfind)
    have hfound := List.find?_some hfind
    simp only [Bool.and_eq_true, decide_eq_true_eq] at hfound
    obtain ⟨hu, rfl⟩ := hfound
    obtain ⟨hlength, hperm⟩ := ih hrest
    exact ⟨by simpa using hlength, (hperm.cons candidate).trans (unmatched_set hmem hu)⟩

/-- An item with no partner left is one too many. -/
theorem match_items_none {original current : List T} {unmatched : List Bool}
    (h : match_items original current unmatched = none) :
    ¬current.Subperm (unmatched_items original unmatched) := by
  induction current generalizing unmatched with
  | nil => cases h
  | cons item current ih =>
    intro hsub
    obtain ⟨index, hi, hu⟩ := mem_unmatched (hsub.subset List.mem_cons_self)
    simp only [match_items, Option.bind_eq_bind, Option.bind_eq_none_iff] at h
    cases hfind : original.zipIdx.find? fun (candidate, index) => unmatched[index]? = some true && candidate = item with
    | none =>
      have hnone := List.find?_eq_none.1 hfind (item, index) (List.mem_zipIdx_iff_getElem?.2 hi)
      simp [hu] at hnone
    | some found =>
      have hmem := List.mem_zipIdx_iff_getElem?.1 (List.mem_of_find?_eq_some hfind)
      have hfound := List.find?_some hfind
      simp only [Bool.and_eq_true, decide_eq_true_eq] at hfound
      obtain ⟨hu', hitem⟩ := hfound
      refine ih (h found hfind) (List.subperm_cons item |>.1 (hsub.trans ?_))
      rw [← hitem]
      exact (unmatched_set hmem hu').symm.subperm

omit [DecidableEq T] in
/-- The indices returned are those of the unmatched items. -/
theorem unmatched_indices (original : List T) (unmatched : List Bool) (start : Nat) (before : List T)
    (hlength : unmatched.length = original.length) (hstart : before.length = start) :
    ((unmatched.zipIdx start).filterMap fun x => if x.1 then some x.2 else none).filterMap ((before ++ original)[·]?) =
      unmatched_items original unmatched := by
  induction original generalizing unmatched start before with
  | nil =>
    obtain rfl := List.length_eq_zero_iff.1 hlength
    rfl
  | cons item original ih =>
    cases unmatched with
    | nil => cases hlength
    | cons flag unmatched =>
      have hrest := ih unmatched (start + 1) (before ++ [item]) (by simpa using hlength) (by simp [hstart])
      rw [List.append_assoc, List.singleton_append] at hrest
      cases flag with
      | false => simpa [unmatched_items] using hrest
      | true => simpa [unmatched_items, ← hstart] using hrest

/-- The current items and the missing ones are the original ones. -/
theorem missing_original_some {current original : List T} {missing : List Nat}
    (h : missing_original_indices current original = some missing) :
    (current ++ missing.filterMap (original[·]?)).Perm original := by
  obtain ⟨unmatched, hmatch, rfl⟩ := Option.map_eq_some_iff.1 h
  obtain ⟨hlength, hperm⟩ := match_items_some hmatch
  have hindices := unmatched_indices original unmatched 0 [] (by simpa using hlength) rfl
  rw [List.nil_append] at hindices
  rw [hindices]
  rwa [unmatched_all] at hperm

theorem missing_original_none {current original : List T} (h : missing_original_indices current original = none) :
    ¬current.Subperm original := by
  have hnone := match_items_none (Option.map_eq_none_iff.1 h)
  rwa [unmatched_all] at hnone

theorem same_multiset_perm {left right : List T} (h : same_multiset left right = true) : left.Perm right := by
  rw [same_multiset, Bool.and_eq_true] at h
  obtain ⟨-, h⟩ := h
  cases hmissing : missing_original_indices left right with
  | none => rw [hmissing] at h; cases h
  | some missing =>
    rw [hmissing] at h
    obtain rfl := List.isEmpty_iff.1 h
    simpa using missing_original_some hmissing

theorem missing_original_nil (original : List T) :
    missing_original_indices [] original = some (List.range original.length) := by
  simp only [missing_original_indices, match_items, Option.map_some, Option.some.injEq]
  rw [List.range_eq_range']
  generalize 0 = start
  induction original generalizing start with
  | nil => rfl
  | cons item original ih => simp [List.replicate_succ, List.range'_succ, ih]

theorem range_items (original : List T) : (List.range original.length).filterMap (original[·]?) = original := by
  have hmissing := missing_original_nil original
  simp only [missing_original_indices, match_items, Option.map_some, Option.some.injEq] at hmissing
  rw [← hmissing]
  have hindices := unmatched_indices original (List.replicate original.length true) 0 [] (by simp) rfl
  rw [List.nil_append, unmatched_all] at hindices
  exact hindices

/-! ## The multiset difference -/

omit [DecidableEq T] in
/-- The indices collected from `start` on are increasing and run over the flags. -/
theorem indices_increase (unmatched : List Bool) (start : Nat) :
    ((unmatched.zipIdx start).filterMap fun x => if x.1 then some x.2 else none).Pairwise (· < ·) ∧
      ∀ index ∈ (unmatched.zipIdx start).filterMap fun x => if x.1 then some x.2 else none,
        start ≤ index ∧ index < start + unmatched.length := by
  induction unmatched generalizing start with
  | nil => simp
  | cons flag unmatched ih =>
    obtain ⟨hsorted, hrange⟩ := ih (start + 1)
    have hlater : ∀ index ∈ (unmatched.zipIdx (start + 1)).filterMap fun x => if x.1 then some x.2 else none,
        start < index ∧ index < start + (unmatched.length + 1) := by
      intro index hindex
      have := hrange index hindex
      omega
    cases flag with
    | false =>
      refine ⟨by simpa using hsorted, ?_⟩
      intro index hindex
      have := hlater index (by simpa using hindex)
      simp only [List.length_cons]
      omega
    | true =>
      simp only [List.zipIdx_cons, List.filterMap_cons, if_true, List.pairwise_cons, List.mem_cons, List.length_cons]
      refine ⟨⟨fun index hindex => (hlater index hindex).1, hsorted⟩, ?_⟩
      rintro index (rfl | hindex)
      · omega
      · have := hlater index hindex
        omega

theorem missing_original_increasing {current original : List T} {missing : List Nat}
    (h : missing_original_indices current original = some missing) :
    missing.Pairwise (· < ·) ∧ ∀ index ∈ missing, index < original.length := by
  obtain ⟨unmatched, hmatch, rfl⟩ := Option.map_eq_some_iff.1 h
  obtain ⟨hlength, -⟩ := match_items_some hmatch
  obtain ⟨hsorted, hrange⟩ := indices_increase unmatched 0
  refine ⟨hsorted, ?_⟩
  intro index hindex
  have := hrange index hindex
  simp only [hlength, List.length_replicate] at this
  omega

theorem missing_original_isSome (current original : List T) :
    (missing_original_indices current original).isSome ↔ current.Subperm original := by
  cases h : missing_original_indices current original with
  | none => simp [missing_original_none h]
  | some missing =>
    have hperm := missing_original_some h
    simpa using (List.sublist_append_left current _).subperm.trans hperm.subperm

/-- Nothing is missing from a permutation: with it in place, whatever were missing would be too much. -/
theorem perm_same_multiset {left right : List T} (h : left.Perm right) : same_multiset left right = true := by
  obtain ⟨missing, hmissing⟩ := Option.isSome_iff_exists.1 ((missing_original_isSome left right).2 h.subperm)
  obtain ⟨-, hrange⟩ := missing_original_increasing hmissing
  have hlength := (missing_original_some hmissing).length_eq
  rw [List.length_append, h.length_eq, Nat.add_eq_left, List.length_eq_zero_iff, List.filterMap_eq_nil_iff] at hlength
  have hnil : missing = [] := by
    apply List.eq_nil_iff_forall_not_mem.2
    intro index hindex
    have hnone := hlength index hindex
    rw [List.getElem?_eq_none_iff] at hnone
    have := hrange index hindex
    omega
  simp [same_multiset, hmissing, hnil, h.length_eq]

/-- `missing_original_indices` is the multiset difference, and `same_multiset` equality up to order. -/
theorem missing_original_correct (current original : List T) :
    ((missing_original_indices current original).isSome ↔ current.Subperm original) ∧
      (∀ missing, missing_original_indices current original = some missing →
        missing.Pairwise (· < ·) ∧ (∀ index ∈ missing, index < original.length) ∧
        (current ++ missing.filterMap (original[·]?)).Perm original) ∧
      (same_multiset current original = true ↔ current.Perm original) := by
  refine ⟨missing_original_isSome current original, ?_, same_multiset_perm, perm_same_multiset⟩
  intro missing h
  obtain ⟨hsorted, hrange⟩ := missing_original_increasing h
  exact ⟨hsorted, hrange, missing_original_some h⟩

end Trackpad.RoutePolicy
