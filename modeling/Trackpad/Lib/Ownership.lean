import Mathlib
/-!
# Counting owners

Each of finitely many owners holds at most one slot. `holders` counts the owners of a slot.
-/

namespace Ownership

variable {ι κ : Type} [Fintype ι] [DecidableEq κ]

/-- How many owners hold slot `k`. -/
def holders (owner : ι → Option κ) (k : κ) : Nat :=
  (Finset.univ.filter fun i => owner i = some k).card

theorem holders_le (owner : ι → Option κ) (k : κ) : holders owner k ≤ Fintype.card ι :=
  Finset.card_le_univ _

theorem holders_pos {owner : ι → Option κ} {k : κ} : 0 < holders owner k ↔ ∃ i, owner i = some k := by
  simp [holders, Finset.card_pos, Finset.Nonempty]

theorem holders_none (k : κ) : holders (fun _ : ι => (none : Option κ)) k = 0 := by
  simp [holders]

section Update
variable [DecidableEq ι]

/-- Giving owner `i` the slot `d` adds one to `d`. -/
theorem holders_update_some (owner : ι → Option κ) (i : ι) (d k : κ) :
    holders (Function.update owner i (some d)) k =
      holders (Function.update owner i none) k + if d = k then 1 else 0 := by
  have rest : ∀ v, (∑ x ∈ Finset.univ.erase i, if Function.update owner i v x = some k then 1 else 0) =
      ∑ x ∈ Finset.univ.erase i, if owner x = some k then 1 else 0 := fun v =>
    Finset.sum_congr rfl fun x hx => by rw [Function.update_of_ne (Finset.ne_of_mem_erase hx)]
  simp only [holders, Finset.card_filter]
  rw [← Finset.add_sum_erase _ _ (Finset.mem_univ i), ← Finset.add_sum_erase _ _ (Finset.mem_univ i),
    rest, rest]
  simp only [Function.update_self, reduceCtorEq, if_false, Option.some.injEq]
  omega

/-- An owner's slot, counted apart from the other owners' slots. -/
theorem holders_split {owner : ι → Option κ} {i : ι} {d : κ} (h : owner i = some d) (k : κ) :
    holders owner k = holders (Function.update owner i none) k + if d = k then 1 else 0 := by
  rw [← holders_update_some, ← h, Function.update_eq_self]

theorem holders_free {owner : ι → Option κ} {i : ι} (h : owner i = none) (k : κ) :
    holders owner k = holders (Function.update owner i none) k := by
  rw [← h, Function.update_eq_self]

end Update

/-- Owners given by a list of distinct names: the holders of `k` are the names whose slot is `k`. -/
theorem holders_of_list {α : Type} [DecidableEq ι] (name : α → ι) (slot : α → Option κ) (l : List α)
    (hn : (l.map name).Nodup) (k : κ) :
    holders (fun i => (l.find? (name · = i)).bind slot) k = (l.filter (slot · = some k)).length := by
  have hset : (Finset.univ.filter fun i => (l.find? (name · = i)).bind slot = some k) =
      ((l.filter (slot · = some k)).map name).toFinset := by
    ext i
    simp only [Finset.mem_filter, Finset.mem_univ, true_and, List.mem_toFinset, List.mem_map,
      List.mem_filter, decide_eq_true_eq, Option.bind_eq_some_iff]
    constructor
    · rintro ⟨a, ha, hs⟩
      exact ⟨a, ⟨List.mem_of_find?_eq_some ha, hs⟩, by simpa using List.find?_some ha⟩
    · rintro ⟨a, ⟨ha, hs⟩, rfl⟩
      cases hf : l.find? (name · = name a) with
      | none => exact absurd (List.find?_eq_none.1 hf a ha) (by simp)
      | some b =>
        have hb : name b = name a := by simpa using List.find?_some hf
        rw [List.inj_on_of_nodup_map hn (List.mem_of_find?_eq_some hf) ha hb]
        exact ⟨a, rfl, hs⟩
  rw [holders, hset, List.toFinset_card_of_nodup, List.length_map]
  exact hn.sublist (List.filter_sublist.map _)

end Ownership
