import Mathlib.Data.List.Infix
/-!
# Logs

A log lists what happened, the last event first. It is justified when each event was allowed by the ones
before it.
-/

namespace Logs

variable {ε : Type} {allowed : ε → List ε → Prop} {log : List ε}

def Justified (allowed : ε → List ε → Prop) : List ε → Prop
  | [] => True
  | e :: log => allowed e log ∧ Justified allowed log

theorem Justified.mono {allowed' : ε → List ε → Prop}
    (himp : ∀ e log, Justified allowed log → allowed e log → allowed' e log) (h : Justified allowed log) :
    Justified allowed' log := by
  induction log with
  | nil => trivial
  | cons e log ih => exact ⟨himp e log h.2 h.1, ih h.2⟩

/-- Each event was allowed by all that came before it. -/
theorem Justified.suffix (h : Justified allowed log) {e : ε} {older : List ε} (hsuffix : e :: older <:+ log) :
    allowed e older := by
  induction log with
  | nil => cases List.suffix_nil.1 hsuffix
  | cons e' log ih =>
    rcases List.suffix_cons_iff.1 hsuffix with heq | hsuffix
    · obtain ⟨rfl, rfl⟩ := List.cons.inj heq
      exact h.1
    · exact ih h.2 hsuffix

/-- What came before an event allowed it. -/
theorem Justified.before (h : Justified allowed log) {e : ε} (hmem : e ∈ log) :
    ∃ older, allowed e older ∧ Justified allowed older ∧ older ⊆ log := by
  induction log with
  | nil => cases hmem
  | cons e' log ih =>
    rcases List.mem_cons.1 hmem with rfl | hmem
    · exact ⟨log, h.1, h.2, List.subset_cons_self _ _⟩
    · obtain ⟨older, hallowed, holder, hsub⟩ := ih h.2 hmem
      exact ⟨older, hallowed, holder, List.subset_cons_of_subset _ hsub⟩

/-- Where an event of a kind is allowed only as the first of that kind, there is one at most. -/
theorem Justified.once (kind : ε → Prop)
    (hfirst : ∀ e older, kind e → allowed e older → ∀ e' ∈ older, ¬ kind e') (h : Justified allowed log) {a b : ε}
    (ha : a ∈ log) (hb : b ∈ log) (hkind : kind a) (hkind' : kind b) : a = b := by
  induction log with
  | nil => cases ha
  | cons e log ih =>
    rcases List.mem_cons.1 ha with rfl | hold <;> rcases List.mem_cons.1 hb with rfl | hold'
    · rfl
    · exact absurd hkind' (hfirst _ _ hkind h.1 _ hold')
    · exact absurd hkind (hfirst _ _ hkind' h.1 _ hold)
    · exact ih h.2 hold hold'

end Logs
