import Mathlib.Logic.Relation
import Mathlib.Order.Lattice
import Mathlib.Data.List.Perm.Basic
import Mathlib.Data.List.Pairwise
import Mathlib.Order.MinMax
/-!
# Spans of overlapping intervals

Keyed elements own closed intervals of a linear order. A span is a chain of overlapping elements together with its
hull, which the elements fill. Spans that stand apart are the connected components of overlap.
-/

namespace Intervals

variable {ι κ α : Type} [LinearOrder α]

/-- Elements with a hull. -/
structure Span (ι κ α : Type) where
  key : κ
  first : α
  last : α
  members : List ι

/-- How elements are read: a key, and an interval that is not empty. -/
structure Reading (ι κ α : Type) [LinearOrder α] where
  key : ι → κ
  low : ι → α
  high : ι → α
  le : ∀ i, low i ≤ high i

variable (r : Reading ι κ α)

/-- Two elements of one key have a point in common. -/
def Overlap (i j : ι) : Prop := r.key i = r.key j ∧ r.low i ≤ r.high j ∧ r.low j ≤ r.high i

/-- A chain of overlapping elements of `l`. -/
def Linked (l : List ι) : ι → ι → Prop := Relation.ReflTransGen fun i j => i ∈ l ∧ j ∈ l ∧ Overlap r i j

structure Tight (l : List ι) (s : Span ι κ α) : Prop where
  key : ∀ i ∈ s.members, r.key i = s.key
  within : ∀ i ∈ s.members, s.first ≤ r.low i ∧ r.high i ≤ s.last
  fills : ∀ x, s.first ≤ x → x ≤ s.last → ∃ i ∈ s.members, r.low i ≤ x ∧ x ≤ r.high i
  linked : ∀ i ∈ s.members, ∀ j ∈ s.members, Linked r l i j
  le : s.first ≤ s.last

variable {r}

theorem Overlap.refl (i : ι) : Overlap r i i := ⟨rfl, r.le i, r.le i⟩

theorem Overlap.symm {i j : ι} (h : Overlap r i j) : Overlap r j i := ⟨h.1.symm, h.2.2, h.2.1⟩

theorem Linked.symm {l : List ι} {i j : ι} (h : Linked r l i j) : Linked r l j i := by
  induction h with
  | refl => exact .refl
  | tail _ hstep ih => exact .head ⟨hstep.2.1, hstep.1, hstep.2.2.symm⟩ ih

theorem Linked.mono {l l' : List ι} (hl : l ⊆ l') {i j : ι} (h : Linked r l i j) : Linked r l' i j :=
  Relation.ReflTransGen.mono (fun _ _ h => ⟨hl h.1, hl h.2.1, h.2.2⟩) i j h

/-! ## Growing a span -/

theorem Tight.mono {l l' : List ι} {s : Span ι κ α} (hl : l ⊆ l') (h : Tight r l s) : Tight r l' s :=
  ⟨h.key, h.within, h.fills, fun i hi j hj => (h.linked i hi j hj).mono hl, h.le⟩

/-- An element that overlaps the hull overlaps a member. -/
theorem Tight.meets {l : List ι} {s : Span ι κ α} (h : Tight r l s) {i : ι} (hkey : s.key = r.key i)
    (hlow : r.low i ≤ s.last) (hhigh : s.first ≤ r.high i) : ∃ j ∈ s.members, Overlap r i j := by
  obtain ⟨j, hj, hjlow, hjhigh⟩ := h.fills (max (r.low i) s.first) (le_max_right _ _) (max_le hlow h.le)
  refine ⟨j, hj, by rw [h.key j hj, hkey], (le_max_left _ _).trans hjhigh, hjlow.trans (max_le (r.le i) hhigh)⟩

/-- Members that fill their hull but for the interval of `i`, and are linked to it. -/
structure Pending (r : Reading ι κ α) (l : List ι) (i : ι) (s : Span ι κ α) : Prop where
  key_eq : s.key = r.key i
  key : ∀ j ∈ s.members, r.key j = s.key
  within : ∀ j ∈ s.members, s.first ≤ r.low j ∧ r.high j ≤ s.last
  fills : ∀ x, s.first ≤ x → x ≤ s.last →
    (∃ j ∈ s.members, r.low j ≤ x ∧ x ≤ r.high j) ∨ (r.low i ≤ x ∧ x ≤ r.high i)
  linked : ∀ j ∈ s.members, Linked r l i j
  low_le : r.low i ≤ s.last
  le_high : s.first ≤ r.high i

theorem Tight.pending {l : List ι} {s : Span ι κ α} (h : Tight r l s) {i : ι} (hi : i ∈ l) (hl : s.members ⊆ l)
    (hkey : s.key = r.key i) (hlow : r.low i ≤ s.last) (hhigh : s.first ≤ r.high i) : Pending r l i s := by
  obtain ⟨j, hj, hoverlap⟩ := h.meets hkey hlow hhigh
  refine ⟨hkey, h.key, h.within, fun x hx hx' => .inl (h.fills x hx hx'), ?_, hlow, hhigh⟩
  intro k hk
  exact .head ⟨hi, hl hj, hoverlap⟩ (h.linked j hj k hk)

/-- The members of both, in the hull of both. -/
def Span.union (s t : Span ι κ α) : Span ι κ α :=
  ⟨s.key, min s.first t.first, max s.last t.last, s.members ++ t.members⟩

theorem Pending.union {l : List ι} {i : ι} {s t : Span ι κ α} (hs : Pending r l i s) (ht : Pending r l i t) :
    Pending r l i (s.union t) where
  key_eq := hs.key_eq
  key := by
    intro j hj
    rcases List.mem_append.1 hj with hj | hj
    · exact hs.key j hj
    · rw [ht.key j hj, ht.key_eq]
      exact hs.key_eq.symm
  within := by
    intro j hj
    rcases List.mem_append.1 hj with hj | hj
    · exact ⟨(min_le_left _ _).trans (hs.within j hj).1, (hs.within j hj).2.trans (le_max_left _ _)⟩
    · exact ⟨(min_le_right _ _).trans (ht.within j hj).1, (ht.within j hj).2.trans (le_max_right _ _)⟩
  fills := by
    intro x hx hx'
    have hleft : s.first ≤ x → x ≤ s.last → (∃ j ∈ (s.union t).members, r.low j ≤ x ∧ x ≤ r.high j) ∨
        (r.low i ≤ x ∧ x ≤ r.high i) := by
      intro hfirst hlast
      exact (hs.fills x hfirst hlast).imp_left fun ⟨j, hj, h⟩ => ⟨j, List.mem_append_left _ hj, h⟩
    have hright : t.first ≤ x → x ≤ t.last → (∃ j ∈ (s.union t).members, r.low j ≤ x ∧ x ≤ r.high j) ∨
        (r.low i ≤ x ∧ x ≤ r.high i) := by
      intro hfirst hlast
      exact (ht.fills x hfirst hlast).imp_left fun ⟨j, hj, h⟩ => ⟨j, List.mem_append_right _ hj, h⟩
    -- On one side of `i`, the span that reaches out to `x` reaches back to `i`.
    rcases lt_or_ge x (r.low i) with hlow | hlow
    · rcases min_le_iff.1 hx with hfirst | hfirst
      · exact hleft hfirst (hlow.le.trans hs.low_le)
      · exact hright hfirst (hlow.le.trans ht.low_le)
    · rcases lt_or_ge (r.high i) x with hhigh | hhigh
      · rcases le_max_iff.1 hx' with hlast | hlast
        · exact hleft (hs.le_high.trans hhigh.le) hlast
        · exact hright (ht.le_high.trans hhigh.le) hlast
      · exact .inr ⟨hlow, hhigh⟩
  linked := by
    intro j hj
    rcases List.mem_append.1 hj with hj | hj
    · exact hs.linked j hj
    · exact ht.linked j hj
  low_le := hs.low_le.trans (le_max_left _ _)
  le_high := (min_le_left _ _).trans hs.le_high

/-- The span with one more member. -/
def Span.add (r : Reading ι κ α) (i : ι) (s : Span ι κ α) : Span ι κ α :=
  ⟨s.key, min s.first (r.low i), max s.last (r.high i), s.members ++ [i]⟩

theorem Pending.add {l : List ι} {i : ι} {s : Span ι κ α} (h : Pending r l i s) : Tight r l (s.add r i) where
  key := by
    intro j hj
    rcases List.mem_append.1 hj with hj | hj
    · exact h.key j hj
    · rw [List.mem_singleton.1 hj]
      exact h.key_eq.symm
  within := by
    intro j hj
    rcases List.mem_append.1 hj with hj | hj
    · exact ⟨(min_le_left _ _).trans (h.within j hj).1, (h.within j hj).2.trans (le_max_left _ _)⟩
    · rw [List.mem_singleton.1 hj]
      exact ⟨min_le_right _ _, le_max_right _ _⟩
  fills := by
    intro x hx hx'
    have hown : r.low i ≤ x → x ≤ r.high i → ∃ j ∈ (s.add r i).members, r.low j ≤ x ∧ x ≤ r.high j :=
      fun hlow hhigh => ⟨i, List.mem_append_right _ (List.mem_singleton_self i), hlow, hhigh⟩
    have hold : s.first ≤ x → x ≤ s.last → ∃ j ∈ (s.add r i).members, r.low j ≤ x ∧ x ≤ r.high j := by
      intro hfirst hlast
      rcases h.fills x hfirst hlast with ⟨j, hj, hjx⟩ | ⟨hlow, hhigh⟩
      · exact ⟨j, List.mem_append_left _ hj, hjx⟩
      · exact hown hlow hhigh
    rcases lt_or_ge x (r.low i) with hlow | hlow
    · exact hold ((min_le_iff.1 hx).resolve_right hlow.not_ge) (hlow.le.trans h.low_le)
    · rcases lt_or_ge (r.high i) x with hhigh | hhigh
      · exact hold (h.le_high.trans hhigh.le) ((le_max_iff.1 hx').resolve_right hhigh.not_ge)
      · exact hown hlow hhigh
  linked := by
    have hto : ∀ j ∈ (s.add r i).members, Linked r l i j := by
      intro j hj
      rcases List.mem_append.1 hj with hj | hj
      · exact h.linked j hj
      · rw [List.mem_singleton.1 hj]
        exact .refl
    intro j hj k hk
    exact (hto j hj).symm.trans (hto k hk)
  le := (min_le_right _ _).trans ((r.le i).trans (le_max_right _ _))

/-- An element on its own. -/
theorem tight_single (l : List ι) (i : ι) : Tight r l ⟨r.key i, r.low i, r.high i, [i]⟩ where
  key := by simp
  within := by simp
  fills := by
    intro x hlow hhigh
    exact ⟨i, List.mem_singleton_self i, hlow, hhigh⟩
  linked := by
    intro j hj k hk
    rw [List.mem_singleton.1 hj, List.mem_singleton.1 hk]
    exact .refl
  le := r.le i

/-! ## Spans that stand apart -/

variable (r)

/-- Two spans of a key in `live` have no point in common. -/
def Apart (live : κ → Prop) (s t : Span ι κ α) : Prop :=
  s.key = t.key → live s.key → s.last < t.first ∨ t.last < s.first

/-- The spans of the elements `l`: each is tight, those of a live key stand apart, and together they hold `l`. -/
structure Components (live : κ → Prop) (l : List ι) (spans : List (Span ι κ α)) : Prop where
  tight : ∀ s ∈ spans, Tight r l s
  apart : spans.Pairwise (Apart live)
  members : (spans.flatMap Span.members).Perm l

variable {r}

instance (live : κ → Prop) : Std.Symm (fun s t : Span ι κ α => Apart live s t) where
  symm _ _ h hkey hlive := (h hkey.symm (hkey ▸ hlive)).symm

namespace Components

variable {live : κ → Prop} {l : List ι} {spans : List (Span ι κ α)} (h : Components r live l spans)
include h

theorem mem {i : ι} : i ∈ l ↔ ∃ s ∈ spans, i ∈ s.members := by
  rw [← h.members.mem_iff, List.mem_flatMap]

/-- Spans of a live key that meet are the same. -/
theorem same_of_meet {s t : Span ι κ α} (hs : s ∈ spans) (ht : t ∈ spans) (hkey : s.key = t.key) (hlive : live s.key)
    (hst : s.first ≤ t.last) (hts : t.first ≤ s.last) : s = t := by
  by_contra hne
  have hapart : Apart live s t := h.apart.forall hs ht hne
  rcases hapart hkey hlive with hlt | hlt
  · exact (hts.trans_lt hlt).false
  · exact (hst.trans_lt hlt).false

/-- Overlapping members have one span. -/
theorem same_of_overlap {s t : Span ι κ α} (hs : s ∈ spans) (ht : t ∈ spans) {i j : ι} (hi : i ∈ s.members)
    (hj : j ∈ t.members) (hlive : live (r.key i)) (hoverlap : Overlap r i j) : s = t := by
  have hskey := (h.tight s hs).key i hi
  have htkey := (h.tight t ht).key j hj
  have hsi := (h.tight s hs).within i hi
  have htj := (h.tight t ht).within j hj
  refine h.same_of_meet hs ht (by rw [← hskey, ← htkey, hoverlap.1]) (hskey ▸ hlive) ?_ ?_
  · exact hsi.1.trans (hoverlap.2.1.trans htj.2)
  · exact htj.1.trans (hoverlap.2.2.trans hsi.2)

/-- Two elements of a live key share a span exactly if a chain links them. -/
theorem shared_iff {i j : ι} (hi : i ∈ l) (hlive : live (r.key i)) :
    (∃ s ∈ spans, i ∈ s.members ∧ j ∈ s.members) ↔ Linked r l i j := by
  constructor
  · rintro ⟨s, hs, his, hjs⟩
    exact (h.tight s hs).linked i his j hjs
  · intro hlinked
    obtain ⟨s, hs, his⟩ := h.mem.1 hi
    refine ⟨s, hs, his, ?_⟩
    -- Every step of the chain stays in the span of `i`.
    have hchain : r.key j = r.key i ∧ j ∈ s.members := by
      induction hlinked with
      | refl => exact ⟨rfl, his⟩
      | tail _ hstep ih =>
        obtain ⟨hkey, hmem⟩ := ih
        obtain ⟨t, ht, hjt⟩ := h.mem.1 hstep.2.1
        have hsame := h.same_of_overlap hs ht hmem hjt (hkey ▸ hlive) hstep.2.2
        exact ⟨hstep.2.2.1.symm.trans hkey, hsame ▸ hjt⟩
    exact hchain.2

end Components

/-! ## The components are unique -/

theorem Tight.le_of_subset {l l' : List ι} {s t : Span ι κ α} (hs : Tight r l s) (ht : Tight r l' t)
    (h : s.members ⊆ t.members) : t.first ≤ s.first ∧ s.last ≤ t.last := by
  constructor
  · obtain ⟨i, hi, hlow, -⟩ := hs.fills s.first le_rfl hs.le
    exact (ht.within i (h hi)).1.trans hlow
  · obtain ⟨i, hi, -, hhigh⟩ := hs.fills s.last hs.le le_rfl
    exact hhigh.trans (ht.within i (h hi)).2

namespace Components

variable {live : κ → Prop} {l l' : List ι} {spans spans' : List (Span ι κ α)}

/-- A live span holds the elements of its key that lie in its hull. -/
theorem members_perm [DecidableEq κ] (h : Components r live l spans) {s : Span ι κ α} (hs : s ∈ spans) (hlive : live s.key) :
    s.members.Perm (l.filter fun i => r.key i = s.key ∧ s.first ≤ r.low i ∧ r.high i ≤ s.last) := by
  obtain ⟨before, after, rfl⟩ := List.append_of_mem hs
  have hperm := h.members
  -- No member of another span lies there.
  have hnone : ∀ t ∈ before ++ after, t.members.filter
      (fun i => r.key i = s.key ∧ s.first ≤ r.low i ∧ r.high i ≤ s.last) = [] := by
    intro t ht
    have hmem : t ∈ before ++ s :: after := by
      rcases List.mem_append.1 ht with ht | ht
      · exact List.mem_append_left _ ht
      · exact List.mem_append_right _ (List.mem_cons_of_mem _ ht)
    have hapart : Apart live s t := by
      have hpairs := List.pairwise_append.1 h.apart
      rcases List.mem_append.1 ht with ht | ht
      · exact Std.Symm.symm _ _ (hpairs.2.2 t ht s List.mem_cons_self)
      · exact (List.pairwise_cons.1 hpairs.2.1).1 t ht
    rw [List.filter_eq_nil_iff]
    intro i hi
    simp only [decide_eq_true_eq, not_and]
    intro hkey hfirst hlast
    have hwithin := (h.tight t hmem).within i hi
    rcases hapart (hkey.symm.trans ((h.tight t hmem).key i hi)) hlive with hlt | hlt
    · exact ((hwithin.1.trans (r.le i)).trans hlast).not_gt hlt
    · exact ((hfirst.trans (r.le i)).trans hwithin.2).not_gt hlt
  have hall : s.members.filter (fun i => r.key i = s.key ∧ s.first ≤ r.low i ∧ r.high i ≤ s.last) = s.members := by
    rw [List.filter_eq_self]
    intro i hi
    simpa using ⟨(h.tight s hs).key i hi, (h.tight s hs).within i hi⟩
  have hfilter := hperm.filter fun i => r.key i = s.key ∧ s.first ≤ r.low i ∧ r.high i ≤ s.last
  have hbefore : (before.flatMap Span.members).filter
      (fun i => r.key i = s.key ∧ s.first ≤ r.low i ∧ r.high i ≤ s.last) = [] := by
    rw [List.filter_flatMap, List.flatMap_eq_nil_iff]
    exact fun t ht => hnone t (List.mem_append_left _ ht)
  have hafter : (after.flatMap Span.members).filter
      (fun i => r.key i = s.key ∧ s.first ≤ r.low i ∧ r.high i ≤ s.last) = [] := by
    rw [List.filter_flatMap, List.flatMap_eq_nil_iff]
    exact fun t ht => hnone t (List.mem_append_right _ ht)
  rw [List.flatMap_append, List.flatMap_cons, List.filter_append, List.filter_append, hbefore, hafter, hall,
    List.nil_append, List.append_nil] at hfilter
  exact hfilter

/-- The live spans of the same elements, in any order, are the same up to the order of their members. -/
theorem unique [DecidableEq κ] (h : Components r live l spans) (h' : Components r live l' spans') (hl : l.Perm l')
    {s : Span ι κ α} (hs : s ∈ spans) (hlive : live s.key) :
    ∃ t ∈ spans', t.key = s.key ∧ t.first = s.first ∧ t.last = s.last ∧ t.members.Perm s.members := by
  obtain ⟨i, hi, -⟩ := (h.tight s hs).fills s.first le_rfl (h.tight s hs).le
  have hil : i ∈ l := h.mem.2 ⟨s, hs, hi⟩
  have hkey := (h.tight s hs).key i hi
  obtain ⟨t, ht, hit⟩ := h'.mem.1 (hl.mem_iff.1 hil)
  have htkey := (h'.tight t ht).key i hit
  have hsame : t.key = s.key := htkey.symm.trans hkey
  -- Both hold the elements linked to `i`.
  have hst : s.members ⊆ t.members := by
    intro j hj
    have hlinked := ((h.tight s hs).linked i hi j hj).mono hl.subset
    obtain ⟨t', ht', hit', hjt'⟩ := (h'.shared_iff (hl.mem_iff.1 hil) (hkey ▸ hlive)).2 hlinked
    rwa [h'.same_of_overlap ht ht' hit hit' (hkey ▸ hlive) (Overlap.refl i)]
  have hts : t.members ⊆ s.members := by
    intro j hj
    have hlinked := ((h'.tight t ht).linked i hit j hj).mono hl.symm.subset
    obtain ⟨s', hs', his', hjs'⟩ := (h.shared_iff hil (hkey ▸ hlive)).2 hlinked
    rwa [h.same_of_overlap hs hs' hi his' (hkey ▸ hlive) (Overlap.refl i)]
  have hle := (h.tight s hs).le_of_subset (h'.tight t ht) hst
  have hge := (h'.tight t ht).le_of_subset (h.tight s hs) hts
  have hfirst := le_antisymm hle.1 hge.1
  have hlast := le_antisymm hge.2 hle.2
  refine ⟨t, ht, hsame, hfirst, hlast, ?_⟩
  have htmembers := h'.members_perm ht (hsame ▸ hlive)
  rw [hsame, hfirst, hlast] at htmembers
  exact htmembers.trans ((hl.symm.filter _).trans (h.members_perm hs hlive).symm)

end Components

/-! ## One element more -/

/-- Whether an element joins a span: both are of one live key and meet. -/
def Joins (r : Reading ι κ α) (live : κ → Prop) (i : ι) (s : Span ι κ α) : Prop :=
  s.key = r.key i ∧ live (r.key i) ∧ r.low i ≤ s.last ∧ s.first ≤ r.high i

theorem foldl_union_members (s : Span ι κ α) (spans : List (Span ι κ α)) :
    (spans.foldl Span.union s).members = s.members ++ spans.flatMap Span.members := by
  induction spans generalizing s with
  | nil => simp
  | cons t spans ih => rw [List.foldl_cons, ih, Span.union, List.flatMap_cons, List.append_assoc]

theorem Pending.foldl {l : List ι} {i : ι} {s : Span ι κ α} (hs : Pending r l i s) {spans : List (Span ι κ α)}
    (h : ∀ t ∈ spans, Pending r l i t) : Pending r l i (spans.foldl Span.union s) := by
  induction spans generalizing s with
  | nil => exact hs
  | cons t spans ih =>
    exact ih (hs.union (h t List.mem_cons_self)) fun u hu => h u (List.mem_cons_of_mem _ hu)

namespace Components

variable {live : κ → Prop} {l : List ι} {i : ι}

/-- An element that joins no span starts one. -/
theorem start {spans : List (Span ι κ α)} (h : Components r live l spans) (hmiss : ∀ s ∈ spans, ¬Joins r live i s) :
    Components r live (l ++ [i]) (spans ++ [⟨r.key i, r.low i, r.high i, [i]⟩]) where
  tight := by
    intro s hs
    rcases List.mem_append.1 hs with hs | hs
    · exact (h.tight s hs).mono (List.subset_append_left _ _)
    · rw [List.mem_singleton.1 hs]
      exact tight_single _ i
  apart := by
    rw [List.pairwise_append]
    refine ⟨h.apart, List.pairwise_singleton _ _, ?_⟩
    intro s hs t ht hkey hlive
    rw [List.mem_singleton.1 ht] at hkey ⊢
    by_contra hmeet
    rw [not_or, not_lt, not_lt] at hmeet
    have hown : s.key = r.key i := hkey
    exact hmiss s hs ⟨hown, hown ▸ hlive, hmeet.1, hmeet.2⟩
  members := by simpa using h.members.append_right [i]

/-- An element that joins spans unites them. -/
theorem join {before after misses : List (Span ι κ α)} {s : Span ι κ α}
    (h : Components r live l (before ++ s :: after)) (hits : List (Span ι κ α)) (hsplit : (hits ++ misses).Perm after)
    (horder : misses.Sublist after) (hs : Joins r live i s) (hhits : ∀ t ∈ hits, Joins r live i t)
    (hbefore : ∀ t ∈ before, ¬Joins r live i t) (hmisses : ∀ t ∈ misses, ¬Joins r live i t) :
    Components r live (l ++ [i]) (before ++ (hits.foldl Span.union s).add r i :: misses) := by
  have hgroup : ∀ t ∈ s :: hits, t ∈ before ++ s :: after ∧ Joins r live i t := by
    intro t ht
    rcases List.mem_cons.1 ht with rfl | ht
    · exact ⟨by simp, hs⟩
    · exact ⟨by simp [hsplit.mem_iff.1 (List.mem_append_left _ ht)], hhits t ht⟩
  have hkept : ∀ t ∈ before ++ misses, t ∈ before ++ s :: after ∧ ¬Joins r live i t := by
    intro t ht
    rcases List.mem_append.1 ht with ht | ht
    · exact ⟨by simp [ht], hbefore t ht⟩
    · exact ⟨by simp [horder.subset ht], hmisses t ht⟩
  have hpending : ∀ t ∈ s :: hits, Pending r (l ++ [i]) i t := by
    intro t ht
    obtain ⟨hmem, hkey, -, hlow, hhigh⟩ := hgroup t ht
    refine ((h.tight t hmem).mono (List.subset_append_left l [i])).pending (by simp) ?_ hkey hlow hhigh
    intro j hj
    exact List.mem_append_left _ (h.mem.2 ⟨t, hmem, hj⟩)
  have hunion := (hpending s List.mem_cons_self).foldl fun t ht => hpending t (List.mem_cons_of_mem _ ht)
  have htight := hunion.add
  have hmembers : ((hits.foldl Span.union s).add r i).members = s.members ++ hits.flatMap Span.members ++ [i] := by
    rw [Span.add, foldl_union_members]
  -- A point of the united hull lies in a member, so in a span that joined or in `i`.
  have hapart : ∀ t ∈ before ++ misses, Apart live ((hits.foldl Span.union s).add r i) t := by
    intro t ht hkey hlive
    obtain ⟨htmem, htmiss⟩ := hkept t ht
    by_contra hmeet
    rw [not_or, not_lt, not_lt] at hmeet
    obtain ⟨j, hj, hlow, hhigh⟩ := htight.fills (max ((hits.foldl Span.union s).add r i).first t.first)
      (le_max_left _ _) (max_le htight.le hmeet.1)
    have hlast : max ((hits.foldl Span.union s).add r i).first t.first ≤ t.last := max_le hmeet.2 (h.tight t htmem).le
    have hkeys : t.key = r.key i := hkey.symm.trans hunion.key_eq
    have hlive' : live (r.key i) := hunion.key_eq ▸ hlive
    rw [hmembers, List.append_assoc, ← List.append_assoc, List.mem_append, ← List.flatMap_cons, List.mem_flatMap,
      List.mem_singleton] at hj
    rcases hj with ⟨u, hu, hju⟩ | rfl
    · obtain ⟨humem, hjoins⟩ := hgroup u hu
      have hwithin := (h.tight u humem).within j hju
      have hsame : u = t := h.same_of_meet humem htmem (hjoins.1.trans hkeys.symm) (hjoins.1 ▸ hlive')
        (hwithin.1.trans (hlow.trans hlast)) ((le_max_right _ _).trans (hhigh.trans hwithin.2))
      exact htmiss (hsame ▸ hjoins)
    · exact htmiss ⟨hkeys, hlive', hlow.trans hlast, (le_max_right _ _).trans hhigh⟩
  refine ⟨?_, ?_, ?_⟩
  · intro t ht
    rcases List.mem_append.1 ht with ht | ht
    · exact (h.tight t (by simp [ht])).mono (List.subset_append_left _ _)
    · rcases List.mem_cons.1 ht with rfl | ht
      · exact htight
      · exact (h.tight t (hkept t (List.mem_append_right _ ht)).1).mono (List.subset_append_left _ _)
  · have hpairs := List.pairwise_append.1 h.apart
    have hrest := List.pairwise_cons.1 hpairs.2.1
    rw [List.pairwise_append, List.pairwise_cons]
    refine ⟨hpairs.1, ⟨?_, hrest.2.sublist horder⟩, ?_⟩
    · exact fun t ht => hapart t (List.mem_append_right _ ht)
    · intro t ht u hu
      rcases List.mem_cons.1 hu with rfl | hu
      · exact Std.Symm.symm _ _ (hapart t (List.mem_append_left _ ht))
      · exact hpairs.2.2 t ht u (List.mem_cons_of_mem _ (horder.subset hu))
  · have hold := h.members
    rw [List.flatMap_append, List.flatMap_cons] at hold
    have hafter : (hits.flatMap Span.members ++ misses.flatMap Span.members).Perm (after.flatMap Span.members) := by
      rw [← List.flatMap_append]
      exact hsplit.flatMap_right _
    rw [List.flatMap_append, List.flatMap_cons, hmembers]
    calc before.flatMap Span.members ++ (s.members ++ hits.flatMap Span.members ++ [i] ++ misses.flatMap Span.members)
        _ = (before.flatMap Span.members ++ s.members ++ hits.flatMap Span.members) ++
            ([i] ++ misses.flatMap Span.members) := by simp only [List.append_assoc]
        List.Perm _ ((before.flatMap Span.members ++ s.members ++ hits.flatMap Span.members) ++
            (misses.flatMap Span.members ++ [i])) := List.perm_append_comm.append_left _
        _ = before.flatMap Span.members ++ (s.members ++ (hits.flatMap Span.members ++ misses.flatMap Span.members)) ++
            [i] := by simp only [List.append_assoc]
        List.Perm _ (l ++ [i]) := (((hafter.append_left _).append_left _).trans hold).append_right _

end Components

end Intervals
