import Mathlib.Data.Multiset.Filter
import Mathlib.Data.Multiset.MapFold
import Mathlib.Order.Interval.Basic
import Trackpad.Lib.Intervals
/-!
# Incident clusters of a joined report

`join_report` of `diagnostic_report.py` joins the incidents of phone and host: one cluster for incidents of one session
whose sequence ranges overlap, directly or through others. Dictionaries are structures; what else a candidate carries is
of any type.
-/

namespace Trackpad.DiagnosticReport

open Intervals

/-- An incident of either side. -/
structure Candidate (ρ : Type) where
  session : Int
  first_sequence : Int
  last_sequence : Int
  rest : ρ
deriving DecidableEq

structure Cluster (ρ : Type) where
  session : Int
  first_sequence : Int
  last_sequence : Int
  sources : List (Candidate ρ)
deriving DecidableEq

variable {ρ : Type}

/-- `first, last = sorted([first_sequence, last_sequence])`. -/
def Candidate.first (c : Candidate ρ) : Int := min c.first_sequence c.last_sequence
def Candidate.last (c : Candidate ρ) : Int := max c.first_sequence c.last_sequence

/-- The condition of `matches`: context overlap alone is not proof of one incident. -/
def Cluster.is_match (candidate : Candidate ρ) (c : Cluster ρ) : Bool :=
  c.session = candidate.session && candidate.session ≠ 0 && candidate.first ≤ c.last_sequence &&
    candidate.last ≥ c.first_sequence

/-- What `cluster` takes over from `other`. -/
def Cluster.absorb (cluster other : Cluster ρ) : Cluster ρ :=
  { cluster with
    sources := cluster.sources ++ other.sources
    first_sequence := min cluster.first_sequence other.first_sequence
    last_sequence := max cluster.last_sequence other.last_sequence }

def Cluster.append (candidate : Candidate ρ) (cluster : Cluster ρ) : Cluster ρ :=
  { cluster with
    sources := cluster.sources ++ [candidate]
    first_sequence := min cluster.first_sequence candidate.first
    last_sequence := max cluster.last_sequence candidate.last }

section Join
variable [DecidableEq ρ]

/-- The loop over `matches[1:]`. The cluster at `index` is changed in place; `remove` takes the first equal one, which
stands behind it (`absorb_all_split`). -/
def absorb_all (index : Nat) : List (Cluster ρ) → List (Cluster ρ) → List (Cluster ρ)
  | [], clusters => clusters
  | other :: others, clusters => absorb_all index others ((clusters.modify index (·.absorb other)).erase other)

/-- The body of the loop over `candidates`. -/
def join_candidate (clusters : List (Cluster ρ)) (candidate : Candidate ρ) : List (Cluster ρ) :=
  match clusters.findIdx? (Cluster.is_match candidate) with
  | some index =>
    (absorb_all index (clusters.filter (Cluster.is_match candidate)).tail clusters).modify index (·.append candidate)
  | none => clusters ++ [Cluster.append candidate ⟨candidate.session, candidate.first, candidate.last, []⟩]

def join_clusters (candidates : List (Candidate ρ)) : List (Cluster ρ) := candidates.foldl join_candidate []

end Join

/-- The third candidate links the two before it. -/
example : (join_clusters [⟨7, 1, 2, ()⟩, ⟨7, 6, 5, ()⟩, ⟨7, 2, 5, ()⟩, ⟨0, 1, 2, ()⟩, ⟨0, 1, 2, ()⟩]).map
    (fun c => (c.session, c.first_sequence, c.last_sequence, c.sources.length)) =
      [(7, 1, 6, 3), (0, 1, 2, 1), (0, 1, 2, 1)] := by decide

/-! ## Clusters are spans -/

/-- A candidate's key is its session, its interval the range of its sequences. -/
def reading (ρ : Type) : Reading (Candidate ρ) Int Int where
  key := Candidate.session
  low := Candidate.first
  high := Candidate.last
  le := fun _ => min_le_max

def Cluster.span (c : Cluster ρ) : Span (Candidate ρ) Int Int :=
  ⟨c.session, c.first_sequence, c.last_sequence, c.sources⟩

theorem is_match_iff (candidate : Candidate ρ) (c : Cluster ρ) :
    c.is_match candidate = true ↔ Joins (reading ρ) (· ≠ 0) candidate c.span := by
  simp only [Cluster.is_match, Joins, Cluster.span, reading, Bool.and_eq_true, decide_eq_true_eq, ge_iff_le, and_assoc]

theorem foldl_absorb_span (cluster : Cluster ρ) (others : List (Cluster ρ)) :
    (others.foldl Cluster.absorb cluster).span = (others.map Cluster.span).foldl Span.union cluster.span := by
  induction others generalizing cluster with
  | nil => rfl
  | cons other others ih => exact ih (cluster.absorb other)

theorem append_span (candidate : Candidate ρ) (cluster : Cluster ρ) :
    (cluster.append candidate).span = cluster.span.add (reading ρ) candidate := rfl

/-! ## The loop in place -/

section Loop
variable [DecidableEq ρ]

omit [DecidableEq ρ] in
theorem modify_at (before after : List (Cluster ρ)) (cluster : Cluster ρ) (f : Cluster ρ → Cluster ρ) :
    (before ++ cluster :: after).modify before.length f = before ++ f cluster :: after := by
  induction before with
  | nil => rfl
  | cons c before ih => simpa using ih

/-- No cluster before the first match equals another match, and the first match grows longer than it. -/
theorem absorb_all_split (before : List (Cluster ρ)) {cluster : Cluster ρ} (others after : List (Cluster ρ))
    (hsources : cluster.sources ≠ []) (hbefore : ∀ other ∈ others, other ∉ before) :
    absorb_all before.length others (before ++ cluster :: after) =
      before ++ others.foldl Cluster.absorb cluster :: others.foldl List.erase after := by
  induction others generalizing cluster after with
  | nil => rfl
  | cons other others ih =>
    have hne : ¬(cluster.absorb other == other) = true := by
      rw [beq_iff_eq]
      intro heq
      have hlength := congrArg (fun c => c.sources.length) heq
      have hpos := List.length_pos_iff.2 hsources
      simp only [Cluster.absorb, List.length_append] at hlength
      omega
    rw [absorb_all, modify_at, List.erase_append_right _ (hbefore other List.mem_cons_self), List.erase_cons_tail hne,
      ih (after.erase other) (by simp [Cluster.absorb, hsources]) fun o ho => hbefore o (List.mem_cons_of_mem _ ho)]
    rfl

/-- Removing the matches one by one leaves the others. -/
theorem foldl_erase_filter (p : Cluster ρ → Bool) (clusters : List (Cluster ρ)) :
    (clusters.filter p).foldl List.erase clusters = clusters.filter fun c => !p c := by
  have hcons : ∀ (c : Cluster ρ) (removed rest : List (Cluster ρ)), c ∉ removed →
      removed.foldl List.erase (c :: rest) = c :: removed.foldl List.erase rest := by
    intro c removed
    induction removed with
    | nil => intro rest _; rfl
    | cons other removed ih =>
      intro rest hnot
      rw [List.mem_cons, not_or] at hnot
      rw [List.foldl_cons, List.erase_cons_tail (by simpa using hnot.1), ih _ hnot.2]
      rfl
  induction clusters with
  | nil => rfl
  | cons c clusters ih =>
    cases hp : p c with
    | true => simpa [hp] using ih
    | false =>
      rw [List.filter_cons_of_neg (by simp [hp]), hcons c _ _ (by simp [hp]), ih,
        List.filter_cons_of_pos (by simp [hp])]

omit [DecidableEq ρ] in
theorem findIdx_split {p : Cluster ρ → Bool} {clusters : List (Cluster ρ)} {index : Nat}
    (h : clusters.findIdx? p = some index) :
    ∃ before cluster after, clusters = before ++ cluster :: after ∧ before.length = index ∧ p cluster = true ∧
      ∀ c ∈ before, p c = false := by
  obtain ⟨hlt, hp, hbefore⟩ := List.findIdx?_eq_some_iff_getElem.1 h
  refine ⟨clusters.take index, clusters[index], clusters.drop (index + 1), ?_, by simp; omega, hp, ?_⟩
  · rw [← List.drop_eq_getElem_cons hlt, List.take_append_drop]
  · intro c hc
    obtain ⟨j, hj, rfl⟩ := List.mem_take_iff_getElem.1 hc
    simpa using hbefore j (by omega)

/-- A candidate that matches: the first match takes over the others' sources, and they go. -/
theorem join_candidate_match {before after : List (Cluster ρ)} {cluster : Cluster ρ} {candidate : Candidate ρ}
    (hcluster : cluster.is_match candidate = true) (hbefore : ∀ c ∈ before, c.is_match candidate = false)
    (hsources : cluster.sources ≠ []) :
    join_candidate (before ++ cluster :: after) candidate =
      before ++ ((after.filter (Cluster.is_match candidate)).foldl Cluster.absorb cluster).append candidate ::
        after.filter fun c => !c.is_match candidate := by
  have hindex : (before ++ cluster :: after).findIdx? (Cluster.is_match candidate) = some before.length := by
    rw [List.findIdx?_append, List.findIdx?_eq_none_iff.2 (by simpa using hbefore)]
    simp [List.findIdx?_cons, hcluster]
  have hmatches : ((before ++ cluster :: after).filter (Cluster.is_match candidate)).tail =
      after.filter (Cluster.is_match candidate) := by
    rw [List.filter_append, List.filter_eq_nil_iff.2 (by simpa using hbefore), List.nil_append,
      List.filter_cons_of_pos hcluster, List.tail_cons]
  rw [join_candidate, hindex]
  dsimp only
  rw [hmatches, absorb_all_split before _ after hsources, modify_at, foldl_erase_filter]
  intro other hother hmem
  have hmatch := (List.mem_filter.1 hother).2
  rw [hbefore other hmem] at hmatch
  cases hmatch

theorem join_candidate_none {clusters : List (Cluster ρ)} {candidate : Candidate ρ}
    (h : ∀ c ∈ clusters, c.is_match candidate = false) :
    join_candidate clusters candidate =
      clusters ++ [⟨candidate.session, candidate.first, candidate.last, [candidate]⟩] := by
  rw [join_candidate, List.findIdx?_eq_none_iff.2 (by simpa using h)]
  simp [Cluster.append]

end Loop

/-! ## Every list of candidates -/

/-- The clusters are the components of the candidates so far, and one of session zero holds a single candidate. -/
structure Clustered (candidates : List (Candidate ρ)) (clusters : List (Cluster ρ)) : Prop where
  components : Components (reading ρ) (· ≠ 0) candidates (clusters.map Cluster.span)
  single : ∀ c ∈ clusters, c.session = 0 → ∃ candidate : Candidate ρ,
    c = ⟨candidate.session, candidate.first, candidate.last, [candidate]⟩

section Step
variable [DecidableEq ρ]

theorem clustered_step {candidates : List (Candidate ρ)} {clusters : List (Cluster ρ)} (h : Clustered candidates clusters)
    (candidate : Candidate ρ) : Clustered (candidates ++ [candidate]) (join_candidate clusters candidate) := by
  cases hfind : clusters.findIdx? (Cluster.is_match candidate) with
  | none =>
    have hnone : ∀ c ∈ clusters, c.is_match candidate = false := by
      simpa using List.findIdx?_eq_none_iff.1 hfind
    rw [join_candidate_none hnone]
    refine ⟨?_, ?_⟩
    · rw [List.map_append]
      apply h.components.start
      intro s hs hjoins
      obtain ⟨c, hc, rfl⟩ := List.mem_map.1 hs
      have hmatch := (is_match_iff candidate c).2 hjoins
      rw [hnone c hc] at hmatch
      cases hmatch
    · intro c hc hzero
      rcases List.mem_append.1 hc with hc | hc
      · exact h.single c hc hzero
      · exact ⟨candidate, List.mem_singleton.1 hc⟩
  | some index =>
    obtain ⟨before, cluster, after, rfl, -, hcluster, hbefore⟩ := findIdx_split hfind
    have hsources : cluster.sources ≠ [] := by
      have htight := h.components.tight cluster.span (by simp)
      obtain ⟨source, hsource, -⟩ := htight.fills cluster.first_sequence le_rfl htight.le
      exact List.ne_nil_of_mem hsource
    rw [join_candidate_match hcluster hbefore hsources]
    refine ⟨?_, ?_⟩
    · have hcomponents := h.components
      rw [List.map_append, List.map_cons] at hcomponents
      rw [List.map_append, List.map_cons, append_span, foldl_absorb_span]
      refine hcomponents.join ((after.filter (Cluster.is_match candidate)).map Cluster.span) ?_ (List.filter_sublist.map _)
        ((is_match_iff candidate cluster).1 hcluster) ?_ ?_ ?_
      · rw [← List.map_append]
        exact (List.filter_append_perm _ after).map _
      · intro t ht
        obtain ⟨c, hc, rfl⟩ := List.mem_map.1 ht
        exact (is_match_iff candidate c).1 (List.mem_filter.1 hc).2
      · intro t ht hjoins
        obtain ⟨c, hc, rfl⟩ := List.mem_map.1 ht
        simpa [hbefore c hc] using (is_match_iff candidate c).2 hjoins
      · intro t ht hjoins
        obtain ⟨c, hc, rfl⟩ := List.mem_map.1 ht
        have hmiss := (List.mem_filter.1 hc).2
        simp [(is_match_iff candidate c).2 hjoins] at hmiss
    · have hsession : (((after.filter (Cluster.is_match candidate)).foldl Cluster.absorb cluster).append candidate).session ≠
          0 := by
        have hkey : ∀ others : List (Cluster ρ), (others.foldl Cluster.absorb cluster).session = cluster.session := by
          intro others
          refine List.foldlRecOn (motive := fun c : Cluster ρ => c.session = cluster.session) others _ rfl ?_
          exact fun c hc _ _ => hc
        have hjoins := (is_match_iff candidate cluster).1 hcluster
        have hnonzero : cluster.session ≠ 0 := fun e => hjoins.2.1 (hjoins.1.symm.trans e)
        simpa [Cluster.append, hkey] using hnonzero
      intro c hc hzero
      rcases List.mem_append.1 hc with hc | hc
      · exact h.single c (by simp [hc]) hzero
      · rcases List.mem_cons.1 hc with rfl | hc
        · exact absurd hzero hsession
        · exact h.single c (by simp [(List.mem_filter.1 hc).1]) hzero

theorem join_clusters_clustered (candidates : List (Candidate ρ)) : Clustered candidates (join_clusters candidates) := by
  have hrun : ∀ (rest seen : List (Candidate ρ)) (clusters : List (Cluster ρ)), Clustered seen clusters →
      Clustered (seen ++ rest) (rest.foldl join_candidate clusters) := by
    intro rest
    induction rest with
    | nil => intro seen clusters h; simpa using h
    | cons candidate rest ih =>
      intro seen clusters h
      have hrest := ih (seen ++ [candidate]) _ (clustered_step h candidate)
      rwa [List.append_assoc, List.singleton_append] at hrest
  refine hrun candidates [] [] ⟨⟨?_, List.Pairwise.nil, List.Perm.refl _⟩, ?_⟩
  · intro s hs
    cases hs
  · intro c hc
    cases hc

end Step

/-! ## The order of the candidates -/

/-- A cluster up to the order of its sources. -/
def Cluster.summary (c : Cluster ρ) : Int × Int × Int × Multiset (Candidate ρ) :=
  (c.session, c.first_sequence, c.last_sequence, c.sources)

/-- Different clusters of a non-zero session differ in their ranges. -/
theorem summaries_nodup {candidates : List (Candidate ρ)} {clusters : List (Cluster ρ)}
    (h : Clustered candidates clusters) : ((clusters.filter fun c => c.session ≠ 0).map Cluster.summary).Nodup := by
  have hapart := List.pairwise_map.1 h.components.apart
  rw [List.Nodup, List.pairwise_map]
  refine (hapart.sublist List.filter_sublist).imp_of_mem ?_
  intro a b ha _ hab heq
  simp only [Cluster.summary, Prod.mk.injEq] at heq
  obtain ⟨hsession, hfirst, hlast, -⟩ := heq
  have hmem := List.mem_filter.1 ha
  have hlive : a.session ≠ 0 := by simpa using hmem.2
  have hle : a.first_sequence ≤ a.last_sequence :=
    (h.components.tight a.span (List.mem_map_of_mem hmem.1)).le
  have hlt : a.last_sequence < b.first_sequence ∨ b.last_sequence < a.first_sequence :=
    hab hsession hlive
  omega

/-- The clusters of session zero are its candidates, one each. -/
theorem zero_summaries {candidates : List (Candidate ρ)} {clusters : List (Cluster ρ)} (h : Clustered candidates clusters) :
    ((clusters.filter fun c => c.session = 0).map Cluster.summary).Perm
      ((candidates.filter fun c => c.session = 0).map fun c => (c.session, c.first, c.last, ({c} : Multiset (Candidate ρ)))) := by
  have hsources : (clusters.flatMap Cluster.sources).Perm candidates := by
    have hmembers := h.components.members
    rwa [List.flatMap_map] at hmembers
  have hkey : ∀ c ∈ clusters, ∀ source ∈ c.sources, source.session = c.session := fun c hc =>
    (h.components.tight c.span (List.mem_map_of_mem hc)).key
  have hsingle := h.single
  refine List.Perm.trans (List.Perm.of_eq ?_) ((hsources.filter _).map _)
  clear hsources h
  induction clusters with
  | nil => rfl
  | cons c clusters ih =>
    have hrest := ih (fun d hd => hkey d (List.mem_cons_of_mem _ hd)) fun d hd => hsingle d (List.mem_cons_of_mem _ hd)
    rw [List.flatMap_cons, List.filter_append, List.map_append, ← hrest]
    by_cases hzero : c.session = 0
    · obtain ⟨candidate, rfl⟩ := hsingle c List.mem_cons_self hzero
      have hcandidate : candidate.session = 0 := hzero
      simp [hcandidate, Cluster.summary]
    · have hnone : c.sources.filter (fun source => source.session = 0) = [] := by
        rw [List.filter_eq_nil_iff]
        intro source hsource
        simpa [hkey c List.mem_cons_self source hsource] using hzero
      rw [List.filter_cons_of_neg (by simpa using hzero), hnone]
      rfl

theorem summaries_subset {candidates candidates' : List (Candidate ρ)} {clusters clusters' : List (Cluster ρ)}
    (h : Clustered candidates clusters) (h' : Clustered candidates' clusters') (hperm : candidates.Perm candidates') :
    (clusters.filter fun c => c.session ≠ 0).map Cluster.summary ⊆
      (clusters'.filter fun c => c.session ≠ 0).map Cluster.summary := by
  intro x hx
  obtain ⟨c, hc, rfl⟩ := List.mem_map.1 hx
  obtain ⟨hc, hnonzero⟩ := List.mem_filter.1 hc
  have hlive : c.session ≠ 0 := by simpa using hnonzero
  obtain ⟨t, ht, hkey, hfirst, hlast, hmembers⟩ :=
    h.components.unique h'.components hperm (List.mem_map_of_mem hc) hlive
  obtain ⟨d, hd, rfl⟩ := List.mem_map.1 ht
  have hsession : d.session = c.session := hkey
  refine List.mem_map.2 ⟨d, List.mem_filter.2 ⟨hd, by simpa [hsession] using hlive⟩, ?_⟩
  simp only [Cluster.summary, Prod.mk.injEq, Multiset.coe_eq_coe]
  exact ⟨hkey, hfirst, hlast, hmembers⟩

theorem summaries_perm {candidates candidates' : List (Candidate ρ)} {clusters clusters' : List (Cluster ρ)}
    (h : Clustered candidates clusters) (h' : Clustered candidates' clusters') (hperm : candidates.Perm candidates') :
    (clusters.map Cluster.summary).Perm (clusters'.map Cluster.summary) := by
  have hzero : ((clusters.filter fun c => c.session = 0).map Cluster.summary).Perm
      ((clusters'.filter fun c => c.session = 0).map Cluster.summary) :=
    (zero_summaries h).trans (((hperm.filter _).map _).trans (zero_summaries h').symm)
  have hlive : ((clusters.filter fun c => c.session ≠ 0).map Cluster.summary).Perm
      ((clusters'.filter fun c => c.session ≠ 0).map Cluster.summary) := by
    rw [List.perm_ext_iff_of_nodup (summaries_nodup h) (summaries_nodup h')]
    intro x
    exact ⟨fun hx => summaries_subset h h' hperm hx, fun hx => summaries_subset h' h hperm.symm hx⟩
  have hsplit : ∀ l : List (Cluster ρ), (l.map Cluster.summary).Perm
      ((l.filter fun c => c.session = 0).map Cluster.summary ++ (l.filter fun c => c.session ≠ 0).map Cluster.summary) := by
    intro l
    rw [← List.map_append]
    simpa using (List.filter_append_perm (fun c : Cluster ρ => decide (c.session = 0)) l).symm.map Cluster.summary
  exact (hsplit clusters).trans ((hzero.append hlive).trans (hsplit clusters').symm)

/-- The clusters of a non-zero session are the connected components of its candidates. -/
theorem clusters_are_components [DecidableEq ρ] (candidates : List (Candidate ρ)) :
    ((join_clusters candidates).flatMap Cluster.sources).Perm candidates ∧
    (join_clusters candidates).Pairwise (fun a b => a.session = b.session → a.session ≠ 0 →
      a.last_sequence < b.first_sequence ∨ b.last_sequence < a.first_sequence) ∧
    (∀ c ∈ join_clusters candidates,
      (∀ source ∈ c.sources, source.session = c.session ∧
        c.first_sequence ≤ source.first ∧ source.last ≤ c.last_sequence) ∧
      (∃ source ∈ c.sources, source.first = c.first_sequence) ∧
      ∃ source ∈ c.sources, source.last = c.last_sequence) ∧
    (∀ a ∈ candidates, ∀ b ∈ candidates, a.session ≠ 0 →
      ((∃ c ∈ join_clusters candidates, a ∈ c.sources ∧ b ∈ c.sources) ↔ Linked (reading ρ) candidates a b)) ∧
    ∀ permuted : List (Candidate ρ), permuted.Perm candidates →
      ((join_clusters permuted).map Cluster.summary).Perm ((join_clusters candidates).map Cluster.summary) := by
  have h := join_clusters_clustered candidates
  refine ⟨?_, List.pairwise_map.1 h.components.apart, ?_, ?_, ?_⟩
  · have hmembers := h.components.members
    rwa [List.flatMap_map] at hmembers
  · intro c hc
    have htight := h.components.tight c.span (List.mem_map_of_mem hc)
    refine ⟨fun source hsource => ⟨htight.key source hsource, htight.within source hsource⟩, ?_, ?_⟩
    · obtain ⟨source, hsource, hlow, -⟩ := htight.fills c.first_sequence le_rfl htight.le
      exact ⟨source, hsource, le_antisymm hlow (htight.within source hsource).1⟩
    · obtain ⟨source, hsource, -, hhigh⟩ := htight.fills c.last_sequence htight.le le_rfl
      exact ⟨source, hsource, le_antisymm (htight.within source hsource).2 hhigh⟩
  · intro a ha b _ hlive
    rw [← h.components.shared_iff ha hlive]
    constructor
    · rintro ⟨c, hc, hac, hbc⟩
      exact ⟨c.span, List.mem_map_of_mem hc, hac, hbc⟩
    · rintro ⟨s, hs, has, hbs⟩
      obtain ⟨c, hc, rfl⟩ := List.mem_map.1 hs
      exact ⟨c, hc, has, hbs⟩
  · intro permuted hperm
    exact summaries_perm (join_clusters_clustered permuted) h hperm

end Trackpad.DiagnosticReport
