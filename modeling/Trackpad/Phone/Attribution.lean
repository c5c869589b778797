import Mathlib.Data.List.Induction
import Trackpad.Phone.DiagnosticRecorder
/-!
# Whose evidence a row is

Every incident's evidence is a slice of one array, from its offset on, as long as its count. The slices never overlap. A
slice holds the incident's own rows until the incident retains a row while the recovery of an earlier one lies behind its
slice: the slice then takes in the recovery, and loses its last row.
-/

namespace Trackpad.DiagnosticRecorder

namespace Evidence

/-- The rows that the report gives an incident. -/
def slice (evidence : List Row) (incident : Incident) : List Row :=
  (evidence.drop incident.evidence_offset).take incident.evidence_count

def slices (s : Evidence) : List (List Row) := s.incident.map (slice s.evidence)

/-! ## The rows an incident is to have -/

/-- A new incident starts with its context, as far as there is room. -/
def own_triggered (reasons : Int64) (s : Evidence) (own : List (List Row)) : List (List Row) :=
  if reasons ≠ 0 ∧ s.active = none ∧ s.incident.length ≠ MAX_INCIDENTS then
    own ++ [s.context.take (MAX_EVIDENCE - s.evidence.length)]
  else own

/-- The active incident has each record, until it can take no more. -/
def own_retained (r : Row) (s : Evidence) (own : List (List Row)) : List (List Row) :=
  match s.active with
  | some index => if s.full index then own else own.modify index (· ++ [r])
  | none => own

def triggered (r : Row) (reasons : Int64) (s : Evidence) : Evidence := if reasons ≠ 0 then s.trigger r reasons else s

def own_kept (r : Row) (reasons : Int64) (s : Evidence) (own : List (List Row)) : List (List Row) :=
  ((s.triggered r reasons).recover r).own_retained r (s.own_triggered reasons own)

/-! ## Where the slices lie -/

def span (incident : Incident) : Nat × Nat := (incident.evidence_offset, incident.evidence_count)

def spans (s : Evidence) : List (Nat × Nat) := s.incident.map span

/-- The rows of a span. -/
def rows (evidence : List Row) (span : Nat × Nat) : List Row := (evidence.drop span.1).take span.2

theorem slices_spans (s : Evidence) : s.slices = s.spans.map (rows s.evidence) := by
  rw [slices, spans, List.map_map]
  rfl

/-- The active incident is the newest, and at most one row lies behind its slice: then no other incident waits for
its recovery. -/
structure Placed (s : Evidence) (own : List (List Row)) : Prop where
  counts : own.map List.length = s.spans.map (·.2)
  apart : s.spans.Pairwise fun p q => p.1 + p.2 ≤ q.1
  within : ∀ p ∈ s.spans, p.1 + p.2 ≤ s.evidence.length
  newest : ∀ index ∈ s.active, index + 1 = s.spans.length
  tight : ∀ index ∈ s.active, ∀ p ∈ s.spans[index]?, s.evidence.length = p.1 + p.2 ∨
    (s.evidence.length = p.1 + p.2 + 1 ∧ ∀ other ∈ s.recovering, other = index)

variable {s s' : Evidence} {own : List (List Row)} {r : Row}

theorem placed_new : Placed .new [] where
  counts := rfl
  apart := .nil
  within _ hp := (by cases hp)
  newest _ ha := (by cases ha)
  tight _ ha := (by cases ha)

/-- Nothing but the summaries changed. -/
structure SamePlaces (s s' : Evidence) : Prop where
  spans : s'.spans = s.spans
  evidence : s'.evidence = s.evidence
  active : s'.active = s.active
  recovering : s'.recovering = s.recovering

theorem Placed.same (h : Placed s own) (hs : SamePlaces s s') : Placed s' own := by
  obtain ⟨hspans, hevidence, hactive, hrecovering⟩ := hs
  obtain ⟨counts, apart, within, newest, tight⟩ := h
  rw [← hspans] at counts apart within newest tight
  rw [← hevidence] at within tight
  rw [← hactive] at newest tight
  rw [← hrecovering] at tight
  exact ⟨counts, apart, within, newest, tight⟩

theorem slices_same (hs : SamePlaces s s') : s'.slices = s.slices := by
  rw [slices_spans, slices_spans, hs.spans, hs.evidence]

/-- A map that carries one change over to another. -/
theorem map_modify {α β : Type} {g : α → β} {f : α → α} {f' : β → β} (h : ∀ a, g (f a) = f' (g a)) (index : Nat)
    (l : List α) : (l.modify index f).map g = (l.map g).modify index f' := by
  induction l generalizing index with
  | nil => rw [List.modify_nil, List.map_nil, List.modify_nil]
  | cons a l ih =>
    cases index with
    | zero => exact congrArg (· :: l.map g) (h a)
    | succ index => exact congrArg (g a :: ·) (ih index)

theorem spans_modify (index : Nat) {f : Incident → Incident} (hf : ∀ i, span (f i) = span i) (incident : List Incident) :
    (incident.modify index f).map span = incident.map span :=
  (map_modify (β := Nat × Nat) hf index incident : _ = List.modify _ _ id).trans (List.modify_id _ _)

theorem rows_append {evidence : List Row} {p : Nat × Nat} (hp : p.1 + p.2 ≤ evidence.length) (new : List Row) :
    rows (evidence ++ new) p = rows evidence p := by
  unfold rows
  rw [List.drop_append_of_le_length (by omega), List.take_append_of_le_length (by rw [List.length_drop]; omega)]

/-- A span that grows takes in the row behind it. -/
theorem rows_grow (evidence : List Row) (offset count : Nat) :
    rows evidence (offset, count + 1) = rows evidence (offset, count) ++ evidence[offset + count]?.toList := by
  unfold rows
  rw [List.take_add_one, List.getElem?_drop]

/-- Appending leaves every slice as it is. -/
theorem slices_append (h : Placed s own) (new : List Row) (hspans : s'.spans = s.spans)
    (hevidence : s'.evidence = s.evidence ++ new) : s'.slices = s.slices := by
  rw [slices_spans, slices_spans, hspans, hevidence]
  apply List.map_congr_left
  intro p hp
  exact rows_append (h.within p hp) new

/-! ## The steps of a record -/

theorem expire_same (r : Row) (s : Evidence) :
    (s.expire r).spans = s.spans ∧ (s.expire r).evidence = s.evidence ∧ (s.expire r).recovering = s.recovering ∧
    ((s.expire r).active = s.active ∨ (s.expire r).active = none) := by
  unfold expire
  rcases hactive : s.active with _ | index
  · exact ⟨rfl, rfl, rfl, .inl hactive⟩
  · dsimp only
    split
    · refine ⟨spans_modify index ?_ s.incident, rfl, rfl, .inr rfl⟩
      intro incident
      rfl
    · exact ⟨rfl, rfl, rfl, .inl hactive⟩

theorem expire_placed (h : Placed s own) (r : Row) : Placed (s.expire r) own ∧ (s.expire r).slices = s.slices := by
  obtain ⟨hspans, hevidence, hrecovering, hactive⟩ := expire_same r s
  have hsame : SamePlaces { s with active := (s.expire r).active } (s.expire r) := ⟨hspans, hevidence, rfl, hrecovering⟩
  have hslices : (s.expire r).slices = s.slices := slices_append h [] hspans (by rw [hevidence, List.append_nil])
  refine ⟨Placed.same ?_ hsame, hslices⟩
  obtain ⟨counts, apart, within, newest, tight⟩ := h
  rcases hactive with hactive | hactive
  · rw [hactive]
    exact ⟨counts, apart, within, newest, tight⟩
  · rw [hactive]
    exact ⟨counts, apart, within, fun _ ha => (by cases ha), fun _ ha => (by cases ha)⟩

theorem note_anomaly_same (r : Row) (reasons : Int64) (index : Nat) (s : Evidence) :
    SamePlaces s (s.note_anomaly r reasons index) := by
  refine ⟨spans_modify index ?_ s.incident, rfl, rfl, rfl⟩
  intro incident
  rfl

theorem opened_spans (r : Row) (s : Evidence) : (s.opened r).spans =
    s.spans ++ [(s.evidence.length, (s.context.take (MAX_EVIDENCE - s.evidence.length)).length)] := by
  unfold spans opened
  rw [List.map_append]
  rfl

/-- A new incident's slice is its context. -/
theorem opened_placed (h : Placed s own) (r : Row) :
    Placed (s.opened r) (own ++ [s.context.take (MAX_EVIDENCE - s.evidence.length)]) ∧
    (s.opened r).slices = s.slices ++ [s.context.take (MAX_EVIDENCE - s.evidence.length)] := by
  have hspans := opened_spans r s
  have hevidence : (s.opened r).evidence = s.evidence ++ s.context.take (MAX_EVIDENCE - s.evidence.length) := rfl
  have hactive : (s.opened r).active = some s.spans.length := by
    rw [spans, List.length_map]
    rfl
  generalize s.context.take (MAX_EVIDENCE - s.evidence.length) = copied at hspans hevidence ⊢
  refine ⟨⟨?_, ?_, ?_, ?_, ?_⟩, ?_⟩
  · rw [hspans, List.map_append, List.map_append, h.counts]
    rfl
  · rw [hspans, List.pairwise_append]
    refine ⟨h.apart, List.pairwise_singleton _ _, fun p hp q hq => ?_⟩
    obtain rfl := List.mem_singleton.1 hq
    exact h.within p hp
  · intro p hp
    rw [hspans, List.mem_append, List.mem_singleton] at hp
    rw [hevidence, List.length_append]
    rcases hp with hp | rfl
    · exact Nat.le_add_right_of_le (h.within p hp)
    · exact Nat.le_refl _
  · intro index ha
    rw [hactive] at ha
    obtain rfl := Option.some.inj ha
    rw [hspans, List.length_append]
    rfl
  · intro index ha p hp
    rw [hactive] at ha
    obtain rfl := Option.some.inj ha
    rw [hspans, List.getElem?_concat_length] at hp
    obtain rfl := Option.some.inj hp
    rw [hevidence, List.length_append]
    exact .inl rfl
  · rw [slices_spans, slices_spans, hspans, hevidence, List.map_append]
    congr 1
    · apply List.map_congr_left
      intro p hp
      exact rows_append (h.within p hp) _
    · simp [rows]

theorem triggered_placed (h : Placed s own) (r : Row) (reasons : Int64) :
    Placed (s.triggered r reasons) (s.own_triggered reasons own) ∧
    ((s.triggered r reasons).slices = s.own_triggered reasons own ↔ s.slices = own) := by
  unfold triggered own_triggered trigger
  by_cases hreasons : reasons ≠ 0
  · rw [if_pos hreasons]
    rcases hactive : s.active with _ | index
    · dsimp only
      by_cases hfull : s.incident.length = MAX_INCIDENTS
      · rw [if_pos hfull, if_neg (fun hopen => hopen.2.2 hfull)]
        exact ⟨h.same ⟨rfl, rfl, hactive.symm, rfl⟩, Iff.rfl⟩
      · rw [if_neg hfull, if_pos ⟨hreasons, rfl, hfull⟩]
        obtain ⟨hplaced, hslices⟩ := opened_placed h r
        have hsame := note_anomaly_same r reasons s.incident.length (s.opened r)
        refine ⟨hplaced.same hsame, ?_⟩
        rw [slices_same hsame, hslices, List.append_left_inj]
    · dsimp only
      rw [if_neg (fun hopen => by cases hopen.2.1)]
      have hsame := note_anomaly_same r reasons index s
      refine ⟨h.same hsame, ?_⟩
      rw [slices_same hsame]
  · rw [if_neg hreasons, if_neg (fun hopen => hreasons hopen.1)]
    exact ⟨h, Iff.rfl⟩

theorem retired_awaits_none (hr : r.kind = RETIRED) : awaits_recovery r = false := by
  unfold awaits_recovery
  rw [hr]
  rfl

/-- `recover` stops waiting, waits for the active incident, or has copied the recovery of another. -/
inductive Recovered (r : Row) (s s' : Evidence) : Prop
  | summary (evidence : s'.evidence = s.evidence)
      (recovering : s'.recovering = none ∨ s'.recovering = s.recovering ∨ s'.recovering = s.active)
  | late (evidence : s'.evidence = s.evidence ++ [r]) (recovering : s'.recovering = none) (other : Nat)
      (waited : s.recovering = some other) (inactive : s.active ≠ some other) (room : s.evidence.length < MAX_EVIDENCE)

theorem recovered_spec (r : Row) (s : Evidence) {index : Nat} (hwaited : s.recovering = some index) :
    (s.recovered r index).spans = s.spans ∧ (s.recovered r index).active = s.active ∧
    Recovered r s (s.recovered r index) := by
  have hspans := spans_modify index (f := fun incident => { incident with first_later_ack_ns := r.at_ })
    (fun _ => rfl) s.incident
  unfold recovered
  dsimp only
  split
  · rename_i hlate
    exact ⟨hspans, rfl, .late rfl rfl index hwaited hlate.1 hlate.2⟩
  · exact ⟨hspans, rfl, .summary rfl (.inl rfl)⟩

theorem first_later_ack_same (r : Row) (s : Evidence) : SamePlaces s (s.first_later_ack r) := by
  unfold first_later_ack
  rcases hactive : s.active with _ | index
  · exact ⟨rfl, rfl, rfl, rfl⟩
  · refine ⟨spans_modify index ?_ s.incident, rfl, rfl, rfl⟩
    intro incident
    split
    · rfl
    · rfl

theorem recover_spec (r : Row) (s : Evidence) :
    (s.recover r).spans = s.spans ∧ (s.recover r).active = s.active ∧ Recovered r s (s.recover r) := by
  unfold recover
  by_cases hretired : r.kind = RETIRED
  · rw [retired_awaits_none hretired, if_neg Bool.false_ne_true, if_pos hretired]
    obtain ⟨hspans, hevidence, hactive, hrecovering⟩ := first_later_ack_same r s
    dsimp only
    rcases hwaited : (s.first_later_ack r).recovering with _ | index
    · exact ⟨hspans, hactive, .summary hevidence (.inr (.inl hrecovering))⟩
    obtain ⟨hspans', hactive', hrecovered⟩ := recovered_spec r (s.first_later_ack r) hwaited
    refine ⟨hspans'.trans hspans, hactive'.trans hactive, ?_⟩
    cases hrecovered with
    | summary hevidence' hrecovering' =>
      rw [hrecovering, hactive] at hrecovering'
      exact .summary (hevidence'.trans hevidence) hrecovering'
    | late hevidence' hrecovering' other hwaited' hinactive hroom =>
      rw [hevidence] at hevidence' hroom
      rw [hrecovering] at hwaited'
      rw [hactive] at hinactive
      exact .late hevidence' hrecovering' other hwaited' hinactive hroom
  · rw [if_neg hretired]
    rcases awaits_recovery r with _ | _
    · exact ⟨rfl, rfl, .summary rfl (.inr (.inl rfl))⟩
    · exact ⟨rfl, rfl, .summary rfl (.inr (.inr rfl))⟩

theorem recover_placed (h : Placed s own) (r : Row) : Placed (s.recover r) own ∧ (s.recover r).slices = s.slices := by
  obtain ⟨hspans, hactive, hrecovered⟩ := recover_spec r s
  obtain ⟨counts, apart, within, newest, tight⟩ := h
  cases hrecovered with
  | summary hevidence hrecovering =>
    refine ⟨⟨hspans ▸ counts, hspans ▸ apart, ?_, ?_, ?_⟩, ?_⟩
    · rw [hspans, hevidence]
      exact within
    · rw [hspans, hactive]
      exact newest
    · rw [hspans, hactive, hevidence]
      intro index ha p hp
      rcases tight index ha p hp with hlen | ⟨hlen, hwaits⟩
      · exact .inl hlen
      refine .inr ⟨hlen, fun other hother => ?_⟩
      rcases hrecovering with hnone | hsame | hnow
      · rw [hnone] at hother
        cases hother
      · exact hwaits other (hsame ▸ hother)
      · rw [hnow, ha] at hother
        exact (Option.some.inj hother).symm
    · rw [slices_spans, slices_spans, hspans, hevidence]
  | late hevidence hrecovering other hwaited hinactive =>
    have hplaced : Placed s own := ⟨counts, apart, within, newest, tight⟩
    refine ⟨⟨hspans ▸ counts, hspans ▸ apart, ?_, ?_, ?_⟩, slices_append hplaced [r] hspans hevidence⟩
    · rw [hspans, hevidence, List.length_append]
      exact fun p hp => Nat.le_add_right_of_le (within p hp)
    · rw [hspans, hactive]
      exact newest
    · rw [hspans, hactive, hevidence, List.length_append]
      intro index ha p hp
      rcases tight index ha p hp with hlen | ⟨-, hwaits⟩
      · refine .inr ⟨by rw [hlen]; rfl, fun other hother => ?_⟩
        rw [hrecovering] at hother
        cases hother
      · -- With a row behind the slice, no other incident waits.
        obtain rfl := hwaits other hwaited
        exact absurd ha hinactive

/-! ## Retaining a record -/

/-- The row behind the active incident's slice. -/
def behind (s : Evidence) : Option Row :=
  s.active.bind fun index => s.spans[index]?.bind fun p => s.evidence[p.1 + p.2]?

/-- Two lists of lists that grow at the same place. -/
theorem modify_append_eq {α : Type} {l l' : List (List α)} {index : Nat} (hlen : l.length = l'.length)
    (hindex : index < l.length) {x y : α} :
    l.modify index (· ++ [x]) = l'.modify index (· ++ [y]) ↔ l = l' ∧ x = y := by
  induction l generalizing l' index with
  | nil => cases hindex
  | cons a l ih =>
    rcases l' with _ | ⟨a', l'⟩
    · cases hlen
    cases index with
    | zero =>
      rw [List.modify_zero_cons, List.modify_zero_cons, List.cons.injEq, List.cons.injEq, ← List.concat_eq_append,
        ← List.concat_eq_append, List.concat_inj]
      exact and_right_comm
    | succ index =>
      rw [List.modify_succ_cons, List.modify_succ_cons, List.cons.injEq, List.cons.injEq,
        ih (Nat.succ.inj hlen) (Nat.lt_of_succ_lt_succ hindex), and_assoc]

theorem retain_full (r : Row) {index : Nat} (ha : s.active = some index) (hfull : s.full index = true) :
    SamePlaces s (s.retain r) := by
  unfold retain
  rw [ha]
  dsimp only
  rw [if_pos hfull]
  refine ⟨spans_modify index ?_ s.incident, rfl, rfl, rfl⟩
  intro incident
  rfl

/-- A span that is one row longer. -/
def longer (p : Nat × Nat) : Nat × Nat := (p.1, p.2 + 1)

structure Retained (r : Row) (index : Nat) (s s' : Evidence) : Prop where
  spans : s'.spans = s.spans.modify index longer
  evidence : s'.evidence = s.evidence ++ [r]
  active : s'.active = s.active
  recovering : s'.recovering = s.recovering

theorem retain_room (r : Row) {index : Nat} (ha : s.active = some index) (hroom : s.full index = false) :
    Retained r index s (s.retain r) := by
  unfold retain
  rw [ha]
  dsimp only
  rw [if_neg (by rw [hroom]; exact Bool.false_ne_true)]
  refine ⟨map_modify ?_ index s.incident, rfl, rfl, rfl⟩
  intro incident
  rfl

theorem mem_modify {α : Type} {f : α → α} {l : List α} {index : Nat} {a : α} (h : a ∈ l.modify index f) :
    a ∈ l ∨ ∃ b, l[index]? = some b ∧ a = f b := by
  obtain ⟨n, hn⟩ := List.mem_iff_getElem?.1 h
  rw [List.getElem?_modify] at hn
  obtain ⟨b, hb, hab⟩ := Option.map_eq_some_iff.1 hn
  split at hab
  · rename_i hindex
    subst hindex
    exact .inr ⟨b, hb, hab.symm⟩
  · exact .inl (hab ▸ List.mem_of_getElem? hb)

/-- The slice of the incident grows by the row behind it, or by the record. -/
theorem retained_slices (h : Placed s own) {index : Nat} {p : Nat × Nat} (hr : Retained r index s s')
    (hp : s.spans[index]? = some p) {x : Row} (hx : (s.evidence ++ [r])[p.1 + p.2]? = some x) :
    s'.slices = s.slices.modify index (· ++ [x]) := by
  rw [slices_spans, slices_spans, hr.spans, hr.evidence]
  apply List.ext_getElem?
  intro n
  rw [List.getElem?_map, List.getElem?_modify, List.getElem?_modify, List.getElem?_map]
  rcases hn : s.spans[n]? with _ | q
  · rfl
  have hq : q.1 + q.2 ≤ s.evidence.length := h.within q (List.mem_of_getElem? hn)
  by_cases hindex : index = n
  · subst hindex
    obtain rfl := Option.some.inj (hp.symm.trans hn)
    simp only [if_pos, Option.map_eq_map, Option.map_some]
    rw [longer, rows_grow, hx, rows_append hq]
    rfl
  · simp only [if_neg hindex, Option.map_eq_map, Option.map_some]
    rw [rows_append hq]

theorem retained_placed (h : Placed s own) {index : Nat} (ha : s.active = some index) (hr : Retained r index s s') :
    Placed s' (own.modify index (· ++ [r])) := by
  obtain ⟨counts, apart, within, newest, tight⟩ := h
  have hlast := newest index ha
  have hlt : index < s.spans.length := by omega
  obtain ⟨p, hp⟩ : ∃ p, s.spans[index]? = some p := ⟨_, List.getElem?_eq_getElem hlt⟩
  refine ⟨?_, ?_, ?_, ?_, ?_⟩
  · have hlonger : ∀ rows : List Row, (rows ++ [r]).length = (· + 1) rows.length := fun rows => List.length_append
    rw [hr.spans, map_modify hlonger, counts]
    exact (map_modify (g := fun p : Nat × Nat => p.2) (f := longer) (fun _ => rfl) index s.spans).symm
  · -- No slice begins behind the newest one.
    rw [hr.spans, List.pairwise_iff_getElem]
    intro i j hi hj hij
    rw [List.length_modify] at hi hj
    rw [List.getElem_modify, List.getElem_modify, if_neg (by omega)]
    have hle := List.pairwise_iff_getElem.1 apart i j hi hj hij
    split
    · exact hle
    · exact hle
  · intro q hq
    rw [hr.evidence, List.length_append]
    rw [hr.spans] at hq
    rcases mem_modify hq with hq | ⟨q', hq', rfl⟩
    · exact Nat.le_add_right_of_le (within q hq)
    · exact Nat.add_le_add_right (within q' (List.mem_of_getElem? hq')) 1
  · intro index' ha'
    rw [hr.active] at ha'
    rw [hr.spans, List.length_modify]
    exact newest index' ha'
  · intro index' ha' q hq
    rw [hr.active, ha] at ha'
    obtain rfl := Option.some.inj ha'
    rw [hr.spans, List.getElem?_modify_eq, hp] at hq
    obtain rfl := Option.some.inj hq
    rw [hr.evidence, hr.recovering, List.length_append]
    rcases tight index ha p hp with hlen | ⟨hlen, hwaits⟩
    · exact .inl (congrArg (· + 1) hlen)
    · exact .inr ⟨congrArg (· + 1) hlen, hwaits⟩

theorem slices_length (h : Placed s own) : s.slices.length = own.length := by
  rw [slices_spans, List.length_map, ← List.length_map (·.2), ← h.counts, List.length_map]

/-- The record goes where the slice ends, unless a row is there. -/
theorem retain_placed (h : Placed s own) (r : Row) : Placed (s.retain r) (s.own_retained r own) ∧
    ((s.retain r).slices = s.own_retained r own ↔
      s.slices = own ∧ ∀ index ∈ s.active, s.full index = false → ∀ x ∈ s.behind, x = r) := by
  unfold own_retained
  rcases ha : s.active with _ | index
  · have hsame : s.retain r = s := by
      unfold retain
      rw [ha]
    rw [hsame]
    exact ⟨h, fun hexact => ⟨hexact, fun _ hnone => (by cases hnone)⟩, And.left⟩
  dsimp only
  rcases hfull : s.full index with _ | _
  · have hr := retain_room r ha hfull
    have hlt : index < s.spans.length := by
      have hlast := h.newest index ha
      omega
    obtain ⟨p, hp⟩ : ∃ p, s.spans[index]? = some p := ⟨_, List.getElem?_eq_getElem hlt⟩
    have hbehind : s.behind = s.evidence[p.1 + p.2]? := by
      rw [behind, ha, Option.bind_some, hp, Option.bind_some]
    have hle := h.within p (List.mem_of_getElem? hp)
    refine ⟨retained_placed h ha hr, ?_⟩
    rw [if_neg Bool.false_ne_true]
    obtain ⟨x, hx, hiff⟩ : ∃ x, (s.evidence ++ [r])[p.1 + p.2]? = some x ∧ ((∀ y ∈ s.behind, y = r) ↔ x = r) := by
      rw [hbehind]
      rcases Nat.lt_or_eq_of_le hle with hlt | heq
      · rw [List.getElem?_append_left hlt, List.getElem?_eq_getElem hlt]
        exact ⟨_, rfl, fun hall => hall _ rfl, fun hx y hy => Option.some.inj hy ▸ hx⟩
      · rw [heq, List.getElem?_concat_length, List.getElem?_eq_none (Nat.le_refl _)]
        exact ⟨r, rfl, fun _ => rfl, fun _ y hy => (by cases hy)⟩
    have hlt' : index < s.slices.length := by rwa [slices_spans, List.length_map]
    rw [retained_slices h hr hp hx, modify_append_eq (slices_length h) hlt', ← hiff]
    refine and_congr_right fun _ => ⟨fun hall index' ha' hroom => hall, fun hall => hall index rfl hfull⟩
  · have hsame := retain_full r ha hfull
    rw [if_pos rfl, slices_same hsame]
    refine ⟨h.same hsame, fun hexact => ⟨hexact, fun index' ha' hroom => ?_⟩, And.left⟩
    obtain rfl := Option.some.inj ha'
    rw [hfull] at hroom
    cases hroom

/-! ## A whole record -/

/-- The active incident retains the record where another row lies. -/
def Misplaces (s : Evidence) (r : Row) : Prop :=
  ∃ index x, s.active = some index ∧ s.full index = false ∧ s.behind = some x ∧ x ≠ r

theorem full_spans (s : Evidence) (index : Nat) : s.full index =
    (decide (s.evidence.length = MAX_EVIDENCE) || s.spans[index]?.any fun p => p.2 = PER_INCIDENT) := by
  rw [full, spans, List.getElem?_map, Option.any_map]
  rfl

theorem same_behind (hs : SamePlaces s s') : s'.behind = s.behind ∧ ∀ index, s'.full index = s.full index := by
  refine ⟨?_, fun index => ?_⟩
  · rw [behind, behind, hs.active, hs.spans, hs.evidence]
  · rw [full_spans, full_spans, hs.spans, hs.evidence]

/-- A recovery is copied only where nothing lies behind the slice of the active incident. -/
theorem recover_behind (h : Placed s own) (r : Row) :
    (s.behind = none → ∀ x ∈ (s.recover r).behind, x = r) ∧
    (∀ x, s.behind = some x → (s.recover r).behind = some x ∧ ∀ index, (s.recover r).full index = s.full index) := by
  obtain ⟨hspans, hactive, hrecovered⟩ := recover_spec r s
  cases hrecovered with
  | summary hevidence _ =>
    have hbehind : (s.recover r).behind = s.behind := by
      rw [behind, behind, hactive, hspans, hevidence]
    refine ⟨fun hnone x hx => ?_, fun x hx => ⟨hbehind.trans hx, fun index => ?_⟩⟩
    · rw [hbehind, hnone] at hx
      cases hx
    · rw [full_spans, full_spans, hspans, hevidence]
  | late hevidence _ other hwaited hinactive =>
    rcases ha : s.active with _ | index
    · refine ⟨fun _ x hx => ?_, fun x hx => ?_⟩
      · rw [behind, hactive, ha] at hx
        cases hx
      · rw [behind, ha] at hx
        cases hx
    rcases hp : s.spans[index]? with _ | p
    · refine ⟨fun _ x hx => ?_, fun x hx => ?_⟩
      · rw [behind, hactive, ha, hspans, Option.bind_some, hp] at hx
        cases hx
      · rw [behind, ha, Option.bind_some, hp] at hx
        cases hx
    have hbehind : s.behind = s.evidence[p.1 + p.2]? := by
      rw [behind, ha, Option.bind_some, hp, Option.bind_some]
    rcases h.tight index ha p hp with hlen | ⟨-, hwaits⟩
    · refine ⟨fun _ x hx => ?_, fun x hx => ?_⟩
      · rw [behind, hactive, ha, hspans, Option.bind_some, hp, Option.bind_some, hevidence, ← hlen,
          List.getElem?_concat_length] at hx
        exact (Option.some.inj hx).symm
      · rw [hbehind, ← hlen, List.getElem?_eq_none (Nat.le_refl _)] at hx
        cases hx
    · obtain rfl := hwaits other hwaited
      exact absurd ha hinactive

theorem opened_behind (r : Row) (s : Evidence) : (s.opened r).behind = none := by
  have hactive : (s.opened r).active = some s.spans.length := by
    rw [spans, List.length_map]
    rfl
  have hevidence : (s.opened r).evidence = s.evidence ++ s.context.take (MAX_EVIDENCE - s.evidence.length) := rfl
  rw [behind, hactive, opened_spans, Option.bind_some, List.getElem?_concat_length, Option.bind_some, hevidence,
    ← List.length_append]
  exact List.getElem?_eq_none (Nat.le_refl _)

theorem triggered_behind (r : Row) (reasons : Int64) (ha : s.active = none) : (s.triggered r reasons).behind = none := by
  have hidle : s.behind = none := by
    rw [behind, ha]
    rfl
  unfold triggered
  split
  · unfold trigger
    rw [ha]
    dsimp only
    split
    · rfl
    · rw [(same_behind (note_anomaly_same r reasons s.incident.length (s.opened r))).1]
      exact opened_behind r s
  · exact hidle

/-- Once the anomaly is noted and the recovery kept, nothing but the record itself has come behind the slice. -/
theorem behind_recovered (h : Placed s own) (r : Row) (reasons : Int64) :
    (∀ index ∈ ((s.triggered r reasons).recover r).active, ((s.triggered r reasons).recover r).full index = false →
      ∀ x ∈ ((s.triggered r reasons).recover r).behind, x = r) ↔ ¬ Misplaces s r := by
  have hplaced := (triggered_placed h r reasons).1
  obtain ⟨hnone, hsome⟩ := recover_behind hplaced r
  have hactive := (recover_spec r (s.triggered r reasons)).2.1
  rcases ha : s.active with _ | index
  · have hbehind := triggered_behind r reasons ha
    refine ⟨fun _ hmisplaces => ?_, fun _ _ _ _ => hnone hbehind⟩
    obtain ⟨index, x, hsome, -⟩ := hmisplaces
    rw [ha] at hsome
    cases hsome
  have hsame : SamePlaces s (s.triggered r reasons) := by
    unfold triggered trigger
    rw [ha]
    split
    · exact note_anomaly_same r reasons index s
    · exact ⟨rfl, rfl, rfl, rfl⟩
  obtain ⟨hbehind, hfull⟩ := same_behind hsame
  rw [hactive, hsame.active, ha]
  rcases hb : s.behind with _ | x
  · rw [hb] at hbehind
    refine ⟨fun _ hmisplaces => ?_, fun _ _ _ _ => hnone hbehind⟩
    obtain ⟨_, x, -, -, hx, -⟩ := hmisplaces
    rw [hb] at hx
    cases hx
  · obtain ⟨hbehind', hfull'⟩ := hsome x (hbehind.trans hb)
    refine ⟨fun hall hmisplaces => ?_, fun hplain index' ha' hroom y hy => ?_⟩
    · obtain ⟨index', y, ha', hroom, hy, hne⟩ := hmisplaces
      obtain rfl := Option.some.inj (ha.symm.trans ha')
      obtain rfl := Option.some.inj (hb.symm.trans hy)
      exact hne (hall index rfl ((hfull' index).trans ((hfull index).trans hroom)) x hbehind')
    · obtain rfl := Option.some.inj ha'
      rw [hbehind'] at hy
      obtain rfl := Option.some.inj hy
      by_contra hne
      exact hplain ⟨index, x, ha, (hfull index).symm.trans ((hfull' index).symm.trans hroom), hb, hne⟩

theorem remember_same (r : Row) (s : Evidence) : SamePlaces s (s.remember r) := by
  unfold remember
  refine ⟨?_, rfl, rfl, rfl⟩
  unfold spans
  rfl

theorem triggered_recovering (r : Row) (reasons : Int64) (s : Evidence) :
    (s.triggered r reasons).recovering = s.recovering := by
  unfold triggered trigger
  split
  · split
    · rfl
    · split
      · rfl
      · rfl
  · rfl

/-- The active incident was active before, or is new. -/
theorem triggered_active {reasons : Int64} {index : Nat} (ha : (s.triggered r reasons).active = some index) :
    (s.active = some index ∧ SamePlaces s (s.triggered r reasons)) ∨ (s.active = none ∧ index = s.spans.length) := by
  unfold triggered trigger at ha ⊢
  rcases hactive : s.active with _ | index'
  · right
    rw [hactive] at ha
    dsimp only at ha
    split at ha
    · split at ha
      · cases ha
      · obtain rfl := Option.some.inj ha
        rw [spans, List.length_map]
        exact ⟨rfl, rfl⟩
    · rw [hactive] at ha
      cases ha
  · left
    rw [hactive] at ha
    dsimp only at ha ⊢
    split at ha
    · rename_i hreasons
      rw [if_pos hreasons]
      have hsame := note_anomaly_same r reasons index' s
      exact ⟨(hactive.symm.trans hsame.active.symm).trans ha, hsame⟩
    · rename_i hreasons
      rw [if_neg hreasons]
      exact ⟨hactive.symm.trans ha, ⟨rfl, rfl, rfl, rfl⟩⟩

/-- The recovery of an incident that is over is due, while another is active. -/
def Late (r : Row) (index : Nat) (s : Evidence) : Prop := r.kind = RETIRED ∧ ∃ other ∈ s.recovering, other ≠ index

/-- A late recovery is copied if there is room, and nothing else is. -/
theorem recover_evidence (r : Row) {index : Nat} (ha : s.active = some index) :
    (Late r index s ∧ s.evidence.length < MAX_EVIDENCE ∧ (s.recover r).evidence = s.evidence ++ [r]) ∨
    ((Late r index s → ¬ s.evidence.length < MAX_EVIDENCE) ∧ (s.recover r).evidence = s.evidence) := by
  unfold recover
  by_cases hretired : r.kind = RETIRED
  · rw [retired_awaits_none hretired, if_neg Bool.false_ne_true, if_pos hretired]
    obtain ⟨-, hevidence, hactive, hrecovering⟩ := first_later_ack_same r s
    dsimp only
    rcases hwaited : (s.first_later_ack r).recovering with _ | other
    · refine .inr ⟨fun ⟨_, other, hother, _⟩ => ?_, hevidence⟩
      rw [← hrecovering, hwaited] at hother
      cases hother
    have hwaits : s.recovering = some other := hrecovering.symm.trans hwaited
    have hother : (s.first_later_ack r).active ≠ some other ↔ other ≠ index := by
      rw [hactive, ha, ne_eq, Option.some_inj, eq_comm]
    unfold recovered
    dsimp only
    split
    · rename_i hlate
      refine .inl ⟨⟨hretired, other, hwaits, hother.1 hlate.1⟩, hevidence ▸ hlate.2, ?_⟩
      exact congrArg (· ++ [r]) hevidence
    · rename_i hnot
      refine .inr ⟨fun ⟨_, other', hother', hne⟩ hroom => hnot ?_, hevidence⟩
      obtain rfl := Option.some.inj (hwaits.symm.trans hother')
      refine ⟨hother.2 hne, ?_⟩
      show (s.first_later_ack r).evidence.length < MAX_EVIDENCE
      rw [hevidence]
      exact hroom
  · rw [if_neg hretired]
    refine .inr ⟨fun hlate => absurd hlate.1 hretired, ?_⟩
    split
    · rfl
    · rfl

theorem behind_eq {index : Nat} {p : Nat × Nat} (ha : s.active = some index) (hp : s.spans[index]? = some p) :
    s.behind = s.evidence[p.1 + p.2]? := by
  rw [behind, ha, Option.bind_some, hp, Option.bind_some]

theorem Placed.active_span (h : Placed s own) {index : Nat} (ha : s.active = some index) :
    ∃ p, s.spans[index]? = some p ∧ (s.evidence.length = p.1 + p.2 ∨
      (s.evidence.length = p.1 + p.2 + 1 ∧ ∀ other ∈ s.recovering, other = index)) := by
  have hlast := h.newest index ha
  have hlt : index < s.spans.length := by omega
  exact ⟨_, List.getElem?_eq_getElem hlt, h.tight index ha _ (List.getElem?_eq_getElem hlt)⟩

/-- No row lies behind the slice when a recovery is late. -/
theorem late_behind (h : Placed s own) {index : Nat} (ha : s.active = some index) (hlate : Late r index s) :
    s.behind = none := by
  obtain ⟨p, hp, htight⟩ := h.active_span ha
  rcases htight with hlen | ⟨-, hwaits⟩
  · rw [behind_eq ha hp, ← hlen]
    exact List.getElem?_eq_none (Nat.le_refl _)
  · obtain ⟨-, other, hother, hne⟩ := hlate
    exact absurd (hwaits other hother) hne

/-- Where a row lies behind the slice, the record is there once the incident has retained it. -/
theorem retain_behind (h : Placed s own) (r : Row) {index : Nat} (ha : s.active = some index) :
    (s.retain r).behind = if s.full index then s.behind else s.behind.map fun _ => r := by
  rcases hfull : s.full index with _ | _
  · have hr := retain_room r ha hfull
    obtain ⟨p, hp, htight⟩ := h.active_span ha
    have hp' : (s.retain r).spans[index]? = some (longer p) := by
      rw [hr.spans, List.getElem?_modify_eq, hp]
      rfl
    rw [if_neg Bool.false_ne_true, behind_eq (hr.active.trans ha) hp', behind_eq ha hp, hr.evidence]
    have hlength : (s.evidence ++ [r]).length = s.evidence.length + 1 := List.length_append
    rcases htight with hlen | ⟨hlen, -⟩
    · rw [List.getElem?_eq_none (by rw [hlength, hlen, longer]; omega), List.getElem?_eq_none (by omega)]
      rfl
    · have hnext : (longer p).1 + (longer p).2 = s.evidence.length := by
        rw [hlen, longer]
        omega
      rw [hnext, List.getElem?_concat_length, List.getElem?_eq_getElem (by omega)]
      rfl
  · rw [if_pos rfl]
    exact (same_behind (retain_full r ha hfull)).1

theorem retain_nothing (h : Placed s own) (r : Row) {index : Nat} (ha : s.active = some index) (hbehind : s.behind = none) :
    (s.retain r).behind = none := by
  rw [retain_behind h r ha, hbehind]
  split
  · rfl
  · rfl

theorem retain_something (h : Placed s own) (r : Row) {index : Nat} (ha : s.active = some index) {x : Row}
    (hbehind : s.behind = some x) : (s.retain r).behind = some (if s.full index then x else r) := by
  rw [retain_behind h r ha, hbehind]
  split
  · rfl
  · rfl

/-- What lies behind the slice of the active incident after a record: what lay there or the record, a recovery that was
late, or nothing. -/
inductive BehindAfter (r : Row) (index : Nat) (s s' : Evidence) : Prop
  | kept (x : Row) (now : s.active = some index) (was : s.behind = some x) (intime : ¬ Late r index s)
      (behind : s'.behind = some (if s.full index then x else r))
  | late (is : Late r index s) (was : s.active = some index → s.behind = none)
      (behind : s'.behind = some r ∨ (s'.behind = none ∧ s'.evidence.length = MAX_EVIDENCE))
  | nothing (intime : ¬ Late r index s) (was : s.active = some index → s.behind = none) (behind : s'.behind = none)

theorem triggered_length (hmax : s.evidence.length ≤ MAX_EVIDENCE) (r : Row) (reasons : Int64) :
    s.evidence.length ≤ (s.triggered r reasons).evidence.length ∧
    (s.triggered r reasons).evidence.length ≤ MAX_EVIDENCE := by
  unfold triggered trigger
  split
  · split
    · exact ⟨Nat.le_refl _, hmax⟩
    · split
      · exact ⟨Nat.le_refl _, hmax⟩
      · have hevidence : ((s.opened r).note_anomaly r reasons s.incident.length).evidence =
          s.evidence ++ s.context.take (MAX_EVIDENCE - s.evidence.length) := rfl
        rw [hevidence, List.length_append, List.length_take]
        omega
  · exact ⟨Nat.le_refl _, hmax⟩

theorem recover_length (hmax : s.evidence.length ≤ MAX_EVIDENCE) (r : Row) :
    s.evidence.length ≤ (s.recover r).evidence.length ∧ (s.recover r).evidence.length ≤ MAX_EVIDENCE := by
  obtain ⟨-, -, hrecovered⟩ := recover_spec r s
  cases hrecovered with
  | summary hevidence _ =>
    rw [hevidence]
    exact ⟨Nat.le_refl _, hmax⟩
  | late hevidence _ _ _ _ hroom =>
    rw [hevidence, List.length_append, List.length_singleton]
    exact ⟨Nat.le_succ _, hroom⟩

theorem retain_idle (r : Row) (ha : s.active = none) : s.retain r = s := by
  unfold retain
  rw [ha]

theorem retain_length (hmax : s.evidence.length ≤ MAX_EVIDENCE) (r : Row) :
    s.evidence.length ≤ (s.retain r).evidence.length ∧ (s.retain r).evidence.length ≤ MAX_EVIDENCE := by
  rcases ha : s.active with _ | index
  · rw [retain_idle r ha]
    exact ⟨Nat.le_refl _, hmax⟩
  rcases hfull : s.full index with _ | _
  · rw [(retain_room r ha hfull).evidence, List.length_append, List.length_singleton]
    rw [full, Bool.or_eq_false_iff, decide_eq_false_iff_not] at hfull
    have hroom := hfull.1
    omega
  · rw [(retain_full r ha hfull).evidence]
    exact ⟨Nat.le_refl _, hmax⟩

theorem retain_active (r : Row) (s : Evidence) : (s.retain r).active = s.active := by
  rcases ha : s.active with _ | index
  · rw [retain_idle r ha, ha]
  rcases hfull : s.full index with _ | _
  · rw [(retain_room r ha hfull).active, ha]
  · rw [(retain_full r ha hfull).active, ha]

/-- Evidence only grows, up to its cap. -/
theorem keep_length (hmax : s.evidence.length ≤ MAX_EVIDENCE) (r : Row) (reasons : Int64) :
    s.evidence.length ≤ (s.keep r reasons).evidence.length ∧ (s.keep r reasons).evidence.length ≤ MAX_EVIDENCE := by
  obtain ⟨htriggered, hmax⟩ := triggered_length hmax r reasons
  obtain ⟨hrecovered, hmax⟩ := recover_length hmax r
  obtain ⟨hretained, hmax⟩ := retain_length hmax r
  have hkeep : s.keep r reasons = (((s.triggered r reasons).recover r).retain r).remember r := rfl
  rw [hkeep, (remember_same r _).evidence]
  exact ⟨htriggered.trans (hrecovered.trans hretained), hmax⟩

theorem keep_active (r : Row) (reasons : Int64) (s : Evidence) :
    (s.keep r reasons).active = (s.triggered r reasons).active := by
  have hkeep : s.keep r reasons = (((s.triggered r reasons).recover r).retain r).remember r := rfl
  rw [hkeep, (remember_same r _).active, retain_active, (recover_spec r _).2.1]

theorem keep_behind (h : Placed s own) (hmax : s.evidence.length ≤ MAX_EVIDENCE) (r : Row) (reasons : Int64) {index : Nat}
    (ha : (s.keep r reasons).active = some index) : BehindAfter r index s (s.keep r reasons) := by
  rw [keep_active] at ha
  have hkeep : s.keep r reasons = (((s.triggered r reasons).recover r).retain r).remember r := rfl
  obtain ⟨hspans, hactive, -⟩ := recover_spec r (s.triggered r reasons)
  have htriggered := (triggered_placed h r reasons).1
  have hrecovered := (recover_placed htriggered r).1
  have hlate : Late r index (s.triggered r reasons) ↔ Late r index s := by
    rw [Late, Late, triggered_recovering]
  have hwas : s.active = some index → s.behind = (s.triggered r reasons).behind := by
    intro hs
    rcases triggered_active ha with ⟨-, hsame⟩ | ⟨hnone, -⟩
    · exact (same_behind hsame).1.symm
    · rw [hnone] at hs
      cases hs
  obtain ⟨p, hp, htight⟩ := htriggered.active_span ha
  have hsame := remember_same r (((s.triggered r reasons).recover r).retain r)
  rw [hkeep]
  rcases recover_evidence r ha with ⟨hislate, hroom, hevidence⟩ | ⟨hnoroom, hevidence⟩
  · -- The copy lands right behind the slice, and `retain` puts the record itself there, if it retains it.
    have hbehind : ((s.triggered r reasons).recover r).behind = some r := by
      rcases htight with hlen | ⟨-, hwaits⟩
      · rw [behind_eq (hactive.trans ha) (hspans ▸ hp), hevidence, ← hlen]
        exact List.getElem?_concat_length
      · obtain ⟨-, other, hother, hne⟩ := hislate
        exact absurd (hwaits other hother) hne
    refine .late (hlate.1 hislate) (fun hs => (hwas hs).trans (late_behind htriggered ha hislate)) (.inl ?_)
    rw [(same_behind hsame).1, retain_something hrecovered r (hactive.trans ha) hbehind, ite_self]
  · have hbehind : ((s.triggered r reasons).recover r).behind = (s.triggered r reasons).behind := by
      rw [behind_eq (hactive.trans ha) (hspans ▸ hp), behind_eq ha hp, hevidence]
    have hnothing : (s.triggered r reasons).behind = none →
        ((((s.triggered r reasons).recover r).retain r).remember r).behind = none := fun hnone =>
      (same_behind hsame).1.trans (retain_nothing hrecovered r (hactive.trans ha) (hbehind.trans hnone))
    by_cases hislate : Late r index (s.triggered r reasons)
    · -- There is no room for the recovery, and there will be none again.
      have hidle := late_behind htriggered ha hislate
      obtain ⟨-, hmax'⟩ := triggered_length hmax r reasons
      obtain ⟨hgrows, hmax''⟩ := retain_length (hevidence ▸ hmax') r
      refine .late (hlate.1 hislate) (fun hs => (hwas hs).trans hidle) (.inr ⟨hnothing hidle, ?_⟩)
      have hfilled := hnoroom hislate
      rw [hevidence] at hgrows
      rw [hsame.evidence]
      omega
    · have hintime : ¬ Late r index s := fun hs => hislate (hlate.2 hs)
      -- The incident was active before, or it is new and its context ends the array.
      rcases triggered_active ha with ⟨hs, hunmoved⟩ | ⟨hnone, -⟩
      · obtain ⟨hbehind', hfull'⟩ := same_behind hunmoved
        rcases hx : s.behind with _ | x
        · exact .nothing hintime (fun _ => hx) (hnothing (hbehind'.trans hx))
        · have hfull : ((s.triggered r reasons).recover r).full index = s.full index := by
            rw [← hfull', full_spans, full_spans, hspans, hevidence]
          refine .kept x hs hx hintime ?_
          rw [(same_behind hsame).1, retain_something hrecovered r (hactive.trans ha) (hbehind.trans (hbehind'.trans hx)),
            hfull]
      · refine .nothing hintime (fun hs => ?_) (hnothing (triggered_behind r reasons hnone))
        rw [hnone] at hs
        cases hs

theorem keep_placed (h : Placed s own) (r : Row) (reasons : Int64) :
    Placed (s.keep r reasons) (s.own_kept r reasons own) ∧
    ((s.keep r reasons).slices = s.own_kept r reasons own ↔ s.slices = own ∧ ¬ Misplaces s r) := by
  obtain ⟨htriggered, hexact⟩ := triggered_placed h r reasons
  obtain ⟨hrecovered, hslices⟩ := recover_placed htriggered r
  obtain ⟨hretained, hexact'⟩ := retain_placed hrecovered r
  have hsame := remember_same r (((s.triggered r reasons).recover r).retain r)
  have hkeep : s.keep r reasons = (((s.triggered r reasons).recover r).retain r).remember r := rfl
  rw [hkeep]
  refine ⟨hretained.same hsame, ?_⟩
  rw [slices_same hsame, own_kept, hexact', hslices, hexact, behind_recovered h r reasons]

end Evidence

/-! ## A whole run -/

namespace Recorder

theorem queued_evidence (r : Row) (s : Recorder) : (s.queued r).1.toEvidence = s.toEvidence := by
  unfold queued
  dsimp only
  split
  · rfl
  · rfl

theorem attempt_evidence (r : Row) (s : Recorder) : (s.attempt r).1.toEvidence = s.toEvidence := by
  unfold attempt
  dsimp only
  split
  · rfl
  · rfl

theorem retired_evidence (r : Row) (s : Recorder) : (s.retired r).1.toEvidence = s.toEvidence := by
  unfold retired
  dsimp only
  split
  · rfl
  · rfl

theorem acked_evidence (r : Row) (s : Recorder) : (s.acked r).1.toEvidence = s.toEvidence := by
  have hoverdue (s : Recorder) : (if r.d > 0 then
      { s with oldestPendingMaxNs := max s.oldestPendingMaxNs (r.at_ - r.d) } else s).toEvidence = s.toEvidence := by
    split <;> rfl
  have hinterval (s : Recorder) : (if r.a = 1 ∧ r.c > 0 then s.sample 7 r.at_ r.b else s).toEvidence = s.toEvidence := by
    split <;> rfl
  have hrepeat (s : Recorder) : (if r.a = 0 then s.count 1 else s).toEvidence = s.toEvidence := by
    split <;> rfl
  unfold acked
  dsimp only
  split
  · exact (hrepeat _).trans ((hinterval _).trans (hoverdue s))
  · exact (hrepeat _).trans ((hinterval _).trans (hoverdue s))

/-- Measuring changes nothing of the evidence but the latest environment. -/
theorem measure_evidence (r : Row) (s : Recorder) : Evidence.SamePlaces s.toEvidence (s.measure r).1.toEvidence := by
  have hsame {e : Evidence} (he : e = s.toEvidence) : Evidence.SamePlaces s.toEvidence e := by
    rw [he]
    exact ⟨rfl, rfl, rfl, rfl⟩
  unfold measure
  split
  · exact hsame (queued_evidence r s)
  split
  · exact hsame (attempt_evidence r s)
  split
  · exact hsame (retired_evidence r s)
  split
  · exact hsame (acked_evidence r s)
  split
  · exact hsame rfl
  split
  · exact hsame rfl
  split
  · exact hsame rfl
  split
  · exact ⟨rfl, rfl, rfl, rfl⟩
  · exact hsame rfl

theorem observe_evidence (r : Row) (s : Recorder) : (s.observe r).toEvidence = s.toEvidence.expire r := by
  unfold observe
  dsimp only
  split
  · rfl
  · rfl

end Recorder

/-- A recorder, and the rows that each of its incidents is to have. -/
structure Run where
  recorder : Recorder
  own : List (List Row)

def Run.step (x : Run) (r : Row) : Run where
  recorder := x.recorder.analyze r
  own := ((x.recorder.observe r).measure r).1.toEvidence.own_kept r ((x.recorder.observe r).measure r).2 x.own

def run (records : List Row) : Run := records.foldl Run.step ⟨.new, []⟩

theorem run_concat (records : List Row) (r : Row) : run (records ++ [r]) = (run records).step r := by
  rw [run, List.foldl_concat]
  rfl

/-- The record is one that its incident retains in another row's place: in the place of which, `Displaces` says. -/
def Run.Misplaces (x : Run) (r : Row) : Prop := (x.recorder.toEvidence.expire r).Misplaces r

theorem step_placed {x : Run} (h : x.recorder.toEvidence.Placed x.own) (r : Row) :
    (x.step r).recorder.toEvidence.Placed (x.step r).own ∧
    ((x.step r).recorder.slices = (x.step r).own ↔ x.recorder.slices = x.own ∧ ¬ x.Misplaces r) := by
  obtain ⟨hexpired, hslices⟩ := Evidence.expire_placed h r
  have hmeasured := (x.recorder.observe r).measure_evidence r
  rw [Recorder.observe_evidence] at hmeasured
  obtain ⟨hkept, hexact⟩ := Evidence.keep_placed (hexpired.same hmeasured) r ((x.recorder.observe r).measure r).2
  obtain ⟨hbehind, hfull⟩ := Evidence.same_behind hmeasured
  refine ⟨hkept, hexact.trans ?_⟩
  rw [Evidence.slices_same hmeasured, hslices, Run.Misplaces, Evidence.Misplaces, Evidence.Misplaces, hbehind,
    hmeasured.active]
  simp only [hfull]

/-- Some record of a run, with those before it, is as `P` says. -/
def Sometime (P : List Row → Row → Prop) (records : List Row) : Prop :=
  ∃ before r later, records = before ++ r :: later ∧ P before r

theorem sometime_nil (P : List Row → Row → Prop) : ¬ Sometime P [] := by
  rintro ⟨before, r, later, heq, -⟩
  simp at heq

theorem sometime_concat (P : List Row → Row → Prop) (records : List Row) (r : Row) :
    Sometime P (records ++ [r]) ↔ Sometime P records ∨ P records r := by
  constructor
  · rintro ⟨before, r', later, heq, hr⟩
    rcases List.eq_nil_or_concat later with rfl | ⟨later, last, rfl⟩
    · obtain ⟨rfl, hlast⟩ := List.append_inj' heq rfl
      obtain rfl := List.singleton_inj.1 hlast
      exact .inr hr
    · rw [List.concat_eq_append, ← List.cons_append, ← List.append_assoc] at heq
      obtain ⟨rfl, -⟩ := List.append_inj' heq rfl
      exact .inl ⟨before, r', later, rfl, hr⟩
  · rintro (⟨before, r', later, rfl, hr⟩ | hr)
    · exact ⟨before, r', later ++ [r], by simp, hr⟩
    · exact ⟨records, r, [], rfl, hr⟩

theorem run_placed (records : List Row) :
    (run records).recorder.toEvidence.Placed (run records).own ∧
    ((run records).recorder.slices = (run records).own ↔ ¬ Sometime (fun before r => (run before).Misplaces r) records) := by
  induction records using List.reverseRecOn with
  | nil => exact ⟨Evidence.placed_new, fun _ => sometime_nil _, fun _ => rfl⟩
  | append_singleton records r ih =>
    obtain ⟨hplaced, hexact⟩ := ih
    obtain ⟨hplaced', hexact'⟩ := step_placed hplaced r
    rw [run_concat]
    refine ⟨hplaced', ?_⟩
    rw [hexact', hexact, sometime_concat, not_or]

/-! ## Which runs go wrong -/

/-- The record is the recovery of an incident that is over, and comes while `index` is active. -/
def Run.RecoversLate (x : Run) (r : Row) (index : Nat) : Prop :=
  Evidence.Late r index x.recorder.toEvidence ∧ (x.step r).recorder.active = some index

/-- The record is one that `index`, active since before, retains. -/
def Run.Retains (x : Run) (r : Row) (index : Nat) : Prop :=
  (x.recorder.toEvidence.expire r).active = some index ∧ (x.recorder.toEvidence.expire r).full index = false

/-- `recovery` was one while `index` was active. -/
def RecoveredLate (records : List Row) (index : Nat) (recovery : Row) : Prop :=
  Sometime (fun before r => (run before).RecoversLate r index ∧ r = recovery) records

/-- The record is retained by an incident during which the recovery of another has come, and is a different one. -/
def Displaces (records : List Row) (r : Row) : Prop :=
  ∃ index recovery, RecoveredLate records index recovery ∧ (run records).Retains r index ∧ r ≠ recovery

/-- Some record of the run is such a one. -/
def Displaced (records : List Row) : Prop := Sometime Displaces records

theorem recoveredLate_concat (records : List Row) (r : Row) (index : Nat) (recovery : Row) :
    RecoveredLate (records ++ [r]) index recovery ↔
      RecoveredLate records index recovery ∨ (run records).RecoversLate r index ∧ r = recovery :=
  sometime_concat _ records r

/-- What lies behind the slice of the active incident is the late recovery that came during it, as long as nothing was
displaced. -/
structure Explained (records : List Row) : Prop where
  bounded : (run records).recorder.evidence.length ≤ MAX_EVIDENCE
  known : ∀ index ∈ (run records).recorder.active, ∀ x ∈ (run records).recorder.behind,
    ∃ recovery, RecoveredLate records index recovery ∧ (x = recovery ∨ Displaced records)
  found : ∀ index ∈ (run records).recorder.active, ∀ recovery, RecoveredLate records index recovery →
    (run records).recorder.evidence.length = MAX_EVIDENCE ∨
      ∃ x ∈ (run records).recorder.behind, x = recovery ∨ Displaced records
  older : ∀ index recovery, RecoveredLate records index recovery → index < (run records).own.length

theorem own_kept_length (r : Row) (reasons : Int64) (s : Evidence) (own : List (List Row)) :
    own.length ≤ (s.own_kept r reasons own).length := by
  have htriggered : own.length ≤ (s.own_triggered reasons own).length := by
    unfold Evidence.own_triggered
    split
    · rw [List.length_append]
      exact Nat.le_add_right _ _
    · exact Nat.le_refl _
  refine htriggered.trans ?_
  unfold Evidence.own_kept Evidence.own_retained
  split
  · split
    · exact Nat.le_refl _
    · rw [List.length_modify]
  · exact Nat.le_refl _

/-- An incident that is active was so before, or is new. -/
theorem step_active {x : Run} (h : x.recorder.toEvidence.Placed x.own) {r : Row} {index : Nat}
    (ha : (x.step r).recorder.active = some index) :
    ((x.recorder.toEvidence.expire r).active = some index ∧ x.recorder.active = some index) ∨ index = x.own.length := by
  have hmeasured := (x.recorder.observe r).measure_evidence r
  rw [Recorder.observe_evidence] at hmeasured
  have hlength : x.own.length = (x.recorder.toEvidence.expire r).spans.length := by
    have hcounts := congrArg List.length (Evidence.expire_placed h r).1.counts
    rwa [List.length_map, List.length_map] at hcounts
  have hstep : (x.step r).recorder.active =
      (((x.recorder.observe r).measure r).1.toEvidence.triggered r ((x.recorder.observe r).measure r).2).active :=
    Evidence.keep_active r _ _
  rw [hstep] at ha
  rcases Evidence.triggered_active ha with ⟨hactive, -⟩ | ⟨-, hnew⟩
  · rw [hmeasured.active] at hactive
    refine .inl ⟨hactive, ?_⟩
    rcases (Evidence.expire_same r x.recorder.toEvidence).2.2.2 with hsame | hnone
    · exact hsame.symm.trans hactive
    · rw [hnone] at hactive
      cases hactive
  · rw [hmeasured.spans] at hnew
    exact .inr (hnew.trans hlength.symm)

/-- What lies behind the slice, from one record to the next. -/
theorem step_behind {x : Run} (h : x.recorder.toEvidence.Placed x.own) (hmax : x.recorder.evidence.length ≤ MAX_EVIDENCE)
    {r : Row} {index : Nat} (ha : (x.step r).recorder.active = some index) :
    Evidence.BehindAfter r index (x.recorder.toEvidence.expire r) (x.step r).recorder.toEvidence := by
  have hmeasured := (x.recorder.observe r).measure_evidence r
  rw [Recorder.observe_evidence] at hmeasured
  have hplaced := (Evidence.expire_placed h r).1.same hmeasured
  have hmax' : ((x.recorder.observe r).measure r).1.evidence.length ≤ MAX_EVIDENCE := by
    rw [hmeasured.evidence, (Evidence.expire_same r _).2.1]
    exact hmax
  obtain ⟨hbehind, hfull⟩ := Evidence.same_behind hmeasured
  have hlate : Evidence.Late r index ((x.recorder.observe r).measure r).1.toEvidence ↔
      Evidence.Late r index (x.recorder.toEvidence.expire r) := by
    rw [Evidence.Late, Evidence.Late, hmeasured.recovering]
  cases Evidence.keep_behind hplaced hmax' r _ ha with
  | kept y hnow hwas hintime hafter =>
    rw [hfull] at hafter
    exact .kept y (hmeasured.active.symm.trans hnow) (hbehind.symm.trans hwas) (fun hl => hintime (hlate.2 hl)) hafter
  | late hl hwas hafter => exact .late (hlate.1 hl) (fun hs => hbehind.symm.trans (hwas (hmeasured.active.trans hs))) hafter
  | nothing hintime hwas hafter =>
    exact .nothing (fun hl => hintime (hlate.2 hl)) (fun hs => hbehind.symm.trans (hwas (hmeasured.active.trans hs))) hafter

theorem step_length {x : Run} (hmax : x.recorder.evidence.length ≤ MAX_EVIDENCE) (r : Row) :
    x.recorder.evidence.length ≤ (x.step r).recorder.evidence.length ∧
    (x.step r).recorder.evidence.length ≤ MAX_EVIDENCE := by
  have hmeasured := (x.recorder.observe r).measure_evidence r
  rw [Recorder.observe_evidence] at hmeasured
  have hsame : ((x.recorder.observe r).measure r).1.evidence = x.recorder.evidence :=
    hmeasured.evidence.trans (Evidence.expire_same r _).2.1
  obtain ⟨hgrows, hmax'⟩ := Evidence.keep_length (hsame ▸ hmax) r ((x.recorder.observe r).measure r).2
  rw [hsame] at hgrows
  exact ⟨hgrows, hmax'⟩

/-- While an incident goes on, expiring changes nothing behind its slice. -/
theorem expire_behind {s : Evidence} {r : Row} {index : Nat} (ha : (s.expire r).active = some index) :
    s.active = some index ∧ (s.expire r).behind = s.behind := by
  obtain ⟨hspans, hevidence, -, hactive⟩ := Evidence.expire_same r s
  rcases hactive with hsame | hnone
  · refine ⟨hsame.symm.trans ha, ?_⟩
    rw [Evidence.behind, Evidence.behind, hsame, hspans, hevidence]
  · rw [hnone] at ha
    cases ha

theorem expire_late (s : Evidence) (r : Row) (index : Nat) :
    Evidence.Late r index (s.expire r) ↔ Evidence.Late r index s := by
  rw [Evidence.Late, Evidence.Late, (Evidence.expire_same r s).2.2.1]

theorem Displaced.later {records : List Row} (h : Displaced records) (r : Row) : Displaced (records ++ [r]) :=
  (sometime_concat _ _ _).2 (.inl h)

/-- The record that lands behind the slice is the recovery that lay there, or it displaces it. -/
theorem retained_displaces {records : List Row} {index : Nat} {recovery x : Row}
    (hrecovered : RecoveredLate records index recovery) (hx : x = recovery ∨ Displaced records) {r : Row}
    (hnow : ((run records).recorder.toEvidence.expire r).active = some index) :
    (if ((run records).recorder.toEvidence.expire r).full index then x else r) = recovery ∨ Displaced (records ++ [r]) := by
  split
  · exact hx.imp_right fun h => h.later r
  · rename_i hroom
    by_cases hsame : r = recovery
    · exact .inl hsame
    · rw [Bool.not_eq_true] at hroom
      exact .inr ((sometime_concat _ _ _).2 (.inr ⟨index, recovery, hrecovered, ⟨hnow, hroom⟩, hsame⟩))

theorem known_step {records : List Row} (hplaced : (run records).recorder.toEvidence.Placed (run records).own)
    (h : Explained records) {r : Row} {index : Nat} (ha : (run (records ++ [r])).recorder.active = some index) {x : Row}
    (hx : (run (records ++ [r])).recorder.behind = some x) :
    ∃ recovery, RecoveredLate (records ++ [r]) index recovery ∧ (x = recovery ∨ Displaced (records ++ [r])) := by
  rw [run_concat] at ha hx
  cases step_behind hplaced h.bounded ha with
  | kept y hnow hwas _ hafter =>
    obtain ⟨hactive, hbehind⟩ := expire_behind hnow
    obtain ⟨recovery, hrecovered, hy⟩ := h.known index hactive y (hbehind.symm.trans hwas)
    obtain rfl := Option.some.inj (hafter.symm.trans hx)
    exact ⟨recovery, (recoveredLate_concat ..).2 (.inl hrecovered), retained_displaces hrecovered hy hnow⟩
  | late hl _ hafter =>
    refine ⟨r, (recoveredLate_concat ..).2 (.inr ⟨⟨(expire_late ..).1 hl, ha⟩, rfl⟩), .inl ?_⟩
    rcases hafter with hafter | ⟨hafter, -⟩
    · exact (Option.some.inj (hafter.symm.trans hx)).symm
    · rw [hafter] at hx
      cases hx
  | nothing _ _ hafter =>
    rw [hafter] at hx
    cases hx

theorem found_step {records : List Row} (hplaced : (run records).recorder.toEvidence.Placed (run records).own)
    (h : Explained records) {r : Row} {index : Nat} (ha : (run (records ++ [r])).recorder.active = some index)
    {recovery : Row} (hrecovered : RecoveredLate (records ++ [r]) index recovery) :
    (run (records ++ [r])).recorder.evidence.length = MAX_EVIDENCE ∨
      ∃ x ∈ (run (records ++ [r])).recorder.behind, x = recovery ∨ Displaced (records ++ [r]) := by
  rw [run_concat] at ha ⊢
  have hbehind := step_behind hplaced h.bounded ha
  rcases (recoveredLate_concat ..).1 hrecovered with hrecovered | ⟨⟨hl, -⟩, rfl⟩
  · -- An incident that a recovery came during is not new.
    obtain ⟨hnow, hactive⟩ := (step_active hplaced ha).resolve_right fun hnew =>
      absurd (h.older index recovery hrecovered) (by rw [hnew]; exact Nat.lt_irrefl _)
    rcases h.found index hactive recovery hrecovered with hfull | ⟨y, hy, hsame⟩
    · obtain ⟨hgrows, hmax⟩ := step_length h.bounded r
      exact .inl (Nat.le_antisymm hmax (hfull.symm.le.trans hgrows))
    have hy : ((run records).recorder.toEvidence.expire r).behind = some y := (expire_behind hnow).2.trans hy
    cases hbehind with
    | kept z _ hwas _ hafter =>
      obtain rfl := Option.some.inj (hwas.symm.trans hy)
      exact .inr ⟨_, hafter, retained_displaces hrecovered hsame hnow⟩
    | late _ hwas _ =>
      rw [hwas hnow] at hy
      cases hy
    | nothing _ hwas _ =>
      rw [hwas hnow] at hy
      cases hy
  · cases hbehind with
    | kept _ _ _ hintime _ => exact absurd ((expire_late ..).2 hl) hintime
    | late _ _ hafter =>
      rcases hafter with hafter | ⟨-, hfull⟩
      · exact .inr ⟨r, hafter, .inl rfl⟩
      · exact .inl hfull
    | nothing hintime _ _ => exact absurd ((expire_late ..).2 hl) hintime

theorem older_step {records : List Row} (hplaced : (run records).recorder.toEvidence.Placed (run records).own)
    (h : Explained records) {r : Row} {index : Nat} {recovery : Row}
    (hrecovered : RecoveredLate (records ++ [r]) index recovery) : index < (run (records ++ [r])).own.length := by
  rw [run_concat]
  have hgrows : (run records).own.length ≤ ((run records).step r).own.length := own_kept_length ..
  rcases (recoveredLate_concat ..).1 hrecovered with hrecovered | ⟨⟨-, ha⟩, rfl⟩
  · exact Nat.lt_of_lt_of_le (h.older index recovery hrecovered) hgrows
  · have hplaced' := (step_placed hplaced r).1
    have hcounts := congrArg List.length hplaced'.counts
    rw [List.length_map, List.length_map] at hcounts
    have hnewest := hplaced'.newest index ha
    omega

theorem explained_step {records : List Row} (hplaced : (run records).recorder.toEvidence.Placed (run records).own)
    (h : Explained records) (r : Row) : Explained (records ++ [r]) where
  bounded := by
    rw [run_concat]
    exact (step_length h.bounded r).2
  known _ ha _ hx := known_step hplaced h ha hx
  found _ ha _ hrecovered := found_step hplaced h ha hrecovered
  older _ _ hrecovered := older_step hplaced h hrecovered

theorem explained (records : List Row) : Explained records := by
  induction records using List.reverseRecOn with
  | nil =>
    exact ⟨Nat.zero_le _, fun _ ha => (by cases ha), fun _ ha => (by cases ha), fun _ _ hr => (sometime_nil _ hr).elim⟩
  | append_singleton records r ih => exact explained_step (run_placed records).1 ih r

/-- A record lands in another row's place when it is displaced. -/
theorem displaced_iff (records : List Row) :
    Sometime (fun before r => (run before).Misplaces r) records ↔ Displaced records := by
  induction records using List.reverseRecOn with
  | nil => exact ⟨fun h => (sometime_nil _ h).elim, fun h => (sometime_nil _ h).elim⟩
  | append_singleton records r ih =>
    have hconcat : Displaced (records ++ [r]) ↔ Displaced records ∨ Displaces records r := sometime_concat _ _ _
    rw [sometime_concat, ih, hconcat]
    by_cases hdisplaced : Displaced records
    · exact ⟨fun _ => .inl hdisplaced, fun _ => .inl hdisplaced⟩
    refine or_congr_right ⟨?_, ?_⟩
    · rintro ⟨index, x, hnow, hroom, hx, hne⟩
      obtain ⟨hactive, hbehind⟩ := expire_behind hnow
      obtain ⟨recovery, hrecovered, hsame⟩ := (explained records).known index hactive x (hbehind.symm.trans hx)
      obtain rfl := hsame.resolve_right hdisplaced
      exact ⟨index, x, hrecovered, ⟨hnow, hroom⟩, hne.symm⟩
    · rintro ⟨index, recovery, hrecovered, ⟨hnow, hroom⟩, hne⟩
      obtain ⟨hactive, hbehind⟩ := expire_behind hnow
      rcases (explained records).found index hactive recovery hrecovered with hfull | ⟨x, hx, hsame⟩
      · rw [Evidence.full, Bool.or_eq_false_iff, decide_eq_false_iff_not, (Evidence.expire_same r _).2.1] at hroom
        exact absurd hfull hroom.1
      · obtain rfl := hsame.resolve_right hdisplaced
        exact ⟨index, x, hnow, hroom, hbehind.trans hx, hne.symm⟩

/-- The slices of different incidents never overlap, and each holds the environment and the context that its incident
started with and then the records the incident retained, unless the recovery of an incident that was over came while another
was active, which then retained a different record. -/
theorem evidence_attributed (records : List Row) :
    (run records).recorder.incident.Pairwise (fun i j => i.evidence_offset + i.evidence_count ≤ j.evidence_offset) ∧
    (∀ i ∈ (run records).recorder.incident, i.evidence_offset + i.evidence_count ≤ (run records).recorder.evidence.length) ∧
    ((run records).recorder.slices = (run records).own ↔ ¬ Displaced records) := by
  obtain ⟨hplaced, hexact⟩ := run_placed records
  refine ⟨List.pairwise_map.1 hplaced.apart, fun i hi => ?_, hexact.trans (not_congr (displaced_iff records))⟩
  exact hplaced.within (Evidence.span i) (List.mem_map_of_mem hi)

/-- The watchdog gives up, and nothing is wrong for longer than `QUIET`. Then a frame is discarded, an ACK retires an older
one, and a healthy frame is queued. -/
def lateRecovery : List Row :=
  [{ Row.zero with word0 := 29, at_ := 1000000000, session := 7 },
   { Row.zero with word0 := 24, at_ := 1040000000, session := 8, sequence := 3 },
   { Row.zero with word0 := 23, at_ := 1041000000, session := 8, sequence := 2, a := 1040500000, b := 1 },
   { Row.zero with word0 := 20, at_ := 1042000000, session := 8, sequence := 4, d := 1 }]

/-- The second incident has the recovery twice, and not the frame. -/
theorem evidence_misattributed : ¬ ∀ records : List Row, (run records).recorder.slices = (run records).own := by
  intro h
  have hlate := h lateRecovery
  revert hlate
  decide +kernel

end Trackpad.DiagnosticRecorder
