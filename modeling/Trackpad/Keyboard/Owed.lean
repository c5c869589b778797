import Trackpad.Keyboard.Flush
/-!
# What a cut-short flush leaves in the queue

A flush selects its batch anew from the queue each time. The edge a write left without its sync
keeps its place and stays ready (`Owes`); it is the first one selected again exactly when every
edge ahead of it is still passed over (`AllPassed`).
-/
open Edges

namespace Trackpad.Keyboard

variable {L : Nat}

/-! ## Gaps -/

/-- The oldest waiting edge of a lane, if spaced, trails the lane's last emitted edge by the gap. -/
def Gapped (s : RepressSpacer L) : Prop :=
  ∀ lane e p, s.queue.find? (·.change.lane = lane) = some e → e.spaced = true → s.last_emitted lane = some p →
    p.at_ + s.gap ≤ e.due

theorem gapped_empty {s : RepressSpacer L} (h : s.queue = []) : Gapped s := by
  intro lane e p he
  rw [h] at he; cases he

/-- An edge pushed at the end matters only to a lane where nothing waited. -/
theorem push_gapped {s : RepressSpacer L} (h : Gapped s) (change : KeyChange L) (schedule : Nat × Bool)
    (hfirst : s.queue.find? (·.change.lane = change.lane) = none → schedule.2 = true →
      ∀ p, s.last_emitted change.lane = some p → p.at_ + s.gap ≤ schedule.1) :
    Gapped (s.push change schedule) := by
  intro lane e p he hsp hp
  simp only [RepressSpacer.push, List.find?_append] at he hp ⊢
  cases hq : s.queue.find? (·.change.lane = lane) with
  | some x => rw [hq] at he; cases he; exact h lane _ p hq hsp hp
  | none =>
    rw [hq] at he
    simp only [Option.none_or, List.find?_singleton] at he
    split at he
    · rename_i hl
      cases he
      simp only [decide_eq_true_eq] at hl
      subst hl
      exact hfirst hq hsp p hp
    · cases he

theorem schedule_first_gapped {gap now : Nat} {last : Option EmittedEdge} {change : KeyChange L} {p : EmittedEdge}
    (hp : last = some p) (hs : (RepressSpacer.schedule_first gap last change now).2 = true) :
    p.at_ + gap ≤ (RepressSpacer.schedule_first gap last change now).1 := by
  subst hp
  unfold RepressSpacer.schedule_first at hs ⊢
  dsimp only at hs ⊢
  split
  · exact le_rfl
  · rename_i hn; rw [if_neg hn] at hs; cases hs

theorem enqueue_gapped {s : RepressSpacer L} (h : Gapped s) (change : KeyChange L) (now : Nat) (os_pressed : Bool) :
    Gapped (s.enqueue change now os_pressed) := by
  unfold RepressSpacer.enqueue
  dsimp only
  split
  · rename_i index previous hn
    obtain ⟨before, behind, hq, rfl, hlane, hbehind⟩ := newest_some hn
    split
    · exact h
    · split
      · -- Nothing of the lane waits behind the edge that goes, so it makes no edge the oldest.
        intro lane e p he
        have herase : s.queue.eraseIdx before.length = before ++ behind := by
          rw [hq, List.eraseIdx_append_of_length_le le_rfl]; simp
        refine h lane e p ?_
        simp only [herase, List.find?_append] at he
        rw [hq, List.find?_append]
        cases hb : before.find? (·.change.lane = lane) with
        | some x => rw [hb] at he; exact he
        | none =>
          rw [hb, Option.none_or] at he
          rw [Option.none_or, List.find?_cons_of_neg, he]
          simp only [decide_eq_true_eq]
          rintro rfl
          exact hbehind e (List.mem_of_find?_eq_some he) (by simpa [hlane] using List.find?_some he)
      · refine push_gapped h _ _ fun hnone => ?_
        have := List.find?_eq_none.1 hnone previous (by rw [hq]; simp)
        simp [hlane] at this
  · split
    · exact h
    · exact push_gapped h _ _ fun _ hs p hp => schedule_first_gapped hp hs

theorem note_emitted_other {now : Nat} {last : Fin L → Option EmittedEdge} {es : List (ScheduledEdge L)} {lane : Fin L}
    (h : ∀ e ∈ es, e.change.lane ≠ lane) : RepressSpacer.note_emitted now last es lane = last lane := by
  induction es generalizing last with
  | nil => rfl
  | cons e es ih =>
    have hrest := @ih (Function.update last e.change.lane (some ⟨now, e.spaced, e.change.touch⟩))
      fun x hx => h x (List.mem_cons_of_mem _ hx)
    refine hrest.trans (Function.update_of_ne ?_ _ _)
    exact Ne.symm (h e (by simp))

theorem note_emitted_at (now : Nat) (last : Fin L → Option EmittedEdge) {es : List (ScheduledEdge L)} {lane : Fin L}
    (h : ∃ e ∈ es, e.change.lane = lane) : ∃ p, RepressSpacer.note_emitted now last es lane = some p ∧ p.at_ = now := by
  induction es using List.reverseRecOn with
  | nil => simp at h
  | append_singleton es x ih =>
    simp only [RepressSpacer.note_emitted, List.foldl_append, List.foldl_cons, List.foldl_nil, Function.update_apply]
    split
    · exact ⟨_, rfl, rfl⟩
    · rename_i hx
      refine ih ?_
      obtain ⟨e, he, hl⟩ := h
      rcases List.mem_append.1 he with he | he
      · exact ⟨e, he, hl⟩
      · rw [List.mem_singleton] at he; subst he; exact absurd hl.symm hx

theorem restart_change (gap now : Nat) (last : Fin L → Option EmittedEdge) (e : ScheduledEdge L) :
    (RepressSpacer.restart_gap gap now last e).change = e.change ∧
      (RepressSpacer.restart_gap gap now last e).spaced = e.spaced ∧
      e.due ≤ (RepressSpacer.restart_gap gap now last e).due := by
  unfold RepressSpacer.restart_gap
  split
  · exact ⟨rfl, rfl, le_max_left _ _⟩
  · exact ⟨rfl, rfl, le_rfl⟩

/-- A lane that emitted nothing keeps its oldest edge. -/
theorem oldest_kept {marked : List (ScheduledEdge L × Bool)} (h : NoOvertaking marked) {lane : Fin L}
    (hnone : ∀ e ∈ emitted marked, e.change.lane ≠ lane) :
    (marked.map (·.1)).find? (·.change.lane = lane) = (kept marked).find? (·.change.lane = lane) := by
  have hemit : (emitted marked).filter (·.change.lane = lane) = [] := by simpa using hnone
  rw [← List.head?_filter, ← List.head?_filter, lane_partition h, hemit, List.nil_append]

theorem emit_gapped {s : RepressSpacer L} (h : Gapped s) (now n : Nat) (pressed : Fin L → Bool) :
    Gapped (s.emit now n pressed).1 := by
  intro lane e p he hsp hp
  have hno := select_no_overtaking now n Marks.clear s.queue
  simp only [RepressSpacer.emit, List.find?_map, Option.map_eq_some_iff] at he hp ⊢
  obtain ⟨e₀, he₀, rfl⟩ := he
  obtain ⟨-, hspaced, hdue⟩ := restart_change s.gap now
    (RepressSpacer.note_emitted now s.last_emitted ((selected (select now Marks.clear s.queue)).take n)) e₀
  have hcomp : ((fun e : ScheduledEdge L => decide (e.change.lane = lane)) ∘ RepressSpacer.restart_gap s.gap now
      (RepressSpacer.note_emitted now s.last_emitted ((selected (select now Marks.clear s.queue)).take n))) =
      fun e => decide (e.change.lane = lane) := by
    funext x; simp only [Function.comp, (restart_change s.gap now _ x).1]
  rw [hcomp, ← outcome_kept] at he₀
  rw [hspaced] at hsp
  by_cases hem : ∃ x ∈ emitted (outcome n (select now Marks.clear s.queue)), x.change.lane = lane
  · rw [outcome_emitted] at hem
    obtain ⟨q, hq, hat⟩ := note_emitted_at now s.last_emitted hem
    rw [hq] at hp
    cases hp
    have hl : e₀.change.lane = lane := by simpa using List.find?_some he₀
    unfold RepressSpacer.restart_gap
    rw [hl, hq, hsp]
    simp [hat]
  · simp only [not_exists, not_and] at hem
    rw [← oldest_kept hno hem, outcome_edges, select_edges] at he₀
    rw [note_emitted_other (by rw [← outcome_emitted]; exact hem)] at hp
    exact (h lane e₀ p he₀ hsp hp).trans hdue

/-! ## The change that is owed -/

/-- `c` is the change a write left without its sync: it waits, it is ready at `t`, and nothing ahead
of it can make it wait. -/
structure Owes (queue ahead behind : List (ScheduledEdge L)) (edge : ScheduledEdge L) (c : KeyChange L) (t : Nat) :
    Prop where
  queue : queue = ahead ++ edge :: behind
  change : edge.change = c
  due : edge.due ≤ t
  lanes : ∀ x ∈ ahead, x.change.lane ≠ c.lane
  releases : c.down = true ∨ ∀ x ∈ ahead, x.change.down = false

/-- Putting off edges keeps what is owed, if its own edge stays ready. -/
theorem Owes.map {queue ahead behind : List (ScheduledEdge L)} {edge : ScheduledEdge L} {c : KeyChange L} {t : Nat}
    (h : Owes queue ahead behind edge c t) {f : ScheduledEdge L → ScheduledEdge L} (hf : ∀ e, (f e).change = e.change)
    (hdue : (f edge).due ≤ t) : Owes (queue.map f) (ahead.map f) (behind.map f) (f edge) c t where
  queue := by rw [h.queue]; simp
  change := (hf edge).trans h.change
  due := hdue
  lanes := by
    intro x hx
    obtain ⟨y, hy, rfl⟩ := List.mem_map.1 hx
    rw [hf]; exact h.lanes y hy
  releases := h.releases.imp_right fun hall x hx => by
    obtain ⟨y, hy, rfl⟩ := List.mem_map.1 hx
    rw [hf]; exact hall y hy

/-- Where the selected edge number `n` stands once the ones before it are taken. -/
theorem retain_owes {now n : Nat} {m : Marks L} {queue : List (ScheduledEdge L)} {edge : ScheduledEdge L}
    (h : (selected (select now m queue))[n]? = some edge) :
    ∃ ahead behind, Owes (retain n (select now m queue)) ahead behind edge edge.change now ∧
      m.lane_waiting edge.change.lane = false ∧ (edge.change.down = true ∨ m.press_waiting = false) ∧
      (edge.spaced = true → m.lane_selected edge.change.lane = false ∧
        ∀ x ∈ (selected (select now m queue)).take n, x.change.lane ≠ edge.change.lane) := by
  induction queue generalizing m n with
  | nil => simp [select, selected] at h
  | cons e queue ih =>
    rw [select] at h ⊢
    cases hr : ready now m e with
    | true =>
      have hsel : selected ((e, true) :: select now (m.note e true) queue) =
          e :: selected (select now (m.note e true) queue) := by simp [selected]
      rw [hr, hsel] at h
      rw [hsel]
      cases n with
      | zero =>
        simp only [List.getElem?_cons_zero, Option.some.injEq] at h
        subst h
        simp only [ready, Bool.and_eq_true, decide_eq_true_eq, Bool.not_eq_true', Bool.or_eq_true, Bool.and_eq_false_iff] at hr
        obtain ⟨⟨⟨hdue, hw⟩, hs⟩, hp⟩ := hr
        refine ⟨[], retain 0 (select now (m.note e true) queue), ⟨rfl, rfl, hdue, by simp, .inr (by simp)⟩, hw, hp,
          fun hsp => ⟨hs.resolve_left (by simp [hsp]), by simp⟩⟩
      | succ n =>
        rw [List.getElem?_cons_succ] at h
        obtain ⟨ahead, behind, ho, hw, hp, hs⟩ := ih h
        refine ⟨ahead, behind, ho, hw, hp, fun hsp => ?_⟩
        obtain ⟨h1, h2⟩ := hs hsp
        simp only [Marks.note, if_true, Function.update_apply] at h1
        split at h1
        · cases h1
        · rename_i hne
          refine ⟨h1, fun x hx => ?_⟩
          rw [List.take_succ_cons, List.mem_cons] at hx
          rcases hx with rfl | hx
          · exact Ne.symm hne
          · exact h2 x hx
    | false =>
      have hsel : selected ((e, false) :: select now (m.note e false) queue) =
          selected (select now (m.note e false) queue) := by simp [selected]
      have hret : retain n ((e, false) :: select now (m.note e false) queue) =
          e :: retain n (select now (m.note e false) queue) := by cases n <;> rfl
      rw [hr, hsel] at h
      rw [hsel, hret]
      obtain ⟨ahead, behind, ho, hw, hp, hs⟩ := ih h
      simp only [Marks.note, Bool.false_eq_true, if_false, Function.update_apply] at hw hp hs
      split at hw
      · cases hw
      · rename_i hne
        refine ⟨e :: ahead, behind, ⟨by rw [ho.queue]; rfl, rfl, ho.due, ?_, ?_⟩, hw, ?_, hs⟩
        · simp only [List.mem_cons, forall_eq_or_imp]
          exact ⟨Ne.symm hne, ho.lanes⟩
        · rcases hp with hp | hp
          · exact .inl hp
          · simp only [Bool.or_eq_false_iff] at hp
            refine ho.releases.imp_right fun hall => ?_
            simp only [List.mem_cons, forall_eq_or_imp]
            exact ⟨hp.2, hall⟩
        · exact hp.imp_right fun hp => by simp only [Bool.or_eq_false_iff] at hp; exact hp.1

/-- An edge behind `before` that a flush at `now` passes over. -/
def PassedOver (now : Nat) (before : List (ScheduledEdge L)) (e : ScheduledEdge L) : Prop :=
  now < e.due ∨ (∃ x ∈ before, x.change.lane = e.change.lane) ∨
    e.change.down = false ∧ ∃ x ∈ before, x.change.down = true

/-- The marks of a flush that passed over everything in `before`. -/
structure MarksOf (before : List (ScheduledEdge L)) (m : Marks L) : Prop where
  selected : ∀ l, m.lane_selected l = false
  lanes : ∀ l, m.lane_waiting l = true ↔ ∃ x ∈ before, x.change.lane = l
  presses : m.press_waiting = true ↔ ∃ x ∈ before, x.change.down = true

theorem marksOf_nil : MarksOf ([] : List (ScheduledEdge L)) Marks.clear :=
  ⟨fun _ => rfl, by simp [Marks.clear], by simp [Marks.clear]⟩

theorem ready_iff {now : Nat} {before : List (ScheduledEdge L)} {m : Marks L} (h : MarksOf before m)
    (e : ScheduledEdge L) : ready now m e = true ↔ ¬ PassedOver now before e := by
  have hl := h.lanes e.change.lane
  have hp := h.presses
  simp only [ready, PassedOver, h.selected, Bool.and_false, Bool.not_false, Bool.and_true, Bool.and_eq_true,
    decide_eq_true_eq, Bool.not_eq_true', Bool.or_eq_true, not_or, not_lt, not_and, ← hl, ← hp]
  cases m.lane_waiting e.change.lane <;> cases m.press_waiting <;> cases e.change.down <;> simp

theorem note_passed {before : List (ScheduledEdge L)} {m : Marks L} (h : MarksOf before m) (e : ScheduledEdge L) :
    MarksOf (before ++ [e]) (m.note e false) where
  selected l := by simpa [Marks.note] using h.selected l
  lanes l := by
    simp only [Marks.note, Bool.false_eq_true, if_false, Function.update_apply, List.mem_append, List.mem_singleton,
      or_and_right, exists_or, exists_eq_left, ← h.lanes l]
    split
    · rename_i hl; simp [hl]
    · rename_i hl; simp [Ne.symm hl]
  presses := by
    simp only [Marks.note, Bool.false_eq_true, if_false, List.mem_append, List.mem_singleton,
      or_and_right, exists_or, exists_eq_left, ← h.presses, Bool.or_eq_true]

/-- Every edge of `ahead`, behind `before`, is passed over at `now`. -/
def AllPassed (now : Nat) (before : List (ScheduledEdge L)) : List (ScheduledEdge L) → Prop
  | [] => True
  | e :: rest => PassedOver now before e ∧ AllPassed now (before ++ [e]) rest

/-- A ready edge is the first one selected exactly when everything ahead of it is passed over. -/
theorem first_selected {now : Nat} {m : Marks L} {before ahead behind : List (ScheduledEdge L)} {edge : ScheduledEdge L}
    {c : KeyChange L} (hm : MarksOf before m) (hc : edge.change = c) (hdue : edge.due ≤ now)
    (hlanes : ∀ x ∈ before ++ ahead, x.change.lane ≠ c.lane)
    (hrel : c.down = true ∨ ∀ x ∈ before ++ ahead, x.change.down = false) :
    (waiting (selected (select now m (ahead ++ edge :: behind)))).head? = some c ↔ AllPassed now before ahead := by
  induction ahead generalizing m before with
  | nil =>
    subst hc
    have hr : ready now m edge = true := by
      rw [ready_iff hm, PassedOver]
      simp only [List.append_nil] at hlanes hrel
      simp only [not_or, not_lt, not_exists, not_and]
      refine ⟨hdue, hlanes, fun hd x hx hxd => ?_⟩
      rcases hrel with h | h
      · rw [h] at hd; cases hd
      · rw [h x hx] at hxd; cases hxd
    simp [select, selected, waiting, hr, AllPassed]
  | cons e ahead ih =>
    rw [List.cons_append, select, AllPassed]
    cases hr : ready now m e with
    | true =>
      have hnot := (ready_iff hm e).1 hr
      refine iff_of_false (fun hhead => ?_) fun h => hnot h.1
      simp only [selected, waiting, List.filter_cons, if_true, List.map_cons, List.head?_cons, Option.some.injEq] at hhead
      exact hlanes e (by simp) (by rw [hhead])
    | false =>
      have hpass : PassedOver now before e := by
        by_contra hn; rw [(ready_iff hm e).2 hn] at hr; cases hr
      have hsel : selected ((e, false) :: select now (m.note e false) (ahead ++ edge :: behind)) =
          selected (select now (m.note e false) (ahead ++ edge :: behind)) := by simp [selected]
      rw [hsel, ih (note_passed hm e) (by simpa using hlanes) (by simpa using hrel)]
      exact ⟨fun h => ⟨hpass, h⟩, fun h => h.2⟩

/-- The edge that is owed is selected, whatever goes ahead of it. -/
theorem owes_selected {queue ahead behind : List (ScheduledEdge L)} {edge : ScheduledEdge L} {c : KeyChange L}
    {t now : Nat} (h : Owes queue ahead behind edge c t) (ht : t ≤ now) :
    selected (select now Marks.clear queue) ≠ [] := by
  intro hnil
  have hno : ¬ AllPassed now [] ahead := fun hall => by
    have hhead : (waiting (selected (select now Marks.clear (ahead ++ edge :: behind)))).head? = some c :=
      (first_selected marksOf_nil h.change (h.due.trans ht) (by simpa using h.lanes) (by simpa using h.releases)).2 hall
    rw [← h.queue, hnil] at hhead
    cases hhead
  have hkeep : ∀ {before m ahead}, MarksOf before m → ¬ AllPassed now before ahead →
      selected (select now m (ahead ++ edge :: behind)) ≠ [] := by
    intro before m ahead hm hnot
    induction ahead generalizing before m with
    | nil => exact absurd trivial hnot
    | cons e ahead ih =>
      rw [List.cons_append, select]
      cases hr : ready now m e with
      | true => simp [selected]
      | false =>
        have hpass : PassedOver now before e := by
          by_contra hn; rw [(ready_iff hm e).2 hn] at hr; cases hr
        have := ih (note_passed hm e) fun h => hnot ⟨hpass, h⟩
        simpa [selected] using this
  exact hkeep marksOf_nil hno (h.queue ▸ hnil)

end Trackpad.Keyboard
