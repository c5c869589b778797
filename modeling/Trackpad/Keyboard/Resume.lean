import Trackpad.Keyboard.Submissions
/-!
# A frame taken in parts

Without re-press spacing a frame is planned once and submitted until the OS has taken all of it. `Tallied` writes
down what the OS took, whatever sink is behind it and however short its acceptances are.
-/
open Edges

namespace Trackpad.Keyboard

variable {κ : Type} {L : Nat}

/-- A sink, and the changes it has taken so far. -/
structure Tallied (κ : Type) (L : Nat) where
  sink : κ
  taken : List (KeyChange L)

variable [KeySink κ L]

/-- An answer that counts more changes than were asked for takes none of them. -/
instance : KeySink (Tallied κ L) L where
  submit changes k :=
    match KeySink.submit changes k.sink with
    | (.error e, sink) => (.error e, ⟨sink, k.taken⟩)
    | (.ok n, sink) => (.ok n, ⟨sink, k.taken ++ if n ≤ changes.length then changes.take n else []⟩)
  discard_pending k := ((KeySink.discard_pending k.sink).1, ⟨(KeySink.discard_pending k.sink).2, k.taken⟩)
  has_pending_submission k := KeySink.has_pending_submission k.sink

theorem tallied_error {changes : List (KeyChange L)} {k k' : Tallied κ L} {e : IoError}
    (h : KeySink.submit changes k = (.error e, k')) : k'.taken = k.taken := by
  simp only [KeySink.submit] at h
  split at h
  · cases h; rfl
  · cases h

theorem tallied_ok {changes : List (KeyChange L)} {k k' : Tallied κ L} {n : Nat}
    (h : KeySink.submit changes k = (.ok n, k')) :
    k'.taken = k.taken ++ if n ≤ changes.length then changes.take n else [] := by
  simp only [KeySink.submit] at h
  split at h
  · cases h
  · cases h; rfl

/-! ## One submission -/

omit [KeySink κ L] in
theorem foldl_changes (pressed : Fin L → Bool) (changes : List (KeyChange L)) :
    changes.foldl (fun pressed change => Function.update pressed change.lane change.down) pressed =
      played pressed changes := rfl

/-- What a submission of the rest of a frame does: the OS takes the next `n` changes of it, and the frame is done
exactly when that is all of it. -/
structure Submitted (s s' : KeyboardSink (Tallied κ L) L) (r : Except IoError Unit) (n : Nat) : Prop where
  taken : s'.sink.taken = s.sink.taken ++ (s.pending.changes.drop s.pending.applied).take n
  pressed : s'.pressed = played s.pressed ((s.pending.changes.drop s.pending.applied).take n)
  spacer : s'.spacer = s.spacer
  done : r = .ok () → n = s.pending.changes.length - s.pending.applied ∧ s'.state = s.pending.next_state ∧
    s'.pending.sequence = none
  stopped : ∀ e, r = .error e → s'.state = s.state ∧ s'.pending = { s.pending with applied := s.pending.applied + n }

theorem submit_direct_submitted (s : KeyboardSink (Tallied κ L) L) :
    ∃ n ≤ s.pending.changes.length - s.pending.applied, Submitted s s.submit_direct.2 s.submit_direct.1 n := by
  obtain ⟨rest, hrest⟩ : ∃ rest, s.pending.changes.drop s.pending.applied = rest := ⟨_, rfl⟩
  have hlen : rest.length = s.pending.changes.length - s.pending.applied := by rw [← hrest, List.length_drop]
  unfold KeyboardSink.submit_direct
  simp only [hrest]
  by_cases hnone : rest = []
  · rw [if_pos hnone]
    subst hnone
    refine ⟨0, Nat.zero_le _, ?_, ?_, rfl, fun _ => ⟨by simpa using hlen, rfl, rfl⟩, fun e he => by cases he⟩
    · rw [List.take_zero, List.append_nil]; rfl
    · rw [List.take_zero]; rfl
  · rw [if_neg hnone]
    cases hsubmit : KeySink.submit rest s.sink with
    | mk result sink =>
      cases result with
      | error e =>
        refine ⟨0, Nat.zero_le _, ?_, ?_, rfl, fun he => (by cases he), fun _ _ => ⟨rfl, rfl⟩⟩
        · rw [List.take_zero, List.append_nil]; exact tallied_error hsubmit
        · rw [List.take_zero]; rfl
      | ok accepted =>
        have htaken := tallied_ok hsubmit
        by_cases hover : accepted > rest.length
        · rw [if_neg (by omega)] at htaken
          simp only [if_pos hover]
          refine ⟨0, Nat.zero_le _, ?_, ?_, rfl, fun he => (by cases he), fun _ _ => ⟨rfl, rfl⟩⟩
          · rw [List.take_zero]; exact htaken
          · rw [List.take_zero]; rfl
        · rw [if_pos (by omega)] at htaken
          simp only [if_neg hover]
          refine ⟨accepted, by omega, ?_⟩
          by_cases hshort : accepted ≠ rest.length
          · rw [if_pos hshort]
            refine ⟨by rw [hrest]; exact htaken, ?_, rfl, fun he => (by cases he), fun _ _ => ⟨rfl, rfl⟩⟩
            simp only [KeyboardSink.apply_changes, hrest]
            exact foldl_changes _ _
          · rw [if_neg hshort]
            refine ⟨by rw [hrest]; exact htaken, ?_, rfl, fun _ => ⟨by omega, rfl, rfl⟩, fun e he => by cases he⟩
            simp only [KeyboardSink.commit_pending, KeyboardSink.apply_changes, hrest]
            exact foldl_changes _ _

/-! ## One frame -/

section Frame
variable (lane_for : Int → Fin L) (frame : TouchFrame)

/-- The frame is planned and the OS has taken the first `k` of its changes. -/
structure Partly (s₀ s : KeyboardSink (Tallied κ L) L) (k : Nat) : Prop where
  spacer : s.spacer = none
  state : s.state = s₀.state
  pending : s.pending = ⟨some frame.sequence, (plan_into lane_for s₀.state frame false).1,
    (plan_into lane_for s₀.state frame false).2, k⟩
  within : k ≤ (plan_into lane_for s₀.state frame false).2.length
  taken : s.sink.taken = s₀.sink.taken ++ (plan_into lane_for s₀.state frame false).2.take k
  pressed : s.pressed = played s₀.pressed ((plan_into lane_for s₀.state frame false).2.take k)

/-- The frame is in the state and nothing of it is left. -/
structure Applied (s₀ s : KeyboardSink (Tallied κ L) L) : Prop where
  taken : s.sink.taken = s₀.sink.taken ++ (plan_into lane_for s₀.state frame false).2
  pressed : s.pressed = played s₀.pressed (plan_into lane_for s₀.state frame false).2
  state : s.state = (plan_into lane_for s₀.state frame false).1
  sequence : s.pending.sequence = none

variable {lane_for} {frame} {s₀ s : KeyboardSink (Tallied κ L) L} {k : Nat}

theorem Partly.submit (h : Partly lane_for frame s₀ s k) :
    (s.submit_direct.1 = .ok () → Applied lane_for frame s₀ s.submit_direct.2) ∧
    ∀ e, s.submit_direct.1 = .error e → ∃ n, Partly lane_for frame s₀ s.submit_direct.2 n := by
  obtain ⟨n, hn, hs⟩ := submit_direct_submitted s
  obtain ⟨htaken, hpressed, hspacer, hdone, hstopped⟩ := hs
  simp only [h.pending, h.taken, h.pressed, List.append_assoc, ← played_append, ← List.take_add] at hn htaken hpressed
  have hk := h.within
  refine ⟨fun hok => ?_, fun e he => ⟨k + n, hspacer.trans h.spacer, ?_, ?_, by omega, htaken, hpressed⟩⟩
  · obtain ⟨hall, hstate, hsequence⟩ := hdone hok
    simp only [h.pending] at hall hstate
    rw [List.take_of_length_le (by omega)] at htaken hpressed
    exact ⟨htaken, hpressed, hstate, hsequence⟩
  · exact (hstopped e he).1.trans h.state
  · rw [(hstopped e he).2, h.pending]

variable (hplanned : KeyboardSink.is_release frame = false) (hfull : KeyboardSink.is_empty_heartbeat frame = false)
include hplanned hfull

/-- The first call plans the frame and submits it. -/
theorem accept_first (hspacer : s₀.spacer = none) (hnone : s₀.pending.sequence = none) (now : Nat) :
    ∃ s, s₀.accept_at lane_for frame now = s.submit_direct ∧ Partly lane_for frame s₀ s 0 := by
  have hplan : (plan_into lane_for s₀.state frame s₀.spacer.isSome) = plan_into lane_for s₀.state frame false := by
    rw [hspacer]; rfl
  refine ⟨s₀.plan_pending lane_for frame, ?_, hspacer, rfl, ?_, Nat.zero_le _, ?_, ?_⟩
  · have hkept : (s₀.plan_pending lane_for frame).spacer = none := hspacer
    rw [KeyboardSink.accept_at, hplanned, KeyboardSink.service_at, hspacer]
    simp only [Bool.false_eq_true, if_false, hfull, KeyboardSink.begin_frame, hnone, hkept]
  · simp only [KeyboardSink.plan_pending, hplan]
  · rw [List.take_zero, List.append_nil]; rfl
  · rw [List.take_zero]; rfl

/-- A retry submits what is left. -/
theorem Partly.accept (h : Partly lane_for frame s₀ s k) (now : Nat) :
    s.accept_at lane_for frame now = s.submit_direct := by
  have hsequence : s.pending.sequence = some frame.sequence := by rw [h.pending]
  rw [KeyboardSink.accept_at, hplanned, KeyboardSink.service_at, h.spacer]
  simp only [Bool.false_eq_true, if_false, hfull, KeyboardSink.begin_frame, hsequence, ne_eq, not_true_eq_false, h.spacer]

omit hplanned hfull in
/-- Another frame has to wait. -/
theorem Partly.refuse (h : Partly lane_for frame s₀ s k) {other : TouchFrame} (hother : other.sequence ≠ frame.sequence)
    (hplanned : KeyboardSink.is_release other = false) (hfull : KeyboardSink.is_empty_heartbeat other = false) (now : Nat) :
    s.accept_at lane_for other now = (.error (KeyboardSink.partially_applied_error frame.sequence), s) := by
  have hsequence : s.pending.sequence = some frame.sequence := by rw [h.pending]
  rw [KeyboardSink.accept_at, hplanned, KeyboardSink.service_at, h.spacer]
  simp only [Bool.false_eq_true, if_false, hfull, KeyboardSink.begin_frame, hsequence, ne_eq, Ne.symm hother,
    not_false_eq_true, if_true]

/-- The OS takes the whole frame at once. -/
theorem accept_whole {s : KeyboardSink (TakesAll L) L} (hspacer : s.spacer = none) (hnone : s.pending.sequence = none)
    (now : Nat) :
    (s.accept_at lane_for frame now).1 = .ok () ∧
    (s.accept_at lane_for frame now).2.pressed = played s.pressed (plan_into lane_for s.state frame false).2 ∧
    (s.accept_at lane_for frame now).2.state = (plan_into lane_for s.state frame false).1 := by
  obtain ⟨changes, hchanges⟩ : ∃ changes, (plan_into lane_for s.state frame false).2 = changes := ⟨_, rfl⟩
  have hplan : (s.plan_pending lane_for frame).pending =
      ⟨some frame.sequence, (plan_into lane_for s.state frame false).1, changes, 0⟩ := by
    simp only [KeyboardSink.plan_pending, hspacer, Option.isSome_none, hchanges]
  have hkept : (s.plan_pending lane_for frame).spacer = none := hspacer
  have hcall : s.accept_at lane_for frame now = (s.plan_pending lane_for frame).submit_direct := by
    rw [KeyboardSink.accept_at, hplanned, KeyboardSink.service_at, hspacer]
    simp only [Bool.false_eq_true, if_false, hfull, KeyboardSink.begin_frame, hnone, hkept]
  rw [hcall, hchanges]
  unfold KeyboardSink.submit_direct
  simp only [hplan, List.drop_zero]
  by_cases hempty : changes = []
  · rw [if_pos hempty]
    subst hempty
    exact ⟨rfl, rfl, by simp only [KeyboardSink.commit_pending, hplan]⟩
  · rw [if_neg hempty]
    simp only [KeySink.submit, gt_iff_lt, lt_self_iff_false, if_false, ne_eq, not_true_eq_false]
    refine ⟨trivial, ?_, ?_⟩
    · simp only [KeyboardSink.commit_pending, KeyboardSink.apply_changes, List.drop_zero, List.take_length]
      exact foldl_changes _ _
    · simp only [KeyboardSink.commit_pending, KeyboardSink.apply_changes]

end Frame

/-! ## A cancel -/

omit [KeySink κ L] in
theorem releases_up (pressed : Fin L → Bool) (n : Nat) :
    ((KeyboardSink.releases pressed).take n).map (fun c => { c with down := false }) =
      (KeyboardSink.releases pressed).take n := by
  simp [KeyboardSink.releases, ← List.map_take]

/-- A cancel takes nothing else than the ups of the pressed lanes, and all of them when it succeeds. -/
structure Cancelled (s s' : KeyboardSink (Tallied κ L) L) (r : Except IoError Unit) : Prop where
  taken : ∃ n, s'.sink.taken = s.sink.taken ++ (KeyboardSink.releases s.pressed).take n ∧
    s'.pressed = played s.pressed ((KeyboardSink.releases s.pressed).take n)
  done : r = .ok () → s'.sink.taken = s.sink.taken ++ KeyboardSink.releases s.pressed ∧ Released s'

theorem release_all_with_cancelled (now : Nat) (s : KeyboardSink (Tallied κ L) L) :
    Cancelled s (s.release_all_with now).2 (s.release_all_with now).1 := by
  obtain ⟨ups, hups⟩ : ∃ ups, KeyboardSink.releases s.pressed = ups := ⟨_, rfl⟩
  have hbegin : s.begin_release.pending.changes = ups := hups
  have hreleased : ∀ s', s.release_all_with now = (.ok (), s') → Released s' := fun _ => release_all_with_ok
  unfold KeyboardSink.release_all_with at hreleased ⊢
  simp only [hbegin] at hreleased ⊢
  by_cases hnone : ups = []
  · rw [if_pos hnone] at hreleased ⊢
    refine ⟨⟨0, (List.append_nil _).symm, rfl⟩, fun _ => ⟨?_, hreleased _ rfl⟩⟩
    rw [hups, hnone]
    exact (List.append_nil _).symm
  · rw [if_neg hnone] at hreleased ⊢
    cases hsubmit : KeySink.submit ups s.begin_release.sink with
    | mk result sink =>
      rw [hsubmit] at hreleased
      cases result with
      | error e =>
        refine ⟨⟨0, ?_, rfl⟩, fun he => by cases he⟩
        rw [List.take_zero, List.append_nil]
        exact tallied_error hsubmit
      | ok accepted =>
        have htaken := tallied_ok hsubmit
        by_cases hover : accepted > ups.length
        · rw [if_neg (by omega)] at htaken
          simp only [if_pos hover]
          exact ⟨⟨0, by rw [List.take_zero]; exact htaken, rfl⟩, fun he => by cases he⟩
        · rw [if_pos (by omega)] at htaken
          simp only [if_neg hover] at hreleased ⊢
          obtain ⟨hpressed, -, -, hsink⟩ := foldl_note_released now (ups.take accepted)
            { s.begin_release with sink := sink }
          rw [← hups, releases_up, hups] at hpressed
          by_cases hshort : accepted ≠ ups.length
          · rw [if_pos hshort]
            refine ⟨⟨accepted, ?_, ?_⟩, fun he => by cases he⟩
            · rw [hsink, hups]; exact htaken
            · rw [hpressed, hups]; rfl
          · rw [if_neg hshort] at hreleased ⊢
            have hall : (KeyboardSink.clear_state ((ups.take accepted).foldl (KeyboardSink.note_released now)
                { s.begin_release with sink := sink })).sink.taken = s.sink.taken ++ ups := by
              simp only [KeyboardSink.clear_state, hsink]
              rw [List.take_of_length_le (by omega)] at htaken
              exact htaken
            refine ⟨⟨accepted, ?_, ?_⟩, fun _ => ⟨?_, hreleased _ rfl⟩⟩
            · rw [hall, hups, List.take_of_length_le (by omega)]
            · simp only [KeyboardSink.clear_state, hpressed, hups]; rfl
            · rw [hall, hups]

theorem release_all_cancelled (now : Nat) (s : KeyboardSink (Tallied κ L) L) :
    Cancelled s (s.release_all now).2 (s.release_all now).1 := by
  unfold KeyboardSink.release_all
  cases hdiscard : KeySink.discard_pending s.sink with
  | mk result sink =>
    have hkept : sink.taken = s.sink.taken := by
      have h : (KeySink.discard_pending s.sink).2 = sink := congrArg Prod.snd hdiscard
      rw [← h]; rfl
    cases result with
    | error e => exact ⟨⟨0, by rw [List.take_zero, List.append_nil]; exact hkept, rfl⟩, fun he => by cases he⟩
    | ok _ =>
      obtain ⟨⟨n, htaken, hpressed⟩, hdone⟩ := release_all_with_cancelled now { s with sink := sink }
      refine ⟨⟨n, by rw [htaken]; exact congrArg (· ++ _) hkept, hpressed⟩, fun hok => ⟨?_, (hdone hok).2⟩⟩
      rw [(hdone hok).1]
      exact congrArg (· ++ _) hkept

/-! ## Retries -/

/-- The states after any number of failed calls with one frame. -/
inductive Retrying (lane_for : Int → Fin L) (frame : TouchFrame) (s₀ : KeyboardSink κ L) : KeyboardSink κ L → Prop
  | start : Retrying lane_for frame s₀ s₀
  | again {s s' : KeyboardSink κ L} {now : Nat} {e : IoError} : Retrying lane_for frame s₀ s →
      s.accept_at lane_for frame now = (.error e, s') → Retrying lane_for frame s₀ s'

variable {lane_for : Int → Fin L} {frame : TouchFrame} {s₀ s : KeyboardSink (Tallied κ L) L}

/-- Every call with the frame submits what is left of its plan. -/
theorem Retrying.accept (hspacer : s₀.spacer = none) (hnone : s₀.pending.sequence = none)
    (hplanned : KeyboardSink.is_release frame = false) (hfull : KeyboardSink.is_empty_heartbeat frame = false)
    (h : Retrying lane_for frame s₀ s) (now : Nat) :
    ∃ s₁ k, s.accept_at lane_for frame now = s₁.submit_direct ∧ Partly lane_for frame s₀ s₁ k := by
  induction h generalizing now with
  | start =>
    obtain ⟨s₁, hcall, hpartly⟩ := accept_first hplanned hfull hspacer hnone now
    exact ⟨s₁, 0, hcall, hpartly⟩
  | @again s s' now' e hs hfailed ih =>
    obtain ⟨s₁, k, hcall, hpartly⟩ := ih now'
    rw [hcall] at hfailed
    obtain ⟨n, hnext⟩ := hpartly.submit.2 e (congrArg Prod.fst hfailed)
    rw [congrArg Prod.snd hfailed] at hnext
    exact ⟨s', n, hnext.accept hplanned hfull now, hnext⟩

/-- A frame's plan is taken exactly once, over as many calls as the OS needs: the call that succeeds leaves the state
one whole submission leaves. After a call that fails the OS has a prefix of the plan, another frame is refused and
changes nothing, and a cancel lets go of exactly the lanes that prefix has pressed. -/
theorem taken_once (hspacer : s₀.spacer = none) (hnone : s₀.pending.sequence = none)
    (hplanned : KeyboardSink.is_release frame = false) (hfull : KeyboardSink.is_empty_heartbeat frame = false)
    (h : Retrying lane_for frame s₀ s) (now : Nat) :
    (∀ s', s.accept_at lane_for frame now = (.ok (), s') →
      s'.sink.taken = s₀.sink.taken ++ (plan_into lane_for s₀.state frame false).2 ∧
      ∀ whole : KeyboardSink (TakesAll L) L, whole = { s₀ with sink := ⟨⟩ } → ∃ s₁,
        whole.accept_at lane_for frame now = (.ok (), s₁) ∧ s'.pressed = s₁.pressed ∧ s'.state = s₁.state) ∧
    ∀ e s', s.accept_at lane_for frame now = (.error e, s') →
      (∃ k, s'.sink.taken = s₀.sink.taken ++ (plan_into lane_for s₀.state frame false).2.take k ∧
        s'.pressed = played s₀.pressed ((plan_into lane_for s₀.state frame false).2.take k)) ∧
      (∀ other now', other.sequence ≠ frame.sequence → KeyboardSink.is_release other = false →
        KeyboardSink.is_empty_heartbeat other = false →
        s'.accept_at lane_for other now' = (.error (KeyboardSink.partially_applied_error frame.sequence), s')) ∧
      ∀ cancel : Call, cancel.releases = true → Cancelled s' (cancel.exec lane_for s').2 (cancel.exec lane_for s').1 := by
  obtain ⟨s₁, k, hcall, hpartly⟩ := h.accept hspacer hnone hplanned hfull now
  rw [hcall]
  refine ⟨fun s' hok => ?_, fun e s' herror => ?_⟩
  · obtain ⟨htaken, hpressed, hstate, -⟩ := hpartly.submit.1 (congrArg Prod.fst hok)
    rw [congrArg Prod.snd hok] at htaken hpressed hstate
    refine ⟨htaken, ?_⟩
    rintro whole rfl
    obtain ⟨hdone, hpressed', hstate'⟩ :
        (({ s₀ with sink := ⟨⟩ } : KeyboardSink (TakesAll L) L).accept_at lane_for frame now).1 = .ok () ∧ _ ∧ _ :=
      accept_whole hplanned hfull hspacer hnone now
    exact ⟨_, Prod.ext hdone rfl, hpressed.trans hpressed'.symm, hstate.trans hstate'.symm⟩
  · obtain ⟨n, hnext⟩ := hpartly.submit.2 e (congrArg Prod.fst herror)
    rw [congrArg Prod.snd herror] at hnext
    refine ⟨⟨n, hnext.taken, hnext.pressed⟩, fun other now' hother h1 h2 => hnext.refuse hother h1 h2 now', ?_⟩
    intro cancel hcancel
    rw [exec_release lane_for hcancel]
    exact release_all_cancelled cancel.now s'

/-! ## Short acceptances -/

/-- The sink after `n` calls with the chord: one change taken, an error, and too large a count. -/
def shortened : Nat → KeyboardSink (Tallied (Scripted 2) 2) 2
  | 0 => KeyboardSink.new ⟨⟨[.ok 1, .error (excess_submission_error 0 0), .ok 7]⟩, []⟩ none
  | n + 1 => ((shortened n).accept_at halves chord 0).2

theorem shortened_failed {n : Nat} {e : IoError} (h : ((shortened n).accept_at halves chord 0).1 = .error e) :
    (shortened n).accept_at halves chord 0 = (.error e, shortened (n + 1)) := Prod.ext h rfl

theorem shortened_retrying : Retrying halves chord (shortened 0) (shortened 2) :=
  .again (.again .start (shortened_failed rfl)) (shortened_failed rfl)

/-- Three calls fail, the fourth brings what is left; a cancel before it would have lifted the right half alone. -/
theorem taken_once_short :
    (shortened 4).sink.taken = [⟨1, true, true⟩, ⟨0, true, true⟩] ∧
    ((shortened 3).accept_at halves { chord with sequence := 2 } 0).1 =
      .error (KeyboardSink.partially_applied_error 1) ∧
    ((shortened 3).release_all 0).2.sink.taken = [⟨1, true, true⟩, ⟨1, false, false⟩] := by
  obtain ⟨-, hrefused, hcancel⟩ := (taken_once rfl rfl (by decide) (by decide) shortened_retrying 0).2 _ (shortened 3)
    (shortened_failed rfl)
  refine ⟨?_, by rw [hrefused { chord with sequence := 2 } 0 (by decide) (by decide) (by decide)]; rfl, ?_⟩
  · have h3 := shortened_retrying.again (shortened_failed rfl)
    rw [((taken_once rfl rfl (by decide) (by decide) h3 0).1 (shortened 4) (Prod.ext rfl rfl)).1]
    decide +kernel
  · have hdone := ((hcancel (.release_all 0) rfl).done rfl).1
    rw [show ((shortened 3).release_all 0).2 = ((Call.release_all 0).exec halves (shortened 3)).2 from rfl, hdone]
    decide +kernel

end Trackpad.Keyboard
