import Trackpad.Keyboard.Submissions
/-!
# Keys follow the last snapshot

Without re-press spacing, an accepted snapshot leaves exactly its own contacts' lanes pressed.
Between the first submission of a frame and the last, `pressed` is some prefix of the frame's
plan away from the lanes held before it; that is the whole invariant (`InProgress`).
-/
open Edges Ownership

namespace Trackpad.Keyboard

variable {κ : Type} {L : Nat}

/-! ## A frame in progress -/

/-- The lanes pressed are the lanes held. -/
structure Consistent (s : KeyboardSink κ L) : Prop where
  counted : Counted s.state
  pressed : s.pressed = held s.state

variable (lane_for : Int → Fin L)

/-- `frame` is planned and the OS has taken a prefix of its changes. -/
structure InProgress (frame : TouchFrame) (s : KeyboardSink κ L) : Prop where
  direct : s.spacer = none
  sequence : s.pending.sequence = some frame.sequence
  counted : Counted s.state
  next_state : s.pending.next_state = (plan_into lane_for s.state frame false).1
  changes : s.pending.changes = (plan_into lane_for s.state frame false).2
  pressed : s.pressed = played (held s.state) (s.pending.changes.take s.pending.applied)

/-- A sink at rest: nothing is pending and the keys agree with the owners. -/
structure Settled (s : KeyboardSink κ L) : Prop extends Consistent s where
  direct : s.spacer = none
  idle : s.pending.sequence = none

/-- What the sink looks like under each duty. After a failed release anything may be left; the
release that succeeds clears it. -/
def Direct (s : KeyboardSink κ L) : Duty → Prop
  | .free => Settled s
  | .retry frame => KeyboardSink.is_release frame = false ∧ KeyboardSink.is_empty_heartbeat frame = false ∧
      InProgress lane_for frame s
  | .release => s.spacer = none

theorem settled_new (sink : κ) : Settled (KeyboardSink.new (L := L) sink none) where
  counted := counted_new
  pressed := by funext l; simp [KeyboardSink.new, held, KeyboardState.new]
  direct := rfl
  idle := rfl

theorem released_settled {s : KeyboardSink κ L} (h : Released s) (hd : s.spacer = none) : Settled s where
  counted := h.state ▸ counted_new
  pressed := by rw [h.pressed, h.state]; funext l; simp [held, KeyboardState.new]
  direct := hd
  idle := h.pending

theorem plan_pending_inProgress {s : KeyboardSink κ L} (h : Settled s) (frame : TouchFrame) :
    InProgress lane_for frame (s.plan_pending lane_for frame) where
  direct := h.direct
  sequence := rfl
  counted := h.counted
  next_state := by simp [KeyboardSink.plan_pending, h.direct]
  changes := by simp [KeyboardSink.plan_pending, h.direct]
  pressed := h.pressed

/-- The snapshot `frame` and nothing else is owned, counted and pressed. -/
structure Shows (frame : TouchFrame) (s : KeyboardSink κ L) : Prop extends Settled s where
  lanes : s.state.pointer_lanes = owners lane_for frame.contacts.items

/-- With every change taken, the sink shows the frame. -/
theorem commit_shows {frame : TouchFrame} {s : KeyboardSink κ L} (h : InProgress lane_for frame s)
    (hall : s.pressed = played (held s.state) s.pending.changes) : Shows lane_for frame s.commit_pending where
  counted := by simp only [KeyboardSink.commit_pending, h.next_state]; exact plan_counted lane_for h.counted _ _
  pressed := by
    simp only [KeyboardSink.commit_pending, hall, h.next_state, h.changes]
    exact plan_plays lane_for h.counted frame false
  direct := h.direct
  idle := rfl
  lanes := by simp only [KeyboardSink.commit_pending, h.next_state]; exact plan_lanes lane_for _ _ _

/-- Taking more of the frame keeps it in progress. -/
theorem apply_inProgress {frame : TouchFrame} {s : KeyboardSink κ L} (h : InProgress lane_for frame s) (n : Nat) :
    InProgress lane_for frame (s.apply_changes n) where
  direct := h.direct
  sequence := h.sequence
  counted := h.counted
  next_state := h.next_state
  changes := h.changes
  pressed := by
    simp only [KeyboardSink.apply_changes]
    rw [List.take_add, played_append, ← h.pressed]
    rfl

theorem inProgress_sink {frame : TouchFrame} {s : KeyboardSink κ L} (h : InProgress lane_for frame s) (sink : κ) :
    InProgress lane_for frame { s with sink := sink } :=
  ⟨h.direct, h.sequence, h.counted, h.next_state, h.changes, h.pressed⟩

theorem direct_spacer {s : KeyboardSink κ L} {d : Duty} (h : Direct lane_for s d) : s.spacer = none := by
  cases d with
  | free => exact Settled.direct h
  | retry frame => exact h.2.2.direct
  | release => exact h

/-! ## Each call -/

section Calls
variable [KeySink κ L]

/-- A submission either finishes the frame or leaves it in progress. -/
theorem submit_direct_spec {frame : TouchFrame} {s : KeyboardSink κ L} (h : InProgress lane_for frame s)
    {r : Except IoError Unit} {s' : KeyboardSink κ L} (hs : s.submit_direct = (r, s')) :
    (r = .ok () ∧ Shows lane_for frame s') ∨ (∃ e, r = .error e) ∧ InProgress lane_for frame s' := by
  unfold KeyboardSink.submit_direct at hs
  dsimp only at hs
  split at hs
  · rename_i hnone
    cases hs
    refine .inl ⟨rfl, commit_shows lane_for h ?_⟩
    rw [h.pressed, List.take_of_length_le (List.drop_eq_nil_iff.1 hnone)]
  · split at hs
    · cases hs; exact .inr ⟨⟨_, rfl⟩, inProgress_sink lane_for h _⟩
    · rename_i accepted sink _
      split at hs
      · cases hs; exact .inr ⟨⟨_, rfl⟩, inProgress_sink lane_for h _⟩
      · have hp := apply_inProgress lane_for (inProgress_sink lane_for h sink) accepted
        split at hs
        · cases hs; exact .inr ⟨⟨_, rfl⟩, hp⟩
        · rename_i hall
          cases hs
          refine .inl ⟨rfl, commit_shows lane_for hp ?_⟩
          simp only [ne_eq, Decidable.not_not, List.length_drop] at hall
          rw [hp.pressed]
          congr 1
          exact List.take_of_length_le (by simp only [KeyboardSink.apply_changes]; omega)

theorem service_direct {s : KeyboardSink κ L} (h : s.spacer = none) (now : Nat) :
    KeyboardSink.service_at now s = (.ok (), s) := by
  simp [KeyboardSink.service_at, h]

/-- An ordinary frame, accepted at rest or retried, is shown or left in progress. -/
theorem accept_spec {frame : TouchFrame} {s : KeyboardSink κ L} (now : Nat)
    (hr : KeyboardSink.is_release frame = false) (he : KeyboardSink.is_empty_heartbeat frame = false)
    (h : Settled s ∨ InProgress lane_for frame s) {r : Except IoError Unit} {s' : KeyboardSink κ L}
    (hs : KeyboardSink.accept_at lane_for frame now s = (r, s')) :
    (r = .ok () ∧ Shows lane_for frame s') ∨ (∃ e, r = .error e) ∧ InProgress lane_for frame s' := by
  have hd : s.spacer = none := h.elim (·.direct) (·.direct)
  have hbegin : ∃ t, s.begin_frame lane_for frame = (.ok (), t) ∧ InProgress lane_for frame t := by
    unfold KeyboardSink.begin_frame
    rcases h with h | h
    · rw [h.idle]; exact ⟨_, rfl, plan_pending_inProgress lane_for h frame⟩
    · rw [h.sequence]; exact ⟨s, by simp, h⟩
  obtain ⟨t, ht, hp⟩ := hbegin
  unfold KeyboardSink.accept_at at hs
  simp only [hr, he, service_direct hd, ht, hp.direct, Bool.false_eq_true, if_false] at hs
  exact submit_direct_spec lane_for hp hs

theorem release_all_with_direct {now : Nat} {s : KeyboardSink κ L} (h : s.spacer = none) :
    (KeyboardSink.release_all_with now s).2.spacer = none := by
  have hfold : ∀ (l : List (KeyChange L)) (t : KeyboardSink κ L), t.spacer = none →
      (l.foldl (KeyboardSink.note_released now) t).spacer = none := by
    intro l
    induction l with
    | nil => exact fun _ ht => ht
    | cons c l ih => exact fun t ht => ih _ (by simp [KeyboardSink.note_released, ht])
  have hb : s.begin_release.spacer = none := by simp [KeyboardSink.begin_release, h]
  unfold KeyboardSink.release_all_with
  dsimp only
  split
  · exact hb
  · split
    · exact hb
    · split
      · exact hb
      · split
        · exact hfold _ _ hb
        · exact hfold _ _ hb

theorem release_all_direct (now : Nat) {s : KeyboardSink κ L} (h : s.spacer = none) :
    (KeyboardSink.release_all now s).2.spacer = none := by
  unfold KeyboardSink.release_all
  split
  · exact h
  · exact release_all_with_direct h

theorem release_step {d : Duty} {c : Call} {s : KeyboardSink κ L} (hc : c.releases = true) (h : s.spacer = none) :
    Direct lane_for (c.exec lane_for s).2 (d.after c (c.exec lane_for s).1) := by
  rw [exec_release lane_for hc]
  have hd := release_all_direct c.now h
  cases hr : KeyboardSink.release_all c.now s with
  | mk r s' =>
    rw [hr] at hd
    cases r with
    | ok u => rw [after_release_ok d hc]; exact released_settled (release_all_ok hr) hd
    | error e => rw [after_release_error d hc]; exact hd

theorem accept_step {d : Duty} {frame : TouchFrame} (now : Nat) {s : KeyboardSink κ L}
    (hr : KeyboardSink.is_release frame = false) (he : KeyboardSink.is_empty_heartbeat frame = false)
    (h : Settled s ∨ InProgress lane_for frame s) :
    Direct lane_for ((Call.accept frame now).exec lane_for s).2
      (d.after (.accept frame now) ((Call.accept frame now).exec lane_for s).1) := by
  cases hx : (Call.accept frame now).exec lane_for s with
  | mk r s' =>
    rcases accept_spec lane_for now hr he h hx with ⟨rfl, hs⟩ | ⟨⟨e, rfl⟩, hp⟩
    · exact hs.toSettled
    · rw [after_accept_error d hr]
      exact ⟨hr, he, hp⟩

theorem heartbeat_direct {frame : TouchFrame} (now : Nat) {s : KeyboardSink κ L} (hd : s.spacer = none)
    (hr : KeyboardSink.is_release frame = false) (he : KeyboardSink.is_empty_heartbeat frame = true) :
    KeyboardSink.accept_at lane_for frame now s = (.ok (), s) := by
  simp [KeyboardSink.accept_at, hr, he, service_direct hd]

/-- Every call the host may make keeps the invariant. -/
theorem direct_step {s : KeyboardSink κ L} {d : Duty} (h : Direct lane_for s d) (c : Call) (hc : d.allows c) :
    Direct lane_for (c.exec lane_for s).2 (d.after c (c.exec lane_for s).1) := by
  have hd := direct_spacer lane_for h
  by_cases hrel : c.releases = true
  · exact release_step lane_for hrel hd
  · cases c with
    | release_all now => exact absurd rfl hrel
    | service now => simpa [Call.exec, service_direct hd, Duty.after] using h
    | accept frame now =>
      have hr : KeyboardSink.is_release frame = false := by simpa [Call.releases] using hrel
      cases d with
      | release => exact absurd hc hrel
      | free =>
        cases he : KeyboardSink.is_empty_heartbeat frame with
        | true => simpa [Call.exec, heartbeat_direct lane_for now hd hr he, Duty.after] using h
        | false => exact accept_step lane_for now hr he (.inl h)
      | retry g =>
        obtain ⟨-, he, hp⟩ := h
        have hg : frame = g := by
          rcases hc with h | ⟨_, h⟩ | ⟨_, h⟩
          · exact absurd h hrel
          · cases h; rfl
          · cases h
        subst hg
        exact accept_step lane_for now hr he (.inr hp)

theorem run_direct {sink : κ} {s : KeyboardSink κ L} {d : Duty} {t : Nat} (h : Run lane_for none sink s d t) :
    Direct lane_for s d := by
  induction h with
  | new => exact settled_new sink
  | call c _ hc _ ih => exact direct_step lane_for ih c hc

end Calls

/-! ## What the snapshot shows -/

/-- The contacts that press `lane`. -/
def pressing (contacts : List Contact) (lane : Fin L) : List Contact :=
  contacts.filter fun c => c.touching && !c.key_suppressed && decide (lane_for c.x = lane)

theorem wanted_eq_some {c : Contact} {l : Fin L} :
    wanted lane_for c = some l ↔ (c.touching && !c.key_suppressed && decide (lane_for c.x = l)) = true := by
  unfold wanted Contact.presses
  split <;> simp_all

theorem owners_eq_some {contacts : Contacts} {id : UInt8} {l : Fin L} :
    owners lane_for contacts.items id = some l ↔ ∃ c ∈ pressing lane_for contacts.items l, c.pointer_id = id := by
  simp only [owners, Option.bind_eq_some_iff, pressing, List.mem_filter, wanted_eq_some]
  constructor
  · rintro ⟨c, hc, hl⟩
    exact ⟨c, ⟨List.mem_of_find?_eq_some hc, hl⟩, by simpa using List.find?_some hc⟩
  · rintro ⟨c, ⟨hc, hl⟩, rfl⟩
    cases hf : contacts.items.find? (·.pointer_id = c.pointer_id) with
    | none => exact absurd (List.find?_eq_none.1 hf c hc) (by simp)
    | some b =>
      have hb : b.pointer_id = c.pointer_id := by simpa using List.find?_some hf
      rw [List.inj_on_of_nodup_map contacts.distinct (List.mem_of_find?_eq_some hf) hc hb]
      exact ⟨c, rfl, hl⟩

theorem holders_owners (contacts : Contacts) (l : Fin L) :
    holders (owners lane_for contacts.items) l = (pressing lane_for contacts.items l).length := by
  unfold owners pressing
  rw [holders_of_list _ _ _ contacts.distinct]
  congr 1
  refine List.filter_congr fun c _ => ?_
  rw [← Bool.coe_iff_coe]
  simpa using wanted_eq_some lane_for

/-- The sink's visible key state: the lanes pressed, how many pointers hold each, and who does. -/
structure KeyState (L : Nat) where
  pressed : Fin L → Bool
  lane_holds : Fin L → Nat
  pointer_lanes : UInt8 → Option (Fin L)

def KeyboardSink.keys (s : KeyboardSink κ L) : KeyState L := ⟨s.pressed, s.state.lane_holds, s.state.pointer_lanes⟩

/-- The key state of a snapshot. -/
def snapshot (contacts : Contacts) : KeyState L where
  pressed l := !(pressing lane_for contacts.items l).isEmpty
  lane_holds l := (pressing lane_for contacts.items l).length
  pointer_lanes := owners lane_for contacts.items

theorem shows_keys {frame : TouchFrame} {s : KeyboardSink κ L} (h : Shows lane_for frame s) :
    s.keys = snapshot lane_for frame.contacts := by
  have hc : ∀ l, s.state.lane_holds l = (pressing lane_for frame.contacts.items l).length := fun l => by
    rw [h.counted l, h.lanes, holders_owners]
  simp only [KeyboardSink.keys, snapshot, KeyState.mk.injEq]
  refine ⟨?_, funext hc, h.lanes⟩
  rw [h.pressed]
  funext l
  simp only [held, hc l]
  cases pressing lane_for frame.contacts.items l <;> simp

/-- A snapshot does not depend on the order of its contacts. -/
theorem snapshot_perm {a b : Contacts} (h : a.items.Perm b.items) :
    snapshot lane_for a = snapshot lane_for b := by
  have hp : ∀ l, (pressing lane_for a.items l).Perm (pressing lane_for b.items l) := fun l => h.filter _
  simp only [snapshot, KeyState.mk.injEq]
  refine ⟨?_, ?_, ?_⟩
  · funext l; rw [Bool.eq_iff_iff]; simp [← List.length_eq_zero_iff, (hp l).length_eq]
  · funext l; exact (hp l).length_eq
  · funext id
    refine Option.ext fun l => ?_
    rw [owners_eq_some, owners_eq_some]
    simp only [(hp l).mem_iff]

/-! ## Main theorem -/

section
variable [KeySink κ L]

theorem accepted_shows {sink : κ} {s s' : KeyboardSink κ L} {d : Duty} {t now : Nat} {frame : TouchFrame}
    (run : Run lane_for none sink s d t) (hc : d.allows (.accept frame now))
    (hok : KeyboardSink.accept_at lane_for frame now s = (.ok (), s'))
    (hr : KeyboardSink.is_release frame = false) (he : KeyboardSink.is_empty_heartbeat frame = false) :
    Shows lane_for frame s' := by
  have h := run_direct lane_for run
  have hstart : Settled s ∨ InProgress lane_for frame s := by
    cases d with
    | free => exact .inl h
    | release => simp [Duty.allows, Call.releases, hr] at hc
    | retry g =>
      rcases hc with hc | ⟨_, hc⟩ | ⟨_, hc⟩
      · simp [Call.releases, hr] at hc
      · cases hc; exact .inr h.2.2
      · cases hc
  rcases accept_spec lane_for now hr he hstart hok with ⟨-, hs⟩ | ⟨⟨e, he⟩, -⟩
  · exact hs
  · cases he

/-- In every run without re-press spacing, an accepted snapshot leaves exactly its own contacts'
lanes pressed, counted and owned, and an accepted release leaves none. So the key state is a
function of the last snapshot's set of contacts. -/
theorem keys_follow_snapshot {sink : κ} {s s' : KeyboardSink κ L} {d : Duty} {t now : Nat} {frame : TouchFrame}
    (run : Run lane_for none sink s d t) (hc : d.allows (.accept frame now))
    (hok : KeyboardSink.accept_at lane_for frame now s = (.ok (), s')) :
    (KeyboardSink.is_release frame = false → KeyboardSink.is_empty_heartbeat frame = false →
      (∀ l, s'.pressed l = true ↔ ∃ c ∈ frame.contacts.items,
        c.touching = true ∧ c.key_suppressed = false ∧ lane_for c.x = l) ∧
      (∀ l, s'.state.lane_holds l = (frame.contacts.items.filter fun c =>
        c.touching && !c.key_suppressed && decide (lane_for c.x = l)).length) ∧
      (∀ id l, s'.state.pointer_lanes id = some l ↔ ∃ c ∈ frame.contacts.items,
        c.pointer_id = id ∧ c.touching = true ∧ c.key_suppressed = false ∧ lane_for c.x = l) ∧
      ∀ {sink₂ : κ} {s₂ s₂' : KeyboardSink κ L} {d₂ : Duty} {t₂ now₂ : Nat} {frame₂ : TouchFrame},
        Run lane_for none sink₂ s₂ d₂ t₂ → d₂.allows (.accept frame₂ now₂) →
        KeyboardSink.accept_at lane_for frame₂ now₂ s₂ = (.ok (), s₂') →
        KeyboardSink.is_release frame₂ = false → KeyboardSink.is_empty_heartbeat frame₂ = false →
        frame₂.contacts.items.Perm frame.contacts.items → s₂'.keys = s'.keys) ∧
    (KeyboardSink.is_release frame = true →
      s'.pressed = (fun _ => false) ∧ s'.state.lane_holds = (fun _ => 0) ∧ s'.state.pointer_lanes = fun _ => none) := by
  refine ⟨fun hr he => ?_, fun hr => ?_⟩
  · have hkeys := shows_keys lane_for (accepted_shows lane_for run hc hok hr he)
    have h1 : s'.pressed = (snapshot lane_for frame.contacts).pressed := congrArg KeyState.pressed hkeys
    have h2 : s'.state.lane_holds = (snapshot lane_for frame.contacts).lane_holds :=
      congrArg KeyState.lane_holds hkeys
    have h3 : s'.state.pointer_lanes = (snapshot lane_for frame.contacts).pointer_lanes :=
      congrArg KeyState.pointer_lanes hkeys
    simp only [snapshot] at h1 h2 h3
    refine ⟨fun l => ?_, fun l => congrFun h2 l, fun id l => ?_, ?_⟩
    · rw [h1]
      simp [pressing, and_assoc]
    · rw [h3, owners_eq_some]
      simp only [pressing, List.mem_filter, Bool.and_eq_true, Bool.not_eq_true', decide_eq_true_eq]
      constructor
      · rintro ⟨c, ⟨hc, ⟨h1, h2⟩, h3⟩, h4⟩; exact ⟨c, hc, h4, h1, h2, h3⟩
      · rintro ⟨c, hc, h4, h1, h2, h3⟩; exact ⟨c, ⟨hc, ⟨h1, h2⟩, h3⟩, h4⟩
    · intro sink₂ s₂ s₂' d₂ t₂ now₂ frame₂ run₂ hc₂ hok₂ hr₂ he₂ hp
      rw [shows_keys lane_for (accepted_shows lane_for run₂ hc₂ hok₂ hr₂ he₂), hkeys]
      exact snapshot_perm lane_for hp
  · have hx : KeyboardSink.release_all now s = (.ok (), s') := by
      rw [← hok]; exact (exec_release lane_for (c := .accept frame now) hr s).symm
    have hrel := release_all_ok hx
    exact ⟨hrel.pressed, by rw [hrel.state]; rfl, by rw [hrel.state]; rfl⟩

end

/-- The sink after `n` submissions of the chord, of which the first stops behind one change. -/
def cutChord : Nat → KeyboardSink (Scripted 2) 2
  | 0 => KeyboardSink.new ⟨[.ok 1]⟩ none
  | n + 1 => (KeyboardSink.accept_at halves chord n (cutChord n)).2

theorem cutChord_run : Run halves none ⟨[.ok 1]⟩ (cutChord 2) .free 1 :=
  .call (.accept chord 1) (.call (.accept chord 0) .new trivial le_rfl) (.inr (.inl ⟨1, rfl⟩)) (by decide)

/-- The retry brings the other half of the chord, and the next snapshot lets it go again. -/
theorem keys_follow_snapshot_cutShort :
    (KeyboardSink.accept_at halves chord 0 (cutChord 0)).1 = .error (incomplete_submission_error 1 2) ∧
    (cutChord 1).pressed = ![false, true] ∧ (cutChord 2).pressed = ![true, true] ∧
    ∃ s' : KeyboardSink (Scripted 2) 2, KeyboardSink.accept_at halves chordLeft 2 (cutChord 2) = (.ok (), s') ∧
      (∀ l, s'.pressed l = true ↔ ∃ c ∈ chordLeft.contacts.items,
        c.touching = true ∧ c.key_suppressed = false ∧ halves c.x = l) ∧
      s'.pressed = ![true, false] ∧ s'.state.lane_holds = ![1, 0] := by
  have hok : KeyboardSink.accept_at halves chordLeft 2 (cutChord 2) =
      (.ok (), (KeyboardSink.accept_at halves chordLeft 2 (cutChord 2)).2) := Prod.ext rfl rfl
  obtain ⟨hpressed, hholds, -⟩ := (keys_follow_snapshot halves cutChord_run trivial hok).1 rfl rfl
  refine ⟨rfl, by decide +kernel, by decide +kernel, _, hok, hpressed, by decide +kernel, ?_⟩
  funext l
  rw [hholds l]
  fin_cases l <;> rfl

end Trackpad.Keyboard
