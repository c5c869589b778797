import Trackpad.Keyboard.Snapshot
import Trackpad.Keyboard.NoStuckKey
/-!
# What a Linux keyboard shows

Without re-press spacing the keys that the OS holds between two frames are those of the last snapshot: `Rests` is a
keyboard there, `Refused` one that did not take the whole of a frame, `Owing` one whose release failed. The host's calls
lead from one to the other.
-/
open Edges

namespace Trackpad.Keyboard

/-- Nothing waits for its time. -/
def NothingDeferred {κ : Type} {L : Nat} (s : KeyboardSink κ L) : Prop :=
  ∀ spacer, s.spacer = some spacer → spacer.queue = []

theorem nothing_deferred_released {κ : Type} {L : Nat} (now : Nat) (changes : List (KeyChange L))
    {s : KeyboardSink κ L} (h : NothingDeferred s) : NothingDeferred
    (changes.foldl (KeyboardSink.note_released now) s) := by
  induction changes generalizing s with
  | nil => exact h
  | cons change changes ih =>
    refine ih fun spacer hspacer => ?_
    obtain ⟨old, hold, rfl⟩ := Option.map_eq_some_iff.1 hspacer
    exact h old hold

theorem release_nothing_deferred {κ : Type} {L : Nat} [KeySink κ L] {now : Nat} {s s' : KeyboardSink κ L}
    (h : s.release_all now = (.ok (), s')) : NothingDeferred s' := by
  have hbegun : ∀ k : κ, NothingDeferred ({ s with sink := k } : KeyboardSink κ L).begin_release := by
    intro k spacer hspacer
    obtain ⟨old, -, rfl⟩ := Option.map_eq_some_iff.1 hspacer
    rfl
  unfold KeyboardSink.release_all at h
  split at h
  · cases h
  unfold KeyboardSink.release_all_with at h
  dsimp only at h
  split at h
  · cases h
    exact hbegun _
  split at h
  · cases h
  split at h
  · cases h
  split at h
  · cases h
  · cases h
    exact nothing_deferred_released now _ (hbegun _)

/-- With nothing active there is nothing to service. -/
theorem service_idle {κ : Type} {L : Nat} [KeySink κ L] {s : KeyboardSink κ L} (h : s.has_active_input = false)
    (now : Nat) :
    s.service_at now = (.ok (), s) := by
  simp only [KeyboardSink.has_active_input, Bool.or_eq_false_iff] at h
  unfold KeyboardSink.service_at
  split
  · rfl
  · rename_i spacer hspacer
    have hqueue : spacer.queue = [] := by simpa [hspacer] using h.2
    rw [RepressSpacer.flush, if_pos hqueue]
    dsimp only
    rw [← hspacer]

end Trackpad.Keyboard

namespace Trackpad.Keyboard.Linux

variable {L : Nat} (lane_for : Int → Fin L)

/-- The lanes down after the frames, the last first, since everything was let go: those of the last snapshot. -/
def shown : List TouchFrame → Fin L → Bool
  | [] => fun _ => false
  | frame :: earlier =>
    if KeyboardSink.is_release frame then fun _ => false
    else if KeyboardSink.is_empty_heartbeat frame then shown earlier
    else (snapshot lane_for frame.contacts).pressed

/-- The OS has played what is pressed and the change that is pending. -/
def Exact (s : KeyboardSink (Uinput L) L) : Prop := s.sink.os = played s.pressed (owed s.sink.pending)

/-- What is left of the frame in progress. -/
def remaining (s : KeyboardSink (Uinput L) L) : List (KeyChange L) := s.pending.changes.drop s.pending.applied

/-- A keyboard between two frames. -/
structure Rests (frames : List TouchFrame) (s : KeyboardSink (Uinput L) L) : Prop extends Settled s where
  shows : s.pressed = shown lane_for frames
  written : s.sink.pending = none
  exact : s.sink.os = s.pressed

/-- A keyboard that refused a snapshot, having taken some of it. -/
structure Cut (frame : TouchFrame) (s : KeyboardSink (Uinput L) L) : Prop extends InProgress lane_for frame s where
  exact : Exact s
  written : remaining s = [] → s.sink.pending = none

/-- A keyboard that refused a frame. -/
def Refused (frame : TouchFrame) (s : KeyboardSink (Uinput L) L) : Prop :=
  s.spacer = none ∧ Covers s.sink s.pressed ∧
    (KeyboardSink.is_release frame = false → KeyboardSink.is_empty_heartbeat frame = false ∧ Cut lane_for frame s)

/-- A keyboard whose release failed. -/
structure Owing (s : KeyboardSink (Uinput L) L) : Prop where
  direct : s.spacer = none
  covers : Covers s.sink s.pressed
  active : s.has_active_input = true

theorem Exact.covers {s : KeyboardSink (Uinput L) L} (h : Exact s) : Covers s.sink s.pressed := ⟨s.pressed, h, fun _ => id⟩

theorem Rests.at_os {frames : List TouchFrame} {s : KeyboardSink (Uinput L) L} (h : Rests lane_for frames s) : Exact s := by
  unfold Exact
  rw [h.written, h.exact]
  rfl

theorem rests_new (keycodes : Keycodes L) (answers : Nat → List InputEvent → Except IoError Nat) :
    Rests lane_for [] (KeyboardSink.new (Uinput.new keycodes answers) none) where
  toSettled := settled_new _
  shows := rfl
  written := rfl
  exact := rfl

/-! ## Releases -/

theorem discard_error {s s' : Uinput L} {e : IoError} (h : s.discard_pending_with = (.error e, s')) :
    s'.pending.isSome = true := by
  unfold Uinput.discard_pending_with at h
  split at h
  · cases h
  · rename_i pending hpending
    dsimp only at h
    split at h
    · cases h
      simp [hpending]
    · cases h
      simp [hpending]
    · split at h
      · cases h
        simp [hpending]
      · split at h
        · cases h
        · split at h
          · cases h
            rfl
          · cases h
            simp [hpending]

theorem pressed_active {s : KeyboardSink (Uinput L) L} {l : Fin L} (h : s.pressed l = true) :
    s.has_active_input = true := by
  simp only [KeyboardSink.has_active_input, Bool.or_eq_true, List.any_eq_true, List.mem_finRange, true_and]
  exact .inl (.inl ⟨l, h⟩)

/-- Of the lanes pressed, one whose release was not taken stays pressed. -/
theorem releases_cut {pressed : Fin L → Bool} {n : Nat} (h : n < (KeyboardSink.releases pressed).length) :
    ∃ l, played pressed ((KeyboardSink.releases pressed).take n) l = true := by
  have hnodup : ((List.finRange L).filter pressed).Nodup := (List.nodup_finRange L).filter _
  have hne : ((List.finRange L).filter pressed).drop n ≠ [] := by
    rw [ne_eq, List.drop_eq_nil_iff]
    simpa [KeyboardSink.releases] using h
  obtain ⟨l, hl⟩ := List.exists_mem_of_ne_nil _ hne
  refine ⟨l, ?_⟩
  have huntouched : played pressed ((KeyboardSink.releases pressed).take n) l = pressed l := by
    apply play_untouched
    intro change hchange
    rw [KeyboardSink.releases, ← List.map_take] at hchange
    obtain ⟨lane, hlane, rfl⟩ := List.mem_map.1 hchange
    rintro rfl
    exact List.disjoint_take_drop hnodup le_rfl hlane hl
  rw [huntouched]
  exact (List.mem_filter.1 (List.mem_of_mem_drop hl)).2

theorem release_idle {now : Nat} {s s' : KeyboardSink (Uinput L) L} (h : s.release_all now = (.ok (), s')) :
    s'.has_active_input = false := by
  have hpressed := (release_all_ok h).pressed
  have hpending : KeySink.has_pending_submission s'.sink = false :=
    congrArg Option.isSome (release_all_settles h)
  have hdeferred : s'.spacer.any (fun spacer => !spacer.queue.isEmpty) = false := by
    rcases hspacer : s'.spacer with _ | spacer
    · rfl
    · simp [release_nothing_deferred h spacer hspacer]
  simp [KeyboardSink.has_active_input, hpressed, hpending, hdeferred]

/-- A release that fails leaves something to release. -/
theorem release_all_active {s s' : KeyboardSink (Uinput L) L} {now : Nat} {e : IoError}
    (h : s.release_all now = (.error e, s')) : s'.has_active_input = true := by
  unfold KeyboardSink.release_all at h
  split at h
  -- A pending change that could not be discarded is still there.
  · rename_i sink hdiscard
    cases h
    have hpending : sink.pending.isSome = true := discard_error hdiscard
    simp [KeyboardSink.has_active_input, KeySink.has_pending_submission, hpending]
  rename_i sink _
  unfold KeyboardSink.release_all_with at h
  dsimp only at h
  split at h
  · cases h
  rename_i hchanges
  have hfirst : 0 < (KeyboardSink.releases s.pressed).length := List.length_pos_iff.2 hchanges
  -- Otherwise some lane was not released: the first, unless the device took a part of the releases.
  obtain ⟨l, hl⟩ := releases_cut hfirst
  split at h
  · cases h
    exact pressed_active (l := l) hl
  split at h
  · cases h
    exact pressed_active (l := l) hl
  split at h
  · rename_i accepted sink' _ hle hne
    cases h
    have hlt : accepted < (KeyboardSink.releases s.pressed).length := by
      have hne' : accepted ≠ (KeyboardSink.releases s.pressed).length := hne
      have hle' : ¬ accepted > (KeyboardSink.releases s.pressed).length := hle
      omega
    obtain ⟨l, hl⟩ := releases_cut hlt
    apply pressed_active (l := l)
    rw [(foldl_note_released _ _ _).1]
    have hup : ((KeyboardSink.releases s.pressed).take accepted).map (fun c => { c with down := false }) =
        (KeyboardSink.releases s.pressed).take accepted := by
      simp [KeyboardSink.releases, ← List.map_take]
    simp only [KeyboardSink.begin_release, hup]
    exact hl
  · cases h

theorem release_rests {s s' : KeyboardSink (Uinput L) L} {now : Nat} (hdirect : s.spacer = none)
    (hcovers : Covers s.sink s.pressed) (h : s.release_all now = (.ok (), s')) : Rests lane_for [] s' := by
  have hreleased := release_all_ok h
  have hspacer : s'.spacer = none := by
    have := release_all_direct now hdirect
    rwa [h] at this
  obtain ⟨hup, hwritten⟩ := release_all_up hcovers h
  exact ⟨released_settled hreleased hspacer, hreleased.pressed, hwritten, by rw [hup, hreleased.pressed]⟩

theorem release_owing {s s' : KeyboardSink (Uinput L) L} {now : Nat} {e : IoError} (hdirect : s.spacer = none)
    (hcovers : Covers s.sink s.pressed) (h : s.release_all now = (.error e, s')) : Owing s' where
  direct := by
    have := release_all_direct now hdirect
    rwa [h] at this
  covers := by
    have := covers_follows.release_all now hcovers
    rwa [h] at this
  active := release_all_active h

/-! ## Snapshots -/

/-- A submission keeps the OS exact, and one that succeeds leaves nothing pending. -/
theorem submit_direct_exact {s s' : KeyboardSink (Uinput L) L} {r : Except IoError Unit} (hexact : Exact s)
    (hwritten : remaining s = [] → s.sink.pending = none) (h : s.submit_direct = (r, s')) :
    Exact s' ∧ (r = .ok () → s'.sink.pending = none) ∧ (remaining s' = [] → s'.sink.pending = none) := by
  unfold KeyboardSink.submit_direct at h
  dsimp only at h
  split at h
  · rename_i hnone
    cases h
    exact ⟨hexact, fun _ => hwritten hnone, fun _ => hwritten hnone⟩
  rename_i hsome
  split at h
  · rename_i hsubmit
    cases h
    obtain ⟨hos, hpending⟩ := submit_error hsubmit
    refine ⟨?_, fun hr => (by cases hr), fun hr => absurd hr hsome⟩
    unfold Exact
    rw [hos, hpending]
    exact hexact
  rename_i accepted sink hsubmit
  obtain ⟨hle, hbehind, hos⟩ := submit_ok hsubmit
  split at h
  · rename_i hexcess
    exact absurd hle (Nat.not_le_of_lt hexcess)
  have htook : Exact (KeyboardSink.apply_changes accepted { s with sink := sink }) := hos s.pressed hexact
  split at h
  · rename_i hcut
    cases h
    refine ⟨htook, fun hr => (by cases hr), fun hr => ?_⟩
    have hlength : (remaining s).length ≤ accepted := by
      have hnil : s.pending.changes.length ≤ s.pending.applied + accepted := List.drop_eq_nil_iff.1 hr
      rw [remaining, List.length_drop]
      omega
    exact absurd (Nat.le_antisymm hle hlength) hcut
  · rename_i hall
    cases h
    have hpending : sink.pending = none := submit_all (not_not.1 hall ▸ hsubmit)
    exact ⟨htook, fun _ => hpending, fun _ => hpending⟩

/-- A snapshot that is offered at rest or again is shown at the OS, or cut short. -/
theorem accept_snapshot {frame : TouchFrame} {s s' : KeyboardSink (Uinput L) L} {frames : List TouchFrame} {now : Nat}
    {r : Except IoError Unit} (hrelease : KeyboardSink.is_release frame = false)
    (hheartbeat : KeyboardSink.is_empty_heartbeat frame = false) (h : Rests lane_for frames s ∨ Cut lane_for frame s)
    (hs : KeyboardSink.accept_at lane_for frame now s = (r, s')) :
    (r = .ok () ∧ Rests lane_for (frame :: frames) s') ∨ (∃ e, r = .error e) ∧ Cut lane_for frame s' := by
  have hdirect : s.spacer = none := h.elim (fun h => h.toSettled.direct) (fun h => h.toInProgress.direct)
  have hbegin : ∃ t, s.begin_frame lane_for frame = (.ok (), t) ∧ t.spacer = none ∧ Exact t ∧
      (remaining t = [] → t.sink.pending = none) := by
    unfold KeyboardSink.begin_frame
    rcases h with h | h
    · rw [h.toSettled.idle]
      exact ⟨_, rfl, hdirect, h.at_os, fun _ => h.written⟩
    · rw [h.toInProgress.sequence]
      exact ⟨s, by simp, hdirect, h.exact, h.written⟩
  obtain ⟨t, ht, hspacer, hexact, hwritten⟩ := hbegin
  have hsubmit : t.submit_direct = (r, s') := by
    unfold KeyboardSink.accept_at at hs
    simpa only [hrelease, hheartbeat, service_direct hdirect, ht, hspacer, Bool.false_eq_true, if_false] using hs
  obtain ⟨hexact', hok, hwritten'⟩ := submit_direct_exact hexact hwritten hsubmit
  rcases accept_spec lane_for now hrelease hheartbeat (h.imp (·.toSettled) (·.toInProgress)) hs with
    ⟨rfl, hshows⟩ | ⟨⟨e, rfl⟩, hprogress⟩
  · have hpressed : s'.pressed = shown lane_for (frame :: frames) := by
      have hkeys : s'.pressed = (snapshot lane_for frame.contacts).pressed :=
        congrArg KeyState.pressed (shows_keys lane_for hshows)
      simp [shown, hrelease, hheartbeat, hkeys]
    have hpending := hok rfl
    refine .inl ⟨rfl, hshows.toSettled, hpressed, hpending, ?_⟩
    unfold Exact at hexact'
    rw [hexact', hpending]
    rfl
  · exact .inr ⟨⟨e, rfl⟩, hprogress, hexact', hwritten'⟩

/-! ## Every frame -/

theorem offered_direct {frame : TouchFrame} {frames : List TouchFrame} {s : KeyboardSink (Uinput L) L}
    (h : Rests lane_for frames s ∨ Refused lane_for frame s) : s.spacer = none ∧ Covers s.sink s.pressed := by
  rcases h with h | h
  · exact ⟨h.toSettled.direct, h.at_os.covers⟩
  · exact ⟨h.1, h.2.1⟩

theorem accept_release {frame : TouchFrame} (hrelease : KeyboardSink.is_release frame = true) (now : Nat)
    (s : KeyboardSink (Uinput L) L) : KeyboardSink.accept_at lane_for frame now s = s.release_all now := by
  simp [KeyboardSink.accept_at, hrelease]

/-- A frame that is taken is the last one shown. -/
theorem accept_rests {frame : TouchFrame} {frames : List TouchFrame} {s s' : KeyboardSink (Uinput L) L} {now : Nat}
    (h : Rests lane_for frames s ∨ Refused lane_for frame s)
    (hs : KeyboardSink.accept_at lane_for frame now s = (.ok (), s')) : Rests lane_for (frame :: frames) s' := by
  obtain ⟨hdirect, hcovers⟩ := offered_direct lane_for h
  cases hrelease : KeyboardSink.is_release frame with
  | true =>
    rw [accept_release lane_for hrelease] at hs
    obtain ⟨hsettled, hshows, hwritten, hexact⟩ := release_rests lane_for hdirect hcovers hs
    exact ⟨hsettled, by simpa [shown, hrelease] using hshows, hwritten, hexact⟩
  | false =>
    cases hheartbeat : KeyboardSink.is_empty_heartbeat frame with
    | true =>
      rcases h with h | h
      · rw [heartbeat_direct lane_for now hdirect hrelease hheartbeat] at hs
        cases hs
        exact ⟨h.toSettled, by simpa [shown, hrelease, hheartbeat] using h.shows, h.written, h.exact⟩
      -- A heartbeat is never refused.
      · have hcut := (h.2.2 hrelease).1
        rw [hheartbeat] at hcut
        cases hcut
    | false =>
      rcases accept_snapshot lane_for hrelease hheartbeat (h.imp_right fun h => (h.2.2 hrelease).2) hs with
        ⟨-, hrests⟩ | ⟨⟨e, he⟩, -⟩
      · exact hrests
      · cases he

theorem accept_refused {frame : TouchFrame} {frames : List TouchFrame} {s s' : KeyboardSink (Uinput L) L} {now : Nat}
    {e : IoError} (h : Rests lane_for frames s ∨ Refused lane_for frame s)
    (hs : KeyboardSink.accept_at lane_for frame now s = (.error e, s')) : Refused lane_for frame s' := by
  obtain ⟨hdirect, hcovers⟩ := offered_direct lane_for h
  cases hrelease : KeyboardSink.is_release frame with
  | true =>
    rw [accept_release lane_for hrelease] at hs
    have howing := release_owing hdirect hcovers hs
    exact ⟨howing.direct, howing.covers, fun hr => by rw [hrelease] at hr; cases hr⟩
  | false =>
    cases hheartbeat : KeyboardSink.is_empty_heartbeat frame with
    | true =>
      rw [heartbeat_direct lane_for now hdirect hrelease hheartbeat] at hs
      cases hs
    | false =>
      rcases accept_snapshot lane_for hrelease hheartbeat (h.imp_right fun h => (h.2.2 hrelease).2) hs with
        ⟨he, -⟩ | ⟨-, hcut⟩
      · cases he
      · exact ⟨hcut.toInProgress.direct, hcut.exact.covers, fun _ => ⟨hheartbeat, hcut⟩⟩

end Trackpad.Keyboard.Linux
