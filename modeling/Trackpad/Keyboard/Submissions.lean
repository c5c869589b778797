import Trackpad.Keyboard.Runs
/-!
# What a call does to the OS sink

Whatever a call is about, it reaches the OS sink through `submit` and `discard_pending`, and
`pressed` follows exactly the changes a submission accepted. `Follows` is the rule that makes of
this an invariant of every call.
-/
open Edges

namespace Trackpad.Keyboard

variable {κ : Type} {L : Nat}

/-! ## Releases -/

theorem foldl_note_released (now : Nat) (lanes : List (KeyChange L)) (s : KeyboardSink κ L) :
    (lanes.foldl (KeyboardSink.note_released now) s).pressed =
      played s.pressed (lanes.map fun c => { c with down := false }) ∧
    (lanes.foldl (KeyboardSink.note_released now) s).state = s.state ∧
    (lanes.foldl (KeyboardSink.note_released now) s).pending = s.pending ∧
    (lanes.foldl (KeyboardSink.note_released now) s).sink = s.sink := by
  induction lanes generalizing s with
  | nil => exact ⟨rfl, rfl, rfl, rfl⟩
  | cons c lanes ih =>
    obtain ⟨h1, h2, h3, h4⟩ := ih (KeyboardSink.note_released now s c)
    exact ⟨h1, h2, h3, h4⟩

theorem foldl_released_spacer (now : Nat) (lanes : List (KeyChange L)) {s : KeyboardSink κ L}
    {spacer : RepressSpacer L} (h : s.spacer = some spacer) :
    ∃ spacer', (lanes.foldl (KeyboardSink.note_released now) s).spacer = some spacer' ∧ spacer'.queue = spacer.queue := by
  induction lanes generalizing s spacer with
  | nil => exact ⟨spacer, h, rfl⟩
  | cons c lanes ih =>
    have hs : (KeyboardSink.note_released now s c).spacer = some (spacer.note_release c.lane now) := by
      simp [KeyboardSink.note_released, h]
    obtain ⟨spacer', h1, h2⟩ := ih hs
    exact ⟨spacer', h1, h2⟩

/-- Each pressed lane is released once, each other lane not at all. -/
theorem releases_lane (pressed : Fin L → Bool) (l : Fin L) :
    (KeyboardSink.releases pressed).filter (·.lane = l) = if pressed l = true then [⟨l, false, false⟩] else [] := by
  rw [KeyboardSink.releases, List.filter_map, List.filter_filter]
  simp only [Function.comp_def]
  split
  · rename_i hl
    have hone : (fun k : Fin L => decide (k = l) && pressed k) = fun k => k == l := by
      funext k
      by_cases hk : k = l
      · subst hk; simp [hl]
      · simp [hk]
    rw [hone, List.filter_beq, List.count_eq_one_of_mem (List.nodup_finRange L) (List.mem_finRange l)]
    rfl
  · rename_i hl
    simp only [List.map_eq_nil_iff, List.filter_eq_nil_iff, Bool.and_eq_true, decide_eq_true_eq]
    rintro k - ⟨rfl, hk⟩
    exact hl hk

/-- Releasing every pressed lane leaves none pressed. -/
theorem played_releases (pressed : Fin L → Bool) :
    played pressed (KeyboardSink.releases pressed) = fun _ => false := by
  funext l
  rw [played, play_eq_last, releases_lane]
  split
  · rfl
  · rename_i hl; simpa using hl

/-- A release that succeeds leaves nothing pressed, owned, pending or waiting. -/
structure Released (s : KeyboardSink κ L) : Prop where
  pressed : s.pressed = fun _ => false
  state : s.state = KeyboardState.new L
  pending : s.pending.sequence = none

theorem foldl_emitted (pressed : Fin L → Bool) (edges : List (ScheduledEdge L)) :
    edges.foldl (fun pressed e => Function.update pressed e.change.lane e.change.down) pressed =
      played pressed (edges.map (·.change)) := by
  induction edges generalizing pressed with
  | nil => rfl
  | cons e edges ih => exact ih _

section Calls
variable [KeySink κ L]

theorem release_all_with_ok {now : Nat} {s s' : KeyboardSink κ L}
    (h : KeyboardSink.release_all_with now s = (.ok (), s')) : Released s' := by
  unfold KeyboardSink.release_all_with at h
  dsimp only at h
  split at h
  · rename_i hnone
    cases h
    refine ⟨?_, rfl, rfl⟩
    have := played_releases s.pressed
    simp only [KeyboardSink.begin_release] at hnone
    rwa [hnone] at this
  · split at h
    · cases h
    · split at h
      · cases h
      · split at h
        · cases h
        · rename_i accepted sink _ _ hall
          simp only [ne_eq, Decidable.not_not] at hall
          cases h
          obtain ⟨h1, -, h3, -⟩ := foldl_note_released now
            (s.begin_release.pending.changes.take accepted) { s.begin_release with sink := sink }
          refine ⟨?_, rfl, ?_⟩
          · simp only [KeyboardSink.clear_state]
            rw [h1, hall, List.take_length]
            have : ((KeyboardSink.releases s.pressed).map fun c => { c with down := false }) =
                KeyboardSink.releases s.pressed := by
              simp [KeyboardSink.releases]
            simp only [KeyboardSink.begin_release, this]
            exact played_releases s.pressed
          · simp only [KeyboardSink.clear_state, h3]; rfl

theorem release_all_ok {now : Nat} {s s' : KeyboardSink κ L}
    (h : KeyboardSink.release_all now s = (.ok (), s')) : Released s' := by
  unfold KeyboardSink.release_all at h
  split at h
  · cases h
  · exact release_all_with_ok h

/-! ## What a call does to the OS sink -/

/-- A relation between an OS sink and the pressed lanes that each thing `KeyboardSink` does with
the sink keeps: the lanes follow exactly the changes a submission accepted. -/
structure Follows (I : κ → (Fin L → Bool) → Prop) : Prop where
  accepted : ∀ {k k' : κ} {pressed : Fin L → Bool} {changes : List (KeyChange L)} {n : Nat}, I k pressed →
    KeySink.submit changes k = (.ok n, k') → n ≤ changes.length → I k' (played pressed (changes.take n))
  excess : ∀ {k k' : κ} {pressed : Fin L → Bool} {changes : List (KeyChange L)} {n : Nat}, I k pressed →
    KeySink.submit changes k = (.ok n, k') → changes.length < n → I k' pressed
  rejected : ∀ {k k' : κ} {pressed : Fin L → Bool} {changes : List (KeyChange L)} {e : IoError}, I k pressed →
    KeySink.submit changes k = (.error e, k') → I k' pressed
  discarded : ∀ {k k' : κ} {pressed : Fin L → Bool} {r : Except IoError Unit}, I k pressed →
    KeySink.discard_pending k = (r, k') → I k' pressed

namespace Follows

variable {I : κ → (Fin L → Bool) → Prop}

theorem flush (H : Follows I) {spacer : RepressSpacer L} {now : Nat} {sink : κ} {pressed : Fin L → Bool}
    (h : I sink pressed) :
    I (spacer.flush now sink pressed).2.2.1 (spacer.flush now sink pressed).2.2.2 := by
  unfold RepressSpacer.flush
  dsimp only
  split
  · exact h
  · split
    · exact h
    · split
      · rename_i hs; exact H.rejected h hs
      · rename_i accepted _ hs
        split
        · rename_i hn; exact H.excess h hs hn
        · rename_i hn
          have := H.accepted h hs (Nat.le_of_not_lt hn)
          rw [← List.map_take, ← foldl_emitted] at this
          split <;> exact this

theorem service (H : Follows I) (now : Nat) {s : KeyboardSink κ L} (h : I s.sink s.pressed) :
    I (s.service_at now).2.sink (s.service_at now).2.pressed := by
  unfold KeyboardSink.service_at
  split
  · exact h
  · exact H.flush h

theorem submit_direct (H : Follows I) {s : KeyboardSink κ L} (h : I s.sink s.pressed) :
    I s.submit_direct.2.sink s.submit_direct.2.pressed := by
  unfold KeyboardSink.submit_direct
  dsimp only
  split
  · exact h
  · split
    · rename_i hs; exact H.rejected h hs
    · rename_i hs
      split
      · rename_i hn; exact H.excess h hs hn
      · rename_i hn
        have := H.accepted h hs (Nat.le_of_not_lt hn)
        split <;> exact this

theorem release_all_with (H : Follows I) (now : Nat) {s : KeyboardSink κ L} (h : I s.sink s.pressed) :
    I (s.release_all_with now).2.sink (s.release_all_with now).2.pressed := by
  unfold KeyboardSink.release_all_with
  dsimp only
  split
  · exact h
  · split
    · rename_i hs; exact H.rejected h hs
    · rename_i accepted sink hs
      split
      · rename_i hn; exact H.excess h hs hn
      · rename_i hn
        have hp := H.accepted h hs (Nat.le_of_not_lt hn)
        obtain ⟨h1, -, -, h4⟩ := foldl_note_released now
          (s.begin_release.pending.changes.take accepted) { s.begin_release with sink := sink }
        have hup : ((KeyboardSink.releases s.pressed).take accepted).map (fun c => { c with down := false }) =
            (KeyboardSink.releases s.pressed).take accepted := by
          simp [KeyboardSink.releases, ← List.map_take]
        simp only [KeyboardSink.begin_release, hup] at h1 h4 hp
        split
        · simp only [KeyboardSink.begin_release, h1, h4]; exact hp
        · simp only [KeyboardSink.clear_state, KeyboardSink.begin_release, h1, h4]; exact hp

theorem release_all (H : Follows I) (now : Nat) {s : KeyboardSink κ L} (h : I s.sink s.pressed) :
    I (s.release_all now).2.sink (s.release_all now).2.pressed := by
  unfold KeyboardSink.release_all
  split
  · rename_i hd; exact H.discarded h hd
  · rename_i hd; exact H.release_all_with now (H.discarded h hd)

omit [KeySink κ L] in
theorem begin_frame_sink (lane_for : Int → Fin L) (frame : TouchFrame) (s : KeyboardSink κ L) :
    (s.begin_frame lane_for frame).2.sink = s.sink ∧ (s.begin_frame lane_for frame).2.pressed = s.pressed := by
  unfold KeyboardSink.begin_frame
  split
  · split <;> exact ⟨rfl, rfl⟩
  · exact ⟨rfl, rfl⟩

theorem submit_spaced (H : Follows I) (now : Nat) {s : KeyboardSink κ L} {spacer : RepressSpacer L}
    (h : I s.sink s.pressed) :
    I (s.submit_spaced now spacer).2.sink (s.submit_spaced now spacer).2.pressed := by
  have hs := H.service now (s := s.enqueue_pending now spacer) h
  unfold KeyboardSink.submit_spaced
  split
  · rename_i hx; rw [hx] at hs; exact hs
  · rename_i hx; rw [hx] at hs; exact hs

theorem accept (H : Follows I) (lane_for : Int → Fin L) (frame : TouchFrame) (now : Nat) {s : KeyboardSink κ L}
    (h : I s.sink s.pressed) :
    I (s.accept_at lane_for frame now).2.sink (s.accept_at lane_for frame now).2.pressed := by
  have hs := H.service now h
  unfold KeyboardSink.accept_at
  split
  · exact H.release_all now h
  · split
    · rename_i hx; rw [hx] at hs; exact hs
    · rename_i s₁ hx
      rw [hx] at hs
      split
      · exact hs
      · obtain ⟨h1, h2⟩ := begin_frame_sink lane_for frame s₁
        split
        · rename_i hb; rw [hb] at h1 h2; dsimp only at h1 h2 ⊢; rw [h1, h2]; exact hs
        · rename_i s₂ hb
          rw [hb] at h1 h2
          have h₂ : I s₂.sink s₂.pressed := by dsimp only at h1 h2; rw [h1, h2]; exact hs
          split
          · exact H.submit_spaced now h₂
          · exact H.submit_direct h₂

/-- Every call keeps a relation that submissions and discards keep. -/
theorem exec (H : Follows I) (lane_for : Int → Fin L) (c : Call) {s : KeyboardSink κ L} (h : I s.sink s.pressed) :
    I (c.exec lane_for s).2.sink (c.exec lane_for s).2.pressed := by
  cases c with
  | accept frame now => exact H.accept lane_for frame now h
  | service now => exact H.service now h
  | release_all now => exact H.release_all now h

end Follows

end Calls

end Trackpad.Keyboard
