import Trackpad.Keyboard.LinuxSpec
/-!
# No key stays down on Linux

The OS is at most one change ahead of lanes that are all `pressed`, and that change is the pending
write (`Covers`). Every submission and every cancellation keeps it so, even one cut short.
-/
open Edges

namespace Trackpad.Keyboard.Linux

variable {L : Nat}

/-! ## Cancelling -/

/-- What the pending write leaves once its key is released or its sync no longer matters. -/
def cleaned (base : Fin L → Bool) : PendingWrite L → Fin L → Bool
  | .Change change => Function.update base change.lane false
  | .CleanupSync => base

theorem cleaned_le {base : Fin L → Bool} {pending : PendingWrite L} {l : Fin L} (h : cleaned base pending l = true) :
    base l = true := by
  cases pending with
  | CleanupSync => exact h
  | Change c =>
    simp only [cleaned, Function.update_apply] at h
    split at h
    · cases h
    · exact h

/-- Any part of a cancellation's write gets the keys there: the compensating release comes first. -/
theorem keys_after_cleanup {keycodes : Keycodes L} {pending : PendingWrite L} {down : Nat → Bool} {base : Fin L → Bool}
    (h : (fun l => down (keycodes.code l)) = played base (owed (some pending))) {n : Nat} (hn : 0 < n) :
    (fun l => keys_after down ((Uinput.cleanup keycodes pending).take n) (keycodes.code l)) = cleaned base pending := by
  obtain ⟨n, rfl⟩ : ∃ m, n = m + 1 := ⟨n - 1, by omega⟩
  cases pending with
  | CleanupSync => simpa [Uinput.cleanup, cleaned, owed] using h
  | Change c =>
    cases hd : c.down with
    | false => simpa [Uinput.cleanup, hd, cleaned, owed] using h
    | true =>
      have hu : (fun l => Function.update down (keycodes.code c.lane) false (keycodes.code l)) =
          Function.update base c.lane false := by
        rw [update_keycode, h]; simp [owed]
      cases n with
      | zero => simpa [Uinput.cleanup, hd, cleaned] using hu
      | succ n => simpa [Uinput.cleanup, hd, cleaned] using hu

/-- A cancellation only ever lets keys go. -/
theorem discard_spec {s s' : Uinput L} {r : Except IoError Unit} (h : s.discard_pending_with = (r, s'))
    {base : Fin L → Bool} (hbase : s.os = played base (owed s.pending)) :
    ∃ base', s'.os = played base' (owed s'.pending) ∧ ∀ l, base' l = true → base l = true := by
  unfold Uinput.discard_pending_with at h
  split at h
  · rename_i hp; cases h; exact ⟨base, hbase, fun _ => id⟩
  · rename_i pending hp
    dsimp only at h
    cases hw : write_events (Uinput.cleanup s.keycodes pending) s.device with
    | mk answer device =>
      rw [hw] at h
      dsimp only at h
      have hspec := write_events_spec hw
      have hlen := cleanup_length s.keycodes pending
      split at h
      · obtain ⟨n, hn, -⟩ | ⟨-, hd⟩ := hspec
        · cases hn
        · cases h; exact ⟨base, by rw [os_eq _ hd, hbase], fun _ => id⟩
      · obtain ⟨n, hn, -, hd⟩ | ⟨⟨e, he⟩, -⟩ := hspec
        · cases hn; cases h
          exact ⟨base, by rw [os_eq _ (by simpa using hd), hbase], fun _ => id⟩
        · cases he
      · rename_i count h0
        obtain ⟨n, hn, hle, hd⟩ | ⟨⟨e, he⟩, -⟩ := hspec
        · cases hn
          have hpos : 0 < count := Nat.pos_of_ne_zero h0
          have hos : ∀ pending', Uinput.os ⟨device, s.keycodes, pending'⟩ = cleaned base pending := fun pending' => by
            rw [← keys_after_cleanup (hp ▸ hbase) hpos]
            funext l; simp [Uinput.os, hd, keys_after_append]
          split at h
          · omega
          · split at h
            · cases h; exact ⟨_, hos _, fun _ => cleaned_le⟩
            · split at h
              · cases h; exact ⟨_, hos _, fun _ => cleaned_le⟩
              · omega
        · cases he

/-! ## Every call -/

/-- The OS is ahead of lanes that are pressed by the pending change alone. -/
def Covers (s : Uinput L) (pressed : Fin L → Bool) : Prop :=
  ∃ base : Fin L → Bool, s.os = played base (owed s.pending) ∧ ∀ l, base l = true → pressed l = true

theorem played_mono {a b : Fin L → Bool} (h : ∀ l, a l = true → b l = true) (changes : List (KeyChange L)) :
    ∀ l, played a changes l = true → played b changes l = true := by
  intro l hl
  simp only [played, play_eq_last] at hl ⊢
  cases hf : (changes.filter (·.lane = l)).getLast? with
  | none => rw [hf] at hl; exact h l hl
  | some c => rw [hf] at hl; exact hl

theorem covers_follows : Follows (Covers (L := L)) where
  accepted := by
    rintro k k' pressed changes n ⟨base, hbase, hle⟩ h -
    obtain ⟨-, -, hos⟩ := submit_ok h
    exact ⟨_, hos base hbase, played_mono hle _⟩
  excess := by
    rintro k k' pressed changes n - h hn
    exact absurd (submit_ok h).1 (Nat.not_le_of_lt hn)
  rejected := by
    rintro k k' pressed changes e ⟨base, hbase, hle⟩ h
    obtain ⟨h1, h2⟩ := submit_error h
    exact ⟨base, by rw [h1, h2, hbase], hle⟩
  discarded := by
    rintro k k' pressed r ⟨base, hbase, hle⟩ h
    obtain ⟨base', hbase', hle'⟩ := discard_spec h hbase
    exact ⟨base', hbase', fun l hl => hle l (hle' l hl)⟩

theorem covers_new (keycodes : Keycodes L) (answers : Nat → List InputEvent → Except IoError Nat) :
    Covers (Uinput.new keycodes answers) fun _ => false :=
  ⟨fun _ => false, rfl, fun _ => id⟩

theorem reachable_covers {lane_for : Int → Fin L} {start s : KeyboardSink (Uinput L) L}
    (h : Reachable lane_for start s) (hs : Covers start.sink start.pressed) : Covers s.sink s.pressed := by
  induction h with
  | start => exact hs
  | call c _ ih => exact covers_follows.exec lane_for c ih

theorem covers_down {s : Uinput L} {pressed : Fin L → Bool} (h : Covers s pressed) {l : Fin L}
    (hl : s.os l = true) : pressed l = true ∨ ∃ touch, s.pending = some (.Change ⟨l, true, touch⟩) := by
  obtain ⟨base, hbase, hle⟩ := h
  rw [hbase] at hl
  match hp : s.pending with
  | none | some .CleanupSync => exact .inl (hle l (by simpa [hp, owed] using hl))
  | some (.Change ⟨lane, down, touch⟩) =>
    simp only [hp, owed, play_cons, play_nil, Function.update_apply] at hl
    split at hl
    · subst_vars; exact .inr ⟨touch, rfl⟩
    · exact .inl (hle l hl)

/-! ## Releasing -/

/-- A release that succeeds leaves every key up and nothing pending. -/
theorem release_all_up {s s' : KeyboardSink (Uinput L) L} {now : Nat} (h : Covers s.sink s.pressed)
    (hok : s.release_all now = (.ok (), s')) : s'.sink.os = (fun _ => false) ∧ s'.sink.pending = none := by
  have hpressed := (release_all_ok hok).pressed
  have hc : Covers s'.sink s'.pressed := by
    have := covers_follows.release_all now h
    rwa [hok] at this
  have hpend := release_all_settles hok
  obtain ⟨base, hbase, hle⟩ := hc
  refine ⟨?_, hpend⟩
  funext l
  rw [hbase, hpend]
  cases hb : base l with
  | false => exact hb
  | true => have := hle l hb; rw [hpressed] at this; cases this

theorem release_all_accepting {s : KeyboardSink (Uinput L) L} (hd : s.sink.device.Accepting) (now : Nat) :
    ∃ s', s.release_all now = (.ok (), s') := by
  obtain ⟨sink, hdis, hp, hd⟩ := discard_accepting hd
  obtain ⟨sink', hsub, -⟩ := submit_accepting hd (KeyboardSink.releases s.pressed) (.inl hp)
  have hdis : KeySink.discard_pending s.sink = (.ok (), sink) := hdis
  have hsub : KeySink.submit (KeyboardSink.releases s.pressed) sink = (.ok (KeyboardSink.releases s.pressed).length, sink') := hsub
  unfold KeyboardSink.release_all
  rw [hdis]
  unfold KeyboardSink.release_all_with
  dsimp only
  split
  · exact ⟨_, rfl⟩
  · simp only [KeyboardSink.begin_release, hsub]
    simp

/-- No key is stuck: a key the OS holds down is one the sink still counts as active, a release that
succeeds lets go of every key, and a release succeeds once the device takes writes again. -/
theorem no_stuck_key {lane_for : Int → Fin L} {repress_gap : Option Nat} {keycodes : Keycodes L}
    {answers : Nat → List InputEvent → Except IoError Nat} {s : KeyboardSink (Uinput L) L}
    (h : Reachable lane_for (KeyboardSink.new (Uinput.new keycodes answers) repress_gap) s) :
    (∀ l, s.sink.os l = true →
      (s.pressed l = true ∨ ∃ touch, s.sink.pending = some (.Change ⟨l, true, touch⟩)) ∧
      s.has_active_input = true) ∧
    (∀ now s', s.release_all now = (.ok (), s') → (∀ l, s'.sink.os l = false) ∧ s'.sink.pending = none) ∧
    (s.sink.device.Accepting → ∀ now, ∃ s', s.release_all now = (.ok (), s')) := by
  have hc := reachable_covers h (covers_new keycodes answers)
  refine ⟨fun l hl => ?_, fun now s' hok => ?_, fun hd now => release_all_accepting hd now⟩
  · have hdown := covers_down hc hl
    refine ⟨hdown, ?_⟩
    simp only [KeyboardSink.has_active_input, Bool.or_eq_true, List.any_eq_true, List.mem_finRange, true_and]
    rcases hdown with hp | ⟨touch, hp⟩
    · exact .inl (.inl ⟨l, hp⟩)
    · exact .inl (.inr (by simp [KeySink.has_pending_submission, hp]))
  · obtain ⟨hos, hp⟩ := release_all_up hc hok
    exact ⟨fun l => congrFun hos l, hp⟩

/-- A device that stops every write after one event. -/
def oneEvent : Nat → List InputEvent → Except IoError Nat := fun _ _ => .ok INPUT_EVENT_SIZE

/-- The `D` and `K` keys. -/
def twoKeys : Keycodes 2 := ⟨![32, 37], by decide⟩

/-- A press cut off before its sync. -/
def unsynced : KeyboardSink (Uinput 2) 2 :=
  ((Call.accept tapRight 0).exec halves (KeyboardSink.new (Uinput.new twoKeys oneEvent) none)).2

theorem no_stuck_key_unsynced : unsynced.pressed 1 = false ∧ unsynced.has_active_input = true := by
  have reached : Reachable halves (KeyboardSink.new (Uinput.new twoKeys oneEvent) none) unsynced :=
    .call (.accept tapRight 0) .start
  have h := no_stuck_key reached
  refine ⟨by decide +kernel, (h.1 1 (by decide +kernel)).2⟩

end Trackpad.Keyboard.Linux
