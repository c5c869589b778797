import Trackpad.Keyboard.Linux
/-!
# Writes, submissions and cancellations

What the uinput sink does to the events delivered and to its pending write, whatever the device
answers. The OS has played every change whose `EV_KEY` it took; the sink counts a change only
once its `SYN_REPORT` is taken too.
-/
open Edges

namespace Trackpad.Keyboard.Linux

variable {L : Nat}

/-! ## What the OS holds -/

/-- The keys down after `events`. -/
def keys_after (down : Nat → Bool) (events : List InputEvent) : Nat → Bool :=
  play InputEvent.code (fun e => e.value ≠ 0) down (events.filter (·.type_ = EV_KEY))

theorem keys_after_append (down : Nat → Bool) (xs ys : List InputEvent) :
    keys_after down (xs ++ ys) = keys_after (keys_after down xs) ys := by
  simp [keys_after]

@[simp] theorem keys_after_nil (down : Nat → Bool) : keys_after down [] = down := rfl

@[simp] theorem keys_after_key (down : Nat → Bool) (code : Nat) (d : Bool) (events : List InputEvent) :
    keys_after down (key_event code d :: events) = keys_after (Function.update down code d) events := by
  cases d <;> simp [keys_after, key_event]

@[simp] theorem keys_after_sync (down : Nat → Bool) (events : List InputEvent) :
    keys_after down (sync_event :: events) = keys_after down events := by
  simp [keys_after, sync_event, EV_SYN, EV_KEY]

/-- Whether each lane's key is down at the OS: the fold of every event delivered. -/
def Uinput.os (s : Uinput L) (lane : Fin L) : Bool :=
  keys_after (fun _ => false) s.device.delivered (s.keycodes.code lane)

/-- Events that were not delivered change no key. -/
theorem os_eq {s : Uinput L} {device : Device} (pending : Option (PendingWrite L))
    (hd : device.delivered = s.device.delivered) : Uinput.os ⟨device, s.keycodes, pending⟩ = s.os := by
  funext l; simp [Uinput.os, hd]

theorem update_keycode (keycodes : Keycodes L) (down : Nat → Bool) (lane : Fin L) (d : Bool) :
    (fun l => Function.update down (keycodes.code lane) d (keycodes.code l)) =
      Function.update (fun l => down (keycodes.code l)) lane d :=
  Function.update_comp_eq_of_injective down keycodes.injective lane d

/-- The first `n` events of a batch carry the key events of half as many changes, rounded up. -/
theorem keys_after_encoded (keycodes : Keycodes L) (changes : List (KeyChange L)) (n : Nat) (down : Nat → Bool) :
    (fun l => keys_after down ((Uinput.encode_changes keycodes changes).take n) (keycodes.code l)) =
      played (fun l => down (keycodes.code l)) (changes.take ((n + 1) / 2)) := by
  induction changes generalizing n down with
  | nil => simp [Uinput.encode_changes]
  | cons c changes ih =>
    match n with
    | 0 => rfl
    | 1 => simp [Uinput.encode_changes, update_keycode]
    | n + 2 =>
      have hn : (n + 2 + 1) / 2 = (n + 1) / 2 + 1 := by omega
      have := ih n (Function.update down (keycodes.code c.lane) c.down)
      rw [update_keycode] at this
      simpa [Uinput.encode_changes, hn] using this

theorem write_events_spec {events : List InputEvent} {d d' : Device} {r : Except IoError Nat}
    (h : write_events events d = (r, d')) :
    (∃ n, r = .ok n ∧ n ≤ events.length ∧ d'.delivered = d.delivered ++ events.take n) ∨
      (∃ e, r = .error e) ∧ d'.delivered = d.delivered := by
  unfold write_events at h
  dsimp only at h
  split at h
  · cases h; exact .inl ⟨0, rfl, Nat.zero_le _, by simp⟩
  · split at h
    · cases h; exact .inr ⟨⟨_, rfl⟩, rfl⟩
    · rename_i written _
      split at h
      · cases h; exact .inr ⟨⟨_, rfl⟩, rfl⟩
      · rename_i hw
        cases h
        refine .inl ⟨_, rfl, ?_, rfl⟩
        simp only [INPUT_EVENT_SIZE] at hw ⊢
        omega

theorem encode_length (keycodes : Keycodes L) (changes : List (KeyChange L)) :
    (Uinput.encode_changes keycodes changes).length = 2 * changes.length := by
  simp [Uinput.encode_changes, List.length_flatMap, List.map_const', Nat.mul_comm]

/-! ## Submitting -/

/-- The change the OS is ahead by. -/
def owed : Option (PendingWrite L) → List (KeyChange L)
  | some (.Change change) => [change]
  | _ => []

/-- What is pending behind a submission that took `n` changes: nothing, or the next of them. -/
def Behind (changes : List (KeyChange L)) (n : Nat) (pending : Option (PendingWrite L)) : Prop :=
  pending = none ∨ ∃ c, changes[n]? = some c ∧ pending = some (.Change c)

theorem submit_remaining_spec {changes : List (KeyChange L)} {accepted : Nat} {s s' : Uinput L}
    (hs : s.pending = none) (ha : accepted ≤ changes.length) {r : Except IoError Nat}
    (h : s.submit_remaining changes accepted = (r, s')) :
    (∃ n, r = .ok n ∧ n ≤ changes.length ∧ accepted ≤ n ∧ Behind changes n s'.pending ∧
        s'.os = played (played s.os ((changes.drop accepted).take (n - accepted))) (owed s'.pending)) ∨
      accepted = 0 ∧ (∃ e, r = .error e) ∧ s'.os = s.os ∧ s'.pending = s.pending := by
  unfold Uinput.submit_remaining at h
  dsimp only at h
  -- Nothing more was delivered: `accepted` stands.
  have hstand : ∀ device : Device, device.delivered = s.device.delivered →
      Uinput.os ⟨device, s.keycodes, s.pending⟩ =
        played (played s.os ((changes.drop accepted).take (accepted - accepted))) (owed s.pending) := by
    intro device hd
    rw [os_eq _ hd]; simp [hs, owed]
  split at h
  · cases h; exact .inl ⟨_, rfl, ha, le_rfl, .inl hs, hstand s.device rfl⟩
  · cases hw : write_events (Uinput.encode_changes s.keycodes (changes.drop accepted)) s.device with
    | mk answer device =>
      rw [hw] at h
      dsimp only at h
      have hspec := write_events_spec hw
      split at h
      · rename_i e
        obtain ⟨n, hn, -⟩ | ⟨-, hd⟩ := hspec
        · cases hn
        · split at h
          · cases h; exact .inl ⟨_, rfl, ha, le_rfl, .inl hs, hstand device hd⟩
          · rename_i h0
            cases h
            exact .inr ⟨not_not.1 h0, ⟨_, rfl⟩, os_eq _ hd, rfl⟩
      · obtain ⟨n, hn, -, hd⟩ | ⟨⟨e, he⟩, -⟩ := hspec
        · cases hn
          have hd : device.delivered = s.device.delivered := by simpa using hd
          split at h
          · rename_i h0
            cases h
            exact .inr ⟨h0, ⟨_, rfl⟩, os_eq _ hd, rfl⟩
          · cases h; exact .inl ⟨_, rfl, ha, le_rfl, .inl hs, hstand device hd⟩
        · cases he
      · rename_i written _
        obtain ⟨n, hn, hle, hd⟩ | ⟨⟨e, he⟩, -⟩ := hspec
        · cases hn
          rw [encode_length, List.length_drop] at hle
          split at h
          · rename_i hgt; rw [encode_length, List.length_drop] at hgt; omega
          · cases h
            have hos : (fun l => keys_after (fun _ => false) device.delivered (s.keycodes.code l)) =
                played s.os ((changes.drop accepted).take ((written + 1) / 2)) := by
              rw [hd]
              simp only [keys_after_append]
              exact keys_after_encoded s.keycodes _ _ _
            refine .inl ⟨_, rfl, by omega, by omega, ?_⟩
            change Behind changes _ (if written % 2 ≠ 0 then _ else s.pending) ∧
              (fun l => keys_after (fun _ => false) device.delivered (s.keycodes.code l)) = _
            rw [hos, Nat.add_sub_cancel_left]
            split
            · -- An odd count ends behind a key event: that change is pending.
              have hlt : written / 2 < (changes.drop accepted).length := by rw [List.length_drop]; omega
              have he : (written + 1) / 2 = written / 2 + 1 := by omega
              refine ⟨.inr ⟨(changes.drop accepted)[written / 2], ?_, ?_⟩, ?_⟩
              · rw [← List.getElem?_drop, List.getElem?_eq_getElem hlt]
              · rw [List.getElem?_eq_getElem hlt]; rfl
              · rw [he, List.take_add_one, List.getElem?_eq_getElem hlt, played_append]
                rfl
            · have he : (written + 1) / 2 = written / 2 := by omega
              exact ⟨.inl hs, by rw [he, hs]; rfl⟩
        · cases he

/-- A submission that succeeds moves the OS and the pending write on by the changes it accepted. -/
theorem submit_ok {changes : List (KeyChange L)} {s s' : Uinput L} {n : Nat}
    (h : s.submit_with changes = (.ok n, s')) :
    n ≤ changes.length ∧ Behind changes n s'.pending ∧ ∀ base : Fin L → Bool,
      s.os = played base (owed s.pending) → s'.os = played (played base (changes.take n)) (owed s'.pending) := by
  unfold Uinput.submit_with at h
  split at h
  · cases h
  · rename_i pending hp
    split at h
    · cases h
    · rename_i hhead
      obtain ⟨rest, rfl⟩ : ∃ rest, changes = pending :: rest := by
        cases changes with
        | nil => simp at hhead
        | cons c rest => simp at hhead; exact ⟨rest, by rw [hhead]⟩
      cases hw : write_events [sync_event] s.device with
      | mk answer device =>
        rw [hw] at h
        dsimp only at h
        split at h
        · obtain ⟨n', hn, -, hd⟩ | ⟨⟨e, he⟩, -⟩ := write_events_spec hw
          · cases hn
            obtain ⟨m, hm, hle, hge, hbehind, hos⟩ | ⟨h0, -⟩ := submit_remaining_spec rfl (by simp) h
            · cases hm
              refine ⟨hle, hbehind, fun base hbase => ?_⟩
              have hsync : ({ device := device, keycodes := s.keycodes, pending := none } : Uinput L).os = s.os := by
                funext l; simp [Uinput.os, hd, keys_after_append]
              rw [hos, hsync, hbase, hp]
              obtain ⟨m, rfl⟩ : ∃ m, n = m + 1 := ⟨n - 1, by omega⟩
              rfl
            · cases h0
          · cases he
        all_goals cases h
  · rename_i hp
    obtain ⟨m, hm, hle, -, hbehind, hos⟩ | ⟨-, ⟨e, he⟩, -⟩ := submit_remaining_spec hp (Nat.zero_le _) h
    · cases hm
      refine ⟨hle, hbehind, fun base hbase => ?_⟩
      rw [hos, hbase, hp]; rfl
    · cases he

/-- A submission that fails leaves the OS and the pending write as they were. -/
theorem submit_error {changes : List (KeyChange L)} {s s' : Uinput L} {e : IoError}
    (h : s.submit_with changes = (.error e, s')) : s'.os = s.os ∧ s'.pending = s.pending := by
  unfold Uinput.submit_with at h
  split at h
  · cases h; exact ⟨rfl, rfl⟩
  · rename_i pending hp
    split at h
    · cases h; exact ⟨rfl, rfl⟩
    · cases hw : write_events [sync_event] s.device with
      | mk answer device =>
        rw [hw] at h
        dsimp only at h
        have hspec := write_events_spec hw
        split at h
        · obtain ⟨m, hm, -⟩ | ⟨h0, -⟩ := submit_remaining_spec rfl
            (by rename_i hhead _; cases changes with
                | nil => simp at hhead
                | cons => simp) h
          · cases hm
          · cases h0
        · obtain ⟨n, hn, -, hd⟩ | ⟨⟨e, he⟩, -⟩ := hspec
          · cases hn; cases h
            exact ⟨os_eq _ (by simpa using hd), rfl⟩
          · cases he
        · rename_i count h1 h0
          obtain ⟨n, hn, hle, hd⟩ | ⟨⟨e, he⟩, -⟩ := hspec
          · cases hn
            simp only [List.length_singleton] at hle
            interval_cases count <;> simp_all
          · cases he
        · obtain ⟨n, hn, -⟩ | ⟨-, hd⟩ := hspec
          · cases hn
          · cases h; exact ⟨os_eq _ hd, rfl⟩
  · rename_i hp
    obtain ⟨m, hm, -⟩ | ⟨-, -, hos, hpend⟩ := submit_remaining_spec hp (Nat.zero_le _) h
    · cases hm
    · exact ⟨hos, hpend⟩

/-- A batch taken whole leaves nothing pending. -/
theorem submit_all {changes : List (KeyChange L)} {s s' : Uinput L}
    (h : s.submit_with changes = (.ok changes.length, s')) : s'.pending = none := by
  obtain ⟨-, hp | ⟨c, hc, -⟩, -⟩ := submit_ok h
  · exact hp
  · simp at hc

/-! ## Cancelling -/

theorem cleanup_length (keycodes : Keycodes L) (pending : PendingWrite L) :
    (Uinput.cleanup keycodes pending).length ≤ 2 := by
  unfold Uinput.cleanup
  split
  · split <;> simp
  · simp

theorem discard_ok {s s' : Uinput L} (h : s.discard_pending_with = (.ok (), s')) : s'.pending = none := by
  unfold Uinput.discard_pending_with at h
  split at h
  · rename_i hp; cases h; exact hp
  · dsimp only at h
    split at h
    · cases h
    · cases h
    · split at h
      · cases h
      · split at h
        · cases h; rfl
        · split at h <;> cases h

/-- A release that succeeds leaves nothing pending. -/
theorem release_all_settles {s s' : KeyboardSink (Uinput L) L} {now : Nat} (h : s.release_all now = (.ok (), s')) :
    s'.sink.pending = none := by
  unfold KeyboardSink.release_all at h
  split at h
  · cases h
  · rename_i sink hd
    have hnone : sink.pending = none := discard_ok hd
    unfold KeyboardSink.release_all_with at h
    dsimp only at h
    split at h
    · cases h; exact hnone
    · split at h
      · cases h
      · rename_i accepted sink' hs
        split at h
        · cases h
        · split at h
          · cases h
          · rename_i hall
            cases h
            rw [not_not.1 hall] at hs
            simpa only [KeyboardSink.clear_state, (foldl_note_released _ _ _).2.2.2] using submit_all hs

/-! ## A device that answers again -/

/-- Every later write is taken whole. -/
def Device.Accepting (d : Device) : Prop :=
  ∀ n events, d.writes ≤ n → d.answers n events = .ok (events.length * INPUT_EVENT_SIZE)

theorem write_accepting {d : Device} (hd : d.Accepting) (events : List InputEvent) :
    ∃ d', write_events events d = (.ok events.length, d') ∧ d'.delivered = d.delivered ++ events ∧ d'.Accepting := by
  unfold write_events
  split
  · rename_i he; exact ⟨d, by simp [he], by simp [he], hd⟩
  · dsimp only
    rw [hd _ _ le_rfl]
    refine ⟨{ d with writes := d.writes + 1, delivered := d.delivered ++ events }, ?_, rfl,
      fun n es hn => hd n es (Nat.le_of_succ_le hn)⟩
    simp [INPUT_EVENT_SIZE]

theorem discard_accepting {s : Uinput L} (hd : s.device.Accepting) :
    ∃ s', s.discard_pending_with = (.ok (), s') ∧ s'.pending = none ∧ s'.device.Accepting := by
  unfold Uinput.discard_pending_with
  split
  · rename_i hp; exact ⟨s, rfl, hp, hd⟩
  · rename_i pending hp
    obtain ⟨d', hw, -, hd'⟩ := write_accepting hd (Uinput.cleanup s.keycodes pending)
    dsimp only
    rw [hw]
    have hpos : (Uinput.cleanup s.keycodes pending).length ≠ 0 := by
      unfold Uinput.cleanup
      split
      · split <;> simp
      · simp
    obtain ⟨n, hn⟩ := Nat.exists_eq_succ_of_ne_zero hpos
    refine ⟨{ s with device := d', pending := none }, ?_, rfl, hd'⟩
    simp [hn]

theorem submit_remaining_accepting {s : Uinput L} (hp : s.pending = none) (hd : s.device.Accepting)
    (changes : List (KeyChange L)) {accepted : Nat} (ha : accepted ≤ changes.length) :
    ∃ s', s.submit_remaining changes accepted = (.ok changes.length, s') ∧ s'.keycodes = s.keycodes ∧ s'.pending = none ∧
      s'.device.Accepting ∧
      s'.device.delivered = s.device.delivered ++ Uinput.encode_changes s.keycodes (changes.drop accepted) := by
  unfold Uinput.submit_remaining
  dsimp only
  split
  · rename_i hnil
    have : accepted = changes.length := by rw [List.drop_eq_nil_iff] at hnil; omega
    exact ⟨s, by rw [this], rfl, hp, hd, by simp [hnil, Uinput.encode_changes]⟩
  · rename_i hne
    rw [List.drop_eq_nil_iff] at hne
    obtain ⟨d', hw, hdel, hd'⟩ := write_accepting hd (Uinput.encode_changes s.keycodes (changes.drop accepted))
    refine ⟨{ s with device := d' }, ?_, rfl, hp, hd', hdel⟩
    rw [hw]
    simp only [encode_length, List.length_drop]
    obtain ⟨n, hn⟩ : ∃ n, 2 * (changes.length - accepted) = n + 1 := ⟨2 * (changes.length - accepted) - 1, by omega⟩
    have heven : (n + 1) % 2 = 0 := by omega
    have hall : accepted + (n + 1) / 2 = changes.length := by omega
    simp [hn, heven, hall]

/-- A submission that starts with what is pending is taken whole; the pending change's own event
is not written again. -/
theorem submit_accepting {s : Uinput L} (hd : s.device.Accepting) (changes : List (KeyChange L))
    (hp : s.pending = none ∨ ∃ c, s.pending = some (.Change c) ∧ changes.head? = some c) :
    ∃ s', s.submit_with changes = (.ok changes.length, s') ∧ s'.keycodes = s.keycodes ∧ s'.pending = none ∧
      s'.device.Accepting ∧ s'.device.delivered =
        s.device.delivered ++ (Uinput.encode_changes s.keycodes changes).drop (owed s.pending).length := by
  rcases hp with hp | ⟨c, hp, hhead⟩
  · obtain ⟨s', h1, h2, h3, h4, h5⟩ := submit_remaining_accepting hp hd changes (Nat.zero_le _)
    refine ⟨s', ?_, h2, h3, h4, by rw [h5, hp]; rfl⟩
    simp only [Uinput.submit_with, hp]
    exact h1
  · obtain ⟨rest, rfl⟩ : ∃ rest, changes = c :: rest := by
      cases changes with
      | nil => cases hhead
      | cons x rest => cases hhead; exact ⟨rest, rfl⟩
    obtain ⟨d', hw, hdel, hd'⟩ := write_accepting hd [sync_event]
    have hone : 1 ≤ (c :: rest).length := by simp
    obtain ⟨s', h1, h2, h3, h4, h5⟩ := submit_remaining_accepting (s := ⟨d', s.keycodes, none⟩) rfl hd' _ hone
    refine ⟨s', ?_, h2, h3, h4, ?_⟩
    · simp only [Uinput.submit_with, hp, hw, List.head?_cons]
      simpa using h1
    · rw [h5, hdel, hp]
      simp [owed, Uinput.encode_changes]

/-- A submission that starts with anything else is refused. -/
theorem submit_mismatch {s : Uinput L} {c : KeyChange L} {changes : List (KeyChange L)}
    (hp : s.pending = some (.Change c)) (hhead : changes.head? ≠ some c) :
    ∃ e, s.submit_with changes = (.error e, s) := by
  simp only [Uinput.submit_with, hp]
  exact ⟨_, if_pos hhead⟩

end Trackpad.Keyboard.Linux
