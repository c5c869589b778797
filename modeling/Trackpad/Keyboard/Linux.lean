import Trackpad.Keyboard.Submissions
/-!
# The uinput lane-key sink

`KeySink` of the Linux build: every change is an `EV_KEY` and a `SYN_REPORT`, and a write may
stop between the two. The device is the script of its answers, one for each `write` in turn,
with the events it has delivered so far.
-/

namespace Trackpad.Keyboard.Linux

def EV_SYN : Nat := 0
def EV_KEY : Nat := 1
def SYN_REPORT : Nat := 0

structure InputEvent where
  type_ : Nat
  code : Nat
  value : Nat
deriving DecidableEq, Repr

/-- `size_of::<InputEvent>()`. -/
def INPUT_EVENT_SIZE : Nat := 24

def key_event (code : Nat) (down : Bool) : InputEvent := ⟨EV_KEY, code, if down then 1 else 0⟩
def sync_event : InputEvent := ⟨EV_SYN, SYN_REPORT, 0⟩

/-! ## Lane keys -/

/-- The documented evdev codes; they are not contiguous with the keyboard's rows. -/
def KEYCODES : List (Char × Nat) :=
  [('1', 2), ('2', 3), ('3', 4), ('4', 5), ('5', 6), ('6', 7), ('7', 8), ('8', 9), ('9', 10), ('0', 11),
   ('Q', 16), ('W', 17), ('E', 18), ('R', 19), ('T', 20), ('Y', 21), ('U', 22), ('I', 23), ('O', 24), ('P', 25),
   ('A', 30), ('S', 31), ('D', 32), ('F', 33), ('G', 34), ('H', 35), ('J', 36), ('K', 37), ('L', 38),
   ('Z', 44), ('X', 45), ('C', 46), ('V', 47), ('B', 48), ('N', 49), ('M', 50)]

def linux_keycode (key : String) : Except IoError Nat :=
  match key.toList with
  | [] => .error ⟨.InvalidInput, "empty key"⟩
  | [character] =>
    if !character.isAlphanum then
      .error ⟨.InvalidInput, "lane key " ++ key.quote ++ " must be one ASCII letter or digit"⟩
    else
      match KEYCODES.lookup character.toUpper with
      | some code => .ok code
      | none => .error ⟨.InvalidInput, "lane key " ++ character.toUpper.quote ++ " has no known Linux keycode"⟩
  | _ => .error ⟨.InvalidInput, "lane key " ++ key.quote ++ " must be one ASCII letter or digit"⟩

/-- The key as `validate_lane_keys` compares it. -/
def normalized (key : String) : List Char := key.toList.map Char.toUpper

def validate_lane_keys : List (List Char) → List String → Except IoError Unit
  | _, [] => .ok ()
  | seen, key :: keys =>
    if normalized key ∈ seen then
      .error ⟨.InvalidInput, "lane key " ++ key.quote ++ " is duplicated; every lane key must be unique"⟩
    else validate_lane_keys (normalized key :: seen) keys

/-- The checks of `KeyboardSink::new` and the keycodes `KeySink::new` keeps. -/
def lane_keycodes (keys : List String) : Except IoError (List Nat) :=
  if keys.isEmpty then .error ⟨.InvalidInput, "at least one lane key is required"⟩
  else do
    validate_lane_keys [] keys
    keys.mapM linux_keycode

/-- The letter a keycode stands for. -/
def letter (code : Nat) : List Char := ((KEYCODES.find? (·.2 = code)).map (·.1)).toList

theorem letter_keycode : ∀ p ∈ KEYCODES, letter p.2 = [p.1] := by decide

theorem linux_keycode_letter {key : String} {code : Nat} (h : linux_keycode key = .ok code) :
    letter code = normalized key := by
  unfold linux_keycode at h
  split at h
  · cases h
  · rename_i c hc
    split at h
    · cases h
    · split at h
      · rename_i hl
        cases h
        obtain ⟨l₁, l₂, e, -⟩ := List.lookup_eq_some_iff.1 hl
        rw [letter_keycode (c.toUpper, code) (by rw [e]; simp), normalized, hc]; rfl
      · cases h
  · cases h

theorem mapM_keycodes_letters {keys : List String} {codes : List Nat} (h : keys.mapM linux_keycode = .ok codes) :
    codes.map letter = keys.map normalized := by
  induction keys generalizing codes with
  | nil => simp only [List.mapM_nil] at h; cases h; rfl
  | cons key keys ih =>
    rw [List.mapM_cons] at h
    cases hk : linux_keycode key with
    | error e => rw [hk] at h; cases h
    | ok code =>
      cases hks : keys.mapM linux_keycode with
      | error e => rw [hk, hks] at h; cases h
      | ok rest =>
        rw [hk, hks] at h; cases h
        simp [linux_keycode_letter hk, ih hks]

theorem validate_lane_keys_nodup {seen : List (List Char)} {keys : List String}
    (h : validate_lane_keys seen keys = .ok ()) :
    (keys.map normalized).Nodup ∧ ∀ key ∈ keys, normalized key ∉ seen := by
  induction keys generalizing seen with
  | nil => simp
  | cons key keys ih =>
    unfold validate_lane_keys at h
    split at h
    · cases h
    · rename_i hseen
      obtain ⟨h1, h2⟩ := ih h
      refine ⟨List.nodup_cons.2 ⟨?_, h1⟩, ?_⟩
      · intro hm
        obtain ⟨k, hk, e⟩ := List.mem_map.1 hm
        exact h2 k hk (by simp [e])
      · simp only [List.mem_cons, forall_eq_or_imp]
        exact ⟨hseen, fun k hk hm => h2 k hk (List.mem_cons_of_mem _ hm)⟩

/-- Different lanes have different keycodes. -/
theorem lane_keycodes_nodup {keys : List String} {codes : List Nat} (h : lane_keycodes keys = .ok codes) :
    codes.Nodup := by
  unfold lane_keycodes at h
  split at h
  · cases h
  · cases hv : validate_lane_keys [] keys with
    | error e => rw [hv] at h; cases h
    | ok u =>
      rw [hv] at h
      have hn := (validate_lane_keys_nodup hv).1
      rw [← mapM_keycodes_letters h] at hn
      exact hn.of_map

/-- The keycodes of a keyboard's lanes. -/
structure Keycodes (L : Nat) where
  code : Fin L → Nat
  injective : Function.Injective code

/-- The keycodes `KeySink::new` keeps, one for each lane key. -/
def Keycodes.of_keys (keys : List String) : Except IoError (Σ L, Keycodes L) :=
  match h : lane_keycodes keys with
  | .error e => .error e
  | .ok codes => .ok ⟨codes.length, codes.get, (lane_keycodes_nodup h).injective_get⟩

/-! ## The device -/

/-- An open uinput device: its answer to each `write` in turn, in bytes, and the events it has
delivered. A write that answers with a byte count delivers that many bytes of whole events; one
that fails delivers none. -/
structure Device where
  answers : Nat → List InputEvent → Except IoError Nat
  writes : Nat
  delivered : List InputEvent

def Device.opened (answers : Nat → List InputEvent → Except IoError Nat) : Device := ⟨answers, 0, []⟩

def invalid_write_length_error (written byte_length : Nat) : IoError :=
  ⟨.InvalidData, "invalid uinput event write length: " ++ toString written ++ "/" ++ toString byte_length ++ " bytes"⟩

def write_events (events : List InputEvent) (d : Device) : Except IoError Nat × Device :=
  if events = [] then (.ok 0, d)
  else
    let byte_length := events.length * INPUT_EVENT_SIZE
    match d.answers d.writes events with
    | .error e => (.error e, { d with writes := d.writes + 1 })
    | .ok written =>
      if written > byte_length ∨ written % INPUT_EVENT_SIZE ≠ 0 then
        (.error (invalid_write_length_error written byte_length), { d with writes := d.writes + 1 })
      else
        (.ok (written / INPUT_EVENT_SIZE),
          { d with writes := d.writes + 1
                   delivered := d.delivered ++ events.take (written / INPUT_EVENT_SIZE) })

/-! ## The sink -/

inductive PendingWrite (L : Nat)
  /-- The `EV_KEY` was accepted, but its `SYN_REPORT` was not. -/
  | Change (change : KeyChange L)
  /-- Cancellation accepted the compensating key event but still owes the final `SYN_REPORT`. -/
  | CleanupSync
deriving DecidableEq

structure Uinput (L : Nat) where
  device : Device
  keycodes : Keycodes L
  pending : Option (PendingWrite L)

namespace Uinput

variable {L : Nat}

def new (keycodes : Keycodes L) (answers : Nat → List InputEvent → Except IoError Nat) : Uinput L :=
  ⟨Device.opened answers, keycodes, none⟩

def encode_changes (keycodes : Keycodes L) (changes : List (KeyChange L)) : List InputEvent :=
  changes.flatMap fun change => [key_event (keycodes.code change.lane) change.down, sync_event]

def write_zero_error : IoError := ⟨.WriteZero, "uinput accepted no events"⟩

def invalid_event_count (accepted requested : Nat) : IoError :=
  ⟨.InvalidData, "uinput reported " ++ toString accepted ++ " of " ++ toString requested ++ " events"⟩

/-- The second half of `submit_with`: encodes and writes what is left of `changes` behind the
`accepted` that finishing the pending write covered. -/
def submit_remaining (changes : List (KeyChange L)) (accepted : Nat) (s : Uinput L) : Except IoError Nat × Uinput L :=
  let remaining := changes.drop accepted
  if remaining = [] then (.ok accepted, s)
  else
    let events := encode_changes s.keycodes remaining
    let (answer, device) := write_events events s.device
    let s := { s with device := device }
    match answer with
    | .error e => if accepted ≠ 0 then (.ok accepted, s) else (.error e, s)
    | .ok 0 => if accepted = 0 then (.error write_zero_error, s) else (.ok accepted, s)
    | .ok written =>
      if written > events.length then (.error (invalid_event_count written events.length), s)
      else
        let complete := written / 2
        let pending := if written % 2 ≠ 0 then remaining[complete]?.map .Change else s.pending
        (.ok (accepted + complete), { s with pending := pending })

def submit_with (changes : List (KeyChange L)) (s : Uinput L) : Except IoError Nat × Uinput L :=
  match s.pending with
  | some .CleanupSync => (.error (.other "uinput cancellation sync is still pending"), s)
  | some (.Change pending) =>
    if changes.head? ≠ some pending then
      (.error (.other "uinput retry does not match the unsynchronized transition"), s)
    else
      let (answer, device) := write_events [sync_event] s.device
      let s := { s with device := device }
      match answer with
      | .ok 1 => submit_remaining changes 1 { s with pending := none }
      | .ok 0 => (.error write_zero_error, s)
      | .ok count => (.error (invalid_event_count count 1), s)
      | .error e => (.error e, s)
  | none => submit_remaining changes 0 s

/-- What cancellation writes for the pending write: a compensating release, or the sync it owes. -/
def cleanup (keycodes : Keycodes L) : PendingWrite L → List InputEvent
  | .Change change =>
    if change.down then [key_event (keycodes.code change.lane) false, sync_event] else [sync_event]
  | .CleanupSync => [sync_event]

def discard_pending_with (s : Uinput L) : Except IoError Unit × Uinput L :=
  match s.pending with
  | none => (.ok (), s)
  | some pending =>
    let events := cleanup s.keycodes pending
    let (answer, device) := write_events events s.device
    let s := { s with device := device }
    match answer with
    | .error e => (.error e, s)
    | .ok 0 => (.error write_zero_error, s)
    | .ok count =>
      if count > events.length then (.error (invalid_event_count count events.length), s)
      else if count = events.length then (.ok (), { s with pending := none })
      else if count = 1 ∧ events.length = 2 then
        (.error (.other "uinput cancellation accepted the key event but not its SYN_REPORT"),
          { s with pending := some .CleanupSync })
      else
        (.error (.other ("uinput cancellation accepted " ++ toString count ++ " of " ++
          toString events.length ++ " events")), s)

end Uinput

instance {L : Nat} : KeySink (Uinput L) L where
  submit := Uinput.submit_with
  discard_pending := Uinput.discard_pending_with
  has_pending_submission s := s.pending.isSome

end Trackpad.Keyboard.Linux
