import Trackpad.Keyboard.PlanSpec
import Trackpad.Keyboard.Sink
/-!
# Runs of a lane-key sink

A run is any sequence of calls the host can make: a frame that was not accepted is retried or
cancelled, and a cancellation that failed is repeated until one succeeds. `Run` collects the
states such calls reach, whatever the OS sink answers.
-/

namespace Trackpad.Keyboard

inductive Call
  | accept (frame : TouchFrame) (now : Nat)
  | service (now : Nat)
  | release_all (now : Nat)

def Call.now : Call → Nat
  | .accept _ now => now
  | .service now => now
  | .release_all now => now

/-- What the host owes the sink: nothing, a retry of a frame, or a release. -/
inductive Duty
  | free
  | retry (frame : TouchFrame)
  | release

/-- Whether a call lets go of everything. -/
def Call.releases : Call → Bool
  | .accept frame _ => KeyboardSink.is_release frame
  | .service _ => false
  | .release_all _ => true

/-- `commit_ready` retries the frame it borrowed until it is accepted or the session is cancelled. -/
def Duty.allows : Duty → Call → Prop
  | .free, _ => True
  | .retry frame, c => c.releases = true ∨ (∃ now, c = .accept frame now) ∨ ∃ now, c = .service now
  | .release, c => c.releases = true

def Duty.after (d : Duty) (c : Call) (result : Except IoError Unit) : Duty :=
  match c, result with
  | .service _, _ => d
  | _, .ok () => .free
  | c, .error _ => if c.releases then .release else match c with
    | .accept frame _ => .retry frame
    | _ => d

theorem after_release_ok (d : Duty) {c : Call} (hc : c.releases = true) : d.after c (.ok ()) = .free := by
  cases c <;> first | rfl | simp [Call.releases] at hc

theorem after_release_error (d : Duty) {c : Call} (hc : c.releases = true) (e : IoError) :
    d.after c (.error e) = .release := by
  cases c with
  | accept frame now => simp [Duty.after, hc]
  | service now => simp [Call.releases] at hc
  | release_all now => rfl

theorem after_accept_error (d : Duty) {frame : TouchFrame} (hr : KeyboardSink.is_release frame = false) (now : Nat)
    (e : IoError) : d.after (.accept frame now) (.error e) = .retry frame := by
  simp [Duty.after, Call.releases, hr]

variable {κ : Type} {L : Nat} [KeySink κ L] (lane_for : Int → Fin L)

def Call.exec : Call → KeyboardSink κ L → Except IoError Unit × KeyboardSink κ L
  | .accept frame now => KeyboardSink.accept_at lane_for frame now
  | .service now => KeyboardSink.service_at now
  | .release_all now => KeyboardSink.release_all now

/-- A releasing call is `release_all`, whichever way it was asked for. -/
theorem exec_release {c : Call} (hc : c.releases = true) (s : KeyboardSink κ L) :
    c.exec lane_for s = KeyboardSink.release_all c.now s := by
  cases c with
  | accept frame now =>
    have : KeyboardSink.is_release frame = true := hc
    simp [Call.exec, KeyboardSink.accept_at, this, Call.now]
  | service now => simp [Call.releases] at hc
  | release_all now => rfl

/-- The states of a sink made over `sink` with `repress_gap`, the duty the host is left with, and
the time of the last call. -/
inductive Run (repress_gap : Option Nat) (sink : κ) : KeyboardSink κ L → Duty → Nat → Prop
  | new : Run repress_gap sink (KeyboardSink.new sink repress_gap) .free 0
  | call {s : KeyboardSink κ L} {d : Duty} {t : Nat} (c : Call) :
      Run repress_gap sink s d t → d.allows c → t ≤ c.now →
      Run repress_gap sink (c.exec lane_for s).2 (d.after c (c.exec lane_for s).1) c.now

/-- The states any calls lead to from `start`, whether or not the host would make them. -/
inductive Reachable (start : KeyboardSink κ L) : KeyboardSink κ L → Prop
  | start : Reachable start start
  | call {s : KeyboardSink κ L} (c : Call) : Reachable start s → Reachable start (c.exec lane_for s).2

/-! ## Small pads -/

/-- An OS sink that takes everything it is given. -/
structure TakesAll (L : Nat)

instance : KeySink (TakesAll L) L where
  submit changes sink := (.ok changes.length, sink)
  discard_pending sink := (.ok (), sink)
  has_pending_submission _ := false

/-- An OS sink that gives set answers, and then takes everything. -/
structure Scripted (L : Nat) where
  answers : List (Except IoError Nat)

instance : KeySink (Scripted L) L where
  submit changes k :=
    match k.answers with
    | [] => (.ok changes.length, k)
    | answer :: rest => (answer, ⟨rest⟩)
  discard_pending k := (.ok (), k)
  has_pending_submission _ := false

/-- One finger lands on the right half of a two-lane pad. -/
def tapRight : TouchFrame where
  session_id := 1
  sequence := 1
  phone_event_nanos := 0
  phone_callback_nanos := 0
  phone_send_nanos := 0
  echo_host_send_nanos := 0
  phone_control_receive_nanos := 0
  action := ACTION_DOWN
  action_pointer_id := 0
  flags := FRAME_FLAG_LOCKED
  contacts := ⟨[⟨0, CONTACT_FLAG_TIP, 7500, 5000, 0, 0⟩], by decide, by decide⟩

/-- The same finger, lifted. -/
def liftRight : TouchFrame := { tapRight with sequence := 2, action := ACTION_UP, contacts := .empty }

/-- One finger lands on each half. -/
def chord : TouchFrame :=
  { tapRight with
    contacts := ⟨[⟨0, CONTACT_FLAG_TIP, 7500, 5000, 0, 0⟩, ⟨1, CONTACT_FLAG_TIP, 2500, 5000, 0, 0⟩], by decide, by decide⟩ }

/-- The finger on the right half has left the chord. -/
def chordLeft : TouchFrame :=
  { chord with
    sequence := 2
    action := ACTION_UP
    contacts := ⟨[⟨1, CONTACT_FLAG_TIP, 2500, 5000, 0, 0⟩], by decide, by decide⟩ }

def halves (x : Int) : Fin 2 := if x < 5000 then 0 else 1

def thirds (x : Int) : Fin 3 := if x < 3000 then 0 else if x < 7000 then 1 else 2

end Trackpad.Keyboard
