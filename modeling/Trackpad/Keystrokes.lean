import Trackpad.Discipline
import Trackpad.Keyboard.Shown
/-!
# The keyboard under the host

The results about a lane-key sink are about the calls that a host may make. The v5 controller over a Linux keyboard makes
only those, so they hold of it in any run, whatever arrives and whatever the device answers: no key is down while the host
waits for a phone, and between two turns of a connection the keys that are down are those of the last frame applied.
-/

namespace Trackpad

open Keyboard (KeyboardSink Run Duty Call)
open Keyboard.Linux
open V5Host (Serve Iteration)
open Discipline (AtRest)

variable {L : Nat} {lane_for : Int → Fin L}

/-- `Sink::Keys` of a host that reads `now` at a call. Beside the keyboard stands what was read last, and whether the
clock has never gone back. -/
structure Clocked (lane_for : Int → Fin L) where
  keys : KeyboardSink (Uinput L) L
  now : Nat
  steady : Bool

def Clocked.opened (lane_for : Int → Fin L) (repress_gap : Option Nat) (keycodes : Keycodes L)
    (answers : Nat → List InputEvent → Except IoError Nat) : Clocked lane_for :=
  ⟨.new (.new keycodes answers) repress_gap, 0, true⟩

def Clocked.called (now : Nat) (s : Clocked lane_for) (r : Except IoError Unit × KeyboardSink (Uinput L) L) :
    Except IoError Unit × Clocked lane_for :=
  (r.1, ⟨r.2, now, s.steady && decide (s.now ≤ now)⟩)

instance : InputSink (Clocked lane_for) where
  accept frame now s := s.called now (s.keys.accept_at lane_for frame now)
  has_active_input s := s.keys.has_active_input
  cancel_all now s := s.called now (s.keys.release_all now)
  service now s := s.called now (s.keys.service_at now)

theorem opened_idle (lane_for : Int → Fin L) (repress_gap : Option Nat) (keycodes : Keycodes L)
    (answers : Nat → List InputEvent → Except IoError Nat) :
    (Clocked.opened lane_for repress_gap keycodes answers).keys.has_active_input = false := by
  cases repress_gap <;>
    simp [Clocked.opened, KeyboardSink.has_active_input, KeyboardSink.new, Keyboard.KeySink.has_pending_submission,
      Uinput.new, Keyboard.RepressSpacer.new]

/-- A call whose result is known. -/
theorem called_eq {now : Nat} {s s' : Clocked lane_for} {r : Except IoError Unit × KeyboardSink (Uinput L) L}
    {result : Except IoError Unit} (h : s.called now r = (result, s')) :
    r = (result, s'.keys) ∧ s'.now = now ∧ (s'.steady = true → s.steady = true ∧ s.now ≤ now) := by
  cases h
  refine ⟨rfl, rfl, fun hsteady => ?_⟩
  simpa [Clocked.called] using hsteady

/-! ## The calls of a run -/

/-- What the host owes the sink at a stage. -/
def Stage.duty : Stage → Duty
  | .free _ => .free
  | .retry frame _ => if KeyboardSink.is_release frame then .release else .retry frame
  | .release => .release

/-- The keyboard is where a run of calls that the host may make leads. -/
structure Lawful (repress_gap : Option Nat) (sink : Uinput L) (stage : Stage) (s : Clocked lane_for) : Prop where
  run : s.steady = true → Run lane_for repress_gap sink s.keys stage.duty s.now
  active : stage = .release → s.keys.has_active_input = true

/-- One more call of the run. -/
theorem run_called {repress_gap : Option Nat} {sink : Uinput L} {s s' : Clocked lane_for} {d d' : Duty} {c : Call}
    {result : Except IoError Unit} (h : s.steady = true → Run lane_for repress_gap sink s.keys d s.now) (hc : d.allows c)
    (hd : d.after c result = d') (hs : s.called c.now (c.exec lane_for s.keys) = (result, s')) :
    s'.steady = true → Run lane_for repress_gap sink s'.keys d' s'.now := by
  intro hsteady
  obtain ⟨hresult, hnow, hbefore⟩ := called_eq hs
  obtain ⟨hwas, hle⟩ := hbefore hsteady
  have hrun := Run.call c (h hwas) hc hle
  rw [hresult, hd] at hrun
  rw [hnow]
  exact hrun

/-- The host may offer the frame, whether it is new or was refused. -/
theorem offer_allowed {frame : TouchFrame} {taken : List TouchFrame} {stage : Stage}
    (h : stage = .free taken ∨ stage = .retry frame taken) (now : Nat) : stage.duty.allows (.accept frame now) := by
  rcases h with rfl | rfl
  · trivial
  · rw [Stage.duty]
    by_cases hrelease : KeyboardSink.is_release frame = true
    · rw [if_pos hrelease]
      exact hrelease
    · rw [if_neg hrelease]
      exact Or.inr (.inl ⟨now, rfl⟩)

theorem cancel_allowed (stage : Stage) (now : Nat) : stage.duty.allows (.release_all now) := by
  cases stage with
  | free taken => trivial
  | release => exact rfl
  | retry frame taken =>
    rw [Stage.duty]
    split_ifs
    · exact rfl
    · exact Or.inl rfl

theorem lawful_offered {repress_gap : Option Nat} {sink : Uinput L} {taken : List TouchFrame} {frame : TouchFrame}
    {s : Clocked lane_for} (h : Lawful repress_gap sink (.free taken) s ∨ Lawful repress_gap sink (.retry frame taken) s) :
    ∃ stage : Stage, (stage = .free taken ∨ stage = .retry frame taken) ∧ Lawful repress_gap sink stage s := by
  rcases h with h | h
  · exact ⟨_, .inl rfl, h⟩
  · exact ⟨_, .inr rfl, h⟩

theorem lawful (repress_gap : Option Nat) (sink : Uinput L) :
    Discipline (@Lawful L lane_for repress_gap sink) where
  accepted := by
    intro taken frame now s s' h hs
    obtain ⟨stage, hstage, hlawful⟩ := lawful_offered h
    exact ⟨run_called (c := .accept frame now) hlawful.run (offer_allowed hstage now) rfl hs, fun he => (by cases he)⟩
  refused := by
    intro taken frame now s s' e h hs
    obtain ⟨stage, hstage, hlawful⟩ := lawful_offered h
    exact ⟨run_called (c := .accept frame now) hlawful.run (offer_allowed hstage now) rfl hs, fun he => (by cases he)⟩
  serviced := by
    intro taken now s h
    exact ⟨run_called (c := .service now) h.run trivial rfl rfl, fun he => (by cases he)⟩
  released := by
    intro stage now s s' h hs
    exact ⟨run_called (c := .release_all now) h.run (cancel_allowed stage now) rfl hs, fun he => (by cases he)⟩
  unreleased := by
    intro stage now s s' e h hs
    exact ⟨run_called (c := .release_all now) h.run (cancel_allowed stage now) rfl hs,
      fun _ => release_all_active (called_eq hs).1⟩
  active := fun h => h.active rfl

/-! ## No key without a frame -/

/-- The OS is never ahead of what is pressed or pending, and nothing is active once everything was let go. -/
structure Covered (stage : Stage) (s : Clocked lane_for) : Prop where
  covers : Covers s.keys.sink s.keys.pressed
  idle : stage = .free [] → s.keys.has_active_input = false
  active : stage = .release → s.keys.has_active_input = true

/-- Every call keeps the OS covered. -/
theorem covers_called {c : Call} {s s' : Clocked lane_for} {result : Except IoError Unit}
    (h : Covers s.keys.sink s.keys.pressed) (hs : s.called c.now (c.exec lane_for s.keys) = (result, s')) :
    Covers s'.keys.sink s'.keys.pressed := by
  have hcovers := covers_follows.exec lane_for c h
  rw [(called_eq hs).1] at hcovers
  exact hcovers

theorem covered : Discipline (@Covered L lane_for) where
  accepted := by
    intro taken frame now s s' h hs
    have hcovers := covers_called (c := .accept frame now) (h.elim Covered.covers Covered.covers) hs
    exact ⟨hcovers, fun he => (by cases he), fun he => (by cases he)⟩
  refused := by
    intro taken frame now s s' e h hs
    have hcovers := covers_called (c := .accept frame now) (h.elim Covered.covers Covered.covers) hs
    exact ⟨hcovers, fun he => (by cases he), fun he => (by cases he)⟩
  serviced := by
    intro taken now s h
    refine ⟨covers_follows.service now h.covers, fun he => ?_, fun he => (by cases he)⟩
    -- Nothing waits either, so that there is nothing to service.
    have hidle := h.idle he
    have hserviced := Keyboard.service_idle hidle now
    have hkeys : (InputSink.service now s).2.keys = s.keys := congrArg Prod.snd hserviced
    rw [hkeys]
    exact hidle
  released := by
    intro stage now s s' h hs
    have hcovers := covers_called (c := .release_all now) h.covers hs
    exact ⟨hcovers, fun _ => release_idle (called_eq hs).1, fun he => (by cases he)⟩
  unreleased := by
    intro stage now s s' e h hs
    have hcovers := covers_called (c := .release_all now) h.covers hs
    exact ⟨hcovers, fun he => (by cases he), fun _ => release_all_active (called_eq hs).1⟩
  active := fun h => h.active rfl

theorem Covered.up {s : Clocked lane_for} (h : Covered (.free []) s) (l : Fin L) : s.keys.sink.os l = false := by
  by_contra hdown
  rw [Bool.not_eq_false] at hdown
  have hidle := h.idle rfl
  rcases covers_down h.covers hdown with hpressed | ⟨touch, hpending⟩
  · rw [pressed_active hpressed] at hidle
    cases hidle
  · simp [KeyboardSink.has_active_input, Keyboard.KeySink.has_pending_submission, hpending] at hidle

/-! ## The keys of the last frame -/

/-- Without re-press spacing, the keyboard shows the frames it took. -/
def Showing : Stage → Clocked lane_for → Prop
  | .free taken, s => Rests lane_for taken s.keys
  | .retry frame _, s => Refused lane_for frame s.keys
  | .release, s => Owing s.keys

theorem Showing.covered {stage : Stage} {s : Clocked lane_for} (h : Showing stage s) :
    s.keys.spacer = none ∧ Covers s.keys.sink s.keys.pressed := by
  cases stage with
  | free taken => exact ⟨Rests.toSettled h |>.direct, (Rests.at_os lane_for h).covers⟩
  | retry frame taken => exact ⟨h.1, h.2.1⟩
  | release => exact ⟨Owing.direct h, Owing.covers h⟩

theorem showing : Discipline (@Showing L lane_for) where
  accepted h hs := accept_rests lane_for h (called_eq hs).1
  refused h hs := accept_refused lane_for h (called_eq hs).1
  serviced := by
    intro taken now s h
    have hdirect : s.keys.spacer = none := (Showing.covered (h : Showing (.free taken) s)).1
    have hkeys : (InputSink.service now s).2.keys = s.keys := congrArg Prod.snd (Keyboard.service_direct hdirect now)
    change Rests lane_for taken (InputSink.service now s).2.keys
    rw [hkeys]
    exact h
  released h hs := release_rests lane_for h.covered.1 h.covered.2 (called_eq hs).1
  unreleased h hs := release_owing h.covered.1 h.covered.2 (called_eq hs).1
  active h := Owing.active h

/-! ## Main theorem -/

/-- The loop's first state on a connection. -/
def Metered.Link.opened (link : Metered.Link) (c : Metered.Controller (Clocked lane_for)) : Serve (Clocked lane_for) :=
  Serve.greeted link.boundary { link.accept c with ordered := .require_fresh_session }

theorem opened_atRest {Q : Stage → Clocked lane_for → Prop} (link : Metered.Link)
    {c : Metered.Controller (Clocked lane_for)} (h : Q (.free []) c.sink) : AtRest Q (link.opened c).toInput :=
  (V5Host.send_control_unmoved HOST_HELLO 0 none link.boundary.hello
    (Serve.begun link.boundary { link.accept c with ordered := .require_fresh_session })).atRest h

/-- What a connection keeps of a discipline: its sink starts free and has taken, between two turns, what was applied. -/
theorem connection_atRest {Q : Stage → Clocked lane_for → Prop} (H : Discipline Q)
    (raw_os_error : IoError → Option Nat) (aead : Aead) (passes : List Metered.Pass) (p : Metered.Pass)
    {c₀ c c' : Metered.Controller (Clocked lane_for)} (h : Q (.free []) c₀.sink)
    (hafter : Metered.after raw_os_error aead passes c₀ = some c) (hgone : Metered.let_go raw_os_error p c = some c') :
    Q (.free []) c'.sink ∧ ∀ link its s, V5Host.after aead its (Metered.Link.opened link c') = some s →
      AtRest Q s.toInput := by
  have hbetween := Metered.after_between raw_os_error H aead passes (.inl h) hafter
  have hfree := Metered.let_go_free raw_os_error H p hbetween hgone
  exact ⟨hfree, fun link its s hs => V5Host.after_atRest H aead its (opened_atRest link hfree) hs⟩

/-- The v5 controller over a Linux keyboard, whatever it meets: while it waits for a phone no key is down at the OS; there
and between any two turns of a connection the keyboard has met a run of calls that a host may make (if the clock never went
back), so that what holds of such runs holds of it; and without re-press spacing the keys down at the OS between two turns
are exactly those of the last snapshot applied, and nothing is pending. -/
theorem host_keys_exact (raw_os_error : IoError → Option Nat) (aead : Aead) (repress_gap : Option Nat)
    (keycodes : Keycodes L) (answers : Nat → List InputEvent → Except IoError Nat) (readings : Nat → Nat)
    (passes : List Metered.Pass) (p : Metered.Pass) {c c' : Metered.Controller (Clocked lane_for)}
    (hafter : Metered.after raw_os_error aead passes
      (.new (.opened lane_for repress_gap keycodes answers) readings) = some c)
    (hgone : Metered.let_go raw_os_error p c = some c') :
    (∀ l, c'.sink.keys.sink.os l = false) ∧
    (c'.sink.steady = true → Run lane_for repress_gap (.new keycodes answers) c'.sink.keys .free c'.sink.now) ∧
    ∀ link its s, V5Host.after aead its (Metered.Link.opened link c') = some s →
      (s.sink.steady = true → Run lane_for repress_gap (.new keycodes answers) s.sink.keys .free s.sink.now) ∧
      (repress_gap = none →
        s.sink.keys.sink.os = shown lane_for (applied s.trace) ∧ s.sink.keys.sink.pending = none) := by
  have hcovered : Covered (.free []) (Clocked.opened lane_for repress_gap keycodes answers) :=
    ⟨covers_new keycodes answers, fun _ => opened_idle lane_for repress_gap keycodes answers, fun he => (by cases he)⟩
  have hlawful : Lawful repress_gap (.new keycodes answers) (.free [])
      (Clocked.opened lane_for repress_gap keycodes answers) := ⟨fun _ => .new, fun he => (by cases he)⟩
  obtain ⟨hup, -⟩ := connection_atRest covered raw_os_error aead passes p hcovered hafter hgone
  obtain ⟨hfree, hruns⟩ := connection_atRest (lawful repress_gap _) raw_os_error aead passes p hlawful hafter hgone
  refine ⟨hup.up, hfree.run, fun link its s hs => ⟨(hruns link its s hs).run, ?_⟩⟩
  -- Only without a spacer is what the keyboard took also what it shows.
  rintro rfl
  have hrests : Showing (.free []) (Clocked.opened lane_for none keycodes answers) := rests_new lane_for keycodes answers
  obtain ⟨-, hshows⟩ := connection_atRest showing raw_os_error aead passes p hrests hafter hgone
  have hshown : Rests lane_for (applied s.trace) s.sink.keys := hshows link its s hs
  exact ⟨hshown.exact.trans hshown.shows, hshown.written⟩

/-- A device that cuts its first write behind the key, takes the sync, and refuses the next two writes. -/
def faltering (n : Nat) (events : List InputEvent) : Except IoError Nat :=
  if n = 0 then .ok INPUT_EVENT_SIZE
  else if n = 2 ∨ n = 3 then .error ⟨.Other, "Input/output error"⟩
  else .ok (events.length * INPUT_EVENT_SIZE)

/-- A turn with two attempts at the frame. -/
def arrivingTwice (now : Nat) (bytes : Bytes) : Iteration :=
  { V5Host.arriving now bytes with submissions := [⟨now, [⟨now, false, now⟩, ⟨now, false, now⟩]⟩] }

/-- A connection at `t` over which a finger goes down, until the interface changes. -/
def fingerLink (t : Nat) : Metered.Link where
  lane_count := 2
  send_key := []
  receive_key := []
  connection_id := 0
  cached_handshake := none
  boundary := { V5Host.atZero with
    control_now := t
    committed_now := t
    deadline_now := t
    hello_sent := t
    cancel := ⟨t + 2000000, [⟨t + 2000000, false, t + 10000000⟩]⟩ }
  iterations := [V5Host.arriving t (V5Host.datagram V5Host.start_record),
    arrivingTwice (t + 1000000) (V5Host.datagram (V5Host.down_record 1 1)),
    { V5Host.quietTurn (t + 2000000) with interface_changed := true }]
  shutdown := false
  release := ⟨t + 10000000, [⟨t + 10000000, false, t + 18000000⟩]⟩

def fingerPass (t : Nat) : Metered.Pass := ⟨false, ⟨t, [⟨t, false, t⟩]⟩, .connected (fingerLink t)⟩

def twoLanes : Metered.Controller (Clocked Keyboard.halves) :=
  .new (.opened Keyboard.halves none twoKeys faltering) fun _ => 0

/-- The first connection leaves its key down, since both releases fail. The next pass lets it go, and on its connection
the key is down again. -/
theorem host_keys_exact_pressed : ∃ c c' s,
    Metered.after (fun _ => none) V5Host.plain [fingerPass 0] twoLanes = some c ∧ c.sink.keys.sink.os 0 = true ∧
    Metered.let_go (fun _ => none) (fingerPass 20000000) c = some c' ∧ (∀ l, c'.sink.keys.sink.os l = false) ∧
    V5Host.after V5Host.plain ((fingerLink 20000000).iterations.take 2) ((fingerLink 20000000).opened c') = some s ∧
    s.sink.keys.sink.os 0 = true ∧ Run Keyboard.halves none (.new twoKeys faltering) s.sink.keys .free s.sink.now ∧
    s.sink.keys.sink.os = shown Keyboard.halves (applied s.trace) := by
  have hruns : ((Metered.after (fun _ => none) V5Host.plain [fingerPass 0] twoLanes).any fun c =>
      c.sink.keys.sink.os 0 && (Metered.let_go (fun _ => none) (fingerPass 20000000) c).any fun c' =>
        (V5Host.after V5Host.plain ((fingerLink 20000000).iterations.take 2) ((fingerLink 20000000).opened c')).any fun s =>
          s.sink.keys.sink.os 0 && s.sink.steady) = true := by decide +kernel
  obtain ⟨c, hafter, hruns⟩ := (Option.any_eq_true _ _).1 hruns
  obtain ⟨hdown, hruns⟩ := Bool.and_eq_true_iff.1 hruns
  obtain ⟨c', hgone, hruns⟩ := (Option.any_eq_true _ _).1 hruns
  obtain ⟨s, hs, hstate⟩ := (Option.any_eq_true _ _).1 hruns
  obtain ⟨hagain, hsteady⟩ := Bool.and_eq_true_iff.1 hstate
  obtain ⟨hup, -, hconnections⟩ := @host_keys_exact 2 Keyboard.halves (fun _ => none) V5Host.plain none twoKeys faltering
    (fun _ => 0) [fingerPass 0] (fingerPass 20000000) _ _ hafter hgone
  obtain ⟨hrun, hshown⟩ := hconnections (fingerLink 20000000) _ s hs
  exact ⟨c, c', s, hafter, hdown, hgone, hup, hs, hagain, hrun hsteady, (hshown rfl).1⟩

end Trackpad
