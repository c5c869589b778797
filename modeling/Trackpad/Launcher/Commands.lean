import Trackpad.Launcher.Output
import Trackpad.Launcher.Options
import Trackpad.Lib.Logs
import Trackpad.RoutePolicy.Policy
/-!
# The commands of the launcher

The window of the launcher calls commands, one at a time, over a state behind a lock. It starts a host, writes to its
standard input, and takes in what the host said and whether it still runs. What the system answers to a command is an
argument of it. No command looks at a host's output again once it took what was new, so that a line which is read
meanwhile counts as read after the command.
-/

namespace Trackpad.Launcher

open Text
open RoutePolicy (RecoveryOutcome)

/-! ## State -/

def HostPhase.as_str : HostPhase → List Char
  | .Ready => "ready".toList
  | .Waiting => "waiting".toList
  | .Connected => "connected".toList
  | .Recovering => "recovering".toList
  | .Stopping => "stopping".toList
  | .Pairing => "pairing".toList
  | .RecoveryNeedsAdmin => "recovery-needs-admin".toList
  | .Fatal => "fatal".toList

def HostPhase.default_message : HostPhase → List Char
  | .Ready => "Ready".toList
  | .Waiting => "Waiting for phone...".toList
  | .Connected => "Phone connected".toList
  | .Recovering => "Connection lost — recovering...".toList
  | .Stopping => "Stopping safely...".toList
  | .Pairing => "Pairing window open...".toList
  | .RecoveryNeedsAdmin => "Administrator access is required to recover USB-tether routes.".toList
  | .Fatal => "The controller stopped unexpectedly.".toList

inductive RuntimeKind
  | Controller
  | Pairing
deriving DecidableEq

/-- An output of the child with the thread that reads it. The thread ends at a line that is no text. -/
structure Pipe where
  lines : List (Option (List Char))
  reading : Bool

/-- The texts that are still to be read, when the child is gone. -/
def Pipe.rest (p : Pipe) : List (List Char) := if p.reading then (p.lines.takeWhile Option.isSome).reduceOption else []

/-- A child with what the launcher keeps of it. `exited` says whether it succeeded. -/
structure HostRuntime where
  kind : RuntimeKind
  local_only_tether : Bool
  lane_keys : List (List Char)
  output : HostOutput
  stdout : Pipe
  stderr : Pipe
  exited : Option Bool

structure HostState where
  runtime : Option HostRuntime
  phase : HostPhase
  stopping : Bool
  message : List Char
  fatal_message : Option (List Char)
  recovery_needs_admin : Bool
  paired : Bool
  pattern : Option (List UInt8)
  can_approve : Bool
  quality : Option (List Char)

def HostState.default : HostState := ⟨none, .Ready, false, [], none, false, false, none, false, none⟩

structure HostStatus where
  running : Bool
  stopping : Bool
  phase : List Char
  message : List Char
  recovery_needs_admin : Bool
  pairing : Bool
  paired : Bool
  pattern : Option (List UInt8)
  can_approve : Bool
  quality : Option (List Char)

/-- What a child was started for. -/
inductive Purpose
  | Control (r : StartRequest)
  | Pair (transport : List Char)
deriving DecidableEq

/-- `Found` is what `is_paired` said, `Reaped` is the end of a child with the keys that the launcher let go of for it. -/
inductive Event
  | Found (paired : Bool)
  | Launched (purpose : Purpose) (arguments : List (List Char))
  | Read (line : List Char)
  | ReadError (line : List Char)
  | Wrote (line : List Char)
  | Reaped (success : Bool) (released : List (List Char))
  | Forgot
deriving DecidableEq

/-- The launcher, and what it did. -/
structure World where
  state : HostState
  log : List Event

/-- An error of the recovery of routes. -/
structure RecoveryError where
  permission_denied : Bool
  text : List Char

/-- What the system answers to a command, one field for each call: the error of a call if it fails. -/
structure Answers where
  try_wait : Option (List Char)
  recovery_after : Except RecoveryError RecoveryOutcome
  recovery : Except RecoveryError RecoveryOutcome
  is_paired : Except (List Char) Bool
  ensure_enabled : Option (List Char)
  find_host : Bool
  bind : Option (List Char)
  spawn : Option (List Char)
  write : Option (List Char)
  forget_phone : Option (List Char)

def status (s : HostState) : HostStatus where
  running := s.runtime.isSome
  stopping := s.stopping
  phase := s.phase.as_str
  message := if s.message.isEmpty then s.phase.default_message else s.message
  recovery_needs_admin := s.recovery_needs_admin
  pairing := s.runtime.any fun runtime => runtime.kind == .Pairing
  paired := s.paired
  pattern := s.pattern
  can_approve := s.can_approve
  quality := s.quality

/-! ## What the child said -/

/-- `str::contains` -/
def contains (needle s : List Char) : Bool := s.tails.any fun tail => needle.isPrefixOf tail

def user_facing_native_error (message : List Char) : List Char :=
  if contains "recognized Android/RNDIS adapter".toList message ||
      contains "not on an unambiguous Android/RNDIS subnet".toList message then
    "The phone was discovered outside USB tethering. Enable USB tethering and try again.".toList
  else message

def apply_phase (phase : Option HostPhase) (s : HostState) : HostState :=
  match phase with
  | some phase => if s.stopping then s else { s with phase := phase, message := [] }
  | none => s

def apply_fatal (fatal_message : Option (List Char)) (s : HostState) : HostState :=
  match fatal_message with
  | some message => { s with phase := .Fatal, fatal_message := some message, message := user_facing_native_error message }
  | none => s

def apply_pattern (pattern : Option (List UInt8)) (s : HostState) : HostState :=
  match pattern with
  | some pattern => { s with
      pattern := some pattern
      message := "Replicate this pattern on the phone's six lanes.".toList }
  | none => s

def apply_can_approve (can_approve : Option Bool) (s : HostState) : HostState :=
  match can_approve with
  | some true => { s with
      can_approve := true
      message := "Phone reports Pattern matched. Confirm that on the real phone, then approve.".toList }
  | some false => { s with can_approve := false }
  | none => s

def apply_quality (quality : Option (List Char)) (s : HostState) : HostState :=
  match quality with
  | some quality => { s with quality := some quality }
  | none => s

def apply_pair_complete (pair_complete : Bool) (s : HostState) : HostState :=
  if pair_complete then
    { s with paired := true, can_approve := false, message := "Pairing complete. Ready to start.".toList }
  else s

/-- The new things are taken: what is left says nothing. -/
def apply_output (output : HostOutput) (s : HostState) : HostState :=
  apply_pair_complete output.pair_complete (apply_quality output.quality (apply_can_approve output.can_approve
    (apply_pattern output.pattern (apply_fatal output.fatal_message (apply_phase output.phase s)))))

def drain_runtime_events (s : HostState) : HostState :=
  match s.runtime with
  | none => s
  | some runtime => apply_output runtime.output { s with runtime := some { runtime with output := .default } }

/-! ## Routes -/

variable (platform : Platform)

/-- The error if there is one, and the state. -/
def apply_route_recovery (outcome : Except RecoveryError RecoveryOutcome) (s : HostState) : Option (List Char) × HostState :=
  match outcome with
  | .ok .NothingToDo | .ok (.Restored _) =>
    let s := { s with recovery_needs_admin := false }
    (none, if s.phase = .RecoveryNeedsAdmin then { s with phase := .Ready, message := [] } else s)
  | .ok (.Deferred _ _) =>
    let s := { s with recovery_needs_admin := false }
    let s := if s.phase = .RecoveryNeedsAdmin then { s with phase := .Ready } else s
    (none, if s.phase = .Ready then { s with
        message := "Ready. USB route cleanup is pending. Reconnect the phone, enable USB tethering, then Pair or Start to retry.".toList }
      else s)
  | .ok .OwnerStillRunning =>
    let message := "A previous controller still owns USB-tether route settings. Close it first.".toList
    (some message, { s with phase := .Fatal, message := message })
  | .error e =>
    if e.permission_denied then
      let message := "Administrator access is required to recover USB-tether routes: ".toList ++ e.text
      (some message, { s with phase := .RecoveryNeedsAdmin, message := message, recovery_needs_admin := true })
    else
      let message := "Could not recover USB-tether routes safely: ".toList ++ e.text
      (some message, { s with phase := .Fatal, message := message })

def ensure_route_recovery (outcome : Except RecoveryError RecoveryOutcome) (s : HostState) : Option (List Char) × HostState :=
  match platform with
  | .Windows => apply_route_recovery outcome s
  | .Linux => (none, { s with recovery_needs_admin := false })

/-! ## The end of a child -/

/-- The joined readers, and what is left of the output after them. -/
def read_rest (runtime : HostRuntime) : HostOutput :=
  runtime.stderr.rest.foldl (fun output line => parse_host_error_line line output)
    (runtime.stdout.rest.foldl (fun output line => parse_host_output_line line output) runtime.output)

/-- The readers' part of the log, the last line first. -/
def rest_events (runtime : HostRuntime) : List Event :=
  (runtime.stdout.rest.map Event.Read ++ runtime.stderr.rest.map Event.ReadError).reverse

/-- What a failed controller may have held. -/
def released_keys (runtime : HostRuntime) (success : Bool) : List (List Char) :=
  match platform with
  | .Windows => if success then [] else runtime.lane_keys
  | .Linux => []

/-- What is said of a child that failed without saying anything. -/
def failure_message (local_only_tether expected_stop : Bool) : List Char :=
  if local_only_tether && expected_stop then
    "The controller did not stop cleanly while local-only tethering was enabled.".toList
  else if expected_stop then "The controller did not stop cleanly. Try starting it again.".toList
  else "The controller stopped unexpectedly. Try starting it again.".toList

def ended (runtime : HostRuntime) (success : Bool) (s : HostState) : HostState :=
  let expected_stop := s.stopping
  let s := if success then
      { s with
        phase := .Ready
        message := if runtime.kind = .Pairing ∧ expected_stop = false then "Pairing complete. Ready to start.".toList else []
        fatal_message := none }
    else
      { s with
        phase := .Fatal
        message := (s.fatal_message.map user_facing_native_error).getD (failure_message runtime.local_only_tether expected_stop) }
  { s with stopping := false }

/-- The error if there is one, and the launcher. -/
def reap_child (answers : Answers) (w : World) : Option (List Char) × World :=
  let w := { w with state := drain_runtime_events w.state }
  match w.state.runtime with
  | none => (none, w)
  | some runtime =>
    match answers.try_wait, runtime.exited with
    | some error, _ => (some ("Could not check controller state: ".toList ++ error), w)
    | none, none => (none, w)
    | none, some success =>
      let s := apply_output (read_rest runtime) { w.state with runtime := none }
      (none, {
        state := (ensure_route_recovery platform answers.recovery_after (ended runtime success s)).2
        log := .Reaped success (released_keys platform runtime success) :: (rest_events runtime ++ w.log) })

/-! ## The commands -/

/-- What a command returns, and the launcher after it. -/
abbrev Reply := Except (List Char) HostStatus × World

def World.fail (w : World) (error : List Char) : Reply := (.error error, w)

def World.done (w : World) : Reply := (.ok (status w.state), w)

/-- A command, once the child was looked after. -/
def after_reap (answers : Answers) (w : World) (command : World → Reply) : Reply :=
  match reap_child platform answers w with
  | (some error, w) => w.fail error
  | (none, w) => command w

/-- The same for the routes. -/
def after_recovery (answers : Answers) (w : World) (command : World → Reply) : Reply :=
  match ensure_route_recovery platform answers.recovery w.state with
  | (some error, s) => { w with state := s }.fail error
  | (none, s) => command { w with state := s }

def spawn_runtime (purpose : Purpose) (arguments : List (List Char)) (kind : RuntimeKind) (local_only_tether : Bool)
    (lane_keys : List (List Char)) (phase : HostPhase) (w : World) : World where
  state := { w.state with
    runtime := some ⟨kind, local_only_tether, lane_keys, .default, ⟨[], true⟩, ⟨[], true⟩, none⟩
    phase := phase
    stopping := false
    message := []
    fatal_message := none
    pattern := none
    can_approve := false
    quality := none }
  log := .Launched purpose arguments :: w.log

def missing_controller : List Char := "The controller is missing. Build native-host or re-extract the portable bundle.".toList

def port_in_use (advice error : List Char) : List Char :=
  "UDP port ".toList ++ Nat.toDigits 10 USB_TETHER_UDP_PORT ++ " is already in use. ".toList ++ advice ++ error

/-- The part of `start_host` that asks whether there is a phone. -/
def require_pairing (answers : Answers) (r : StartRequest) (w : World) (command : World → Reply) : Reply :=
  if !r.legacy_v4 && !w.state.paired then
    match answers.is_paired with
    | .error error => w.fail error
    | .ok paired =>
      let w := { state := { w.state with paired := paired }, log := .Found paired :: w.log }
      if paired then command w else w.fail "Pair this host and phone before starting protocol v5.".toList
  else command w

/-- The rest of `start_host`. -/
def launch_controller (answers : Answers) (r : StartRequest) (w : World) : Reply :=
  match (if platform = .Linux ∧ r.local_only_tether = true then answers.ensure_enabled else none) with
  | some error => w.fail error
  | none =>
    if answers.find_host then
      match answers.bind, answers.spawn with
      | some error, _ => w.fail (port_in_use "Close any other running Holodori host, then try again: ".toList error)
      | none, some error => w.fail ("Could not start the controller: ".toList ++ error)
      | none, none =>
        let w := { w with state := { w.state with recovery_needs_admin := false } }
        (spawn_runtime (.Control r) r.arguments .Controller r.local_only_tether r.lane_keys .Waiting w).done
    else w.fail missing_controller

def start_host (answers : Answers) (r : StartRequest) (w : World) : Reply :=
  after_reap platform answers w fun w =>
    if w.state.runtime.isSome then w.done
    else
      match r.check with
      | .error error => w.fail error
      | .ok _ =>
        require_pairing answers r w fun w =>
          after_recovery platform answers w (launch_controller platform answers r)

def begin_pairing (answers : Answers) (transport : List Char) (w : World) : Reply :=
  after_reap platform answers w fun w =>
    if w.state.runtime.isSome then w.fail "Stop the current controller or pairing window first.".toList
    else
      after_recovery platform answers w fun w =>
        match validate_transport transport with
        | .error error => w.fail error
        | .ok transport =>
          if answers.find_host then
            match answers.bind, answers.spawn with
            | some error, _ => w.fail (port_in_use "Stop another Holodori host, then try again: ".toList error)
            | none, some error => w.fail ("Could not start the controller: ".toList ++ error)
            | none, none =>
              (spawn_runtime (.Pair transport) (pairing_arguments transport) .Pairing false [] .Pairing w).done
          else w.fail missing_controller

def not_matched : List Char := "Wait until the phone says Pattern matched before approving.".toList

def approve_pairing (answers : Answers) (w : World) : Reply :=
  after_reap platform answers w fun w =>
    if w.state.can_approve then
      match w.state.runtime with
      | none => w.fail "No pairing window is open.".toList
      | some runtime =>
        if runtime.kind = .Pairing then
          match answers.write with
          | some error => w.fail ("Could not approve pairing: ".toList ++ error)
          | none =>
            let message := "Approval sent; finishing secure pairing...".toList
            World.done ⟨{ w.state with can_approve := false, message := message }, .Wrote "approve".toList :: w.log⟩
        else w.fail not_matched
    else w.fail not_matched

def forget_device (answers : Answers) (w : World) : Reply :=
  after_reap platform answers w fun w =>
    if w.state.runtime.isSome then w.fail "Stop the controller before forgetting the phone.".toList
    else
      match answers.forget_phone with
      | some error => w.fail error
      | none =>
        World.done ⟨{ w.state with
          paired := false
          pattern := none
          can_approve := false
          quality := none
          phase := .Ready
          message := "Paired phone forgotten.".toList }, .Forgot :: w.log⟩

/-- `request_stop`, also the rest of `stop_host`. -/
def request_stop (answers : Answers) (w : World) : Reply :=
  if w.state.runtime.isSome then
    match answers.write with
    | some error => w.fail ("Could not stop the controller safely: ".toList ++ error)
    | none => World.done ⟨{ w.state with stopping := true, phase := .Stopping, message := [] }, .Wrote "q".toList :: w.log⟩
  else w.done

def stop_host (answers : Answers) (w : World) : Reply := after_reap platform answers w (request_stop answers)

def host_status (answers : Answers) (w : World) : Reply := after_reap platform answers w World.done

/-- The closure of `setup`. -/
def setup (answers : Answers) : World :=
  let s := (ensure_route_recovery platform answers.recovery .default).2
  match answers.is_paired with
  | .ok paired => ⟨{ s with paired := paired }, [.Found paired]⟩
  | .error error => ⟨{ s with phase := .Fatal, message := error }, []⟩

end Trackpad.Launcher
