import Mathlib.Logic.Relation
import Trackpad.Launcher.Commands
/-!
# Runs of the launcher

The user's commands, the threads that read, and a child that may print anything at any time and end in any way, in any
order. What the launcher did is its log, and what it shows is what the log says.
-/

namespace Trackpad.Launcher

open Text Logs Relation
open RoutePolicy (RecoveryOutcome)

variable (platform : Platform)

inductive Action
  | Start (answers : Answers) (r : StartRequest)
  | BeginPairing (answers : Answers) (transport : List Char)
  | Approve (answers : Answers)
  | Forget (answers : Answers)
  | Stop (answers : Answers)
  | Status (answers : Answers)
  /-- The window is closed. -/
  | Close (answers : Answers)
  /-- The child prints a line, which may be no text. -/
  | Prints (line : Option (List Char))
  | Complains (line : Option (List Char))
  | Exits (success : Bool)
  /-- The threads over the two outputs. -/
  | Reads
  | ReadsError

/-- A child that has not ended. -/
def alive (w : World) : Option HostRuntime := w.state.runtime.filter fun runtime => runtime.exited.isNone

def with_runtime (runtime : HostRuntime) (w : World) : World := { w with state := { w.state with runtime := some runtime } }

/-- A line goes into a pipe as long as somebody reads. -/
def Pipe.print (line : Option (List Char)) (p : Pipe) : Pipe := if p.reading then { p with lines := p.lines ++ [line] } else p

def step (a : Action) (w : World) : Option World :=
  match a with
  | .Start answers r => some (start_host platform answers r w).2
  | .BeginPairing answers transport => some (begin_pairing platform answers transport w).2
  | .Approve answers => some (approve_pairing platform answers w).2
  | .Forget answers => some (forget_device platform answers w).2
  | .Stop answers => some (stop_host platform answers w).2
  | .Status answers => some (host_status platform answers w).2
  | .Close answers => some (request_stop answers w).2
  | .Prints line => (alive w).map fun runtime => with_runtime { runtime with stdout := runtime.stdout.print line } w
  | .Complains line => (alive w).map fun runtime => with_runtime { runtime with stderr := runtime.stderr.print line } w
  | .Exits success => (alive w).map fun runtime => with_runtime { runtime with exited := some success } w
  | .Reads => w.state.runtime.bind fun runtime =>
    match runtime.stdout.reading, runtime.stdout.lines with
    | true, some line :: lines =>
      let runtime := { runtime with stdout := ⟨lines, true⟩, output := parse_host_output_line line runtime.output }
      some { with_runtime runtime w with log := .Read line :: w.log }
    | true, none :: _ => some (with_runtime { runtime with stdout := ⟨[], false⟩ } w)
    | _, _ => none
  | .ReadsError => w.state.runtime.bind fun runtime =>
    match runtime.stderr.reading, runtime.stderr.lines with
    | true, some line :: lines =>
      let runtime := { runtime with stderr := ⟨lines, true⟩, output := parse_host_error_line line runtime.output }
      some { with_runtime runtime w with log := .ReadError line :: w.log }
    | true, none :: _ => some (with_runtime { runtime with stderr := ⟨[], false⟩ } w)
    | _, _ => none

def Reaches (w : World) : Prop :=
  ∃ answers, ReflTransGen (fun w w' => ∃ a, step platform a w = some w') (setup platform answers) w

/-! ## What the log says -/

/-- The host's name of a phase. -/
def said_phase : HostPhase → Option Console.HostPhase
  | .Waiting => some .Waiting
  | .Connected => some .Connected
  | .Recovering => some .Recovering
  | .Stopping => some .Stopping
  | .Pairing => some .Pairing
  | _ => none

def heard_report (line : List Char) : Console.Printed :=
  match strip_start "HPT_PAIR PATTERN ".toList line with
  | some value =>
    match parse_pattern value with
    | some pattern => if pattern.length = 8 then .Pair (.Pattern pattern) else .Words line
    | none => .Words line
  | none =>
    if line = "HPT_PAIR CONFIRMED".toList then .Pair .RemoteConfirmed
    else if line = "HPT_PAIR COMPLETE".toList then .Pair .Complete
    else
      match strip_start "HPT_QUALITY ".toList line with
      | some summary => .Pair (.Quality summary)
      | none => .Words line

/-- What a line of the child means. -/
def heard (line : List Char) : Console.Printed :=
  match (parse_status_token line).bind said_phase with
  | some phase => .Status phase
  | none => heard_report line

theorem said_token {line : List Char} {phase : HostPhase} (h : parse_status_token line = some phase) :
    ∃ said, said_phase phase = some said ∧ phase_of said = phase := by
  unfold parse_status_token at h
  split at h
  · cases h
    exact ⟨.Waiting, rfl, rfl⟩
  · split at h
    · cases h
      exact ⟨.Connected, rfl, rfl⟩
    · split at h
      · cases h
        exact ⟨.Recovering, rfl, rfl⟩
      · split at h
        · cases h
          exact ⟨.Stopping, rfl, rfl⟩
        · split at h
          · cases h
            exact ⟨.Pairing, rfl, rfl⟩
          · cases h

/-- A line is read as what it means. -/
theorem parse_heard (line : List Char) (output : HostOutput) :
    parse_host_output_line line output = output.reported (heard line) := by
  unfold parse_host_output_line heard
  cases htoken : parse_status_token line with
  | some phase =>
    obtain ⟨said, hsaid, rfl⟩ := said_token htoken
    rw [Option.bind_some, hsaid]
    rfl
  | none =>
    rw [Option.bind_none]
    unfold heard_report
    dsimp only
    cases strip_start "HPT_PAIR PATTERN ".toList line with
    | some value =>
      dsimp only
      cases parse_pattern value with
      | some pattern =>
        dsimp only
        split <;> rfl
      | none => rfl
    | none =>
      dsimp only
      split
      · rfl
      · split
        · rfl
        · cases strip_start "HPT_QUALITY ".toList line <;> rfl

/-- The child that runs. -/
def current : List Event → Option Purpose
  | [] => none
  | .Launched purpose _ :: _ => some purpose
  | .Reaped _ _ :: _ => none
  | _ :: log => current log

/-- Whether it was asked to stop. -/
def stop_sent : List Event → Bool
  | [] => false
  | .Launched _ _ :: _ => false
  | .Reaped _ _ :: _ => false
  | .Wrote line :: log => line == "q".toList || stop_sent log
  | _ :: log => stop_sent log

/-- What a report says of the paired phone, of the pattern and of the phone's confirmation, over what was known. -/
def told_paired (before : Bool) : Console.Printed → Bool
  | .Pair .Complete => true
  | _ => before

def told_pattern (before : Option (List UInt8)) : Console.Printed → Option (List UInt8)
  | .Pair (.Pattern pattern) => some pattern
  | _ => before

def told_confirmed (before : Bool) : Console.Printed → Bool
  | .Pair .RemoteConfirmed => true
  | .Pair .Complete => false
  | _ => before

/-- Whether there is a paired phone: what was found, heard or forgotten last. -/
def known_paired : List Event → Bool
  | [] => false
  | .Found paired :: _ => paired
  | .Forgot :: _ => false
  | .Read line :: log => told_paired (known_paired log) (heard line)
  | _ :: log => known_paired log

/-- The pattern that the last child showed. -/
def shown : List Event → Option (List UInt8)
  | [] => none
  | .Launched _ _ :: _ => none
  | .Forgot :: _ => none
  | .Read line :: log => told_pattern (shown log) (heard line)
  | _ :: log => shown log

/-- Whether the last child said that the phone confirmed, with no approval since. -/
def confirmed : List Event → Bool
  | [] => false
  | .Launched _ _ :: _ => false
  | .Forgot :: _ => false
  | .Wrote line :: log => line != "approve".toList && confirmed log
  | .Read line :: log => told_confirmed (confirmed log) (heard line)
  | _ :: log => confirmed log

/-- The keys that a failed child may hold. -/
def Purpose.lane_keys : Purpose → List (List Char)
  | .Control r => r.lane_keys
  | .Pair _ => []

/-- A launch that the checks allow: without a paired phone only the old protocol. -/
def Purpose.Sound (arguments : List (List Char)) (log : List Event) : Purpose → Prop
  | .Control r => arguments = r.arguments ∧ (∃ transport, r.check = .ok transport) ∧ (r.legacy_v4 = false → known_paired log = true)
  | .Pair transport => arguments = pairing_arguments transport ∧ ∃ kind, Console.parse_transport transport = some kind

/-- What each thing the launcher does follows on. -/
def Allowed : Event → List Event → Prop
  | .Launched purpose arguments, log => current log = none ∧ purpose.Sound arguments log
  | .Wrote line, log =>
    line = "q".toList ∧ (current log).isSome ∨
      line = "approve".toList ∧ confirmed log = true ∧ ∃ transport, current log = some (.Pair transport)
  | .Reaped success released, log => ∃ purpose, current log = some purpose ∧
      released = if platform = .Windows ∧ success = false then purpose.lane_keys else []
  | .Forgot, log => current log = none
  | _, _ => True

/-! ## Reading and taking -/

/-- The phases of a child that runs, and those without one. -/
def HostPhase.Busy (phase : HostPhase) : Prop := phase ≠ .Ready ∧ phase ≠ .RecoveryNeedsAdmin

def HostPhase.Idle (phase : HostPhase) : Prop := phase = .Ready ∨ phase = .RecoveryNeedsAdmin ∨ phase = .Fatal

/-- What is new in an output and what was taken before agree with the log. -/
structure Told (output : HostOutput) (s : HostState) (log : List Event) : Prop where
  paired : (output.pair_complete || s.paired) = known_paired log
  pattern : output.pattern.or s.pattern = shown log
  can_approve : (!output.pair_complete && output.can_approve.getD s.can_approve) = true → confirmed log = true
  phase : ∀ phase, output.phase = some phase → phase.Busy
  wellFormed : output.WellFormed

section

variable {output : HostOutput} {s : HostState} {log : List Event}

theorem phase_of_busy (phase : Console.HostPhase) : (phase_of phase).Busy := by cases phase <;> exact ⟨by decide, by decide⟩

theorem Told.reported (h : Told output s log) {log' : List Event} (p : Console.Printed) (hwell : (output.reported p).WellFormed)
    (hpaired : known_paired log' = told_paired (known_paired log) p) (hpattern : shown log' = told_pattern (shown log) p)
    (hconfirmed : confirmed log' = told_confirmed (confirmed log) p) : Told (output.reported p) s log' := by
  obtain ⟨hp, ht, hc, hphase, -⟩ := h
  refine ⟨?_, ?_, ?_, ?_, hwell⟩
  · rw [hpaired, ← hp]
    cases p with
    | Pair event => cases event <;> rfl
    | _ => rfl
  · rw [hpattern, ← ht]
    cases p with
    | Pair event => cases event <;> rfl
    | _ => rfl
  · rw [hconfirmed]
    cases p with
    | Pair event =>
      cases event with
      | RemoteConfirmed => exact fun _ => rfl
      | Complete => exact fun h => (by cases h)
      | _ => exact hc
    | _ => exact hc
  · intro phase heq
    cases p with
    | Status said =>
      cases heq
      exact phase_of_busy said
    | Window => exact hphase phase heq
    | Words text => exact hphase phase heq
    | Pair event => cases event <;> exact hphase phase heq

/-- A line is read. -/
theorem Told.read (h : Told output s log) (line : List Char) : Told (parse_host_output_line line output) s (.Read line :: log) := by
  have hwell := parse_wellFormed h.wellFormed line
  rw [parse_heard] at hwell ⊢
  exact h.reported (heard line) hwell rfl rfl rfl

/-- A line of the other output says nothing of these. -/
theorem Told.read_error (h : Told output s log) (line : List Char) :
    Told (parse_host_error_line line output) s (.ReadError line :: log) := by
  obtain ⟨hpaired, hpattern, happrove, hphase, hwell⟩ := h
  unfold parse_host_error_line
  split
  · exact ⟨hpaired, hpattern, happrove, hphase, hwell.pattern, hwell.quality⟩
  · exact ⟨hpaired, hpattern, happrove, hphase, hwell⟩

/-! ## What is taken -/

theorem apply_phase_eq (phase : Option HostPhase) (s : HostState) : ∃ message, apply_phase phase s =
    { s with phase := if s.stopping then s.phase else phase.getD s.phase, message := message } := by
  unfold apply_phase
  cases phase with
  | none => exact ⟨s.message, by rw [Option.getD_none, ite_self]⟩
  | some phase =>
    dsimp only
    split
    · exact ⟨s.message, rfl⟩
    · exact ⟨[], rfl⟩

theorem apply_fatal_eq (fatal_message : Option (List Char)) (s : HostState) : ∃ message, apply_fatal fatal_message s =
    { s with
      phase := if fatal_message.isSome then .Fatal else s.phase
      fatal_message := fatal_message.or s.fatal_message
      message := message } := by
  cases fatal_message with
  | none => exact ⟨s.message, rfl⟩
  | some text => exact ⟨user_facing_native_error text, rfl⟩

theorem apply_pattern_eq (pattern : Option (List UInt8)) (s : HostState) : ∃ message, apply_pattern pattern s =
    { s with pattern := pattern.or s.pattern, message := message } := by
  cases pattern with
  | none => exact ⟨s.message, rfl⟩
  | some pattern => exact ⟨_, rfl⟩

theorem apply_can_approve_eq (can_approve : Option Bool) (s : HostState) : ∃ message, apply_can_approve can_approve s =
    { s with can_approve := can_approve.getD s.can_approve, message := message } := by
  rcases can_approve with _ | _ | _
  · exact ⟨s.message, rfl⟩
  · exact ⟨s.message, rfl⟩
  · exact ⟨_, rfl⟩

theorem apply_quality_eq (quality : Option (List Char)) (s : HostState) :
    apply_quality quality s = { s with quality := quality.or s.quality } := by
  cases quality <;> rfl

theorem apply_pair_complete_eq (pair_complete : Bool) (s : HostState) : ∃ message, apply_pair_complete pair_complete s =
    { s with paired := pair_complete || s.paired, can_approve := !pair_complete && s.can_approve, message := message } := by
  cases pair_complete with
  | false => exact ⟨s.message, rfl⟩
  | true => exact ⟨_, rfl⟩

/-- The phase after new things were taken. -/
def taken_phase (output : HostOutput) (s : HostState) : HostPhase :=
  if output.fatal_message.isSome then .Fatal else if s.stopping then s.phase else output.phase.getD s.phase

theorem apply_output_eq (output : HostOutput) (s : HostState) : ∃ message, apply_output output s =
    { s with
      phase := taken_phase output s
      fatal_message := output.fatal_message.or s.fatal_message
      pattern := output.pattern.or s.pattern
      can_approve := !output.pair_complete && output.can_approve.getD s.can_approve
      quality := output.quality.or s.quality
      paired := output.pair_complete || s.paired
      message := message } := by
  unfold apply_output
  obtain ⟨m₁, h₁⟩ := apply_phase_eq output.phase s
  rw [h₁]
  obtain ⟨m₂, h₂⟩ := apply_fatal_eq output.fatal_message _
  rw [h₂]
  obtain ⟨m₃, h₃⟩ := apply_pattern_eq output.pattern _
  rw [h₃]
  obtain ⟨m₄, h₄⟩ := apply_can_approve_eq output.can_approve _
  rw [h₄, apply_quality_eq]
  obtain ⟨m₅, h₅⟩ := apply_pair_complete_eq output.pair_complete _
  exact ⟨m₅, h₅⟩

theorem apply_output_runtime (output : HostOutput) (s : HostState) : (apply_output output s).runtime = s.runtime := by
  obtain ⟨message, h⟩ := apply_output_eq output s
  rw [h]

theorem apply_output_pattern (output : HostOutput) (s : HostState) :
    (apply_output output s).pattern = output.pattern.or s.pattern := by
  obtain ⟨message, h⟩ := apply_output_eq output s
  rw [h]

/-- The patterns that are taken are patterns. -/
theorem Told.taken_pattern (h : Told output s log) (hs : ∀ pattern, s.pattern = some pattern → Sas.IsPattern pattern) :
    ∀ pattern, (apply_output output s).pattern = some pattern → Sas.IsPattern pattern := by
  intro pattern hpattern
  rw [apply_output_pattern] at hpattern
  cases hnew : output.pattern with
  | none =>
    rw [hnew] at hpattern
    exact hs pattern hpattern
  | some _ =>
    rw [hnew] at hpattern
    cases hpattern
    exact h.wellFormed.pattern pattern hnew

/-- Only three fields of the state are spoken of. -/
theorem Told.same (h : Told output s log) {s' : HostState} (hpaired : s'.paired = s.paired) (hpattern : s'.pattern = s.pattern)
    (happrove : s'.can_approve = s.can_approve) : Told output s' log := by
  refine ⟨?_, ?_, ?_, h.phase, h.wellFormed⟩
  · rw [hpaired]
    exact h.paired
  · rw [hpattern]
    exact h.pattern
  · rw [happrove]
    exact h.can_approve

/-- Nothing is new. -/
theorem Told.taken (h : Told output s log) : Told .default (apply_output output s) log := by
  obtain ⟨message, heq⟩ := apply_output_eq output s
  rw [heq]
  refine ⟨h.paired, h.pattern, h.can_approve, fun phase hnone => (by cases hnone), fun pattern hnone => (by cases hnone), ?_⟩
  exact fun quality hnone => (by cases hnone)

theorem taken_phase_busy (h : Told output s log) (hbusy : s.phase.Busy) : (taken_phase output s).Busy := by
  unfold taken_phase
  split
  · exact ⟨by decide, by decide⟩
  · split
    · exact hbusy
    · cases hphase : output.phase with
      | none => exact hbusy
      | some phase => exact h.phase phase hphase

theorem taken_phase_stopped (hstopping : s.stopping = true) (hphase : s.phase = .Stopping ∨ s.phase = .Fatal) :
    taken_phase output s = .Stopping ∨ taken_phase output s = .Fatal := by
  unfold taken_phase
  split
  · exact .inr rfl
  · exact hphase

end

/-! ## The invariant -/

/-- What is new of the child's output. -/
def HostState.output (s : HostState) : HostOutput := (s.runtime.map HostRuntime.output).getD .default

def Purpose.kind : Purpose → RuntimeKind
  | .Control _ => .Controller
  | .Pair _ => .Pairing

structure Inv (w : World) : Prop where
  justified : Justified (Allowed platform) w.log
  told : Told w.state.output w.state w.log
  running : ∀ runtime, w.state.runtime = some runtime →
    ∃ purpose, current w.log = some purpose ∧ runtime.kind = purpose.kind ∧ runtime.lane_keys = purpose.lane_keys
  idle : w.state.runtime = none → current w.log = none ∧ w.state.stopping = false
  stopping : w.state.stopping = stop_sent w.log
  busy : w.state.runtime.isSome → w.state.phase.Busy
  rests : w.state.runtime = none → w.state.phase.Idle
  stopped : w.state.stopping = true → w.state.phase = .Stopping ∨ w.state.phase = .Fatal
  pattern : ∀ pattern, w.state.pattern = some pattern → Sas.IsPattern pattern

section

variable {platform} {w : World} {answers : Answers}

/-- What is new was taken. -/
def Drained (w : World) : Prop := w.state.output = .default

theorem Inv.drained (h : Inv platform w) :
    Inv platform { w with state := drain_runtime_events w.state } ∧ Drained { w with state := drain_runtime_events w.state } := by
  unfold drain_runtime_events
  cases hruntime : w.state.runtime with
  | none =>
    refine ⟨h, ?_⟩
    rw [Drained, HostState.output, hruntime]
    rfl
  | some runtime =>
    have houtput : w.state.output = runtime.output := by
      rw [HostState.output, hruntime]
      rfl
    have htold : Told runtime.output { w.state with runtime := some { runtime with output := .default } } w.log :=
      (houtput ▸ h.told).same rfl rfl rfl
    have htaken := htold.taken
    have hpattern := htold.taken_pattern h.pattern
    obtain ⟨message, heq⟩ := apply_output_eq runtime.output { w.state with runtime := some { runtime with output := .default } }
    obtain ⟨purpose, hcurrent, hkind, hkeys⟩ := h.running runtime hruntime
    have hbusy := h.busy (by rw [hruntime]; rfl)
    dsimp only
    rw [heq] at htaken hpattern ⊢
    refine ⟨?_, rfl⟩
    constructor
    · exact h.justified
    · exact htaken
    · intro runtime' hsome
      cases hsome
      exact ⟨purpose, hcurrent, hkind, hkeys⟩
    · intro hnone
      cases hnone
    · exact h.stopping
    · intro _
      exact taken_phase_busy htold hbusy
    · intro hnone
      cases hnone
    · intro hstopping
      exact taken_phase_stopped hstopping (h.stopped hstopping)
    · exact hpattern

/-! ## The end of a child -/

theorem read_rest_told {runtime : HostRuntime} {s : HostState} {log : List Event} (h : Told runtime.output s log) :
    Told (read_rest runtime) s (rest_events runtime ++ log) := by
  have hout : ∀ (lines : List (List Char)) (output : HostOutput) (log : List Event), Told output s log →
      Told (lines.foldl (fun output line => parse_host_output_line line output) output) s ((lines.map Event.Read).reverse ++ log) := by
    intro lines
    induction lines with
    | nil => exact fun _ _ h => h
    | cons line lines ih =>
      intro output log h
      rw [List.map_cons, List.reverse_cons, List.append_assoc]
      exact ih _ _ (h.read line)
  have herr : ∀ (lines : List (List Char)) (output : HostOutput) (log : List Event), Told output s log →
      Told (lines.foldl (fun output line => parse_host_error_line line output) output) s ((lines.map Event.ReadError).reverse ++ log) := by
    intro lines
    induction lines with
    | nil => exact fun _ _ h => h
    | cons line lines ih =>
      intro output log h
      rw [List.map_cons, List.reverse_cons, List.append_assoc]
      exact ih _ _ (h.read_error line)
  rw [rest_events, List.reverse_append, List.append_assoc]
  exact herr _ _ _ (hout _ _ _ h)

/-- A line that is read changes neither the child nor what was asked of it. -/
theorem rest_events_quiet (platform : Platform) (runtime : HostRuntime) (log : List Event) :
    current (rest_events runtime ++ log) = current log ∧ stop_sent (rest_events runtime ++ log) = stop_sent log ∧
      (Justified (Allowed platform) log → Justified (Allowed platform) (rest_events runtime ++ log)) := by
  have hread : ∀ e ∈ rest_events runtime, (∃ line, e = .Read line) ∨ ∃ line, e = .ReadError line := by
    intro e hmem
    rw [rest_events, List.mem_reverse, List.mem_append, List.mem_map, List.mem_map] at hmem
    rcases hmem with ⟨line, _, rfl⟩ | ⟨line, _, rfl⟩
    · exact .inl ⟨line, rfl⟩
    · exact .inr ⟨line, rfl⟩
  generalize rest_events runtime = events at hread ⊢
  induction events with
  | nil => exact ⟨rfl, rfl, id⟩
  | cons e events ih =>
    obtain ⟨hcurrent, hsent, hjustified⟩ := ih fun e' hmem => hread e' (List.mem_cons_of_mem _ hmem)
    rcases hread e List.mem_cons_self with ⟨line, rfl⟩ | ⟨line, rfl⟩
    · exact ⟨hcurrent, hsent, fun h => ⟨trivial, hjustified h⟩⟩
    · exact ⟨hcurrent, hsent, fun h => ⟨trivial, hjustified h⟩⟩

/-- The recovery of routes changes what is said, and leaves an idle phase idle. -/
theorem recovery_eq (platform : Platform) (outcome : Except RecoveryError RecoveryOutcome) (s : HostState) :
    ∃ phase message needs_admin, (ensure_route_recovery platform outcome s).2 =
      { s with phase := phase, message := message, recovery_needs_admin := needs_admin } ∧ (s.phase.Idle → phase.Idle) := by
  cases platform with
  | Linux => exact ⟨s.phase, s.message, false, rfl, id⟩
  | Windows =>
    unfold ensure_route_recovery apply_route_recovery
    dsimp only
    split
    · split
      · exact ⟨.Ready, [], false, rfl, fun _ => .inl rfl⟩
      · exact ⟨s.phase, s.message, false, rfl, id⟩
    · split
      · exact ⟨.Ready, [], false, rfl, fun _ => .inl rfl⟩
      · exact ⟨s.phase, s.message, false, rfl, id⟩
    · dsimp only
      split
      · exact ⟨.Ready, _, false, rfl, fun _ => .inl rfl⟩
      · split
        · exact ⟨s.phase, _, false, rfl, id⟩
        · exact ⟨s.phase, s.message, false, rfl, id⟩
    · exact ⟨.Fatal, _, s.recovery_needs_admin, rfl, fun _ => .inr (.inr rfl)⟩
    · split
      · exact ⟨.RecoveryNeedsAdmin, _, true, rfl, fun _ => .inr (.inl rfl)⟩
      · exact ⟨.Fatal, _, s.recovery_needs_admin, rfl, fun _ => .inr (.inr rfl)⟩

/-- Without a child, what is said may change. -/
theorem Inv.resting (h : Inv platform w) (hidle : w.state.runtime = none) {phase : HostPhase} (hphase : phase.Idle)
    (message : List Char) (needs_admin : Bool) :
    Inv platform { w with state := { w.state with phase := phase, message := message, recovery_needs_admin := needs_admin } } := by
  refine { h with told := h.told.same rfl rfl rfl, busy := ?_, rests := fun _ => hphase, stopped := ?_ }
  · intro hsome
    dsimp only at hsome
    rw [hidle] at hsome
    cases hsome
  · intro hstopping
    dsimp only at hstopping
    rw [(h.idle hidle).2] at hstopping
    cases hstopping

theorem Inv.recovered (h : Inv platform w) (hidle : w.state.runtime = none) (outcome : Except RecoveryError RecoveryOutcome) :
    Inv platform { w with state := (ensure_route_recovery platform outcome w.state).2 } ∧
      (ensure_route_recovery platform outcome w.state).2.runtime = none := by
  obtain ⟨phase, message, needs_admin, heq, hphase⟩ := recovery_eq platform outcome w.state
  rw [heq]
  exact ⟨h.resting hidle (hphase (h.rests hidle)) message needs_admin, hidle⟩

theorem ended_eq (runtime : HostRuntime) (success : Bool) (s : HostState) :
    ∃ phase message fatal_message, ended runtime success s =
      { s with phase := phase, stopping := false, message := message, fatal_message := fatal_message } ∧ phase.Idle := by
  cases success with
  | true => exact ⟨.Ready, _, none, rfl, .inl rfl⟩
  | false => exact ⟨.Fatal, _, s.fatal_message, rfl, .inr (.inr rfl)⟩

/-- What remains of a child that ended: nothing but what it said. -/
theorem Inv.reaped (h : Inv platform w) {runtime : HostRuntime} (hruntime : w.state.runtime = some runtime) (success : Bool) :
    Inv platform
      ⟨ended runtime success (apply_output (read_rest runtime) { w.state with runtime := none }),
        .Reaped success (released_keys platform runtime success) :: (rest_events runtime ++ w.log)⟩ ∧
      (ended runtime success (apply_output (read_rest runtime) { w.state with runtime := none })).runtime = none := by
  have houtput : w.state.output = runtime.output := by
    rw [HostState.output, hruntime]
    rfl
  have htold : Told (read_rest runtime) { w.state with runtime := none } (rest_events runtime ++ w.log) :=
    read_rest_told ((houtput ▸ h.told).same rfl rfl rfl)
  have htaken := htold.taken
  have hpattern := htold.taken_pattern h.pattern
  have hnone := apply_output_runtime (read_rest runtime) { w.state with runtime := none }
  generalize apply_output (read_rest runtime) { w.state with runtime := none } = s at htaken hpattern hnone ⊢
  obtain ⟨phase, message, fatal_message, heq, hphase⟩ := ended_eq runtime success s
  rw [heq]
  obtain ⟨purpose, hcurrent, hkind, hkeys⟩ := h.running runtime hruntime
  obtain ⟨hquiet, hsent, hjustified⟩ := rest_events_quiet platform runtime w.log
  refine ⟨?_, hnone⟩
  have houtput' : HostState.output { s with phase := phase, stopping := false, message := message, fatal_message := fatal_message } =
      .default := by
    rw [HostState.output]
    dsimp only
    rw [hnone]
    rfl
  constructor
  · refine ⟨⟨purpose, hquiet.trans hcurrent, ?_⟩, hjustified h.justified⟩
    rw [← hkeys]
    cases platform <;> cases success <;> rfl
  · dsimp only
    rw [houtput']
    exact ⟨htaken.paired, htaken.pattern, htaken.can_approve, htaken.phase, htaken.wellFormed⟩
  · intro runtime' hsome
    dsimp only at hsome
    rw [hnone] at hsome
    cases hsome
  · exact fun _ => ⟨rfl, rfl⟩
  · rfl
  · intro hsome
    dsimp only at hsome
    rw [hnone] at hsome
    cases hsome
  · exact fun _ => hphase
  · intro hstopping
    cases hstopping
  · exact hpattern

/-- Every command begins by looking after the child. -/
theorem Inv.reap_child (h : Inv platform w) (answers : Answers) :
    Inv platform (reap_child platform answers w).2 ∧
      ((reap_child platform answers w).1 = none → Drained (reap_child platform answers w).2) := by
  obtain ⟨hdrained, hnew⟩ := h.drained
  unfold Launcher.reap_child
  dsimp only
  split
  · exact ⟨hdrained, fun _ => hnew⟩
  · next runtime hruntime =>
    split
    · exact ⟨hdrained, fun hnone => (by cases hnone)⟩
    · exact ⟨hdrained, fun _ => hnew⟩
    · next success _ _ =>
      obtain ⟨hended, hnone⟩ := hdrained.reaped hruntime success
      obtain ⟨hrecovered, hidle⟩ := hended.recovered hnone answers.recovery_after
      refine ⟨hrecovered, fun _ => ?_⟩
      rw [Drained, HostState.output]
      dsimp only at hidle ⊢
      rw [hidle]
      rfl

theorem Inv.after_reap (h : Inv platform w) {command : World → Reply}
    (hcommand : ∀ w, Inv platform w → Drained w → Inv platform (command w).2) :
    Inv platform (after_reap platform answers w command).2 := by
  obtain ⟨hreaped, hdrained⟩ := h.reap_child answers
  unfold Launcher.after_reap
  split
  · next heq =>
    rw [heq] at hreaped
    exact hreaped
  · next heq =>
    rw [heq] at hreaped hdrained
    exact hcommand _ hreaped (hdrained rfl)

theorem Inv.after_recovery (h : Inv platform w) (hidle : w.state.runtime = none) {command : World → Reply}
    (hcommand : ∀ w', Inv platform w' → w'.state.runtime = none → w'.log = w.log → Inv platform (command w').2) :
    Inv platform (after_recovery platform answers w command).2 := by
  obtain ⟨hrecovered, hnone⟩ := h.recovered hidle answers.recovery
  unfold Launcher.after_recovery
  split
  · next heq =>
    rw [heq] at hrecovered
    exact hrecovered
  · next heq =>
    rw [heq] at hrecovered hnone
    exact hcommand _ hrecovered hnone rfl

/-! ## The commands -/

theorem idle_output {s : HostState} (hidle : s.runtime = none) : s.output = .default := by
  rw [HostState.output, hidle]
  rfl

theorem told_idle {s : HostState} {log : List Event} (hidle : s.runtime = none) (h : Told .default s log) :
    Told s.output s log := by
  rw [idle_output hidle]
  exact h

theorem Inv.known (h : Inv platform w) (hidle : w.state.runtime = none) : w.state.paired = known_paired w.log := by
  have hpaired := h.told.paired
  rw [idle_output hidle] at hpaired
  exact hpaired

theorem Inv.spawn_runtime (h : Inv platform w) (hidle : w.state.runtime = none) (purpose : Purpose)
    {arguments : List (List Char)} (hsound : purpose.Sound arguments w.log) {phase : HostPhase} (hphase : phase.Busy)
    (local_only_tether : Bool) :
    Inv platform (spawn_runtime purpose arguments purpose.kind local_only_tether purpose.lane_keys phase w) where
  justified := ⟨⟨(h.idle hidle).1, hsound⟩, h.justified⟩
  told := by
    refine ⟨h.known hidle, rfl, fun hfalse => (by cases hfalse), fun phase hnone => (by cases hnone), ?_, ?_⟩
    · exact fun pattern hnone => (by cases hnone)
    · exact fun quality hnone => (by cases hnone)
  running runtime hsome := by
    cases hsome
    exact ⟨purpose, rfl, rfl, rfl⟩
  idle hnone := by cases hnone
  stopping := rfl
  busy _ := hphase
  rests hnone := by cases hnone
  stopped hstopping := by cases hstopping
  pattern pattern hnone := by cases hnone

theorem Inv.launch_controller (h : Inv platform w) (hidle : w.state.runtime = none) {r : StartRequest} {transport : List Char}
    (hcheck : r.check = .ok transport) (hpaired : r.legacy_v4 = false → known_paired w.log = true) :
    Inv platform (launch_controller platform answers r w).2 := by
  unfold Launcher.launch_controller
  split
  · exact h
  · split
    · split
      · exact h
      · exact h
      · have hready : Inv platform { w with state := { w.state with recovery_needs_admin := false } } :=
          h.resting hidle (h.rests hidle) w.state.message false
        exact hready.spawn_runtime hidle (.Control r) ⟨rfl, ⟨transport, hcheck⟩, hpaired⟩ ⟨by decide, by decide⟩ _
    · exact h

/-- What was found of the paired phone is known from then on. -/
theorem Inv.found (h : Inv platform w) (hidle : w.state.runtime = none) (paired : Bool) :
    Inv platform { state := { w.state with paired := paired }, log := .Found paired :: w.log } := by
  have htold := h.told
  rw [idle_output hidle] at htold
  refine { h with justified := ⟨trivial, h.justified⟩, told := told_idle hidle ?_ }
  exact ⟨rfl, htold.pattern, htold.can_approve, htold.phase, htold.wellFormed⟩

theorem Inv.start_host (h : Inv platform w) (r : StartRequest) : Inv platform (start_host platform answers r w).2 := by
  refine h.after_reap fun w h _ => ?_
  split
  · exact h
  · next hnone =>
    have hidle : w.state.runtime = none := by simpa using hnone
    split
    · exact h
    · next transport hcheck =>
      unfold require_pairing
      split
      · split
        · exact h
        · next paired _ =>
          have hfound := h.found hidle paired
          dsimp only
          split
          · next hpaired =>
            refine hfound.after_recovery hidle fun w' h' hidle' hlog => ?_
            refine h'.launch_controller hidle' hcheck fun _ => ?_
            rw [hlog]
            exact hpaired
          · exact hfound
      · next hskip =>
        refine h.after_recovery hidle fun w' h' hidle' hlog => ?_
        refine h'.launch_controller hidle' hcheck fun hnew => ?_
        rw [hlog, ← h.known hidle]
        simpa [hnew] using hskip

theorem Inv.begin_pairing (h : Inv platform w) (transport : List Char) :
    Inv platform (begin_pairing platform answers transport w).2 := by
  refine h.after_reap fun w h _ => ?_
  split
  · exact h
  · next hnone =>
    have hidle : w.state.runtime = none := by simpa using hnone
    refine h.after_recovery hidle fun w' h' hidle' _ => ?_
    split
    · exact h'
    · next transport' hvalid =>
      split
      · split
        · exact h'
        · exact h'
        · exact h'.spawn_runtime hidle' (.Pair transport') ⟨rfl, validated hvalid⟩ ⟨by decide, by decide⟩ false
      · exact h'

/-- A line that is written. -/
theorem Inv.wrote (h : Inv platform w) {line : List Char} (hallowed : Allowed platform (.Wrote line) w.log)
    {s : HostState} (hruntime : s.runtime = w.state.runtime) (htold : Told w.state.output s (.Wrote line :: w.log))
    (hpattern : s.pattern = w.state.pattern) (hstopping : s.stopping = (line == "q".toList || w.state.stopping))
    (hphase : s.phase.Busy) (hstopped : s.stopping = true → s.phase = .Stopping ∨ s.phase = .Fatal)
    (hsome : w.state.runtime.isSome) : Inv platform ⟨s, .Wrote line :: w.log⟩ := by
  have houtput : s.output = w.state.output := by rw [HostState.output, HostState.output, hruntime]
  have hbusy : s.runtime ≠ none := by
    rw [hruntime]
    exact Option.isSome_iff_ne_none.1 hsome
  constructor
  · exact ⟨hallowed, h.justified⟩
  · dsimp only
    rw [houtput]
    exact htold
  · intro runtime heq
    exact h.running runtime (hruntime.symm.trans heq)
  · exact fun hnone => absurd hnone hbusy
  · dsimp only
    rw [hstopping, h.stopping]
    rfl
  · exact fun _ => hphase
  · exact fun hnone => absurd hnone hbusy
  · exact hstopped
  · dsimp only
    rw [hpattern]
    exact h.pattern

theorem Inv.approve_pairing (h : Inv platform w) : Inv platform (approve_pairing platform answers w).2 := by
  refine h.after_reap fun w h hdrained => ?_
  split
  · next hconfirmed =>
    split
    · exact h
    · next runtime hruntime =>
      split
      · next hkind =>
        split
        · exact h
        · have hsome : w.state.runtime.isSome := by rw [hruntime]; rfl
          have htold := h.told
          have hnew : w.state.output = .default := hdrained
          obtain ⟨purpose, hcurrent, hpurpose, _⟩ := h.running runtime hruntime
          have hpair : ∃ transport, current w.log = some (.Pair transport) := by
            cases purpose with
            | Pair transport => exact ⟨transport, hcurrent⟩
            | Control r =>
              rw [hkind] at hpurpose
              cases hpurpose
          refine h.wrote (.inr ⟨rfl, ?_, hpair⟩) rfl ?_ rfl rfl (h.busy hsome) h.stopped hsome
          · rw [hnew] at htold
            exact htold.can_approve hconfirmed
          · rw [hnew] at htold ⊢
            exact ⟨htold.paired, htold.pattern, fun hfalse => (by cases hfalse), htold.phase, htold.wellFormed⟩
      · exact h
  · exact h

theorem Inv.request_stop (h : Inv platform w) : Inv platform (request_stop answers w).2 := by
  unfold Launcher.request_stop
  split
  · next hsome =>
    split
    · exact h
    · obtain ⟨runtime, hruntime⟩ := Option.isSome_iff_exists.1 hsome
      obtain ⟨purpose, hcurrent, _⟩ := h.running runtime hruntime
      have hstopping : HostPhase.Stopping.Busy := ⟨by decide, by decide⟩
      refine h.wrote (.inl ⟨rfl, by rw [hcurrent]; rfl⟩) rfl ?_ rfl rfl hstopping (fun _ => .inl rfl) hsome
      have htold := h.told
      exact ⟨htold.paired, htold.pattern, htold.can_approve, htold.phase, htold.wellFormed⟩
  · exact h

theorem Inv.forget_device (h : Inv platform w) : Inv platform (forget_device platform answers w).2 := by
  refine h.after_reap fun w h _ => ?_
  split
  · exact h
  · next hnone =>
    have hidle : w.state.runtime = none := by simpa using hnone
    split
    · exact h
    · have htold := h.told
      rw [idle_output hidle] at htold
      refine { h with
        justified := ⟨(h.idle hidle).1, h.justified⟩
        told := told_idle hidle ⟨rfl, rfl, fun hfalse => (by cases hfalse), htold.phase, htold.wellFormed⟩
        busy := ?_
        rests := fun _ => .inl rfl
        stopped := ?_
        pattern := fun pattern hnone => (by cases hnone) }
      · intro hsome
        dsimp only at hsome
        rw [hidle] at hsome
        cases hsome
      · intro hstopping
        dsimp only at hstopping
        rw [(h.idle hidle).2] at hstopping
        cases hstopping

/-! ## Steps -/

/-- What the child does is not seen before it is read. -/
theorem Inv.child (h : Inv platform w) {runtime runtime' : HostRuntime} (hruntime : w.state.runtime = some runtime)
    (hkind : runtime'.kind = runtime.kind) (hkeys : runtime'.lane_keys = runtime.lane_keys)
    (houtput : runtime'.output = runtime.output) : Inv platform (with_runtime runtime' w) := by
  have hsame : w.state.output = runtime'.output := by
    rw [HostState.output, hruntime, houtput]
    rfl
  obtain ⟨purpose, hcurrent, hpurpose, hlanes⟩ := h.running runtime hruntime
  refine { h with told := ?_, running := ?_, idle := fun hnone => (by cases hnone), busy := ?_, rests := fun hnone => (by cases hnone) }
  · have htold := h.told
    rw [hsame] at htold
    exact htold.same rfl rfl rfl
  · intro runtime'' hsome
    cases hsome
    exact ⟨purpose, hcurrent, hkind.trans hpurpose, hkeys.trans hlanes⟩
  · intro _
    exact h.busy (by rw [hruntime]; rfl)

theorem Inv.alive (h : Inv platform w) (change : HostRuntime → HostRuntime)
    (hchange : ∀ runtime, (change runtime).kind = runtime.kind ∧ (change runtime).lane_keys = runtime.lane_keys ∧
      (change runtime).output = runtime.output) {w' : World}
    (hstep : (alive w).map (fun runtime => with_runtime (change runtime) w) = some w') : Inv platform w' := by
  obtain ⟨runtime, halive, rfl⟩ := Option.map_eq_some_iff.1 hstep
  obtain ⟨hkind, hkeys, houtput⟩ := hchange runtime
  exact h.child (Option.filter_eq_some_iff.1 halive).1 hkind hkeys houtput

/-- A line is read. -/
theorem Inv.line (h : Inv platform w) {runtime : HostRuntime} (hruntime : w.state.runtime = some runtime)
    (runtime' : HostRuntime) (hkind : runtime'.kind = runtime.kind) (hkeys : runtime'.lane_keys = runtime.lane_keys) {e : Event}
    (he : (∃ line, e = .Read line) ∨ ∃ line, e = .ReadError line)
    (htold : Told runtime.output w.state w.log → Told runtime'.output w.state (e :: w.log)) :
    Inv platform { with_runtime runtime' w with log := e :: w.log } := by
  have hsame : w.state.output = runtime.output := by
    rw [HostState.output, hruntime]
    rfl
  obtain ⟨purpose, hcurrent, hpurpose, hlanes⟩ := h.running runtime hruntime
  have hquiet : Allowed platform e w.log ∧ current (e :: w.log) = current w.log ∧ stop_sent (e :: w.log) = stop_sent w.log := by
    rcases he with ⟨line, rfl⟩ | ⟨line, rfl⟩ <;> exact ⟨trivial, rfl, rfl⟩
  refine { h with
    justified := ⟨hquiet.1, h.justified⟩
    told := ?_
    running := ?_
    idle := fun hnone => (by cases hnone)
    stopping := h.stopping.trans hquiet.2.2.symm
    busy := ?_
    rests := fun hnone => (by cases hnone) }
  · have hbefore := h.told
    rw [hsame] at hbefore
    exact (htold hbefore).same rfl rfl rfl
  · intro runtime'' hsome
    cases hsome
    exact ⟨purpose, hquiet.2.1.trans hcurrent, hkind.trans hpurpose, hkeys.trans hlanes⟩
  · intro _
    exact h.busy (by rw [hruntime]; rfl)

theorem step_inv (h : Inv platform w) (a : Action) {w' : World} (hstep : step platform a w = some w') : Inv platform w' := by
  cases a with
  | Start answers r =>
    cases hstep
    exact h.start_host r
  | BeginPairing answers transport =>
    cases hstep
    exact h.begin_pairing transport
  | Approve answers =>
    cases hstep
    exact h.approve_pairing
  | Forget answers =>
    cases hstep
    exact h.forget_device
  | Stop answers =>
    cases hstep
    exact h.after_reap fun _ h _ => h.request_stop
  | Status answers =>
    cases hstep
    exact h.after_reap fun _ h _ => h
  | Close answers =>
    cases hstep
    exact h.request_stop
  | Prints line => exact h.alive (fun runtime => { runtime with stdout := runtime.stdout.print line }) (fun _ => ⟨rfl, rfl, rfl⟩) hstep
  | Complains line => exact h.alive (fun runtime => { runtime with stderr := runtime.stderr.print line }) (fun _ => ⟨rfl, rfl, rfl⟩) hstep
  | Exits success => exact h.alive (fun runtime => { runtime with exited := some success }) (fun _ => ⟨rfl, rfl, rfl⟩) hstep
  | Reads =>
    obtain ⟨runtime, hruntime, hread⟩ := Option.bind_eq_some_iff.1 hstep
    split at hread
    · next line lines _ _ =>
      cases hread
      exact h.line hruntime { runtime with stdout := ⟨lines, true⟩, output := parse_host_output_line line runtime.output } rfl rfl
        (.inl ⟨line, rfl⟩) fun htold => htold.read line
    · cases hread
      exact h.child hruntime rfl rfl rfl
    · cases hread
  | ReadsError =>
    obtain ⟨runtime, hruntime, hread⟩ := Option.bind_eq_some_iff.1 hstep
    split at hread
    · next line lines _ _ =>
      cases hread
      exact h.line hruntime { runtime with stderr := ⟨lines, true⟩, output := parse_host_error_line line runtime.output } rfl rfl
        (.inr ⟨line, rfl⟩) fun htold => htold.read_error line
    · cases hread
      exact h.child hruntime rfl rfl rfl
    · cases hread

/-! ## Runs -/

theorem setup_inv (platform : Platform) (answers : Answers) : Inv platform (setup platform answers) := by
  obtain ⟨phase, message, needs_admin, heq, hphase⟩ := recovery_eq platform answers.recovery .default
  have hwell : HostOutput.default.WellFormed := ⟨fun pattern hnone => (by cases hnone), fun quality hnone => (by cases hnone)⟩
  unfold setup
  rw [heq]
  dsimp only
  cases hfound : answers.is_paired with
  | ok paired =>
    refine ⟨⟨trivial, trivial⟩, ⟨rfl, rfl, fun hfalse => (by cases hfalse), fun phase hnone => (by cases hnone), hwell⟩, ?_, ?_, rfl, ?_,
      fun _ => hphase (.inl rfl), ?_, fun pattern hnone => (by cases hnone)⟩
    · exact fun runtime hnone => (by cases hnone)
    · exact fun _ => ⟨rfl, rfl⟩
    · exact fun hnone => (by cases hnone)
    · exact fun hstopping => (by cases hstopping)
  | error error =>
    refine ⟨trivial, ⟨rfl, rfl, fun hfalse => (by cases hfalse), fun phase hnone => (by cases hnone), hwell⟩, ?_, ?_, rfl, ?_,
      fun _ => .inr (.inr rfl), ?_, fun pattern hnone => (by cases hnone)⟩
    · exact fun runtime hnone => (by cases hnone)
    · exact fun _ => ⟨rfl, rfl⟩
    · exact fun hnone => (by cases hnone)
    · exact fun hstopping => (by cases hstopping)

end

theorem Reaches.inv {w : World} (h : Reaches platform w) : Inv platform w := by
  obtain ⟨answers, h⟩ := h
  induction h with
  | refl => exact setup_inv platform answers
  | tail _ hstep ih =>
    obtain ⟨a, hstep⟩ := hstep
    exact step_inv ih a hstep

/-- In every run the launcher starts a child only after the one before it was reaped, and a controller of the new protocol only
with a paired phone; it approves only for a pairing, once for each time that this child said the phone confirmed; it
lets go of the lanes of every controller that failed on Windows; and it forgets a phone only when no child runs. -/
theorem launcher_allowed {w : World} (h : Reaches platform w) : Justified (Allowed platform) w.log := h.inv.justified

/-- What a status says, by the log. -/
structure Truthful (st : HostStatus) (log : List Event) : Prop where
  running : st.running = (current log).isSome
  pairing : st.pairing = true ↔ ∃ transport, current log = some (.Pair transport)
  stopping : st.stopping = stop_sent log
  paired : st.paired = known_paired log
  pattern : st.pattern = shown log
  lanes : ∀ pattern, st.pattern = some pattern → Sas.IsPattern pattern
  can_approve : st.can_approve = true → confirmed log = true
  busy : st.running = true → st.phase ≠ HostPhase.Ready.as_str ∧ st.phase ≠ HostPhase.RecoveryNeedsAdmin.as_str
  rests : st.running = false → ∃ phase : HostPhase, phase.Idle ∧ st.phase = phase.as_str
  stopped : st.stopping = true → st.phase = HostPhase.Stopping.as_str ∨ st.phase = HostPhase.Fatal.as_str

theorem as_str_inj {phase phase' : HostPhase} (h : phase.as_str = phase'.as_str) : phase = phase' := by
  revert h
  cases phase <;> cases phase' <;> decide

theorem status_truthful_of_inv {w : World} (h : Inv platform w) (hdrained : Drained w) : Truthful (status w.state) w.log := by
  have htold := h.told
  rw [show w.state.output = .default from hdrained] at htold
  have hrunning : w.state.runtime.isSome = (current w.log).isSome := by
    cases hruntime : w.state.runtime with
    | none =>
      rw [(h.idle hruntime).1]
      rfl
    | some runtime =>
      obtain ⟨purpose, hcurrent, _⟩ := h.running runtime hruntime
      rw [hcurrent]
      rfl
  constructor
  · exact hrunning
  · cases hruntime : w.state.runtime with
    | none => simp [status, hruntime, (h.idle hruntime).1]
    | some runtime =>
      obtain ⟨purpose, hcurrent, hkind, _⟩ := h.running runtime hruntime
      cases purpose <;> simp [status, hruntime, hcurrent, hkind, Purpose.kind]
  · exact h.stopping
  · exact htold.paired
  · exact htold.pattern
  · exact h.pattern
  · exact htold.can_approve
  · intro hsome
    obtain ⟨hready, hadmin⟩ := h.busy hsome
    exact ⟨fun heq => hready (as_str_inj heq), fun heq => hadmin (as_str_inj heq)⟩
  · intro hnone
    exact ⟨w.state.phase, h.rests (by simpa [status] using hnone), rfl⟩
  · intro hstopping
    exact (h.stopped hstopping).imp (congrArg HostPhase.as_str) (congrArg HostPhase.as_str)

/-- What the window shows, whenever it asks, is what the lines of the current child say, and nothing of an earlier one. -/
theorem host_status_truthful {w : World} (h : Reaches platform w) (answers : Answers) {st : HostStatus}
    (hstatus : (host_status platform answers w).1 = .ok st) : Truthful st (host_status platform answers w).2.log := by
  obtain ⟨hreaped, hdrained⟩ := h.inv.reap_child answers
  unfold host_status after_reap at *
  cases hreap : reap_child platform answers w with
  | mk error w' =>
    rw [hreap] at hreaped hdrained hstatus
    cases error with
    | some error => cases hstatus
    | none =>
      cases hstatus
      exact status_truthful_of_inv platform hreaped (hdrained rfl)

/-! ## A pairing and a controller -/

/-- Steps in a row. -/
def run (actions : List Action) (w : World) : Option World := actions.foldlM (fun w a => step platform a w) w

theorem run_reaches {w w' : World} (h : Reaches platform w) {actions : List Action} (hrun : run platform actions w = some w') :
    Reaches platform w' := by
  induction actions generalizing w with
  | nil =>
    cases hrun
    exact h
  | cons a actions ih =>
    obtain ⟨next, hstep, hrest⟩ := Option.bind_eq_some_iff.1 hrun
    obtain ⟨answers, h⟩ := h
    exact ih ⟨answers, h.tail ⟨a, hstep⟩⟩ hrest

/-- Nothing fails, and there is no phone yet. -/
def granted : Answers := ⟨none, .ok .NothingToDo, .ok .NothingToDo, .ok false, none, true, none, none, none, none⟩

/-- The phone is paired, and a controller for its two lanes is killed. -/
def paired_and_killed : List Action :=
  [.BeginPairing granted "usb".toList, .Prints (some "HPT_PAIR PATTERN 1,2,3,4,5,6,1,2".toList), .Reads,
    .Prints (some "HPT_PAIR CONFIRMED".toList), .Reads, .Approve granted, .Approve granted,
    .Prints (some "HPT_PAIR COMPLETE".toList), .Exits true, .Start granted two_lanes, .Exits false, .Status granted]

/-- One approval was written though two were asked for, and both lanes were let go of. -/
theorem launcher_allowed_killed : ∃ w, run .Windows paired_and_killed (setup .Windows granted) = some w ∧
    w.log.take 2 = [.Reaped false ["s".toList, "d".toList], .Launched (.Control two_lanes) two_lanes.arguments] ∧
    w.log.count (.Wrote "approve".toList) = 1 ∧ Justified (Allowed .Windows) w.log := by
  have hlog : ((run .Windows paired_and_killed (setup .Windows granted)).any fun w =>
      decide (w.log.take 2 = [.Reaped false ["s".toList, "d".toList], .Launched (.Control two_lanes) two_lanes.arguments] ∧
        w.log.count (.Wrote "approve".toList) = 1)) = true := by decide +kernel
  obtain ⟨w, hrun, hdecided⟩ := (Option.any_eq_true _ _).1 hlog
  obtain ⟨htake, hcount⟩ := of_decide_eq_true hdecided
  exact ⟨w, hrun, htake, hcount, launcher_allowed .Windows (run_reaches .Windows ⟨granted, .refl⟩ hrun)⟩

/-- The same run: the second approval is refused, and the status shows the phone as paired and no child. -/
theorem host_status_truthful_killed : ∃ w st, run .Windows paired_and_killed (setup .Windows granted) = some w ∧
    (host_status .Windows granted w).1 = .ok st ∧ st.paired = true ∧ st.running = false ∧
    Truthful st (host_status .Windows granted w).2.log := by
  have hstatus : ((run .Windows paired_and_killed (setup .Windows granted)).any fun w =>
      (host_status .Windows granted w).1.toOption.any fun st => st.paired && !st.running) = true := by decide +kernel
  obtain ⟨w, hrun, hok⟩ := (Option.any_eq_true _ _).1 hstatus
  obtain ⟨st, hst, hshown⟩ := (Option.any_eq_true _ _).1 hok
  obtain ⟨hpaired, hrunning⟩ := Bool.and_eq_true_iff.1 hshown
  have hreply : (host_status .Windows granted w).1 = .ok st := by
    cases hresult : (host_status .Windows granted w).1 with
    | error error =>
      rw [hresult] at hst
      cases hst
    | ok st' =>
      rw [hresult] at hst
      cases hst
      rfl
  refine ⟨w, st, hrun, hreply, hpaired, by simpa using hrunning, ?_⟩
  exact host_status_truthful .Windows (run_reaches .Windows ⟨granted, .refl⟩ hrun) granted hreply

end Trackpad.Launcher
