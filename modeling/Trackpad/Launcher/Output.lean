import Trackpad.Lib.Text
import Trackpad.Sas
/-!
# What the host prints and the launcher reads

The host reports to the launcher in lines on its standard output, among the lines for its user. A thread of the launcher
reads them into a `HostOutput`, from which the next command takes what is new.
-/

namespace Trackpad.Console

open Text

/-! ## The host -/

inductive HostPhase
  | Waiting
  | Connected
  | Recovering
  | Stopping
  | Pairing
deriving DecidableEq

def HostPhase.token : HostPhase → List Char
  | .Waiting => "HPT_STATUS WAITING".toList
  | .Connected => "HPT_STATUS CONNECTED".toList
  | .Recovering => "HPT_STATUS RECOVERING".toList
  | .Stopping => "HPT_STATUS STOPPING".toList
  | .Pairing => "HPT_STATUS PAIRING".toList

inductive PairEvent
  | Waiting
  | Pattern (pattern : List UInt8)
  | RemoteConfirmed
  | Quality (summary : List Char)
  | Complete
deriving DecidableEq

/-- The closure that `run_pairing_mode` hands to `pair`. -/
def PairEvent.line : PairEvent → List Char
  | .Waiting => "HPT_PAIR WAITING".toList
  | .Pattern pattern =>
    "HPT_PAIR PATTERN ".toList ++ [','].intercalate (pattern.map fun lane => Nat.toDigits 10 lane.toNat)
  | .RemoteConfirmed => "HPT_PAIR CONFIRMED".toList
  | .Quality summary => "HPT_QUALITY ".toList ++ summary
  | .Complete => "HPT_PAIR COMPLETE".toList

/-- A line of the host: a phase, the start of `run_pairing_mode`, an event of a pairing, or words for the user. -/
inductive Printed
  | Status (phase : HostPhase)
  | Window
  | Pair (event : PairEvent)
  | Words (text : List Char)
deriving DecidableEq

def Printed.line : Printed → List Char
  | .Status phase => phase.token
  | .Window => "HPT_PAIR WINDOW 60".toList
  | .Pair event => event.line
  | .Words text => text

/-- `println!`, line after line. -/
def stdout (printed : List Printed) : List Char := printed.flatMap fun p => p.line ++ ['\n']

/-- A pattern is one of `sas_pattern`, a summary is one line, and no words look like a report. -/
def Printed.Sound : Printed → Prop
  | .Pair (.Pattern pattern) => Sas.IsPattern pattern
  | .Pair (.Quality summary) => IsLine summary
  | .Words text => IsLine text ∧ strip_start "HPT_".toList text = none
  | _ => True

end Trackpad.Console

namespace Trackpad.Launcher

open Text

/-! ## The launcher -/

inductive HostPhase
  | Ready
  | Waiting
  | Connected
  | Recovering
  | Stopping
  | Pairing
  | RecoveryNeedsAdmin
  | Fatal
deriving DecidableEq

structure HostOutput where
  phase : Option HostPhase
  fatal_message : Option (List Char)
  pattern : Option (List UInt8)
  can_approve : Option Bool
  pair_complete : Bool
  quality : Option (List Char)
deriving DecidableEq

def HostOutput.default : HostOutput := ⟨none, none, none, none, false, none⟩

def parse_status_token (line : List Char) : Option HostPhase :=
  if line = "HPT_STATUS WAITING".toList then some .Waiting
  else if line = "HPT_STATUS CONNECTED".toList then some .Connected
  else if line = "HPT_STATUS RECOVERING".toList then some .Recovering
  else if line = "HPT_STATUS STOPPING".toList then some .Stopping
  else if line = "HPT_STATUS PAIRING".toList then some .Pairing
  else none

def parse_lane (lane : List Char) : Option UInt8 :=
  ((parse_unsigned 256 lane).filter fun n => 1 ≤ n && n ≤ 6).map .ofNat

def parse_pattern (value : List Char) : Option (List UInt8) := (value.splitOn ',').mapM parse_lane

def parse_host_output_line (line : List Char) (output : HostOutput) : HostOutput :=
  match parse_status_token line with
  | some phase => { output with phase := some phase }
  | none =>
    match strip_start "HPT_PAIR PATTERN ".toList line with
    | some value =>
      match parse_pattern value with
      | some pattern => if pattern.length = 8 then { output with pattern := some pattern } else output
      | none => output
    | none =>
      if line = "HPT_PAIR CONFIRMED".toList then { output with can_approve := some true }
      else if line = "HPT_PAIR COMPLETE".toList then { output with pair_complete := true, can_approve := some false }
      else
        match strip_start "HPT_QUALITY ".toList line with
        | some summary => { output with quality := some (summary.take 1024) }
        | none => output

/-- The thread over the standard error. -/
def parse_host_error_line (line : List Char) (output : HostOutput) : HostOutput :=
  match strip_start "fatal: ".toList line with
  | some message => { output with fatal_message := some message }
  | none => output

/-! ## What a report does -/

/-- The launcher's name of a phase of the host. -/
def phase_of : Console.HostPhase → HostPhase
  | .Waiting => .Waiting
  | .Connected => .Connected
  | .Recovering => .Recovering
  | .Stopping => .Stopping
  | .Pairing => .Pairing

/-- What a report of the host means to the launcher. -/
def HostOutput.reported (output : HostOutput) : Console.Printed → HostOutput
  | .Status phase => { output with phase := some (phase_of phase) }
  | .Window => output
  | .Pair .Waiting => output
  | .Pair (.Pattern pattern) => { output with pattern := some pattern }
  | .Pair .RemoteConfirmed => { output with can_approve := some true }
  | .Pair (.Quality summary) => { output with quality := some (summary.take 1024) }
  | .Pair .Complete => { output with pair_complete := true, can_approve := some false }
  | .Words _ => output

theorem parse_token (phase : Console.HostPhase) : parse_status_token phase.token = some (phase_of phase) := by
  cases phase <;> decide

/-- A text that begins otherwise is no token. -/
theorem parse_status_none {line : List Char} (h : strip_start "HPT_STATUS ".toList line = none) : parse_status_token line = none := by
  have hne : ∀ token : List Char, (strip_start "HPT_STATUS ".toList token).isSome → line ≠ token := fun _ => ne_of_strip_start h
  unfold parse_status_token
  rw [if_neg (hne _ (by decide)), if_neg (hne _ (by decide)), if_neg (hne _ (by decide)), if_neg (hne _ (by decide)),
    if_neg (hne _ (by decide))]

theorem parse_lane_decimal {lane : UInt8} (h : 1 ≤ lane.toNat ∧ lane.toNat ≤ 6) :
    parse_lane (Nat.toDigits 10 lane.toNat) = some lane := by
  rw [parse_lane, parse_decimal (by omega)]
  simp [h]

theorem parse_lanes (lanes : List UInt8) (h : ∀ lane ∈ lanes, 1 ≤ lane.toNat ∧ lane.toNat ≤ 6) :
    (lanes.map fun lane => Nat.toDigits 10 lane.toNat).mapM parse_lane = some lanes := by
  induction lanes with
  | nil => rfl
  | cons lane lanes ih =>
    have hlane := parse_lane_decimal (h lane List.mem_cons_self)
    have hrest := ih fun lane' hmem => h lane' (List.mem_cons_of_mem _ hmem)
    simp [hlane, hrest]

theorem parse_pattern_printed {pattern : List UInt8} (h : Sas.IsPattern pattern) :
    parse_pattern ([','].intercalate (pattern.map fun lane => Nat.toDigits 10 lane.toNat)) = some pattern := by
  have hne : pattern.map (fun lane => Nat.toDigits 10 lane.toNat) ≠ [] := by
    intro hnil
    have hlength := h.length
    rw [List.map_eq_nil_iff.1 hnil] at hlength
    cases hlength
  have hcomma : ∀ field ∈ pattern.map (fun lane => Nat.toDigits 10 lane.toNat), ',' ∉ field := by
    intro field hmem
    obtain ⟨lane, _, rfl⟩ := List.mem_map.1 hmem
    exact notMem_decimal (by decide) _
  rw [parse_pattern, List.splitOn_intercalate ',' hcomma hne]
  exact parse_lanes pattern h.lanes

/-- Every pattern the launcher shows has eight lanes. -/
theorem parse_lane_range {lane : List Char} {n : UInt8} (h : parse_lane lane = some n) : 1 ≤ n.toNat ∧ n.toNat ≤ 6 := by
  unfold parse_lane at h
  obtain ⟨m, hfilter, rfl⟩ := Option.map_eq_some_iff.1 h
  have hrange := (Option.filter_eq_some_iff.1 hfilter).2
  simp only [Bool.and_eq_true, decide_eq_true_eq] at hrange
  have hm : (UInt8.ofNat m).toNat = m := UInt8.toNat_ofNat_of_lt' (Nat.lt_of_le_of_lt hrange.2 (by decide))
  omega

theorem parse_lanes_range {fields : List (List Char)} {lanes : List UInt8} (h : fields.mapM parse_lane = some lanes) :
    ∀ lane ∈ lanes, 1 ≤ lane.toNat ∧ lane.toNat ≤ 6 := by
  induction fields generalizing lanes with
  | nil =>
    cases h
    simp
  | cons field fields ih =>
    rw [List.mapM_cons] at h
    obtain ⟨lane, hlane, hrest⟩ := Option.bind_eq_some_iff.1 h
    obtain ⟨lanes', hlanes, heq⟩ := Option.bind_eq_some_iff.1 hrest
    cases heq
    intro lane' hmem
    rcases List.mem_cons.1 hmem with rfl | hmem
    · exact parse_lane_range hlane
    · exact ih hlanes lane' hmem

/-- What is accepted of a stream, whatever printed it. -/
structure HostOutput.WellFormed (output : HostOutput) : Prop where
  pattern : ∀ pattern, output.pattern = some pattern → Sas.IsPattern pattern
  quality : ∀ quality, output.quality = some quality → quality.length ≤ 1024

theorem parse_wellFormed {output : HostOutput} (h : output.WellFormed) (line : List Char) :
    (parse_host_output_line line output).WellFormed := by
  unfold parse_host_output_line
  split
  · exact ⟨h.pattern, h.quality⟩
  · split
    · split
      · next lanes hlanes =>
        split
        · next hlength =>
          refine ⟨fun pattern heq => ?_, h.quality⟩
          cases heq
          exact ⟨hlength, parse_lanes_range hlanes⟩
        · exact h
      · exact h
    · split
      · exact ⟨h.pattern, h.quality⟩
      · split
        · exact ⟨h.pattern, h.quality⟩
        · split
          · refine ⟨h.pattern, fun quality heq => ?_⟩
            cases heq
            exact List.length_take_le _ _
          · exact h

theorem quality_line (summary : List Char) :
    (Console.Printed.Pair (.Quality summary)).line = "HPT_QUALITY ".toList ++ summary := rfl

theorem pattern_line (pattern : List UInt8) : (Console.Printed.Pair (.Pattern pattern)).line =
    "HPT_PAIR PATTERN ".toList ++ [','].intercalate (pattern.map fun lane => Nat.toDigits 10 lane.toNat) := rfl

/-- A report is read as what it says. -/
theorem parse_printed {p : Console.Printed} (h : p.Sound) (output : HostOutput) :
    parse_host_output_line p.line output = output.reported p := by
  cases p with
  | Status phase =>
    unfold parse_host_output_line
    rw [show (Console.Printed.Status phase).line = phase.token from rfl, parse_token]
    rfl
  | Window => rfl
  | Pair event =>
    cases event with
    | Waiting => rfl
    | Pattern pattern =>
      have hother : ∀ value : List Char, strip_start "HPT_STATUS ".toList ("HPT_PAIR PATTERN ".toList ++ value) = none :=
        strip_start_other (by decide) (by decide)
      unfold parse_host_output_line
      rw [pattern_line, parse_status_none (hother _), strip_start_append]
      dsimp only
      rw [parse_pattern_printed h]
      dsimp only
      rw [if_pos h.length]
      rfl
    | RemoteConfirmed =>
      have hstatus : parse_status_token "HPT_PAIR CONFIRMED".toList = none := by decide
      have hpattern : strip_start "HPT_PAIR PATTERN ".toList "HPT_PAIR CONFIRMED".toList = none := by decide
      unfold parse_host_output_line
      rw [show (Console.Printed.Pair .RemoteConfirmed).line = "HPT_PAIR CONFIRMED".toList from rfl, hstatus, hpattern]
      exact if_pos rfl
    | Quality summary =>
      have hstatus : strip_start "HPT_STATUS ".toList ("HPT_QUALITY ".toList ++ summary) = none :=
        strip_start_other (by decide) (by decide) _
      have hpair : strip_start "HPT_PAIR ".toList ("HPT_QUALITY ".toList ++ summary) = none :=
        strip_start_other (by decide) (by decide) _
      have hne : ∀ report : List Char, (strip_start "HPT_PAIR ".toList report).isSome → "HPT_QUALITY ".toList ++ summary ≠ report :=
        fun _ => ne_of_strip_start hpair
      have hpattern : strip_start "HPT_PAIR PATTERN ".toList ("HPT_QUALITY ".toList ++ summary) = none :=
        strip_start_none hpair "PATTERN ".toList
      unfold parse_host_output_line
      rw [quality_line, parse_status_none hstatus, hpattern]
      dsimp only
      rw [if_neg (hne _ (by decide)), if_neg (hne _ (by decide)), strip_start_append]
      rfl
    | Complete =>
      have hstatus : parse_status_token "HPT_PAIR COMPLETE".toList = none := by decide
      have hpattern : strip_start "HPT_PAIR PATTERN ".toList "HPT_PAIR COMPLETE".toList = none := by decide
      have hconfirmed : "HPT_PAIR COMPLETE".toList ≠ "HPT_PAIR CONFIRMED".toList := by decide
      unfold parse_host_output_line
      rw [show (Console.Printed.Pair .Complete).line = "HPT_PAIR COMPLETE".toList from rfl, hstatus, hpattern]
      dsimp only
      rw [if_neg hconfirmed]
      exact if_pos rfl
  | Words text =>
    have hwords := h.2
    have hne : ∀ report : List Char, (strip_start "HPT_".toList report).isSome → text ≠ report := fun _ => ne_of_strip_start hwords
    have hstatus : parse_status_token text = none := parse_status_none (strip_start_none hwords "STATUS ".toList)
    have hpattern : strip_start "HPT_PAIR PATTERN ".toList text = none := strip_start_none hwords "PAIR PATTERN ".toList
    have hquality : strip_start "HPT_QUALITY ".toList text = none := strip_start_none hwords "QUALITY ".toList
    unfold parse_host_output_line
    rw [show (Console.Printed.Words text).line = text from rfl, hstatus, hpattern]
    dsimp only
    rw [if_neg (hne _ (by decide)), if_neg (hne _ (by decide)), hquality]
    rfl

/-- A report is a line of its own. -/
theorem printed_line {p : Console.Printed} (h : p.Sound) : IsLine p.line := by
  cases p with
  | Status phase => cases phase <;> exact ⟨by decide, by decide⟩
  | Window => exact ⟨by decide, by decide⟩
  | Pair event =>
    cases event with
    | Waiting => exact ⟨by decide, by decide⟩
    | Pattern pattern =>
      have hnotMem : ∀ c : Char, c.isDigit = false → c ≠ ',' → c ∉ "HPT_PAIR PATTERN ".toList →
          c ∉ (Console.Printed.Pair (.Pattern pattern)).line := by
        intro c hdigit hcomma hstart hmem
        rcases List.mem_append.1 hmem with hmem | hmem
        · exact hstart hmem
        · refine notMem_intercalate hcomma (fun field hfield => ?_) hmem
          obtain ⟨lane, _, rfl⟩ := List.mem_map.1 hfield
          exact notMem_decimal hdigit _
      exact isLine_of_notMem (hnotMem _ (by decide) (by decide) (by decide)) (hnotMem _ (by decide) (by decide) (by decide))
    | RemoteConfirmed => exact ⟨by decide, by decide⟩
    | Quality summary => exact isLine_append (by decide) h (by decide)
    | Complete => exact ⟨by decide, by decide⟩
  | Words text => exact h.1

/-- From the output of the host the launcher reads what the host reports, in that order. -/
theorem stdout_read {printed : List Console.Printed} (h : ∀ p ∈ printed, p.Sound) (output : HostOutput) :
    (lines (Console.stdout printed)).foldl (fun output line => parse_host_output_line line output) output =
      printed.foldl HostOutput.reported output := by
  have hlines : lines (Console.stdout printed) = printed.map Console.Printed.line := by
    rw [Console.stdout, ← lines_flatMap (printed.map Console.Printed.line), List.flatMap_map]
    simp only [List.forall_mem_map]
    exact fun p hmem => printed_line (h p hmem)
  rw [hlines, List.foldl_map]
  clear hlines
  induction printed generalizing output with
  | nil => rfl
  | cons p printed ih =>
    rw [List.foldl_cons, List.foldl_cons, parse_printed (h p List.mem_cons_self)]
    exact ih (fun p' hmem => h p' (List.mem_cons_of_mem _ hmem)) _

/-- What a pairing prints, with the phases among its own lines. -/
def pairing_printed : List Console.Printed :=
  [.Status .Waiting, .Words "Holodori native host - protocol v5 pairing over Wi-Fi / local network".toList, .Window,
    .Status .Pairing, .Pair .Waiting, .Pair (.Pattern [1, 2, 3, 4, 5, 6, 1, 2]), .Pair .RemoteConfirmed,
    .Pair (.Quality "samples 9/10".toList), .Pair .Complete]

theorem pairing_sound : ∀ p ∈ pairing_printed, p.Sound := by
  simp only [pairing_printed, List.forall_mem_cons]
  exact ⟨trivial, ⟨⟨by decide, by decide⟩, by decide⟩, trivial, trivial, trivial, ⟨rfl, by simp⟩, trivial,
    ⟨by decide, by decide⟩, trivial, fun _ hmem => (by cases hmem)⟩

theorem stdout_read_pairing : (lines (Console.stdout pairing_printed)).foldl (fun output line => parse_host_output_line line output)
    .default = ⟨some .Pairing, none, some [1, 2, 3, 4, 5, 6, 1, 2], some false, true, some "samples 9/10".toList⟩ := by
  rw [stdout_read pairing_sound]
  simp [pairing_printed, HostOutput.reported, HostOutput.default, phase_of]

end Trackpad.Launcher
