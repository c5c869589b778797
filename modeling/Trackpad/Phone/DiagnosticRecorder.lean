import Mathlib.Data.List.Basic
import Mathlib.Algebra.Order.Ring.Nat
/-!
# The phone's diagnostic recorder

`DiagnosticRecorder.analyze` reads the records of the phone's threads, one after another: it counts and measures them, and
copies those around an anomaly into one array that all incidents share. A `long` is an `Int64`; what only counts up is a
`Nat`. The rings are lists, oldest first.
-/

namespace Trackpad.DiagnosticRecorder

def CONTEXT : Nat := 128
def MAX_INCIDENTS : Nat := 256
def MAX_EVIDENCE : Nat := 32768
def PER_INCIDENT : Nat := 512
def BUDGET : Int64 := 8333333
def QUIET : Int64 := 32000000
def QUEUED : Int32 := 20
def ATTEMPT : Int32 := 21
def ACK : Int32 := 22
def RETIRED : Int32 := 23
def DISCARDED : Int32 := 24
def NOT_QUEUED : Int32 := 25
def BOUNDARY : Int32 := 26
def ENVIRONMENT : Int32 := 27
def CONTROL_DROP : Int32 := 28
def WATCHDOG : Int32 := 29

/-- The twelve `long`s of a record. -/
structure Row where
  word0 : Int64
  at_ : Int64
  session : Int64
  sequence : Int64
  a : Int64
  b : Int64
  c : Int64
  d : Int64
  e : Int64
  f : Int64
  g : Int64
  h : Int64
deriving DecidableEq

/-- `(int) r[0]`. -/
def Row.kind (r : Row) : Int32 := r.word0.toInt32

def Row.zero : Row := ⟨0, 0, 0, 0, 0, 0, 0, 0, 0, 0, 0, 0⟩

/-- A row of `incident`, under the names of the report's columns. -/
structure Incident where
  first_ns : Int64
  last_anomaly_ns : Int64
  session : Int64
  first_seq : Int64
  last_seq : Int64
  reasons : Int64
  first_later_ack_ns : Int64
  affected_observations : Nat
  evidence_offset : Nat
  evidence_count : Nat
  post_complete : Int64
  omitted : Nat
deriving DecidableEq

/-! ## Evidence -/

/-- The incidents and the rows that are kept for them. -/
structure Evidence where
  latestEnvironment : Row
  history : List Row
  evidence : List Row
  incident : List Incident
  active : Option Nat
  recovering : Option Nat
  omittedIncidents : Nat
  omittedEvidence : Nat
  lastBadSession : Int64
  lastBadSequence : Int64

def Evidence.new : Evidence := ⟨.zero, [], [], [], none, none, 0, 0, 0, -1⟩

namespace Evidence

def on_incident (index : Nat) (f : Incident → Incident) (s : Evidence) : Evidence :=
  { s with incident := s.incident.modify index f }

/-- The active incident ends once nothing bad has happened for `QUIET`. -/
def expire (r : Row) (s : Evidence) : Evidence :=
  match s.active with
  | some index =>
    if s.incident[index]?.any fun incident => r.at_ - incident.last_anomaly_ns > QUIET then
      { s.on_incident index fun incident => { incident with post_complete := 1 } with active := none }
    else s
  | none => s

/-- What a new incident starts with: the environment, if it is known, and the history. -/
def context (s : Evidence) : List Row :=
  (if s.latestEnvironment.word0 = ENVIRONMENT.toInt64 then [s.latestEnvironment] else []) ++ s.history

/-- A new incident. The environment and the history are copied as far as there is room; only the history's rows
are counted as omitted. -/
def opened (r : Row) (s : Evidence) : Evidence :=
  let copied := s.context.take (MAX_EVIDENCE - s.evidence.length)
  let room := MAX_EVIDENCE - s.evidence.length - (s.context.length - s.history.length)
  let omitted := s.history.length - room
  { s with
    active := some s.incident.length
    evidence := s.evidence ++ copied
    omittedEvidence := s.omittedEvidence + omitted
    incident := s.incident ++ [{
      first_ns := r.at_, last_anomaly_ns := 0, session := r.session, first_seq := r.sequence, last_seq := 0, reasons := 0
      first_later_ack_ns := 0, affected_observations := 0, evidence_offset := s.evidence.length
      evidence_count := copied.length, post_complete := 0, omitted := omitted }] }

/-- The part of `trigger` once an incident is active. -/
def note_anomaly (r : Row) (reasons : Int64) (index : Nat) (s : Evidence) : Evidence :=
  let affected := if s.lastBadSession ≠ r.session ∨ s.lastBadSequence ≠ r.sequence then 1 else 0
  { s.on_incident index fun incident =>
      { incident with
        last_anomaly_ns := max incident.last_anomaly_ns r.at_
        last_seq := r.sequence
        reasons := incident.reasons ||| reasons
        first_later_ack_ns := 0
        affected_observations := incident.affected_observations + affected } with
    lastBadSession := r.session
    lastBadSequence := r.sequence }

def trigger (r : Row) (reasons : Int64) (s : Evidence) : Evidence :=
  match s.active with
  | some index => s.note_anomaly r reasons index
  | none =>
    if s.incident.length = MAX_INCIDENTS then { s with omittedIncidents := s.omittedIncidents + 1 }
    else (s.opened r).note_anomaly r reasons s.incident.length

/-- Whether a later `RETIRED` is the active incident's recovery. -/
def awaits_recovery (r : Row) : Bool := (r.kind = BOUNDARY && r.a ≠ 0) || r.kind = WATCHDOG

/-- The active incident's first later ACK. -/
def first_later_ack (r : Row) (s : Evidence) : Evidence :=
  match s.active with
  | some index => s.on_incident index fun incident =>
    if incident.first_later_ack_ns = 0 then { incident with first_later_ack_ns := r.at_ } else incident
  | none => s

/-- The recovery that `recovering` waits for. After the quiet window it is kept in the recent context. -/
def recovered (r : Row) (index : Nat) (s : Evidence) : Evidence :=
  let s := s.on_incident index fun incident => { incident with first_later_ack_ns := r.at_ }
  let s := if s.active ≠ some index ∧ s.evidence.length < MAX_EVIDENCE then { s with evidence := s.evidence ++ [r] } else s
  { s with recovering := none }

def recover (r : Row) (s : Evidence) : Evidence :=
  let s := if awaits_recovery r then { s with recovering := s.active } else s
  if r.kind = RETIRED then
    let s := s.first_later_ack r
    match s.recovering with
    | some index => s.recovered r index
    | none => s
  else s

/-- Whether the incident can take no further row. -/
def full (index : Nat) (s : Evidence) : Bool :=
  s.evidence.length = MAX_EVIDENCE || s.incident[index]?.any fun incident => incident.evidence_count = PER_INCIDENT

def retain (r : Row) (s : Evidence) : Evidence :=
  match s.active with
  | some index =>
    if s.full index then
      { s.on_incident index fun incident => { incident with omitted := incident.omitted + 1 } with
        omittedEvidence := s.omittedEvidence + 1 }
    else
      { s.on_incident index fun incident => { incident with evidence_count := incident.evidence_count + 1 } with
        evidence := s.evidence ++ [r] }
  | none => s

/-- The last `CONTEXT` records. -/
def remember (r : Row) (s : Evidence) : Evidence :=
  let history := s.history ++ [r]
  { s with history := history.drop (history.length - CONTEXT) }

/-- What `analyze` keeps of a record that is anomalous for `reasons`. -/
def keep (r : Row) (reasons : Int64) (s : Evidence) : Evidence :=
  let s := if reasons ≠ 0 then s.trigger r reasons else s
  ((s.recover r).retain r).remember r

end Evidence

/-! ## Measurements -/

/-- A row of `statistics` and its histogram. -/
structure Statistics where
  n : Nat
  sum : Nat
  max : Nat
  over_budget : Nat
  invalid : Nat
  histogram : List Nat

def Statistics.new : Statistics := ⟨0, 0, 0, 0, 0, List.replicate 2049 0⟩

def LONG_MAX : Nat := 2 ^ 63 - 1

def Statistics.sample (later earlier : Int64) (s : Statistics) : Statistics :=
  if earlier ≤ 0 ∨ later < earlier then { s with invalid := s.invalid + 1 }
  else
    let value := (later - earlier).toInt.toNat
    let exponent := Nat.log2 (Max.max 1 value)
    let shift := exponent - 5
    let index := if value < 32 then value else (exponent - 4) * 32 + (value >>> shift) - 32
    { s with
      histogram := s.histogram.modify index (· + 1)
      n := s.n + 1
      sum := if s.sum > LONG_MAX - value then LONG_MAX else s.sum + value
      max := Max.max s.max value
      over_budget := s.over_budget + if later - earlier > BUDGET then 1 else 0 }

structure Recorder extends Evidence where
  counts : List Nat
  statistics : Fin 10 → Statistics
  observed : Nat
  lastAt : Int64
  pendingHighWater : Int64
  oldestPendingMaxNs : Int64
  repairLatenessMaxNs : Int64
  environmentConditions : Int64
  constrainedEnvironmentSamples : Nat

namespace Recorder

def new : Recorder where
  toEvidence := .new
  counts := List.replicate 40 0
  statistics := fun _ => .new
  observed := 0
  lastAt := 0
  pendingHighWater := 0
  oldestPendingMaxNs := 0
  repairLatenessMaxNs := 0
  environmentConditions := 0
  constrainedEnvironmentSamples := 0

def sample (metric : Fin 10) (later earlier : Int64) (s : Recorder) : Recorder :=
  { s with statistics := Function.update s.statistics metric ((s.statistics metric).sample later earlier) }

def count (index : Nat) (s : Recorder) : Recorder := { s with counts := s.counts.modify index (· + 1) }

/-- `if (bad) reasons |= reason`. -/
def reason (bad : Bool) (reason : Int64) : Int64 := if bad then reason else 0

/-! Each kind of record: what it leaves, and the reasons it gives for an incident. -/

def queued (r : Row) (s : Recorder) : Recorder × Int64 :=
  let s := { s with pendingHighWater := max s.pendingHighWater r.d }
  if r.c &&& 1 ≠ 0 then
    (s.sample (if r.c &&& 2 ≠ 0 then 1 else 0) r.b r.a, reason (r.b - r.a > BUDGET) 1)
  else (s, 0)

def attempt (r : Row) (s : Recorder) : Recorder × Int64 :=
  let s := (s.sample 2 r.a r.b).sample 3 r.e r.a
  let s := { s with repairLatenessMaxNs := max s.repairLatenessMaxNs r.f }
  let s := if r.c ≥ 3 then s.count 0 else s
  (s, reason (r.c ≥ 3) 2 ||| reason (r.a - r.b > BUDGET || r.e - r.a > BUDGET || r.f > BUDGET) 4 ||| reason (r.d ≠ 0) 8)

def retired (r : Row) (s : Recorder) : Recorder × Int64 :=
  let s := s.sample 4 r.at_ r.a
  if r.d &&& 1 ≠ 0 then
    (s.sample (if r.d &&& 2 ≠ 0 then 6 else 5) r.at_ r.b, reason (r.at_ - r.b > BUDGET) 16)
  else (s, 0)

def acked (r : Row) (s : Recorder) : Recorder × Int64 :=
  let s := if r.d > 0 then { s with oldestPendingMaxNs := max s.oldestPendingMaxNs (r.at_ - r.d) } else s
  let s := if r.a = 1 ∧ r.c > 0 then s.sample 7 r.at_ r.b else s
  let s := if r.a = 0 then s.count 1 else s
  if r.a = 2 then (s.count 2, 32) else (s, 0)

/-- The constraints of an environment. What Android does not tell is -1, which none of them is. -/
def conditions (r : Row) : Int64 :=
  reason (r.a ≥ 3) 1 ||| reason (r.b = 1) 2 ||| reason (r.c = 0) 4 ||| reason (r.d = 0) 8 ||| reason (r.e = 0) 16

/-- An incident opens when a constraint appears, not while it lasts. -/
def environment (r : Row) (s : Recorder) : Recorder × Int64 :=
  ({ s with
     latestEnvironment := r
     environmentConditions := conditions r
     constrainedEnvironmentSamples := s.constrainedEnvironmentSamples + if conditions r ≠ 0 then 1 else 0 },
   reason (conditions r &&& ~~~s.environmentConditions ≠ 0) 512)

def measure (r : Row) (s : Recorder) : Recorder × Int64 :=
  if r.kind = QUEUED then s.queued r
  else if r.kind = ATTEMPT then s.attempt r
  else if r.kind = RETIRED then s.retired r
  else if r.kind = ACK then s.acked r
  else if r.kind = DISCARDED ∨ r.kind = NOT_QUEUED ∨ r.kind = WATCHDOG then (s, 64)
  else if r.kind = BOUNDARY ∧ r.a ≠ 0 then (s, 128)
  else if r.kind = CONTROL_DROP then (s, 256)
  else if r.kind = ENVIRONMENT then s.environment r
  else (s, 0)

/-- The counters of every record. -/
def observe (r : Row) (s : Recorder) : Recorder :=
  let s := { s with observed := s.observed + 1, lastAt := max s.lastAt r.at_, toEvidence := s.toEvidence.expire r }
  if r.kind ≥ 0 ∧ r.kind < 40 then s.count r.kind.toInt.toNat else s

def analyze (r : Row) (s : Recorder) : Recorder :=
  let (s, reasons) := (s.observe r).measure r
  { s with toEvidence := s.toEvidence.keep r reasons }

end Recorder

end Trackpad.DiagnosticRecorder
